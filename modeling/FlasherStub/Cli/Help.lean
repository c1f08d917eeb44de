import FlasherStub.Cli.Command
import FlasherStub.Cli.Layout
import FlasherStub.Cli.Terminal

/-!
The help and version screens. A help screen is the command's description, its usage line, and
then sections for its subcommands, its positional arguments and its options, each a list of rows
with the text of a row wrapped to the terminal. Options are listed by rank and then by their
short letter or long name. The short form puts every help text beside its argument and lists the
accepted values inline; the long form puts each text on its own lines under its argument and
lists the accepted values one per line with their descriptions. The long form is only used for
commands whose long help says more. The terminal is as wide as `COLUMNS` says, else 100 columns.

Headings are written bold and underlined, and the names of commands, options and accepted values
bold; the screen is laid out with these escape sequences in place, which take no room, and they
are left out when it is printed.
-/

namespace FlasherStub.Cli

open Layout Terminal

/-- The environment variables the program reads, by name. -/
abbrev Environment := List (String × String)

/-- The value of an environment variable. -/
def Environment.get? (env : Environment) (name : String) : Option String :=
  (env.find? (·.1 == name)).map (·.2)

/-- The value of a decimal number written only with digits, after an optional `+`, that fits in
64 bits. -/
def parseWidth? (s : String) : Option Nat :=
  let ds := match s.toList with
    | '+' :: rest => rest
    | cs => cs
  if ds.isEmpty || !ds.all Char.isDigit then none
  else
    let n := ds.foldl (fun n c => 10 * n + (c.toNat - '0'.toNat)) 0
    if n < Nat.pow 2 64 then some n else none

/-- The width of the terminal help is laid out for. -/
def terminalWidth (env : Environment) : Nat :=
  ((env.get? "COLUMNS").bind parseWidth?).getD 100

namespace Arg

/-- The placeholder of the argument's value: `<NAME>` when it must be given, `[NAME]` when it
may be left out, followed by `...` for a positional that takes several. -/
def placeholder (a : Arg) : String :=
  let optional := a.positional && !a.required
  let name := if optional then "[" ++ a.valueName ++ "]" else "<" ++ a.valueName ++ ">"
  if a.positional && a.action == .repeated then name ++ "..." else name

/-- How the argument is written: its long name or short letter, in bold, then its placeholder. -/
def display (a : Arg) : String :=
  if a.positional then a.placeholder
  else
    let switch := match a.long, a.short with
      | some l, _ => bold ("--" ++ l)
      | none, some c => bold ("-" ++ c.toString)
      | none, none => ""
    if a.takesValue then switch ++ " " ++ a.placeholder else switch

/-- The label of the argument's row: the short letter (or room for one) and the long name, both
in bold. -/
def label (a : Arg) : String :=
  if a.positional then a.placeholder
  else
    let short := match a.short with
      | some c => bold ("-" ++ c.toString)
      | none => if a.long.isSome then "    " else ""
    let long := match a.long with
      | some l => (if a.short.isSome then ", " else "") ++ bold ("--" ++ l)
      | none => ""
    short ++ long ++ (if a.takesValue then " " ++ a.placeholder else "")

/-- The key options are listed by after their rank. -/
def sortKey (a : Arg) : String :=
  match a.short, a.long with
  | some c, _ => c.toLower.toString ++ (if c.isLower then "0" else "1")
  | none, some l => l
  | none, none => "\x7b" ++ a.id

/-- Whether the long form lists the accepted values with their descriptions. -/
def listsChoices (a : Arg) (long : Bool) : Bool :=
  long && match a.accepts with
    | .choice names => !names.isEmpty
    | .path => false

/-- The notes after an argument's help: its environment variable, its default and, in the short
form, its accepted values. -/
def notes (a : Arg) (env : Environment) (long : Bool) : List String :=
  let fromEnv := match a.env with
    | some name => ["[env: " ++ name ++ "=" ++ (env.get? name).getD "" ++ "]"]
    | none => []
  let dflt := match a.default with
    | some d => if a.takesValue then ["[default: " ++ d ++ "]"] else []
    | none => []
  let values := match a.accepts with
    | .choice names =>
      if a.listsChoices long then []
      else ["[possible values: " ++ ", ".intercalate (names.map (·.1)) ++ "]"]
    | .path => []
  fromEnv ++ dflt ++ values

end Arg

/-- A row of a help section. -/
structure Row where
  label : String
  help : String
  /-- The notes, already joined. -/
  notes : String := ""
  /-- Accepted values listed under the help, with their descriptions. -/
  choices : List (String × String) := []
  /-- Whether the row is an argument rather than a subcommand. -/
  isArg : Bool := true

/-- The row of an argument. -/
def Arg.row (a : Arg) (env : Environment) (long : Bool) : Row :=
  { label := a.label
    help := if long then a.longHelp.getD a.help else a.help
    notes := (if long then "\n" else " ").intercalate (a.notes env long)
    choices := if a.listsChoices long then
        match a.accepts with
        | .choice names => names
        | .path => []
      else [] }

/-- Whether a row's help is too wide to fit beside labels `longest` wide. -/
def Row.pushesDown (r : Row) (width longest : Nat) : Bool :=
  let taken := longest + 4
  let helpWidth := Layout.width r.help + Layout.width r.notes
  decide (taken ≤ width) && decide (2 * width < 5 * taken) && decide (width - taken < helpWidth)

/-- The list of accepted values under an argument's help, indented by `indentBy`. -/
def choiceList (width indentBy : Nat) (names : List (String × String)) : String :=
  let longest := names.foldl (fun m (n, _) => max m (Layout.width n)) 0
  let avail := if indentBy + 2 < width then width - (indentBy + 2) else width + Nat.pow 2 64
  String.join (names.map fun (n, h) =>
    let descr := bold n ++ ": " ++ spaces (longest - Layout.width n) ++ h
    "\n" ++ spaces indentBy ++ "- " ++ indent (spaces (indentBy + 2)) (wrap avail descr))

/-- The text of a row, after its label. -/
def Row.text (r : Row) (width longest : Nat) (below long : Bool) : String :=
  let indentBy := if below then 10 else longest + 4
  let joined :=
    if r.notes.isEmpty then r.help
    else if r.help.isEmpty then r.notes
    else r.help ++ (if long && r.isArg then "\n\n" else " ") ++ r.notes
  let body := indent (spaces indentBy) (wrap (width - indentBy) joined)
  let listed :=
    if r.choices.isEmpty then ""
    else (if body.isEmpty then "" else "\n\n" ++ spaces indentBy) ++ "Possible values:" ++
      choiceList width indentBy r.choices
  (if below then "\n" ++ spaces 10 else "") ++ body ++ listed

/-- A section of rows: the help beside the labels, or below every label when one row does not
fit or the long form is shown. Subcommands are always listed beside. -/
def renderSection (rows : List Row) (width : Nat) (long : Bool) : String :=
  let longest := rows.foldl (fun m r => max m (Layout.width r.label)) 2
  let below := (long && rows.any (·.isArg)) || rows.any (·.pushesDown width longest)
  let sep := if below && long then "\n\n" else "\n"
  sep.intercalate (rows.map fun r =>
    "  " ++ r.label ++ (if below then "" else spaces (longest + 2 - Layout.width r.label)) ++
      r.text width longest below long)

/-- Inserts an argument into a list sorted by rank and key. -/
def insertByRank (a : Arg) : List Arg → List Arg
  | [] => [a]
  | b :: bs =>
    if a.order < b.order || (a.order == b.order && a.sortKey < b.sortKey) then a :: b :: bs
    else b :: insertByRank a bs

/-- The options of a command in listing order. -/
def listedOptions (l : Level) : List Arg :=
  (l.args.filter (!·.positional)).foldl (fun acc a => insertByRank a acc) []

/-- Whether the usage line shows `[OPTIONS]`: some option other than help and version may be
given or left out. -/
def needsOptionsTag (l : Level) : Bool :=
  l.args.any fun a => !a.positional && !a.required && a.action != .help && a.action != .version

/-- The usage line of a command. -/
def usage (l : Level) : String :=
  let opts := if needsOptionsTag l then [ "[OPTIONS]"] else []
  let required := (l.args.filter fun a => !a.positional && a.required).map Arg.display
  let positionals := (l.args.filter (·.positional)).map Arg.placeholder
  let sub := if l.children.isEmpty then [] else ["<COMMAND>"]
  " ".intercalate ([bold l.usageName] ++ opts ++ required ++ positionals ++ sub)

/-- The help screen of a command; `long` asks for the long form, which is shown only when it
says more. -/
def helpText (env : Environment) (l : Level) (long : Bool) : String :=
  let long := long && l.hasLongHelp
  let width := terminalWidth env
  let commands := l.children.map fun c =>
    ({ label := bold c.name, help := c.about, isArg := false } : Row)
  let positionals := (l.args.filter (·.positional)).map (·.row env long)
  let options := (listedOptions l).map (·.row env long)
  let sections :=
    (if commands.isEmpty then []
     else [heading "Commands:" ++ "\n" ++ renderSection commands width long]) ++
    (if positionals.isEmpty then []
     else [heading "Arguments:" ++ "\n" ++ renderSection positionals width long]) ++
    (if options.isEmpty then []
     else [heading "Options:" ++ "\n" ++ renderSection options width long])
  let text := wrap width l.about ++ "\n\n" ++ heading "Usage:" ++ " " ++ usage l ++ "\n\n" ++
    "\n\n".intercalate sections
  trimEnd text ++ "\n"

/-- The version screen of a command. -/
def versionText (l : Level) : String := l.versionName ++ " " ++ programVersion ++ "\n"

end FlasherStub.Cli
