import FlasherStub.Chip
import FlasherStub.Text.Case

/-!
The command tree of the `espstub` program. The top level takes a switch for debug output, which
every subcommand also accepts, and one of the subcommands `extract`, `encode` and `help`. Each
argument is described by what it looks like on the command line (a short letter, a long name or
a position), how it is used (a switch, an option with one value, an option given once per
value), which values it accepts, and the help shown for it. A path must not be empty; a chip value is
one chip's identifier in kebab case, matched exactly.
-/

namespace FlasherStub.Cli

/-- How an argument is used on a command line. -/
inductive Action where
  /-- A switch, given at most once. -/
  | flag
  /-- One value, given at most once. -/
  | single
  /-- One value for each time it is given. -/
  | repeated
  /-- Asks for help. -/
  | help
  /-- Asks for the version. -/
  | version
  deriving DecidableEq, Repr

/-- The values an argument accepts. -/
inductive Accepts where
  /-- Any non-empty text. -/
  | path
  /-- One of these names; each comes with a description. -/
  | choice (names : List (String × String))
  deriving DecidableEq, Repr

/-- An argument of a command. -/
structure Arg where
  /-- The name under which its values are collected. -/
  id : String
  short : Option Char := none
  long : Option String := none
  positional : Bool := false
  action : Action := .single
  /-- The placeholder for its value in help and usage text. -/
  valueName : String := ""
  accepts : Accepts := .path
  help : String
  /-- The help shown in the long form, when it differs. -/
  longHelp : Option String := none
  /-- The environment variable that gives its value when the command line does not. -/
  env : Option String := none
  default : Option String := none
  required : Bool := false
  /-- Its rank in the listing of options. -/
  order : Nat := 0
  deriving Repr

namespace Arg

/-- Whether the argument takes a value. -/
def takesValue (a : Arg) : Bool :=
  a.positional || a.action == .single || a.action == .repeated

/-- Whether a value is accepted. -/
def accepts? (a : Arg) (v : String) : Bool :=
  match a.accepts with
  | .path => !v.isEmpty
  | .choice names => names.any (·.1 == v)

/-- Whether the argument has help that only the long form shows. -/
def hasLongHelp (a : Arg) : Bool :=
  a.longHelp.isSome ||
    match a.accepts with
    | .choice names => !names.isEmpty
    | .path => false

end Arg

/-- The chip values with their descriptions: each chip's identifier in kebab case. -/
def chipChoices : Accepts := .choice (Chip.all.map fun c => (Text.kebabCase c.ident, c.label))

/-- The switch for debug output. -/
def verbose : Arg :=
  { id := "verbose", short := some 'v', long := some "verbose", action := .flag,
    help := "Enable debug output" }

/-- The switch that prints help; its text says whether a longer form exists. -/
def helpSwitch (longer : Bool) : Arg :=
  if longer then
    { id := "help", short := some 'h', long := some "help", action := .help,
      help := "Print help (see more with '--help')",
      longHelp := some "Print help (see a summary with '-h')", order := 1000 }
  else
    { id := "help", short := some 'h', long := some "help", action := .help,
      help := "Print help", order := 1000 }

/-- The switch that prints the version. -/
def versionSwitch : Arg :=
  { id := "version", short := some 'V', long := some "version", action := .version,
    help := "Print version", order := 1000 }

/-- The arguments of `extract`. -/
def extractArgs : List Arg :=
  [{ id := "stub_dir", long := some "stub-dir", valueName := "STUB_DIR",
     help := "Directory containing the stub descriptions, takes precedence over the esptool " ++
       "and ESP-IDF paths" },
   { id := "esptool_path", long := some "esptool-path", valueName := "ESPTOOL_PATH",
     help := "Path to an esptool checkout", env := some "ESPTOOL_PATH", order := 1 },
   { id := "idf_path", long := some "idf-path", valueName := "IDF_PATH",
     help := "Path to an ESP-IDF tree", env := some "IDF_PATH", order := 2 },
   { id := "output_dir", short := some 'o', long := some "output-dir", valueName := "OUTPUT_DIR",
     help := "Directory to write the images to", default := some ".", order := 3 },
   { id := "chip", short := some 'c', long := some "chip", action := .repeated,
     valueName := "CHIP", accepts := chipChoices,
     help := "Only extract the stubs of these chips", order := 4 }]

/-- The arguments of `encode`. -/
def encodeArgs : List Arg :=
  [{ id := "input", positional := true, valueName := "INPUT", required := true,
     help := "Stub description (esptool `.json` or espflash `.toml`)" },
   { id := "chip", short := some 'c', long := some "chip", valueName := "CHIP",
     accepts := chipChoices, required := true, help := "Chip the stub belongs to" },
   { id := "output", short := some 'o', long := some "output", valueName := "OUTPUT",
     help := "Path of the image to write, defaults to `<chip>_stub.bin`", order := 1 }]

/-- The argument of `help`: the path of subcommands to describe. -/
def helpArgs : List Arg :=
  [{ id := "subcommand", positional := true, action := .repeated, valueName := "COMMAND",
     help := "Print help for the subcommand(s)" }]

/-- The program's name. -/
def programName : String := "espstub"

/-- The program's version. -/
def programVersion : String := "0.1.0"

/-- A command of the tree. -/
inductive Level where
  | root
  | extract
  | encode
  | help
  deriving DecidableEq, Repr

namespace Level

/-- The name a subcommand is called by. -/
def name : Level → String
  | .root => programName
  | .extract => "extract"
  | .encode => "encode"
  | .help => "help"

/-- What a command does. -/
def about : Level → String
  | .root => "Extract the esptool flasher stubs into self-contained STUB images"
  | .extract => "Write the STUB image of every supported chip"
  | .encode => "Write the STUB image of a single stub description"
  | .help => "Print this message or the help of the given subcommand(s)"

/-- The subcommands of a command, in listing order. -/
def children : Level → List Level
  | .root => [.extract, .encode, .help]
  | _ => []

/-- The subcommand of a command called `s`. -/
def child? (l : Level) (s : String) : Option Level := l.children.find? (·.name == s)

/-- How a command is shown in usage lines: the program name, then the subcommand. -/
def usageName : Level → String
  | .root => programName
  | l => programName ++ " " ++ l.name

/-- How a command names itself when it prints its version. -/
def versionName : Level → String
  | .root => programName
  | l => programName ++ "-" ++ l.name

/-- The arguments a command declares itself. -/
def ownArgs : Level → List Arg
  | .root => [verbose]
  | .extract => extractArgs
  | .encode => encodeArgs
  | .help => helpArgs

/-- Whether the long form of the command's help shows more than the short one. -/
def hasLongHelp (l : Level) : Bool := l.ownArgs.any Arg.hasLongHelp

/-- Every argument of a command: its own, the debug switch it shares with the top level, and
the help and version switches. `help` has only its own. -/
def args : Level → List Arg
  | .root => [verbose, helpSwitch false, versionSwitch]
  | .help => helpArgs
  | l => l.ownArgs ++ [verbose, helpSwitch l.hasLongHelp, versionSwitch]

end Level

end FlasherStub.Cli
