import FlasherStub.Cli.Help
import FlasherStub.Config

/-!
Reading a command line. The words are read left to right. At the top level a word naming a
subcommand hands the rest of the line to it; `help` instead names the command whose long help is
printed. A word `--` makes every later word a positional value. `--name` and `--name=value` name
an option by its long name; `-abc` is a cluster of short letters, where a letter that takes a
value takes the rest of the cluster (after an optional `=`) or else the next word, which must not
look like an option. Help and version switches stop the reading as soon as they are met; any
word that fits nowhere, a switch given twice, a missing or refused value, or a missing required
argument makes the command line unusable. After the words, options not given are taken from
their environment variable, where a value given there must be acceptable too.
-/

namespace FlasherStub.Cli

/-- The values given for a command's arguments, by argument id, in the order given; a switch
has no values. -/
abbrev Matches := List (String × List String)

namespace Matches

/-- Whether an argument was given. -/
def has (m : Matches) (id : String) : Bool := m.any (·.1 == id)

/-- The values given for an argument. -/
def values (m : Matches) (id : String) : List String :=
  (m.find? (·.1 == id)).elim [] (·.2)

/-- Records one occurrence of an argument. -/
def add (m : Matches) (id : String) (v : Option String) : Matches :=
  let vs := v.toList
  if m.has id then m.map fun (k, old) => if k == id then (k, old ++ vs) else (k, old)
  else m ++ [(id, vs)]

end Matches

/-- Why reading stopped before the end of the line. -/
inductive Stop where
  /-- Help or version text was asked for. -/
  | print (text : String)
  /-- The command line cannot be used. -/
  | refuse
  deriving DecidableEq, Repr

/-- Applies one occurrence of an argument of a command; `long` tells whether it was written
with its long name, which asks for the long form of help. -/
def react (env : Environment) (l : Level) (a : Arg) (value : Option String) (long : Bool)
    (m : Matches) : Except Stop Matches :=
  match a.action with
  | .help => .error (.print (helpText env l long))
  | .version => .error (.print (versionText l))
  | .flag => if m.has a.id then .error .refuse else .ok (m.add a.id none)
  | .single =>
    if m.has a.id then .error .refuse
    else match value with
      | some v => if a.accepts? v then .ok (m.add a.id (some v)) else .error .refuse
      | none => .error .refuse
  | .repeated =>
    match value with
    | some v => if a.accepts? v then .ok (m.add a.id (some v)) else .error .refuse
    | none => .error .refuse

/-- Reads a cluster of short letters; the result tells which option still waits for its value
in the next word. -/
def readShorts (env : Environment) (l : Level) :
    List Char → Matches → Except Stop (Matches × Option Arg)
  | [], m => .ok (m, none)
  | c :: cs, m =>
    match l.args.find? (fun a => !a.positional && a.short == some c) with
    | none => .error .refuse
    | some a =>
      if a.takesValue then
        match cs with
        | [] => .ok (m, some a)
        | '=' :: rest => do
          let m ← react env l a (some (String.ofList rest)) false m
          pure (m, none)
        | rest => do
          let m ← react env l a (some (String.ofList rest)) false m
          pure (m, none)
      else do
        let m ← react env l a none false m
        readShorts env l cs m

/-- Reads a word `--name` or `--name=value`, given without its dashes. -/
def readLong (env : Environment) (l : Level) (body : String) (m : Matches) :
    Except Stop (Matches × Option Arg) :=
  let (name, value) := match body.splitOn "=" with
    | n :: v :: vs => (n, some ("=".intercalate (v :: vs)))
    | _ => (body, none)
  match l.args.find? (fun a => !a.positional && a.long == some name) with
  | none => .error .refuse
  | some a =>
    if a.takesValue then
      match value with
      | some v => do
        let m ← react env l a (some v) true m
        pure (m, none)
      | none => .ok (m, some a)
    else match value with
      | some _ => .error .refuse
      | none => do
        let m ← react env l a none true m
        pure (m, none)

/-- Reads a positional value into the first positional argument that can still take one. -/
def readPositional (env : Environment) (l : Level) (v : String) (m : Matches) :
    Except Stop Matches :=
  match l.args.find? (fun a => a.positional && (a.action == .repeated || !m.has a.id)) with
  | none => .error .refuse
  | some a => react env l a (some v) false m

/-- Where reading a command's words ended. -/
inductive Reached where
  /-- Reading stopped early. -/
  | stopped (s : Stop)
  /-- A subcommand was named; the words after it are its own. -/
  | subcommand (c : Level) (rest : List String) (m : Matches)
  /-- Every word was read. -/
  | finished (m : Matches)

/-- Whether a word looks like an option rather than a value. -/
def looksLikeOption (t : String) : Bool := t.startsWith "-" && t != "-"

/-- Reads the words of a command. `pending` is an option waiting for its value and `trailing`
tells whether `--` has been met. -/
def readWords (env : Environment) (l : Level) :
    List String → Matches → Option Arg → Bool → Reached
  | [], m, pending, _ => if pending.isSome then .stopped .refuse else .finished m
  | t :: ts, m, pending, trailing =>
    match (if trailing then none else l.child? t) with
    | some c => .subcommand c ts m
    | none =>
      match pending with
      | some a =>
        if trailing || looksLikeOption t then .stopped .refuse
        else match react env l a (some t) false m with
          | .ok m => readWords env l ts m none trailing
          | .error s => .stopped s
      | none =>
        if !trailing && t == "--" then readWords env l ts m none true
        else if !trailing && t.startsWith "--" then
          match readLong env l (t.drop 2).toString m with
          | .ok (m, next) => readWords env l ts m next trailing
          | .error s => .stopped s
        else if !trailing && looksLikeOption t then
          match readShorts env l (t.drop 1).toString.toList m with
          | .ok (m, next) => readWords env l ts m next trailing
          | .error s => .stopped s
        else
          match readPositional env l t m with
          | .ok m => readWords env l ts m none trailing
          | .error s => .stopped s

/-- Takes the options not given on the command line from their environment variables. -/
def fillFromEnvironment (env : Environment) (l : Level) (m : Matches) : Except Stop Matches :=
  List.foldlM (fun m a =>
    match a.env with
    | none => .ok m
    | some name =>
      if m.has a.id then .ok m
      else match env.get? name with
        | none => .ok m
        | some v => if a.accepts? v then .ok (m.add a.id (some v)) else .error .refuse) m l.args

/-- The help asked for by `help` followed by a path of subcommands. -/
def helpFor (env : Environment) : Level → List String → Stop
  | l, [] => .print (helpText env l true)
  | l, n :: ns =>
    match l.child? n with
    | some c => helpFor env c ns
    | none => .refuse

/-- What `extract` was asked to do. -/
structure ExtractRequest where
  verbose : Bool
  location : Location
  outputDir : String
  chips : List Chip
  deriving DecidableEq, Repr

/-- What `encode` was asked to do. -/
structure EncodeRequest where
  verbose : Bool
  input : String
  chip : Chip
  output : Option String
  deriving DecidableEq, Repr

/-- What a command line asks for. -/
inductive Request where
  /-- Print this text and succeed. -/
  | print (text : String)
  /-- Fail with a usage error. -/
  | refuse
  | extract (r : ExtractRequest)
  | encode (r : EncodeRequest)
  deriving DecidableEq, Repr

/-- The single value of an argument, or its default. -/
def valueOf (m : Matches) (a : Arg) : Option String :=
  match m.values a.id with
  | v :: _ => some v
  | [] => a.default

/-- The value of a command's argument called `id`. -/
def Level.value? (l : Level) (m : Matches) (id : String) : Option String :=
  (l.args.find? (·.id == id)).bind (valueOf m)

/-- The request of a subcommand whose words were all read; `verbose` tells whether the top level
was given the debug switch. -/
def requestOf (env : Environment) (l : Level) (verbose : Bool) (m : Matches) : Request :=
  match fillFromEnvironment env l m with
  | .error (.print t) => .print t
  | .error .refuse => .refuse
  | .ok m =>
    if !l.args.all (fun a => !a.required || m.has a.id) then .refuse
    else
      let verbose := verbose || m.has "verbose"
      match l with
      | .extract =>
        .extract { verbose
                   location := { stubDir := l.value? m "stub_dir"
                                 esptoolPath := l.value? m "esptool_path"
                                 idfPath := l.value? m "idf_path" }
                   outputDir := (l.value? m "output_dir").getD "."
                   chips := (m.values "chip").filterMap Chip.ofName? }
      | .encode =>
        match (l.value? m "chip").bind Chip.ofName?, l.value? m "input" with
        | some c, some input => .encode { verbose, input, chip := c, output := l.value? m "output" }
        | _, _ => .refuse
      | _ => .refuse

/-- Reads a command line, given without the program name. -/
def parse (env : Environment) (args : List String) : Request :=
  match readWords env .root args [] none false with
  | .stopped (.print t) => .print t
  | .stopped .refuse => .refuse
  | .finished _ => .refuse
  | .subcommand .help rest _ =>
    match helpFor env .root rest with
    | .print t => .print t
    | .refuse => .refuse
  | .subcommand c rest top =>
    match readWords env c rest [] none false with
    | .stopped (.print t) => .print t
    | .stopped .refuse => .refuse
    | .subcommand .. => .refuse
    | .finished m => requestOf env c (top.has "verbose") m

end FlasherStub.Cli
