import FlasherStub.Cli.Parse
import FlasherStub.Extract

/-!
Running the program on a command line. Help and version text go to standard output with exit
status 0, without the escape sequences a terminal would show them with; an unusable command
line exits with status 2; a failure while extracting or encoding exits with status 1 and reports
the error on standard error. `encode` writes `<chip>_stub.bin`
when no output path is given.
-/

namespace FlasherStub.Cli

/-- What a run of the program leaves behind, besides the files it wrote. -/
structure Exit where
  status : Nat
  stdout : String := ""
  stderr : String := ""
  deriving DecidableEq, Repr

/-- The report of a failure: its message, then the messages of what caused it. -/
def Error.report : Error → String
  | .chip c source => (Error.chip c source).message ++ "\n  caused by: " ++ Error.report source
  | .encoding e => e.message
  | .invalidBase64 s source => (Error.invalidBase64 s source).message ++ ": " ++ source.message
  | .io p source => (Error.io p source).message ++ ": " ++ source.message
  | .json detail => (Error.json detail).message ++ ": " ++ detail
  | .toml detail => (Error.toml detail).message ++ ": " ++ detail
  | e => e.message

/-- The exit of a finished piece of work. -/
def exitOf {α : Type} : Except Error α → Exit
  | .ok _ => { status := 0 }
  | .error e => { status := 1, stderr := "Error: " ++ Error.report e ++ "\n" }

/-- The usage error report. -/
def usageError : Exit :=
  { status := 2, stderr := "error: invalid arguments\n\nFor more information, try '--help'.\n" }

variable {m : Type → Type} [Monad m] [Store m]

/-- Runs the program with an environment and a command line given without the program name. -/
def run (env : Environment) (args : List String) : m Exit := do
  match parse env args with
  | .print text => pure { status := 0, stdout := Terminal.strip text }
  | .refuse => pure usageError
  | .extract r =>
    match Config.make r.location r.outputDir r.chips with
    | .error e => pure (exitOf (Except.error e : Except Error Unit))
    | .ok cfg => pure (exitOf (← extract cfg))
  | .encode r => pure (exitOf (← encodeFile r.input r.chip (r.output.getD r.chip.imageName)))

end FlasherStub.Cli
