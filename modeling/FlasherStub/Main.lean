import FlasherStub.Cli.Run

/-!
The `espstub` executable: the file operations on the real file system, and the entry point that
reads the environment and the command line, runs the program and sets the exit status.
-/

namespace FlasherStub

/-- The failure of an operating-system call, by its error number. -/
def IoError.ofCode (code : UInt32) (text : String) : IoError :=
  match code with
  | 2 => .notFound
  | 13 => .permissionDenied
  | 17 => .alreadyExists
  | 20 => .notADirectory
  | 21 => .isADirectory
  | 36 => .nameTooLong
  | _ => .other text

/-- The failure of a runtime file operation. -/
def IoError.ofSystem (e : IO.Error) : IoError :=
  match e with
  | .alreadyExists _ c _ | .interrupted _ c _ | .noFileOrDirectory _ c _
  | .invalidArgument _ c _ | .permissionDenied _ c _ | .resourceExhausted _ c _
  | .inappropriateType _ c _ | .noSuchThing _ c _ => IoError.ofCode c (toString e)
  | .otherError c _ | .resourceBusy c _ | .resourceVanished c _ | .unsupportedOperation c _
  | .hardwareFault c _ | .unsatisfiedConstraints c _ | .illegalOperation c _
  | .protocolError c _ | .timeExpired c _ => IoError.ofCode c (toString e)
  | _ => .other (toString e)

/-- Runs a file operation, keeping its failure as a value. -/
def attempt {α : Type} (act : IO α) : IO (Except IoError α) := do
  try pure (.ok (← act)) catch e => pure (.error (IoError.ofSystem e))

/-- Runs a file operation on a path, refusing first a path the system cannot be given. -/
def attemptOn {α : Type} (p : String) (act : IO α) : IO (Except IoError α) :=
  match pathRefusal? p with
  | some e => pure (.error e)
  | none => attempt act

/-- File operations on the real file system. The runtime tells a file's type only through the
metadata of a path, which this library does not use, so types are told by opening the path and
reading from it. A directory opens and then fails to be read, with its own error. Anything else
that opens and reads is taken as a file: a device or a pipe too, where `Tree.isFile` asks for a
regular file, as the file system's own test does. -/
instance : Store IO where
  read p := attemptOn p (do pure (← IO.FS.readBinFile p).toList)
  isFile p := do
    match ← attemptOn p (do (← IO.FS.Handle.mk p .read).read 1) with
    | .ok _ => pure true
    | .error _ => pure false
  isDir p := do
    match ← attemptOn p (IO.FS.Handle.mk p .read) with
    | .error _ => pure false
    | .ok h =>
      match ← attempt (h.read 1) with
      | .error .isADirectory => pure true
      | _ => pure false
  write p bs := attemptOn p (IO.FS.writeBinFile p ⟨bs.toArray⟩)
  makeDir p := attemptOn p (IO.FS.createDir p)

/-- The environment variables the program reads. -/
def Cli.variables : List String := ["ESPTOOL_PATH", "IDF_PATH", "COLUMNS"]

end FlasherStub

/-- Runs the program on its command line and exits with its status. -/
def main (args : List String) : IO UInt32 := do
  let env ← FlasherStub.Cli.variables.filterMapM fun n => do
    pure ((← IO.getEnv n).map fun v => (n, v))
  let exit ← FlasherStub.Cli.run env args
  IO.print exit.stdout
  IO.eprint exit.stderr
  pure exit.status.toUInt32
