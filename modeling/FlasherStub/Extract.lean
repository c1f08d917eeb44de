import FlasherStub.Source
import FlasherStub.Config

/-!
Writing images. `encodeFile` reads one description file, decodes it and writes the image for a
chip; it stops at the first stage that fails, and writes nothing unless every earlier stage
succeeded. `extract` creates the output directory and then, chip by chip in table order, loads the
chip's stub and writes its image as `<chip>_stub.bin`; it stops at the first chip that fails,
wrapping that failure with the chip, and leaves the images written before it in place.
-/

namespace FlasherStub

/-- Creates a directory and the missing directories above it; an existing directory is fine. -/
def createDirAll {m : Type → Type} [Monad m] [Store m] :
    Nat → String → m (Except IoError Unit)
  | 0, _ => pure (.ok ())
  | fuel + 1, p => do
    if p.isEmpty then return .ok ()
    match ← Store.makeDir p with
    | .ok () => pure (.ok ())
    | .error .notFound =>
      match Path.parent p with
      | none => pure (.error (.other "failed to create whole tree"))
      | some q =>
        match ← createDirAll fuel q with
        | .error e => pure (.error e)
        | .ok () =>
          match ← Store.makeDir p with
          | .ok () => pure (.ok ())
          | .error e => if ← Store.isDir p then pure (.ok ()) else pure (.error e)
    | .error e => if ← Store.isDir p then pure (.ok ()) else pure (.error e)

variable {m : Type → Type} [Monad m] [Store m]

/-- Builds the image of a record for a chip and writes it. -/
def writeImage (r : Record) (c : Chip) (path : String) : m (Except Error Unit) := do
  match Image.ofRecord r c.chipType with
  | .error e => pure (.error (.encoding e))
  | .ok image =>
    match ← Store.write path image.toBytes with
    | .ok () => pure (.ok ())
    | .error e => pure (.error (.io path e))

/-- Encodes one description file into an image file for a chip. -/
def encodeFile (input : String) (c : Chip) (output : String) : m (Except Error Unit) := do
  match ← readRecord input with
  | .error e => pure (.error e)
  | .ok r => writeImage r c output

/-- Extracts the image of one chip. -/
def extractChip (cfg : Config) (c : Chip) : m (Except Error String) := do
  let path := Path.join cfg.outputDir c.imageName
  match ← loadStub cfg.stubDir c with
  | .error e => pure (.error (.chip c e))
  | .ok r =>
    match ← writeImage r c path with
    | .error e => pure (.error (.chip c e))
    | .ok () => pure (.ok path)

/-- Extracts the chips in order, stopping at the first failure; `done` holds the paths written
so far in reverse. -/
def extractChips (cfg : Config) : List Chip → List String → m (Except Error (List String))
  | [], done => pure (.ok done.reverse)
  | c :: cs, done => do
    match ← extractChip cfg c with
    | .error e => pure (.error e)
    | .ok p => extractChips cfg cs (p :: done)

/-- Creates the output directory and writes the image of every chip of the run, returning the
paths written. -/
def extract (cfg : Config) : m (Except Error (List String)) := do
  let depth := (Path.components cfg.outputDir).length + 1
  match ← createDirAll depth cfg.outputDir with
  | .error e => pure (.error (.io cfg.outputDir e))
  | .ok () => extractChips cfg cfg.chips []

end FlasherStub
