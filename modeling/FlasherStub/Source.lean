import FlasherStub.Error
import FlasherStub.Description
import FlasherStub.Json.Description
import FlasherStub.Toml.Description
import FlasherStub.Path

/-!
Reading stub descriptions from files. The format of a file is chosen by its extension, exactly
`json` or `toml`, before the file is read; its bytes must be UTF-8. A stub directory holds, for
each chip, a JSON description under its JSON name or a TOML one under `<chip>.toml`; the JSON one
is preferred, and only regular files count.
-/

namespace FlasherStub

/-- The two formats of a description file. -/
inductive Format where
  | json
  | toml
  deriving DecidableEq, Repr

/-- The format a path's extension names. -/
def Format.ofPath? (p : String) : Option Format :=
  match Path.extension p with
  | some "json" => some .json
  | some "toml" => some .toml
  | _ => none

/-- Reads a description in a format. -/
def Format.parse : Format → String → Except Error Description
  | .json, s => (Description.ofJson s).mapError Error.json
  | .toml, s => (Description.ofToml s).mapError Error.toml

/-- Decodes the segments of a description. -/
def Description.toRecordOrError (d : Description) : Except Error Record :=
  d.toRecord.mapError fun (seg, e) => Error.invalidBase64 seg e

/-- Text of UTF-8 bytes. -/
def utf8Text? (bs : List UInt8) : Option String := String.fromUTF8? ⟨bs.toArray⟩

variable {m : Type → Type} [Monad m] [Store m]

/-- Reads the description in a file, its format chosen by its extension. -/
def readDescription (path : String) : m (Except Error Description) := do
  match Format.ofPath? path with
  | none => pure (.error (.unknownStubFormat path))
  | some fmt =>
    match ← Store.read path with
    | .error e => pure (.error (.io path e))
    | .ok bs =>
      match utf8Text? bs with
      | none => pure (.error (.io path .invalidUtf8))
      | some text => pure (fmt.parse text)

/-- Reads the record in a description file. -/
def readRecord (path : String) : m (Except Error Record) := do
  match ← readDescription path with
  | .ok d => pure d.toRecordOrError
  | .error e => pure (.error e)

/-- The description file of a chip in a stub directory. -/
def stubPath (dir : String) (c : Chip) : m (Except Error String) := do
  let jsonPath := Path.join dir c.jsonStubName
  if ← Store.isFile jsonPath then return .ok jsonPath
  let tomlPath := Path.join dir c.tomlStubName
  if ← Store.isFile tomlPath then return .ok tomlPath
  return .error (.stubNotFound c dir)

/-- The record of a chip's stub in a stub directory. -/
def loadStub (dir : String) (c : Chip) : m (Except Error Record) := do
  match ← stubPath dir c with
  | .ok p => readRecord p
  | .error e => pure (.error e)

end FlasherStub
