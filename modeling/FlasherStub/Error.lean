import FlasherStub.Chip
import FlasherStub.Image
import FlasherStub.Text.Base64
import FlasherStub.Store

/-!
The errors of the program, one constructor per cause, each with its message, its diagnostic code
and, where there is one, a hint. An encoding error passes its own message, code and hint
through; a chip's error wraps the error that stopped that chip.
-/

namespace FlasherStub

/-- Why extracting or encoding a stub failed. -/
inductive Error where
  | encoding (e : EncodingError)
  | chip (c : Chip) (source : Error)
  | invalidBase64 (segment : Segment) (source : Base64.DecodeError)
  | io (path : String) (source : IoError)
  | json (detail : String)
  | missingStubDir
  | stubNotFound (c : Chip) (dir : String)
  | toml (detail : String)
  | unknownStubFormat (path : String)
  deriving DecidableEq, Repr

namespace Error

/-- The one-line message of an error. -/
def message : Error → String
  | .encoding e => e.message
  | .chip c _ => "Failed to extract the stub for the " ++ c.name
  | .invalidBase64 s _ => "The " ++ s.name ++ " segment is not valid base64"
  | .io p _ => "I/O error while accessing " ++ p
  | .json _ => "Failed to parse the JSON stub description"
  | .missingStubDir => "No stub directory was provided"
  | .stubNotFound c d => "No stub description for the " ++ c.name ++ " found in " ++ d
  | .toml _ => "Failed to parse the TOML stub description"
  | .unknownStubFormat p => "Unrecognized stub description format: " ++ p

/-- The diagnostic code of an error. -/
def code : Error → String
  | .encoding e => e.code
  | .chip .. => "espstub::chip"
  | .invalidBase64 .. => "espstub::invalid_base64"
  | .io .. => "espstub::io"
  | .json _ => "espstub::json"
  | .missingStubDir => "espstub::missing_stub_dir"
  | .stubNotFound .. => "espstub::stub_not_found"
  | .toml _ => "espstub::toml"
  | .unknownStubFormat _ => "espstub::unknown_stub_format"

/-- The hint shown with an error, if any. -/
def help : Error → Option String
  | .encoding e => e.help
  | .invalidBase64 .. => some "Stub descriptions must carry their segments as standard base64"
  | .missingStubDir => some ("Set the IDF_PATH environment variable (run the export.sh script " ++
      "in the esp-idf directory), or pass one of `--stub-dir`, `--esptool-path` or `--idf-path`")
  | .stubNotFound .. =>
    some "Expected esptool's `stub_flasher_*.json` or espflash's `<chip>.toml` in that directory"
  | .unknownStubFormat _ =>
    some "Stub descriptions must be `.json` (esptool) or `.toml` (espflash) files"
  | _ => none

end Error

end FlasherStub
