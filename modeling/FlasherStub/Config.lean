import FlasherStub.Error
import FlasherStub.Path

/-!
Where the stub descriptions are, and what an extraction run does. A stub directory can be given
directly, or found inside an esptool checkout (`esptool/targets/stub_flasher`), or inside an
ESP-IDF tree, which carries esptool as a component. The first location given wins, an empty one
included. A run names its stub directory, its output directory and its chips, in table order.
-/

namespace FlasherStub

/-- The directory of stub descriptions inside an esptool checkout. -/
def esptoolStubDir : String := "esptool/targets/stub_flasher"

/-- The esptool component inside an ESP-IDF tree. -/
def idfEsptoolDir : String := "components/esptool_py/esptool"

/-- The places a stub directory may be given, in order of precedence. -/
structure Location where
  stubDir : Option String := none
  esptoolPath : Option String := none
  idfPath : Option String := none
  deriving DecidableEq, Repr

/-- The stub directory of a location. -/
def Location.resolve (l : Location) : Except Error String :=
  match l.stubDir, l.esptoolPath, l.idfPath with
  | some d, _, _ => .ok d
  | none, some e, _ => .ok (Path.join e esptoolStubDir)
  | none, none, some i => .ok (Path.join (Path.join i idfEsptoolDir) esptoolStubDir)
  | none, none, none => .error .missingStubDir

/-- An extraction run. -/
structure Config where
  stubDir : String
  outputDir : String
  chips : List Chip
  deriving DecidableEq, Repr

/-- The run for a location, an output directory and a selection of chips; an empty selection is
every chip. -/
def Config.make (l : Location) (outputDir : String) (chips : List Chip) : Except Error Config := do
  let dir ← l.resolve
  pure { stubDir := dir, outputDir := outputDir, chips := Chip.select chips }

end FlasherStub
