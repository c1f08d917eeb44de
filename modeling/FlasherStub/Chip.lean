/-!
Chips that carry a flasher stub, with the names and tags that the image format and the stub
directories use for each of them. `Chip.all` is the table in its fixed order: extraction walks
the chips in this order, and a selection of chips is reported in it.
-/

namespace FlasherStub

/-- A chip family for which a flasher stub is published. -/
inductive Chip where
  | esp8266
  | esp32
  | esp32s2
  | esp32s3
  | esp32c3
  deriving DecidableEq, Repr, Inhabited

namespace Chip

/-- Every chip, in table order. -/
def all : List Chip := [.esp8266, .esp32, .esp32s2, .esp32s3, .esp32c3]

/-- The identifier of a chip's variant, from which the names users see are derived. -/
def ident : Chip → String
  | .esp8266 => "Esp8266"
  | .esp32 => "Esp32"
  | .esp32s2 => "Esp32s2"
  | .esp32s3 => "Esp32s3"
  | .esp32c3 => "Esp32c3"

/-- The lowercase name of a chip, as it is displayed and written in file names: its identifier
with every letter lowercased. -/
def name : Chip → String
  | .esp8266 => "esp8266"
  | .esp32 => "esp32"
  | .esp32s2 => "esp32s2"
  | .esp32s3 => "esp32s3"
  | .esp32c3 => "esp32c3"

/-- The marketing names of the parts a chip name stands for. -/
def label : Chip → String
  | .esp8266 => "ESP8266"
  | .esp32 => "ESP32"
  | .esp32s2 => "ESP32-S2"
  | .esp32s3 => "ESP32-S3"
  | .esp32c3 => "ESP32-C3, ESP8685"

/-- The tag written into the chip-type word of an image. The ESP32 family uses its image chip
ID; the ESP8266 has none and sits just above the 16-bit ID range. -/
def chipType : Chip → UInt32
  | .esp8266 => 0x10000
  | .esp32 => 0
  | .esp32s2 => 2
  | .esp32s3 => 9
  | .esp32c3 => 5

/-- File name of the stub description in a JSON stub directory. -/
def jsonStubName : Chip → String
  | .esp8266 => "stub_flasher_8266.json"
  | .esp32 => "stub_flasher_32.json"
  | .esp32s2 => "stub_flasher_32s2.json"
  | .esp32s3 => "stub_flasher_32s3.json"
  | .esp32c3 => "stub_flasher_32c3.json"

/-- File name of the stub description converted to TOML. -/
def tomlStubName (c : Chip) : String := c.name ++ ".toml"

/-- File name of the image written for a chip. -/
def imageName (c : Chip) : String := c.name ++ "_stub.bin"

/-- The chip whose name is exactly `s`; case and surrounding blanks count. -/
def ofName? (s : String) : Option Chip := all.find? (fun c => c.name == s)

/-- The chips of a selection, in table order and each once; an empty selection is every chip. -/
def select (chips : List Chip) : List Chip :=
  if chips.isEmpty then all else all.filter (fun c => chips.contains c)

@[simp] theorem all_length : all.length = 5 := rfl

theorem mem_all (c : Chip) : c ∈ all := by
  cases c <;> decide

theorem ofName?_name (c : Chip) : ofName? c.name = some c := by
  cases c <;> rfl

end Chip

end FlasherStub
