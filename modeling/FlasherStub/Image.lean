import FlasherStub.Record
import FlasherStub.Bytes.LittleEndian
import FlasherStub.Text.Hex

/-!
The STUB image: a self-contained container for one flasher stub. Every value is little endian:

| offset | field |
|---|---|
| 0 | magic, the four bytes of `STUB` |
| 4 | chip type |
| 8 | entry address |
| 12 | text start |
| 16 | text length |
| 20 | text |
| n | data start |
| n + 4 | data length |
| n + 8 | data |

An `Image` holds 32-bit addresses and segments whose lengths fit the 32-bit length words, so
`Image.toBytes` is total. `Image.ofRecord` is the only way from a record to an image: it accepts
exactly the records whose addresses lie in `0 ..= 0xffffffff`, and names the first address, in
the order entry, text start, data start, that does not.
-/

namespace FlasherStub

/-- The address fields of a stub, in the order they are checked. -/
inductive AddressField where
  | entry
  | textStart
  | dataStart
  deriving DecidableEq, Repr

/-- The field name used in messages. -/
def AddressField.name : AddressField → String
  | .entry => "entry"
  | .textStart => "text_start"
  | .dataStart => "data_start"

/-- The two segments of a stub. -/
inductive Segment where
  | text
  | data
  deriving DecidableEq, Repr

/-- The segment name used in messages. -/
def Segment.name : Segment → String
  | .text => "text"
  | .data => "data"

/-- Why a record cannot be written as an image. -/
inductive EncodingError where
  | addressOutOfRange (field : AddressField) (value : Int)
  | segmentTooLarge (segment : Segment) (len : Nat)
  deriving DecidableEq, Repr

/-- The largest value of a 32-bit word. -/
def wordMax : Nat := 0xffffffff

/-- Hexadecimal text of a 128-bit integer with a `0x` prefix; a negative value is written as its
two's complement. -/
def hex128 (v : Int) : String :=
  "0x" ++ Hex.ofNat (if v < 0 then ((Nat.pow 2 128 : Int) + v).toNat else v.toNat)

namespace EncodingError

/-- The one-line description of the error. -/
def message : EncodingError → String
  | .addressOutOfRange f v =>
    "The `" ++ f.name ++ "` address " ++ hex128 v ++ " does not fit in 32 bits"
  | .segmentTooLarge s n =>
    "The " ++ s.name ++ " segment is " ++ toString n ++
      " bytes long, which exceeds the 32-bit length field"

/-- The diagnostic code of the error. -/
def code : EncodingError → String
  | .addressOutOfRange .. => "espstub::encoding::address_out_of_range"
  | .segmentTooLarge .. => "espstub::encoding::segment_too_large"

/-- The hint shown with the error, if any. -/
def help : EncodingError → Option String
  | .addressOutOfRange .. => some "Addresses must be within 0..=0xffffffff"
  | .segmentTooLarge .. => none

end EncodingError

/-- A stub ready to be written: 32-bit addresses and segments whose lengths fit a 32-bit word. -/
structure Image where
  chipType : UInt32
  entry : UInt32
  textStart : UInt32
  text : List UInt8
  dataStart : UInt32
  data : List UInt8
  text_lt : text.length < Nat.pow 2 32
  data_lt : data.length < Nat.pow 2 32
  deriving DecidableEq

namespace Image

/-- The magic bytes that open every image. -/
def magic : List UInt8 := [0x53, 0x54, 0x55, 0x42]

/-- Accepts an address that fits in a word, or names the field that does not. -/
def address (field : AddressField) (v : Int) : Except EncodingError UInt32 :=
  if 0 ≤ v ∧ v ≤ wordMax then .ok (UInt32.ofNat v.toNat)
  else .error (.addressOutOfRange field v)

/-- Checks a record against the widths of the image fields and builds its image. The addresses
are checked in the order entry, text start, data start, then the segment lengths. -/
def ofRecord (r : Record) (chipType : UInt32) : Except EncodingError Image := do
  let entry ← address .entry r.entry
  let textStart ← address .textStart r.textStart
  let dataStart ← address .dataStart r.dataStart
  if ht : r.text.length < Nat.pow 2 32 then
    if hd : r.data.length < Nat.pow 2 32 then
      pure ⟨chipType, entry, textStart, r.text, dataStart, r.data, ht, hd⟩
    else throw (.segmentTooLarge .data r.data.length)
  else throw (.segmentTooLarge .text r.text.length)

/-- The length of a segment as a word. -/
def lengthWord (bs : List UInt8) : UInt32 := UInt32.ofNat bs.length

/-- The image in its serialized form. -/
def toBytes (i : Image) : List UInt8 :=
  magic ++ LittleEndian.word i.chipType ++ LittleEndian.word i.entry ++
    LittleEndian.word i.textStart ++ LittleEndian.word (lengthWord i.text) ++ i.text ++
    LittleEndian.word i.dataStart ++ LittleEndian.word (lengthWord i.data) ++ i.data

/-- The bytes of the packed image header: the magic and four words. -/
def headerSize : Nat := magic.length + 4 * 4

/-- The bytes of the packed header of the data segment: two words. -/
def segmentHeaderSize : Nat := 2 * 4

/-- The size of the serialized image in bytes: the header, the text, the data segment's header
and the data. -/
def size (i : Image) : Nat := headerSize + i.text.length + segmentHeaderSize + i.data.length

/-- Checks a record and writes its image, tagged with a chip type. -/
def encode (r : Record) (chipType : UInt32) : Except EncodingError (List UInt8) := do
  let image ← ofRecord r chipType
  pure image.toBytes

/-- Reads a word from the front of a byte string. -/
def readWord (bs : List UInt8) : Option (UInt32 × List UInt8) :=
  if bs.length < 4 then none
  else some (UInt32.ofNat (LittleEndian.ofBytes (bs.take 4)), bs.drop 4)

/-- Reads a serialized image; the bytes must hold exactly one image and nothing after it. -/
def ofBytes? (bs : List UInt8) : Option Image := do
  if bs.take 4 ≠ magic then none
  let (chipType, r) ← readWord (bs.drop 4)
  let (entry, r) ← readWord r
  let (textStart, r) ← readWord r
  let (textLen, r) ← readWord r
  if r.length < textLen.toNat then none
  let text := r.take textLen.toNat
  let (dataStart, r) ← readWord (r.drop textLen.toNat)
  let (dataLen, r) ← readWord r
  if r.length ≠ dataLen.toNat then none
  if ht : text.length < Nat.pow 2 32 then
    if hd : r.length < Nat.pow 2 32 then
      some ⟨chipType, entry, textStart, text, dataStart, r, ht, hd⟩
    else none
  else none

end Image

end FlasherStub
