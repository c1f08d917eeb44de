import FlasherStub.Record
import FlasherStub.Image
import FlasherStub.Text.Base64
import FlasherStub.Json.Quote

/-!
A stub description as published: the entry address, the text segment in base64 and its load
address, and optionally a data segment in base64 and its load address. `Description.render`
writes it as a JSON object with the keys in the order `entry`, `text`, `text_start`, `data`,
`data_start`, leaving out the optional keys that are absent. `Description.toRecord` decodes the
two segments, the text first, into a `Record`; an absent data segment is empty and an absent data
address is zero.
-/

namespace FlasherStub

/-- A stub description with its segments still in base64. -/
structure Description where
  entry : Int
  text : String
  textStart : Int
  data : Option String
  dataStart : Option Int
  deriving DecidableEq, Repr, Inhabited

namespace Description

/-- The keys of a description, in their written order. -/
inductive Key where
  | entry
  | text
  | textStart
  | data
  | dataStart
  deriving DecidableEq, Repr

/-- The written name of a key. -/
def Key.name : Key → String
  | .entry => "entry"
  | .text => "text"
  | .textStart => "text_start"
  | .data => "data"
  | .dataStart => "data_start"

/-- The key with the given written name, if it is one. -/
def Key.ofName? : String → Option Key
  | "entry" => some .entry
  | "text" => some .text
  | "text_start" => some .textStart
  | "data" => some .data
  | "data_start" => some .dataStart
  | _ => none

/-- One `"key":value` member of a JSON object. -/
def member (k : Key) (value : String) : String := Json.quote k.name ++ ":" ++ value

/-- The description as a compact JSON object. -/
def render (d : Description) : String :=
  let required := [member .entry (toString d.entry), member .text (Json.quote d.text),
    member .textStart (toString d.textStart)]
  let data := match d.data with
    | some s => [member .data (Json.quote s)]
    | none => []
  let dataStart := match d.dataStart with
    | some v => [member .dataStart (toString v)]
    | none => []
  "\x7b" ++ ",".intercalate (required ++ data ++ dataStart) ++ "\x7d"

/-- Decodes one base64 segment from the bytes of its text. -/
def decodeSegment (seg : Segment) (s : String) :
    Except (Segment × Base64.DecodeError) (List UInt8) :=
  match Base64.decode s.toUTF8.toList with
  | .ok bs => .ok bs
  | .error e => .error (seg, e)

/-- Decodes both segments, the text first, into a record. -/
def toRecord (d : Description) : Except (Segment × Base64.DecodeError) Record := do
  let text ← decodeSegment .text d.text
  let data ← match d.data with
    | some s => decodeSegment .data s
    | none => pure []
  pure { entry := d.entry, textStart := d.textStart, text := text,
         dataStart := d.dataStart.getD 0, data := data }

end Description

end FlasherStub
