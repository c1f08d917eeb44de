import FlasherStub.Json.Reader
import FlasherStub.Description

/-!
Reading a description from JSON. The document is an object with the keys of a description, in
any order and each at most once, unknown keys being skipped whatever their values; or an array
of its values in key order, of which the first three are required. `entry`, `text_start` and
`data_start` are plain decimal integers of at most 128 bits, `text` and `data` are strings, and
the two optional keys may be `null`. Nothing but blank space may follow the document.

When a value has the wrong kind, the error describes what was found there (`Found`); a missing
key is reported once the whole object has been read, a repeated one where it is read again.
-/

namespace FlasherStub.Json

open Description (Key)

/-- Describes the value that starts at the next byte, for a field that wanted `wanted`, and
refuses. -/
def invalidType (wanted : Wanted) : Reader α := fixPosition do
  let b ← peek
  let c := b.getD 0
  if c == ascii 'n' then do
    eat; ident [ascii 'u', ascii 'l', ascii 'l']; failField (.invalidType .null wanted)
  else if c == ascii 't' then do
    eat; ident [ascii 'r', ascii 'u', ascii 'e']; failField (.invalidType (.boolean true) wanted)
  else if c == ascii 'f' then do
    eat; ident [ascii 'a', ascii 'l', ascii 's', ascii 'e']
    failField (.invalidType (.boolean false) wanted)
  else if c == ascii '-' then do
    eat
    let n ← anyNumber false
    failField (.invalidType n.found wanted)
  else if isDigit c then do
    let n ← anyNumber true
    failField (.invalidType n.found wanted)
  else if c == ascii '"' then do
    eat
    let s ← string
    failField (.invalidType (.string s) wanted)
  else if c == ascii '[' then failField (.invalidType .sequence wanted)
  else if c == ascii '\x7b' then failField (.invalidType .map wanted)
  else failNext .expectedSomeValue

/-- A string value. -/
def stringValue : Reader String := fixPosition do
  match ← skipBlank with
  | none => failNext .eofWhileParsingValue
  | some b => if b == ascii '"' then do eat; string else invalidType .string

/-- A value that may be `null`. -/
def optional (read : Reader α) : Reader (Option α) := do
  match ← skipBlank with
  | some b =>
    if b == ascii 'n' then do eat; ident [ascii 'u', ascii 'l', ascii 'l']; pure none
    else some <$> read
  | none => some <$> read

/-- The fields read so far; an optional field that was given `null` is `some none`. -/
structure Fields where
  entry : Option Int := none
  text : Option String := none
  textStart : Option Int := none
  data : Option (Option String) := none
  dataStart : Option (Option Int) := none

/-- The description of complete fields, or the first required key that is missing. -/
def Fields.finish (f : Fields) : Reader Description :=
  match f.entry, f.text, f.textStart with
  | none, _, _ => failField (.missing "entry")
  | some _, none, _ => failField (.missing "text")
  | some _, some _, none => failField (.missing "text_start")
  | some e, some t, some ts =>
    pure { entry := e, text := t, textStart := ts, data := f.data.getD none,
           dataStart := f.dataStart.getD none }

/-- The next key of an object, or `none` at its end; `first` tells whether a member was read. -/
def nextKey (first : Bool) : Reader (Option String) := do
  let peeked ← do
    match ← skipBlank with
    | some b =>
      if b == ascii '\x7d' then pure none
      else if b == ascii ',' && !first then do eat; pure (some (← skipBlank))
      else if first then pure (some (some b))
      else failNext .expectedObjectCommaOrEnd
    | none => failNext .eofWhileParsingObject
  match peeked with
  | none => pure none
  | some (some b) =>
    if b == ascii '"' then do eat; some <$> string
    else if b == ascii '\x7d' then failNext .trailingComma
    else failNext .keyMustBeAString
  | some none => failNext .eofWhileParsingValue

/-- The colon between a key and its value. -/
def colon : Reader Unit := do
  match ← skipBlank with
  | some b => if b == ascii ':' then eat else failNext .expectedColon
  | none => failNext .eofWhileParsingObject

/-- Stores a field value unless the field was already given. -/
def store (k : Key) (slot : Option α) (read : Reader α) : Reader α :=
  if slot.isSome then failField (.duplicate k.name) else do colon; read

/-- The members of an object, from the one after `first`. -/
def members : Nat → Bool → Fields → Reader Description
  | 0, _, f => f.finish
  | fuel + 1, first, f => do
    match ← nextKey first with
    | none => f.finish
    | some name =>
      match Key.ofName? name with
      | some .entry => do
        let v ← store .entry f.entry int128
        members fuel false { f with entry := some v }
      | some .text => do
        let v ← store .text f.text stringValue
        members fuel false { f with text := some v }
      | some .textStart => do
        let v ← store .textStart f.textStart int128
        members fuel false { f with textStart := some v }
      | some .data => do
        let v ← store .data f.data (optional stringValue)
        members fuel false { f with data := some v }
      | some .dataStart => do
        let v ← store .dataStart f.dataStart (optional int128)
        members fuel false { f with dataStart := some v }
      | none => do
        colon
        skipValue
        members fuel false f

/-- The next element of an array, or `none` at its end. -/
def nextElement (first : Bool) (read : Reader α) : Reader (Option α) := do
  let peeked ← do
    match ← skipBlank with
    | some b =>
      if b == ascii ']' then pure none
      else if b == ascii ',' && !first then do eat; pure (some (← skipBlank))
      else if first then pure (some (some b))
      else failNext .expectedListCommaOrEnd
    | none => failNext .eofWhileParsingList
  match peeked with
  | none => pure none
  | some (some b) => if b == ascii ']' then failNext .trailingComma else some <$> read
  | some none => failNext .eofWhileParsingValue

/-- A required element of the array form. -/
def required (index : Nat) (first : Bool) (read : Reader α) : Reader α := do
  match ← nextElement first read with
  | some v => pure v
  | none => failField (.invalidLength index)

/-- The array form: the values in key order, the optional ones possibly left out. -/
def elements : Reader Description := do
  let entry ← required 0 true int128
  let text ← required 1 false stringValue
  let textStart ← required 2 false int128
  let data ← nextElement false (optional stringValue)
  let dataStart ← nextElement false (optional int128)
  pure { entry := entry, text := text, textStart := textStart, data := data.getD none,
         dataStart := dataStart.getD none }

/-- The end of an object. -/
def endObject : Reader Unit := do
  match ← skipBlank with
  | some b =>
    if b == ascii '\x7d' then eat
    else if b == ascii ',' then failNext .trailingComma
    else failNext .trailingCharacters
  | none => failNext .eofWhileParsingObject

/-- The end of an array. -/
def endArray : Reader Unit := do
  match ← skipBlank with
  | some b =>
    if b == ascii ']' then eat
    else if b == ascii ',' then do
      eat
      match ← skipBlank with
      | some c => if c == ascii ']' then failNext .trailingComma else failNext .trailingCharacters
      | none => failNext .trailingCharacters
    else failNext .trailingCharacters
  | none => failNext .eofWhileParsingList

/-- Runs `body` and then `close`, even when `body` failed; the first failure is the result. -/
def closing (body : Reader α) (close : Reader Unit) : Reader α := fun s =>
  match body s with
  | .ok a s' =>
    match close s' with
    | .ok _ s'' => .ok a s''
    | .error e s'' => .error e s''
  | .error e s' =>
    match close s' with
    | .ok _ s'' => .error e s''
    | .error _ s'' => .error e s''

/-- A description as an object or an array. -/
def description : Reader Description := fixPosition do
  match ← skipBlank with
  | none => failNext .eofWhileParsingValue
  | some b =>
    if b == ascii '[' then do eat; closing elements endArray
    else if b == ascii '\x7b' then do
      eat
      closing (fun s => members (s.length + 1) true {} s) endObject
    else invalidType .description

/-- A whole document: a description followed by nothing but blank space. -/
def document : Reader Description := do
  let d ← description
  match ← skipBlank with
  | some _ => failNext .trailingCharacters
  | none => pure d

end FlasherStub.Json

namespace FlasherStub.Description

/-- Reads a description from JSON text; the error is the reader's message with its line and
column. -/
def ofJson (text : String) : Except String Description :=
  let input := text.toUTF8.toList
  match Json.document input with
  | .ok d _ => .ok d
  | .error e _ => .error (e.render input)

end FlasherStub.Description
