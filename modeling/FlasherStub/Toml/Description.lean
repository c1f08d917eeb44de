import FlasherStub.Toml.Document
import FlasherStub.Description
import FlasherStub.Number.Shortest

/-!
Reading a description from TOML. The root table holds the keys of a description; other keys are
ignored whatever their values. The keys are taken in sorted order, so when two values have the
wrong kind the error is about the key that sorts first; a missing key is reported after all
keys were read, in the order `entry`, `text`, `text_start`.

Addresses are integers of at most 128 bits and segments are strings. A value of another kind is
described by what was found: an integer by its value (with the width it needed beyond 64 bits),
a float in positional notation, a date, time or table as a map, an array as a sequence.

Numbers are read as their keys are taken, ignored keys included: an integer that is no 128-bit
number or a float that overflowed refuses the description there. The value of an ignored key is
read through, array items in order and table members in sorted order; the value of a used key of
the wrong kind is refused without looking inside it.
-/

namespace FlasherStub.Toml

/-- The bounds of signed and unsigned 64- and 128-bit integers. -/
def fitsSigned (bits : Nat) (n : Int) : Bool :=
  -(Nat.pow 2 (bits - 1) : Int) ≤ n && n < (Nat.pow 2 (bits - 1) : Int)
def fitsUnsigned (bits : Nat) (n : Int) : Bool := 0 ≤ n && n < (Nat.pow 2 bits : Int)

/-- How a value of the wrong kind is described. -/
def found : Value → Found
  | .scalar (.string s) => .string s
  | .scalar (.integer n) => .integer n
  | .scalar (.float x) => .float (Shortest.positional x)
  | .scalar (.boolean b) => .boolean b
  | .scalar (.datetime _) => .map
  | .scalar .overflowedInteger => .other "integer"
  | .scalar .overflowedFloat => .other "floating point"
  | .array _ _ => .sequence
  | .table _ _ => .map

/-- The message for an integer that is no 128-bit number. -/
def overflowed : FieldError := .custom "integer number overflowed"

/-- The message for a float too large for binary64. -/
def floatOverflowed : FieldError := .custom "floating-point number overflowed"

/-- The refusal of a scalar that cannot be read as a number. -/
def unreadable : Scalar → Option FieldError
  | .overflowedInteger => some overflowed
  | .overflowedFloat => some floatOverflowed
  | _ => none

mutual

/-- The first refusal met when a value is read through: every number in it is read, array items
in order and table members by sorted key. -/
def Value.firstUnreadable : Value → Option FieldError
  | .scalar s => unreadable s
  | .array items _ => firstUnreadableOf items
  | .table entries _ => (leastUnreadable entries).map (·.2)

/-- The first refusal among array items, in order. -/
def firstUnreadableOf : List Value → Option FieldError
  | [] => none
  | v :: vs =>
    match v.firstUnreadable with
    | some e => some e
    | none => firstUnreadableOf vs

/-- The refusal under the least key among table members, with that key. -/
def leastUnreadable : List (String × Value) → Option (String × FieldError)
  | [] => none
  | (k, v) :: rest =>
    match v.firstUnreadable, leastUnreadable rest with
    | some e, some (k', e') => if k' < k then some (k', e') else some (k, e)
    | some e, none => some (k, e)
    | none, r => r

end

/-- An address value: an integer that fits in 128 signed bits. -/
def address (v : Value) : Except FieldError Int :=
  match v with
  | .scalar .overflowedInteger => .error overflowed
  | .scalar .overflowedFloat => .error floatOverflowed
  | .scalar (.integer n) =>
    if fitsSigned 128 n then .ok n
    else if fitsUnsigned 128 n then .error (.invalidValue (.other "u128") .integer128)
    else .error overflowed
  | other => .error (.invalidType (found other) .integer128)

/-- A segment value: a string. -/
def segment (v : Value) : Except FieldError String :=
  match v with
  | .scalar (.string s) => .ok s
  | .scalar .overflowedInteger => .error overflowed
  | .scalar .overflowedFloat => .error floatOverflowed
  | .scalar (.integer n) =>
    if fitsSigned 64 n ∨ fitsUnsigned 64 n then .error (.invalidType (.integer n) .string)
    else if fitsSigned 128 n then .error (.invalidType (.wideInteger n "i128") .string)
    else if fitsUnsigned 128 n then .error (.invalidType (.wideInteger n "u128") .string)
    else .error overflowed
  | other => .error (.invalidType (found other) .string)

/-- The fields read so far. -/
structure Fields where
  entry : Option Int := none
  text : Option String := none
  textStart : Option Int := none
  data : Option String := none
  dataStart : Option Int := none

/-- Takes one key of the root table. -/
def Fields.take (f : Fields) (entry : String × Value) : Except FieldError Fields :=
  match Description.Key.ofName? entry.1 with
  | some .entry => do let v ← address entry.2; pure { f with entry := some v }
  | some .text => do let v ← segment entry.2; pure { f with text := some v }
  | some .textStart => do let v ← address entry.2; pure { f with textStart := some v }
  | some .data => do let v ← segment entry.2; pure { f with data := some v }
  | some .dataStart => do let v ← address entry.2; pure { f with dataStart := some v }
  | none =>
    match entry.2.firstUnreadable with
    | some e => .error e
    | none => pure f

/-- The description of complete fields, or the first required key that is missing. -/
def Fields.finish (f : Fields) : Except FieldError Description :=
  match f.entry, f.text, f.textStart with
  | none, _, _ => .error (.missing "entry")
  | some _, none, _ => .error (.missing "text")
  | some _, some _, none => .error (.missing "text_start")
  | some e, some t, some ts =>
    .ok { entry := e, text := t, textStart := ts, data := f.data, dataStart := f.dataStart }

/-- The description held by a root table, its keys taken in sorted order. -/
def descriptionOf (root : Table) : Except FieldError Description := do
  let sorted := root.mergeSort (fun a b => decide (a.1 < b.1))
  let f ← sorted.foldlM Fields.take {}
  f.finish

end FlasherStub.Toml

namespace FlasherStub.Description

/-- Reads a description from TOML text; the error is the message of the first fault. -/
def ofToml (text : String) : Except String Description :=
  match Toml.parseTable text with
  | .error e => .error e.message
  | .ok root =>
    match Toml.descriptionOf root with
    | .ok d => .ok d
    | .error e => .error e.message

end FlasherStub.Description
