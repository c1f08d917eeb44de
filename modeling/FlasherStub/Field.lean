import FlasherStub.Text.Hex
import FlasherStub.Text.Printable

/-!
The vocabulary of field errors shared by both description formats: a field that is missing or
given twice, and a value of the wrong kind for its field. A wrong value is described by what was
found (`Found`) and what the field wants (`Wanted`); `FieldError.message` is the sentence both
formats report, such as ``invalid type: integer `5`, expected a string``.
-/

namespace FlasherStub

/-- Whether a character is shown as itself inside a quoted string; see `Printable.isShown`. -/
def Char.isShown (c : Char) : Bool := Printable.isShown c

/-- A character inside a double-quoted, escaped rendering of a string. -/
def Char.quoted (c : Char) : String :=
  if c = '\x00' then "\\0"
  else if c = '\t' then "\\t"
  else if c = '\r' then "\\r"
  else if c = '\n' then "\\n"
  else if c = '\\' then "\\\\"
  else if c = '"' then "\\\""
  else if Char.isShown c then String.singleton c
  else "\\u\x7b" ++ Hex.ofNat c.toNat ++ "\x7d"

/-- A string between double quotes with its special characters escaped. -/
def quoteString (s : String) : String :=
  "\"" ++ String.join (s.toList.map Char.quoted) ++ "\""

/-- What a field found instead of the value it wanted. -/
inductive Found where
  | boolean (b : Bool)
  | integer (n : Int)
  | wideInteger (n : Int) (width : String)
  | float (text : String)
  | string (s : String)
  | null
  | sequence
  | map
  | other (what : String)
  deriving DecidableEq, Repr

/-- The words for what was found. -/
def Found.describe : Found → String
  | .boolean b => "boolean `" ++ (if b then "true" else "false") ++ "`"
  | .integer n => "integer `" ++ toString n ++ "`"
  | .wideInteger n w => "integer `" ++ toString n ++ "` as " ++ w
  | .float t => "floating point `" ++ t ++ "`"
  | .string s => "string " ++ quoteString s
  | .null => "null"
  | .sequence => "sequence"
  | .map => "map"
  | .other w => w

/-- What a field, or the whole description, wants. -/
inductive Wanted where
  | integer128
  | string
  | description
  deriving DecidableEq, Repr

/-- The words for what is wanted. -/
def Wanted.describe : Wanted → String
  | .integer128 => "i128"
  | .string => "a string"
  | .description => "struct FlashStub"

/-- Why the fields of a description could not be taken from a document. -/
inductive FieldError where
  | invalidType (found : Found) (wanted : Wanted)
  | invalidValue (found : Found) (wanted : Wanted)
  | invalidLength (count : Nat)
  | missing (field : String)
  | duplicate (field : String)
  | custom (text : String)
  deriving DecidableEq, Repr

/-- The sentence reported for a field error. -/
def FieldError.message : FieldError → String
  | .invalidType f w => "invalid type: " ++ f.describe ++ ", expected " ++ w.describe
  | .invalidValue f w => "invalid value: " ++ f.describe ++ ", expected " ++ w.describe
  | .invalidLength n =>
    "invalid length " ++ toString n ++ ", expected struct FlashStub with 5 elements"
  | .missing f => "missing field `" ++ f ++ "`"
  | .duplicate f => "duplicate field `" ++ f ++ "`"
  | .custom t => t

end FlasherStub
