import FlasherStub.Field
import FlasherStub.Number.Shortest

/-!
Reading JSON text byte by byte, with the errors a strict reader reports. The input is a list of
bytes and a reader runs in `EStateM` over what is left of it, so an error can be placed: an
`Error` records how many bytes were left where it arose, and `Error.render` turns that into a
line and a column (bytes since the last newline). Errors of the kind "at the next byte" point one
byte further, as far as the input goes. Field errors are placed later, by `fixPosition`, at the
point the enclosing value has reached.

The pieces are the ones a description needs: blanks, strings with their escapes (a `\u` escape
of a surrogate must be one of a pair), 128-bit integers in plain decimal, numbers of any form when
they are only described in an error, and skipping a value of any kind.
-/

namespace FlasherStub.Json

/-- Why a JSON text is refused. -/
inductive Reason where
  | eofWhileParsingList
  | eofWhileParsingObject
  | eofWhileParsingString
  | eofWhileParsingValue
  | expectedColon
  | expectedListCommaOrEnd
  | expectedObjectCommaOrEnd
  | expectedSomeIdent
  | expectedSomeValue
  | invalidEscape
  | invalidNumber
  | numberOutOfRange
  | controlCharacter
  | keyMustBeAString
  | loneLeadingSurrogate
  | trailingComma
  | trailingCharacters
  | unexpectedEndOfHexEscape
  | field (e : FieldError)
  deriving DecidableEq, Repr

/-- The words for a reason. -/
def Reason.message : Reason → String
  | .eofWhileParsingList => "EOF while parsing a list"
  | .eofWhileParsingObject => "EOF while parsing an object"
  | .eofWhileParsingString => "EOF while parsing a string"
  | .eofWhileParsingValue => "EOF while parsing a value"
  | .expectedColon => "expected `:`"
  | .expectedListCommaOrEnd => "expected `,` or `]`"
  | .expectedObjectCommaOrEnd => "expected `,` or `\x7d`"
  | .expectedSomeIdent => "expected ident"
  | .expectedSomeValue => "expected value"
  | .invalidEscape => "invalid escape"
  | .invalidNumber => "invalid number"
  | .numberOutOfRange => "number out of range"
  | .controlCharacter => "control character (\\u0000-\\u001F) found while parsing a string"
  | .keyMustBeAString => "key must be a string"
  | .loneLeadingSurrogate => "lone leading surrogate in hex escape"
  | .trailingComma => "trailing comma"
  | .trailingCharacters => "trailing characters"
  | .unexpectedEndOfHexEscape => "unexpected end of hex escape"
  | .field e => e.message

/-- A refusal, with the number of bytes left unread where it arose once it is placed. -/
structure Error where
  reason : Reason
  remaining : Option Nat
  deriving DecidableEq, Repr

/-- Line and column of the byte at `index`: lines count from one, columns count the bytes since
the last newline. -/
def position (input : List UInt8) (index : Nat) : Nat × Nat :=
  let before := input.take index
  (1 + before.count 10, (before.reverse.takeWhile (· != 10)).length)

/-- The message of an error in a given input, with its line and column when it is placed. -/
def Error.render (input : List UInt8) (e : Error) : String :=
  match e.remaining with
  | none => e.reason.message
  | some r =>
    let (line, column) := position input (input.length - r)
    e.reason.message ++ " at line " ++ toString line ++ " column " ++ toString column

/-- A reader over the bytes not yet read. -/
abbrev Reader := EStateM Error (List UInt8)

/-- The byte of an ASCII character. -/
def ascii (c : Char) : UInt8 := c.toNat.toUInt8

/-- Whether a byte is JSON blank space. -/
def isBlank (b : UInt8) : Bool := b == 32 || b == 10 || b == 9 || b == 13

/-- Whether a byte is a decimal digit. -/
def isDigit (b : UInt8) : Bool := 48 ≤ b && b ≤ 57

/-- Refuses at the current byte. -/
def fail (r : Reason) : Reader α := fun s => .error ⟨r, some s.length⟩ s

/-- Refuses at the next byte, or at the end. -/
def failNext (r : Reason) : Reader α := fun s => .error ⟨r, some (s.length - 1)⟩ s

/-- Refuses for a field error that is placed later. -/
def failField (e : FieldError) : Reader α := fun s => .error ⟨.field e, none⟩ s

/-- Places an unplaced error at the point the reader has reached. -/
def fixPosition (x : Reader α) : Reader α := fun s =>
  match x s with
  | .ok a s' => .ok a s'
  | .error e s' =>
    .error (if e.remaining.isNone then { e with remaining := some s'.length } else e) s'

/-- The next byte, not consumed. -/
def peek : Reader (Option UInt8) := fun s => .ok s.head? s

/-- Consumes one byte. -/
def eat : Reader Unit := fun s => .ok () s.tail

/-- Consumes and returns the next byte. -/
def next : Reader (Option UInt8) := fun s =>
  match s with
  | [] => .ok none []
  | b :: r => .ok (some b) r

/-- Skips blank space and returns the byte after it, not consumed. -/
def skipBlank : Reader (Option UInt8) := fun s =>
  let r := s.dropWhile isBlank
  .ok r.head? r

/-- Consumes the rest of a keyword such as the `ull` of `null`. -/
def ident : List UInt8 → Reader Unit
  | [] => pure ()
  | c :: cs => do
    match ← next with
    | none => fail .eofWhileParsingValue
    | some b => if b == c then ident cs else fail .expectedSomeIdent

/-! ## Strings -/

/-- The next byte inside a string, which must exist. -/
def nextInString : Reader UInt8 := fun s =>
  match s with
  | [] => .error ⟨.eofWhileParsingString, some 0⟩ []
  | b :: r => .ok b r

/-- The next byte inside a string, not consumed, which must exist. -/
def peekInString : Reader UInt8 := fun s =>
  match s with
  | [] => .error ⟨.eofWhileParsingString, some 0⟩ []
  | b :: r => .ok b (b :: r)

/-- The value of a hexadecimal digit byte. -/
def hexValue (b : UInt8) : Option Nat :=
  let n := b.toNat
  if 48 ≤ n ∧ n ≤ 57 then some (n - 48)
  else if 97 ≤ n ∧ n ≤ 102 then some (n - 87)
  else if 65 ≤ n ∧ n ≤ 70 then some (n - 55)
  else none

/-- The four hexadecimal digits of a `\u` escape. Fewer than four bytes left is the end of the
input; four bytes that are not all digits are consumed and refused. -/
def hexEscape : Reader Nat := fun s =>
  match s with
  | a :: b :: c :: d :: r =>
    match hexValue a, hexValue b, hexValue c, hexValue d with
    | some w, some x, some y, some z => .ok (((w * 16 + x) * 16 + y) * 16 + z) r
    | _, _, _, _ => .error ⟨.invalidEscape, some r.length⟩ r
  | _ => .error ⟨.eofWhileParsingString, some 0⟩ []

/-- The UTF-8 bytes of a code point. -/
def utf8 (n : Nat) : List UInt8 := (String.singleton (Char.ofNat n)).toUTF8.toList

/-- The rest of a `\u` escape, a surrogate pair included. -/
def unicodeEscape : Reader (List UInt8) := do
  let n ← hexEscape
  if 0xDC00 ≤ n ∧ n ≤ 0xDFFF then fail .loneLeadingSurrogate
  else if n < 0xD800 ∨ 0xDBFF < n then pure (utf8 n)
  else do
    if (← peekInString) == ascii '\\' then eat else do eat; fail .unexpectedEndOfHexEscape
    if (← peekInString) == ascii 'u' then eat else do eat; fail .unexpectedEndOfHexEscape
    let n2 ← hexEscape
    if n2 < 0xDC00 ∨ 0xDFFF < n2 then fail .loneLeadingSurrogate
    else pure (utf8 ((n - 0xD800) * 0x400 + (n2 - 0xDC00) + 0x10000))

/-- The bytes an escape stands for, the backslash already read. -/
def escape : Reader (List UInt8) := do
  let c ← nextInString
  if c == ascii '"' then pure [c]
  else if c == ascii '\\' then pure [c]
  else if c == ascii '/' then pure [c]
  else if c == ascii 'b' then pure [8]
  else if c == ascii 'f' then pure [12]
  else if c == ascii 'n' then pure [10]
  else if c == ascii 'r' then pure [13]
  else if c == ascii 't' then pure [9]
  else if c == ascii 'u' then unicodeEscape
  else fail .invalidEscape

/-- The body of a string after its opening quote, up to and including the closing quote; `acc`
holds the bytes so far in reverse. A control character is refused after it is read. -/
def stringBody : Nat → List UInt8 → Reader (List UInt8)
  | 0, _ => fail .eofWhileParsingString
  | fuel + 1, acc => fun s =>
    match s with
    | [] => .error ⟨.eofWhileParsingString, some 0⟩ []
    | b :: r =>
      if b == ascii '"' then .ok acc.reverse r
      else if b == ascii '\\' then (do let e ← escape; stringBody fuel (e.reverse ++ acc)) r
      else if b < 0x20 then .error ⟨.controlCharacter, some r.length⟩ r
      else stringBody fuel (b :: acc) r

/-- Text of bytes that hold UTF-8. -/
def textOf (bs : List UInt8) : String := (String.fromUTF8? ⟨bs.toArray⟩).getD ""

/-- A string after its opening quote. -/
def string : Reader String := fun s => (textOf <$> stringBody (s.length + 1) []) s

/-- Skips an escape, the backslash already read; a `\u` escape only needs four digits here. -/
def skipEscape : Reader Unit := do
  let c ← nextInString
  if [ascii '"', ascii '\\', ascii '/', ascii 'b', ascii 'f', ascii 'n', ascii 'r',
      ascii 't'].contains c then pure ()
  else if c == ascii 'u' then do let _ ← hexEscape; pure ()
  else fail .invalidEscape

/-- Skips the body of a string after its opening quote. A control character is refused where it
stands. -/
def skipStringBody : Nat → Reader Unit
  | 0 => fail .eofWhileParsingString
  | fuel + 1 => fun s =>
    match s with
    | [] => .error ⟨.eofWhileParsingString, some 0⟩ []
    | b :: r =>
      if b == ascii '"' then .ok () r
      else if b == ascii '\\' then (do skipEscape; skipStringBody fuel) r
      else if b < 0x20 then .error ⟨.controlCharacter, some s.length⟩ s
      else skipStringBody fuel r

/-- Skips a string after its opening quote. -/
def skipString : Reader Unit := fun s => skipStringBody (s.length + 1) s

/-! ## Numbers -/

/-- The smallest and largest 128-bit integers. -/
def int128Min : Int := -(Nat.pow 2 127 : Int)
def int128Max : Int := (Nat.pow 2 127 : Int) - 1

/-- The leading run of digit bytes and what follows it. -/
def digitRun (s : List UInt8) : List UInt8 × List UInt8 :=
  (s.takeWhile isDigit, s.dropWhile isDigit)

/-- The value of a list of digit bytes. -/
def digitsValue (ds : List UInt8) : Nat := ds.foldl (fun acc d => acc * 10 + (d.toNat - 48)) 0

/-- The digits of a natural number in plain decimal, one leading zero at most. -/
def unsignedDecimal : Reader Nat := fun s =>
  match s with
  | [] => .error ⟨.invalidNumber, some 0⟩ []
  | c :: r =>
    if c == ascii '0' then
      match r with
      | d :: _ =>
        if isDigit d then .error ⟨.invalidNumber, some (r.length - 1)⟩ r else .ok 0 r
      | [] => .ok 0 r
    else if isDigit c then
      let (ds, r') := digitRun r
      .ok (digitsValue (c :: ds)) r'
    else .error ⟨.invalidNumber, some r.length⟩ r

/-- A 128-bit integer written in plain decimal with an optional minus sign: one leading zero at
most, no plus sign, no fraction and no exponent. -/
def int128 : Reader Int := do
  match ← skipBlank with
  | none => failNext .eofWhileParsingValue
  | some b =>
    let negative := b == ascii '-'
    if negative then eat
    let magnitude ← unsignedDecimal
    let v : Int := if negative then -(magnitude : Int) else magnitude
    if int128Min ≤ v ∧ v ≤ int128Max then pure v else fail .numberOutOfRange

/-- A number read only to be described: an unsigned or signed 64-bit integer, or a binary64
number for everything else. -/
inductive Number where
  | unsigned (n : Nat)
  | signed (n : Int)
  | float (x : Binary64)

/-- How a number is described in an error. -/
def Number.found : Number → Found
  | .unsigned n => .integer n
  | .signed n => .integer n
  | .float x => .float (Shortest.compact x)

/-- The largest unsigned 64-bit integer. -/
def u64Max : Nat := Nat.pow 2 64 - 1

/-- Whether `a * 10 + d` exceeds `c`, tested without computing it. -/
def overflows (a d c : Nat) : Bool := a ≥ c / 10 && (a > c / 10 || d > c % 10)

/-- Clamps to the range of a signed 32-bit integer. -/
def clamp32 (v : Int) : Int := max (-(Nat.pow 2 31 : Int)) (min ((Nat.pow 2 31 : Int) - 1) v)

/-- The binary64 power of ten `10 ^ k` for `k ≤ 308`. -/
def pow10 (k : Nat) : Binary64 := Binary64.ofDecimal false 1 k

/-- The binary64 value `significand * 10 ^ exponent`, computed as a product or quotient with a
power of ten from a table that ends at `1e308`; a product that overflows is out of range. -/
def fromParts (positive : Bool) (significand : Nat) (exponent : Int) : Reader Binary64 :=
  let rec go : Nat → Binary64 → Int → Reader Binary64
    | 0, f, _ => pure f
    | fuel + 1, f, e =>
      let index := if e = -(Nat.pow 2 31 : Int) then Nat.pow 2 64 else e.natAbs
      if index ≤ 308 then
        if e ≥ 0 then
          let g := f.mul (pow10 index)
          if g.isSpecial then fail .numberOutOfRange else pure g
        else pure (f.div (pow10 index))
      else if f.isZero then pure f
      else if e ≥ 0 then fail .numberOutOfRange
      else go fuel (f.div (pow10 308)) (e + 308)
  do
    let f ← go 8 (Binary64.ofNat significand) exponent
    pure (if positive then f else f.neg)

/-- Skips digits. -/
def skipDigits : Reader Unit := fun s => .ok () (s.dropWhile isDigit)

/-- After an exponent too large for 32 bits: out of range unless the value is zero or tiny. -/
def exponentOverflow (positive zeroSignificand positiveExp : Bool) : Reader Binary64 := do
  if !zeroSignificand && positiveExp then fail .numberOutOfRange
  else do
    skipDigits
    pure (if positive then Binary64.zero else Binary64.zero.neg)

/-- Reads exponent digits into `exp`, each consumed before it is checked for overflow. -/
def exponentDigits (positive zeroSignificand positiveExp : Bool) :
    Nat → Nat → Reader (Option Nat)
  | 0, exp => pure (some exp)
  | fuel + 1, exp => do
    match ← peek with
    | some c =>
      if isDigit c then do
        eat
        let d := c.toNat - 48
        if overflows exp d (Nat.pow 2 31 - 1) then
          let _ ← exponentOverflow positive zeroSignificand positiveExp
          pure none
        else exponentDigits positive zeroSignificand positiveExp fuel (exp * 10 + d)
      else pure (some exp)
    | none => pure (some exp)

/-- An exponent part, the `e` not yet consumed. -/
def exponentPart (positive : Bool) (significand : Nat) (start : Int) : Reader Binary64 := do
  eat
  let positiveExp ← do
    match ← peek with
    | some c =>
      if c == ascii '+' then do eat; pure true
      else if c == ascii '-' then do eat; pure false
      else pure true
    | none => pure true
  match ← next with
  | none => fail .eofWhileParsingValue
  | some c =>
    if !isDigit c then fail .invalidNumber
    else
      let z := significand = 0
      match ← fun s => exponentDigits positive z positiveExp (s.length + 1) (c.toNat - 48) s with
      | none => pure (if positive then Binary64.zero else Binary64.zero.neg)
      | some exp =>
        let final := clamp32 (if positiveExp then start + exp else start - exp)
        fromParts positive significand final

/-- After fraction digits too many for 64 bits: the rest are skipped. -/
def fractionOverflow (positive : Bool) (significand : Nat) (exponent : Int) : Reader Binary64 := do
  skipDigits
  match ← peek with
  | some c =>
    if c == ascii 'e' || c == ascii 'E' then exponentPart positive significand exponent
    else fromParts positive significand exponent
  | none => fromParts positive significand exponent

/-- Reads fraction digits into the significand while it fits in 64 bits. -/
def fractionDigits (positive : Bool) (before : Int) :
    Nat → Nat → Int → Reader (Sum Binary64 (Nat × Int))
  | 0, sig, after => pure (.inr (sig, after))
  | fuel + 1, sig, after => do
    match ← peek with
    | some c =>
      if isDigit c then
        let d := c.toNat - 48
        if overflows sig d u64Max then
          .inl <$> fractionOverflow positive sig (before + after)
        else do
          eat
          fractionDigits positive before fuel (sig * 10 + d) (after - 1)
      else pure (.inr (sig, after))
    | none => pure (.inr (sig, after))

/-- A fraction part, the `.` not yet consumed; at least one digit must follow it. -/
def fractionPart (positive : Bool) (significand : Nat) (before : Int) : Reader Binary64 := do
  eat
  match ← fun s => fractionDigits positive before (s.length + 1) significand 0 s with
  | .inl x => pure x
  | .inr (sig, after) =>
    if after = 0 then do
      match ← peek with
      | some _ => failNext .invalidNumber
      | none => failNext .eofWhileParsingValue
    else
      match ← peek with
      | some c =>
        if c == ascii 'e' || c == ascii 'E' then exponentPart positive sig (before + after)
        else fromParts positive sig (before + after)
      | none => fromParts positive sig (before + after)

/-- Digits beyond 64 bits: they only raise the decimal exponent. -/
def longInteger (positive : Bool) (significand : Nat) : Reader Binary64 := do
  let extra ← fun s => .ok (s.takeWhile isDigit).length (s.dropWhile isDigit)
  match ← peek with
  | some c =>
    if c == ascii '.' then fractionPart positive significand extra
    else if c == ascii 'e' || c == ascii 'E' then exponentPart positive significand extra
    else fromParts positive significand extra
  | none => fromParts positive significand extra

/-- What follows the integer digits of a number. -/
def numberTail (positive : Bool) (significand : Nat) : Reader Number := do
  match ← peek with
  | some c =>
    if c == ascii '.' then .float <$> fractionPart positive significand 0
    else if c == ascii 'e' || c == ascii 'E' then .float <$> exponentPart positive significand 0
    else pure (plainInteger positive significand)
  | none => pure (plainInteger positive significand)
where
  /-- An integer without fraction or exponent; a negative one below `-2 ^ 63`, and minus
  zero, are binary64 numbers. -/
  plainInteger (positive : Bool) (significand : Nat) : Number :=
    if positive then .unsigned significand
    else if significand = 0 then .float Binary64.zero.neg
    else if significand ≤ Nat.pow 2 63 then .signed (-(significand : Int))
    else .float (Binary64.ofNat significand).neg

/-- Reads integer digits into a 64-bit significand, or hands over to `longInteger`. -/
def integerDigits (positive : Bool) : Nat → Nat → Reader Number
  | 0, sig => numberTail positive sig
  | fuel + 1, sig => do
    match ← peek with
    | some c =>
      if isDigit c then
        let d := c.toNat - 48
        if overflows sig d u64Max then .float <$> longInteger positive sig
        else do
          eat
          integerDigits positive fuel (sig * 10 + d)
      else numberTail positive sig
    | none => numberTail positive sig

/-- A number of any form, its sign already read. -/
def anyNumber (positive : Bool) : Reader Number := do
  match ← next with
  | none => fail .eofWhileParsingValue
  | some c =>
    if c == ascii '0' then do
      match ← peek with
      | some d => if isDigit d then failNext .invalidNumber else numberTail positive 0
      | none => numberTail positive 0
    else if isDigit c then fun s => integerDigits positive (s.length + 1) (c.toNat - 48) s
    else fail .invalidNumber

/-- Skips the digits of an exponent, at least one. -/
def skipExponentDigits : Reader Unit := do
  match ← next with
  | some c => if isDigit c then skipDigits else fail .invalidNumber
  | none => fail .invalidNumber

/-- Skips an exponent, the `e` not yet consumed. -/
def skipExponent : Reader Unit := do
  eat
  match ← peek with
  | some c => if c == ascii '+' || c == ascii '-' then eat
  | none => pure ()
  skipExponentDigits

/-- Skips an exponent if one starts here. -/
def skipOptionalExponent : Reader Unit := do
  match ← peek with
  | some e => if e == ascii 'e' || e == ascii 'E' then skipExponent
  | none => pure ()

/-- Skips a fraction, the `.` not yet consumed. -/
def skipFraction : Reader Unit := do
  eat
  let some c ← peek | failNext .invalidNumber
  if !isDigit c then failNext .invalidNumber
  else do
    skipDigits
    skipOptionalExponent

/-- Skips the fraction and the exponent that may follow the integer digits of a number. -/
def skipNumberTail : Reader Unit := do
  match ← peek with
  | some c =>
    if c == ascii '.' then skipFraction
    else if c == ascii 'e' || c == ascii 'E' then skipExponent
  | none => pure ()

/-- Skips a number, its sign already read. -/
def skipNumber : Reader Unit := do
  match ← next with
  | some c =>
    if c == ascii '0' then do
      match ← peek with
      | some d => if isDigit d then failNext .invalidNumber
      | none => pure ()
    else if isDigit c then skipDigits
    else fail .invalidNumber
  | none => fail .invalidNumber
  skipNumberTail

/-! ## Skipping values -/

/-- After a value inside the open containers `frame :: stack` (innermost first), closes the
containers that end here. Returns the container that takes the next member together with those
around it, or `none` once the outermost container is closed. -/
def closeContainers :
    Nat → Bool → UInt8 → List UInt8 → Reader (Option (UInt8 × List UInt8))
  | 0, _, _, _ => fail .eofWhileParsingValue
  | fuel + 1, acceptComma, frame, stack => do
    let isList := frame == ascii '['
    match ← skipBlank with
    | some b =>
      if b == ascii ',' && acceptComma then do eat; pure (some (frame, stack))
      else if (b == ascii ']' && isList) || (b == ascii '\x7d' && !isList) then do
        eat
        match stack with
        | [] => pure none
        | f :: rest => closeContainers fuel true f rest
      else if acceptComma then
        failNext (if isList then .expectedListCommaOrEnd else .expectedObjectCommaOrEnd)
      else pure (some (frame, stack))
    | none => failNext (if isList then .eofWhileParsingList else .eofWhileParsingObject)

/-- Starts skipping a value at its first byte `b`: a scalar is skipped whole, and a container is
only opened, its bracket returned. -/
def skipValueStart (b : UInt8) : Reader (Option UInt8) :=
  if b == ascii 'n' then do eat; ident [ascii 'u', ascii 'l', ascii 'l']; pure none
  else if b == ascii 't' then do eat; ident [ascii 'r', ascii 'u', ascii 'e']; pure none
  else if b == ascii 'f' then do
    eat; ident [ascii 'a', ascii 'l', ascii 's', ascii 'e']; pure none
  else if b == ascii '-' then do eat; skipNumber; pure none
  else if isDigit b then do skipNumber; pure none
  else if b == ascii '"' then do eat; skipString; pure none
  else if b == ascii '[' || b == ascii '\x7b' then do eat; pure (some b)
  else failNext .expectedSomeValue

/-- Skips the key of an object member and the colon after it. -/
def skipMemberKey : Reader Unit := do
  match ← skipBlank with
  | some c => if c == ascii '"' then eat else failNext .keyMustBeAString
  | none => failNext .eofWhileParsingObject
  skipString
  match ← skipBlank with
  | some c => if c == ascii ':' then eat else failNext .expectedColon
  | none => failNext .eofWhileParsingObject

/-- After the first step of a value, closes the containers that end: the one the value opened,
if any, and those around it in `opened`. -/
def closeAfter (fuel : Nat) (container : Option UInt8) (opened : List UInt8) :
    Reader (Option (UInt8 × List UInt8)) :=
  match container with
  | some frame => closeContainers fuel false frame opened
  | none =>
    match opened with
    | [] => pure none
    | f :: rest => closeContainers fuel true f rest

/-- Skips values until the one started inside the open containers `open` is complete. -/
def skipValues : Nat → List UInt8 → Reader Unit
  | 0, _ => fail .eofWhileParsingValue
  | fuel + 1, opened => do
    let some b ← skipBlank | failNext .eofWhileParsingValue
    let container ← skipValueStart b
    let following ← closeAfter fuel container opened
    match following with
    | none => pure ()
    | some (frame, stack) => do
      if frame == ascii '\x7b' then skipMemberKey
      skipValues fuel (frame :: stack)

/-- Skips one value of any kind, nested containers included. -/
def skipValue : Reader Unit := fun s => skipValues (s.length + 1) [] s

end FlasherStub.Json
