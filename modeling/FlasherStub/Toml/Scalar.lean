import FlasherStub.Toml.Syntax
import FlasherStub.Number.Binary64

/-!
Decoding the keys and scalars of a TOML document from their written pieces.

Strings: a basic string takes the escapes `\b \e \t \n \f \r \" \\ \xXX \uXXXX \UXXXXXXXX`, a
literal string takes its text as it stands, and the multi-line forms drop a line break right after
the opening delimiter; a multi-line basic string also drops a backslash at the end of a line
together with the blank space and line breaks after it. In multi-line strings a carriage return
must start a line break. Bare keys are letters, digits, `-` and `_`.

Bare scalars: `true`, `false`, `inf` and `nan` (the last two with an optional sign); integers in
decimal with an optional sign, or unsigned with a lowercase `0x`, `0o` or `0b` prefix; decimal
floats; and dates and times, recognised by a `-` or `:` after the leading digits. An underscore
must stand between two digits (for integers, hexadecimal ones), and a decimal integer or mantissa
has no leading zero. Everything else must be quoted. Each refusal is the first fault in the order
these rules are checked.

Numbers are read into values here, but one whose digits do not make a value is not refused yet:
an integer that is not a 128-bit number (signed, or unsigned up to `2 ^ 128 - 1`) and a finite
float that overflows binary64 are kept as such, and refused when the value is read.
-/

namespace FlasherStub.Toml

/-- A decoded scalar. Integers are exact; floats are binary64 numbers; a date or time keeps its
text. -/
inductive Scalar where
  | string (s : String)
  | integer (n : Int)
  | float (x : Binary64)
  | boolean (b : Bool)
  | datetime (text : String)
  /-- An integer whose digits make no 128-bit number. -/
  | overflowedInteger
  /-- A finite float too large for binary64. -/
  | overflowedFloat
  deriving DecidableEq, Repr

namespace Scalar

/-! ## Strings -/

/-- The expected alternatives after an unknown escape. -/
def escapeChoices : List Expected :=
  [.literal "b", .literal "e", .literal "f", .literal "n", .literal "r", .literal "\\",
    .literal "\"", .literal "x", .literal "u", .literal "U"]

/-- The value of a hexadecimal digit character. -/
def hexValue (c : Char) : Option Nat :=
  if '0' ≤ c ∧ c ≤ '9' then some (c.toNat - 48)
  else if 'a' ≤ c ∧ c ≤ 'f' then some (c.toNat - 87)
  else if 'A' ≤ c ∧ c ≤ 'F' then some (c.toNat - 55)
  else none

/-- The character of a `\x`, `\u` or `\U` escape with `n` digits. -/
def unicodeEscape (n : Nat) (cs : List Char) : Except Error (Char × List Char) :=
  let digits := (cs.take n).takeWhile (fun c => (hexValue c).isSome)
  if digits.length ≠ n then
    .error (.expecting "too few unicode value digits" [.description "unicode hexadecimal value"])
  else
    let v := digits.foldl (fun acc c => acc * 16 + (hexValue c).getD 0) 0
    if v < 0xD800 ∨ (0xDFFF < v ∧ v ≤ 0x10FFFF) then .ok (Char.ofNat v, cs.drop n)
    else .error (.expecting "invalid value" [.description "unicode hexadecimal value"])

/-- The character an escape stands for, the backslash already read. -/
def escape (cs : List Char) : Except Error (Char × List Char) :=
  match cs with
  | 'b' :: r => .ok ('\x08', r)
  | 'e' :: r => .ok ('\x1b', r)
  | 't' :: r => .ok ('\t', r)
  | 'n' :: r => .ok ('\n', r)
  | 'f' :: r => .ok ('\x0c', r)
  | 'r' :: r => .ok ('\r', r)
  | '"' :: r => .ok ('"', r)
  | '\\' :: r => .ok ('\\', r)
  | 'x' :: r => unicodeEscape 2 r
  | 'u' :: r => unicodeEscape 4 r
  | 'U' :: r => unicodeEscape 8 r
  | _ => .error (.expecting "missing escaped value" escapeChoices)

/-- Whether a character may stand unescaped in a single-line string other than as its quote:
tab, the printable ASCII characters and everything beyond ASCII. -/
def isPlain (c : Char) : Bool := c = '\t' || (' ' ≤ c && c ≤ '~') || c.toNat ≥ 0x80

/-- A carriage return that does not start a line break. -/
def strayReturn : Error :=
  .expecting "carriage return must be followed by newline" [.literal "\n"]

/-- Drops blank space and line breaks; a carriage return stays unless a line feed follows it. -/
def dropBlankLines : List Char → List Char
  | ' ' :: r => dropBlankLines r
  | '\t' :: r => dropBlankLines r
  | '\n' :: r => dropBlankLines r
  | '\r' :: '\n' :: r => dropBlankLines r
  | cs => cs

/-- What follows a backslash in a multi-line basic string: a line break after optional blank
space ends the line there (`some` of what comes after the blank lines), blank space before
anything else is refused, and otherwise the backslash starts an escape (`none`). -/
def lineEnding (cs : List Char) : Except Error (Option (List Char)) :=
  let blanks := cs.takeWhile (fun c => c = ' ' || c = '\t')
  match cs.drop blanks.length with
  | '\n' :: r => .ok (some (dropBlankLines r))
  | '\r' :: '\n' :: r => .ok (some (dropBlankLines r))
  | '\r' :: _ => .error strayReturn
  | _ =>
    if blanks.isEmpty then .ok none
    else .error (.expecting "invalid multi-line basic string" [.literal "\n"])

/-- The contents of a basic string; `multiline` allows line breaks and line-ending
backslashes, and `invalid` refuses a character that may not stand in it. -/
def basicContents (multiline : Bool) (invalid : Error) :
    Nat → List Char → Except Error (List Char)
  | 0, _ => .ok []
  | _, [] => .ok []
  | fuel + 1, '\\' :: r => do
    let ending ← if multiline then lineEnding r else pure none
    match ending with
    | some rest => basicContents multiline invalid fuel rest
    | none =>
      if r.isEmpty then .error (.expecting "missing escaped value" escapeChoices)
      else do
        let (c, r') ← escape r
        let rest ← basicContents multiline invalid fuel r'
        pure (c :: rest)
  | fuel + 1, '\r' :: '\n' :: r =>
    if multiline then do
      let rest ← basicContents multiline invalid fuel r
      pure ('\r' :: '\n' :: rest)
    else .error invalid
  | fuel + 1, c :: r =>
    if multiline && c = '\r' then .error strayReturn
    else if (c = '"' && !multiline) || !(isPlain c || (multiline && c = '\n')) then .error invalid
    else do
      let rest ← basicContents multiline invalid fuel r
      pure (c :: rest)

/-- Drops one line break right after an opening delimiter. -/
def dropFirstNewline : List Char → List Char
  | '\n' :: r => r
  | '\r' :: '\n' :: r => r
  | cs => cs

/-- The text between a delimiter of `n` characters at both ends, if it closes. -/
def between (n : Nat) (cs : List Char) : Option (List Char) :=
  let body := cs.drop n
  if body.length ≥ n then some (body.take (body.length - n)) else none

/-- Decodes a single-line basic string. -/
def basicString (text : String) : Except Error String := do
  let invalid := Error.expecting "invalid basic string"
    [.description "non-double-quote visible characters", .literal "\\"]
  let cs := text.toList
  let some body := (if cs.length ≥ 2 ∧ cs.getLast? = some '"' then between 1 cs else none)
    | .error (.expecting "invalid basic string" [.literal "\""])
  let out ← basicContents false invalid (body.length + 1) body
  pure (String.ofList out)

/-- Decodes a single-line literal string. -/
def literalString (text : String) : Except Error String := do
  let cs := text.toList
  let some body := (if cs.length ≥ 2 ∧ cs.getLast? = some '\'' then between 1 cs else none)
    | .error (.expecting "invalid literal string" [.literal "'"])
  if body.all (fun c => c ≠ '\'' && isPlain c) then pure (String.ofList body)
  else .error (.expecting "invalid literal string"
    [.description "non-single-quote visible characters"])

/-- Decodes a multi-line basic string. -/
def multilineBasicString (text : String) : Except Error String := do
  let invalid := Error.expecting "invalid multi-line basic string"
    [.literal "\\", .description "characters"]
  let cs := text.toList
  let closes := cs.length ≥ 6 ∧ cs.drop (cs.length - 3) = ['"', '"', '"']
  let some body := (if closes then between 3 cs else none)
    | .error (.expecting "invalid multi-line basic string" [.literal "\""])
  let body := dropFirstNewline body
  let out ← basicContents true invalid (body.length + 1) body
  pure (String.ofList out)

/-- Checks the contents of a multi-line literal string: line breaks and what may stand in a
single-line string. -/
def literalContents : List Char → Except Error Unit
  | [] => .ok ()
  | '\r' :: '\n' :: r => literalContents r
  | '\r' :: _ => .error strayReturn
  | c :: r =>
    if isPlain c || c = '\n' then literalContents r
    else .error (.expecting "invalid multi-line literal string"
      [.description "non-single-quote characters"])

/-- Decodes a multi-line literal string. -/
def multilineLiteralString (text : String) : Except Error String := do
  let cs := text.toList
  let closes := cs.length ≥ 6 ∧ cs.drop (cs.length - 3) = ['\'', '\'', '\'']
  let some body := (if closes then between 3 cs else none)
    | .error (.expecting "invalid multi-line literal string" [.literal "'"])
  let body := dropFirstNewline body
  literalContents body
  pure (String.ofList body)

/-! ## Keys -/

/-- What a bare key may hold. -/
def keyChoices : List Expected :=
  [.description "letters", .description "numbers", .literal "-", .literal "_"]

/-- Whether a character may stand in a bare key. -/
def isKeyChar (c : Char) : Bool :=
  ('A' ≤ c && c ≤ 'Z') || ('a' ≤ c && c ≤ 'z') || ('0' ≤ c && c ≤ '9') ||
    c = '-' || c = '_'

/-- Decodes a key. -/
def key (p : Piece) : Except Error String :=
  match p.quoting with
  | .bare =>
    if p.text.isEmpty then .error (.expecting "unquoted keys cannot be empty" keyChoices)
    else if p.text.all isKeyChar then .ok p.text
    else .error (.expecting "invalid unquoted key" keyChoices)
  | .literal => literalString p.text
  | .basic => basicString p.text
  | .multilineLiteral => .error (.expecting "keys cannot be multi-line literal strings"
      [.description "basic string", .description "literal string"])
  | .multilineBasic => .error (.expecting "keys cannot be multi-line basic strings"
      [.description "basic string", .description "literal string"])

/-! ## Numbers -/

/-- The radix of an integer. -/
inductive Radix where
  | bin
  | oct
  | dec
  | hex
  deriving DecidableEq, Repr

/-- The base of a radix. -/
def Radix.base : Radix → Nat
  | .bin => 2
  | .oct => 8
  | .dec => 10
  | .hex => 16

/-- The words for an integer of a radix that holds a foreign character. -/
def Radix.invalid : Radix → String
  | .bin => "invalid binary number"
  | .oct => "invalid octal number"
  | .dec => "invalid integer number"
  | .hex => "invalid hexadecimal number"

/-- The value of a digit in a radix. -/
def Radix.digit? (r : Radix) (c : Char) : Option Nat :=
  match hexValue c with
  | some v => if v < r.base then some v else none
  | none => none

/-- What kind of number a piece is being read as. -/
inductive NumberKind where
  | integer
  | float
  deriving DecidableEq

/-- Whether a character may stand next to an underscore in a number of the kind: a hexadecimal
digit in an integer of any radix, a decimal digit in a float. -/
def NumberKind.isDigit : NumberKind → Char → Bool
  | .integer, c => (hexValue c).isSome
  | .float, c => c.isDigit

/-- Whether every underscore stands between two digits of the kind. -/
def underscoresBetweenDigits (k : NumberKind) : List Char → Bool
  | [] => true
  | [c] => c ≠ '_'
  | c :: d :: r =>
    if c = '_' then false
    else if d = '_' then
      match r with
      | e :: _ => k.isDigit c && k.isDigit e && underscoresBetweenDigits k r
      | [] => false
    else underscoresBetweenDigits k (d :: r)

/-- The text of a number with its underscores removed, once they are all between digits. -/
def withoutUnderscores (k : NumberKind) (cs : List Char) : Except Error (List Char) :=
  if underscoresBetweenDigits k cs then .ok (cs.filter (· ≠ '_'))
  else .error (.nothing "`_` may only go between digits")

/-- A run of digits and underscores: refused when it has no digit, or has a leading zero and
more digits where none is allowed. Returns what follows it. -/
def decimalRun (zeroAllowed : Bool) (what : String) (cs : List Char) : Except Error (List Char) :=
  let run := cs.takeWhile (fun c => c.isDigit || c = '_')
  let count := (run.filter Char.isDigit).length
  if count = 0 then .error (.expecting what [.description "digits"])
  else if count ≥ 2 ∧ cs.head? = some '0' ∧ !zeroAllowed then
    .error (.nothing "unexpected leading zero")
  else .ok (cs.drop run.length)

/-- Checks the shape of a float: mantissa, optional fraction, optional signed exponent. -/
def checkFloat (cs : List Char) : Except Error Unit := do
  let r ← decimalRun false "invalid mantissa" cs
  let r ← match r with
    | '.' :: r' => decimalRun true "invalid fraction" r'
    | _ => pure r
  let r ← match r with
    | 'e' :: r' | 'E' :: r' =>
      let r'' := match r' with
        | '+' :: x | '-' :: x => x
        | x => x
      decimalRun true "invalid exponent" r''
    | _ => pure r
  if r.isEmpty then pure () else .error (.nothing "invalid float")

/-- The value of decimal digits. -/
def digitsValue (base : Nat) (cs : List Char) : Nat :=
  cs.foldl (fun acc c => acc * base + (hexValue c).getD 0) 0

/-- A decimal integer with an optional sign. -/
def decimalValue (cs : List Char) : Int :=
  match cs with
  | '-' :: r => -(digitsValue 10 r : Int)
  | '+' :: r => digitsValue 10 r
  | r => digitsValue 10 r

/-- The value of a float's text, underscores removed: the nearest binary64 number. -/
def floatValue (cs : List Char) : Binary64 :=
  let (negative, body) := match cs with
    | '-' :: r => (true, r)
    | '+' :: r => (false, r)
    | r => (false, r)
  if body = ['i', 'n', 'f'] then { Binary64.infinity with negative := negative }
  else if body = ['n', 'a', 'n'] then { Binary64.nan with negative := negative }
  else
    let intPart := body.takeWhile Char.isDigit
    let afterInt := body.drop intPart.length
    let (fracPart, afterFrac) := match afterInt with
      | '.' :: r => (r.takeWhile Char.isDigit, r.dropWhile Char.isDigit)
      | r => ([], r)
    let exp : Int := match afterFrac with
      | 'e' :: r | 'E' :: r => decimalValue r
      | _ => 0
    let digits := digitsValue 10 (intPart ++ fracPart)
    let scale := exp - fracPart.length
    let size : Int := (toString digits).length
    if digits = 0 then { Binary64.zero with negative := negative }
    else if scale + size > 330 then { Binary64.infinity with negative := negative }
    else if scale + size < -345 then { Binary64.zero with negative := negative }
    else Binary64.ofDecimal negative digits scale

/-- A float from a piece's text; a finite text too large for binary64 is kept as such. -/
def floatNumber (shape value : List Char) : Except Error Scalar := do
  checkFloat shape
  let cs ← withoutUnderscores .float value
  let x := floatValue cs
  pure (if x.isSpecial && !x.isNaN then .overflowedFloat else .float x)

/-- The value of an integer's text, underscores removed, if it is a 128-bit number: an optional
sign, at least one digit of the radix and nothing else, and a value from `-2 ^ 127` up to
`2 ^ 128 - 1`. -/
def readInteger (r : Radix) (cs : List Char) : Option Int :=
  let (negative, ds) := match cs with
    | '-' :: rest => (true, rest)
    | '+' :: rest => (false, rest)
    | rest => (false, rest)
  if ds.isEmpty || !ds.all (fun c => (r.digit? c).isSome) then none
  else
    let v : Int := digitsValue r.base ds
    let n := if negative then -v else v
    if -(Nat.pow 2 127 : Int) ≤ n && n < (Nat.pow 2 128 : Int) then some n else none

/-- The integer scalar of a text, underscores removed. -/
def integerOf (r : Radix) (cs : List Char) : Scalar :=
  match readInteger r cs with
  | some n => .integer n
  | none => .overflowedInteger

/-- A decimal integer from a piece's text. -/
def decimal (value : List Char) : Except Error Scalar := do
  let cs ← withoutUnderscores .integer value
  pure (integerOf .dec cs)

/-- An integer after its radix prefix: a sign there is refused, then a character that is no
digit of the radix, then a misplaced underscore. Without digits it is no number. -/
def radixed (r : Radix) (cs : List Char) : Except Error Scalar := do
  match cs with
  | '+' :: _ | '-' :: _ => throw (.nothing "unexpected sign")
  | _ => pure ()
  if !cs.all (fun c => (r.digit? c).isSome || c = '_') then throw (.plain r.invalid)
  let ds ← withoutUnderscores .integer cs
  pure (integerOf r ds)

/-- The refusal of an unquoted text that is no value; a text that ends with a quote lacks its
opening quote. -/
def invalid (cs : List Char) : Except Error Scalar :=
  let ends (s : List Char) : Bool := cs.length ≥ s.length && cs.drop (cs.length - s.length) == s
  if ends ['\'', '\'', '\''] then .error (.expecting "missing opening quote" [.literal "'''"])
  else if ends ['"', '"', '"'] then .error (.expecting "missing opening quote" [.literal "\"\"\""])
  else if ends ['\''] then .error (.expecting "missing opening quote" [.literal "'"])
  else if ends ['"'] then .error (.expecting "missing opening quote" [.literal "\""])
  else .error (.expecting "string values must be quoted" [.description "literal string"])

/-- A keyword, or the refusal of a text that starts like it. -/
def keyword (cs : List Char) (word : String) (v : Scalar) (what : String) : Except Error Scalar :=
  if cs = word.toList then .ok v
  else if cs.contains ' ' then invalid cs
  else .error (.expecting what [.literal word])

/-- A text whose sign, if any, is read: a date, a float or a decimal integer. `value` is the text
after the sign and `all` the whole text. -/
def dateOrNumber (value all : List Char) : Except Error Scalar :=
  let rest := value.dropWhile Char.isDigit
  let leadingZero : Except Error Unit :=
    if value.head? = some '0' then .error (.nothing "unexpected leading zero") else .ok ()
  match rest with
  | [] => do
    if value.length > 1 then leadingZero
    decimal all
  | c :: _ =>
    if c = '-' ∨ c = ':' then .ok (.datetime (String.ofList all))
    else if rest.contains ' ' then invalid all
    else if rest.contains '.' || rest.contains 'e' || rest.contains 'E' then floatNumber value all
    else if c = '_' then do leadingZero; decimal all
    else invalid all

/-- Refuses a sign in front of a radix prefix. -/
def unsignedRadix (signed : Bool) : Except Error Unit :=
  if signed then throw (.nothing "integers with a radix cannot be signed") else pure ()

/-- An integer after the radix prefix `0p`, which must be the lowercase `0<lower>` with no sign
in front of it; `r` is the text after the prefix. -/
def prefixed (signed : Bool) (p lower : Char) (radix : Radix) (r : List Char) :
    Except Error Scalar := do
  unsignedRadix signed
  if p ≠ lower then
    throw (.expecting "radix must be lowercase" [.literal ("0" ++ lower.toString)])
  radixed radix r

/-- A text starting with `0` after its sign, if any. A radix prefix holds no blank, may not
follow a sign and must be lowercase; `0d` names the decimal radix, which needs no prefix. -/
def zeroPrefixed (value all : List Char) (signed : Bool) : Except Error Scalar :=
  match value with
  | [_] => decimal all
  | _ :: p :: r =>
    let isRadix := "xXoObBdD".toList.contains p
    if isRadix && r.contains ' ' then invalid all
    else if p = 'x' ∨ p = 'X' then prefixed signed p 'x' .hex r
    else if p = 'o' ∨ p = 'O' then prefixed signed p 'o' .oct r
    else if p = 'b' ∨ p = 'B' then prefixed signed p 'b' .bin r
    else if p = 'd' ∨ p = 'D' then do
      unsignedRadix signed
      throw (.nothing "redundant integer number prefix")
    else if p = 'e' ∨ p = 'E' ∨ p = '.' then floatNumber value all
    else dateOrNumber value all
  | [] => decimal all

/-- A text after its sign. -/
def afterSign (value all : List Char) (negative : Bool) : Except Error Scalar :=
  match value with
  | [] => invalid all
  | c :: _ =>
    if c = '+' ∨ c = '-' then .error (.nothing "redundant numeric sign")
    else if c = '_' ∨ c.isDigit && c ≠ '0' then dateOrNumber value all
    else if c = '0' then zeroPrefixed value all true
    else if c = '.' then floatNumber value all
    else if c = 'i' ∨ c = 'I' then
      if value = ['i', 'n', 'f'] then .ok (.float { Binary64.infinity with negative := negative })
      else .error (.expecting "invalid float" [.literal "inf"])
    else if c = 'n' ∨ c = 'N' then
      if value = ['n', 'a', 'n'] then .ok (.float { Binary64.nan with negative := negative })
      else .error (.expecting "invalid float" [.literal "nan"])
    else invalid all

/-- Whether an unquoted text starts like a date or time: digits, then `-` or `:`. -/
def looksLikeDatetime (cs : List Char) : Bool :=
  match cs.dropWhile Char.isDigit with
  | c :: _ => (cs.head?.map Char.isDigit).getD false && (c = '-' || c = ':')
  | [] => false

/-- Decodes an unquoted scalar. A text with a blank in it is refused unless it starts like a
date or time. -/
def bare (text : String) : Except Error Scalar :=
  let cs := text.toList
  if cs.contains ' ' && !looksLikeDatetime cs then invalid cs else
  match cs with
  | [] => invalid cs
  | c :: r =>
    if c = '+' then afterSign r cs false
    else if c = '-' then afterSign r cs true
    else if c = '0' then zeroPrefixed cs cs false
    else if c = '_' ∨ c.isDigit then dateOrNumber cs cs
    else if c = '.' then floatNumber cs cs
    else if c = 't' ∨ c = 'T' then keyword cs "true" (.boolean true) "invalid boolean"
    else if c = 'f' ∨ c = 'F' then keyword cs "false" (.boolean false) "invalid boolean"
    else if c = 'i' ∨ c = 'I' then keyword cs "inf" (.float Binary64.infinity) "invalid float"
    else if c = 'n' ∨ c = 'N' then keyword cs "nan" (.float Binary64.nan) "invalid float"
    else invalid cs

/-- Decodes a scalar piece. -/
def decode (p : Piece) : Except Error Scalar :=
  match p.quoting with
  | .bare => bare p.text
  | .literal => string <$> literalString p.text
  | .basic => string <$> basicString p.text
  | .multilineLiteral => string <$> multilineLiteralString p.text
  | .multilineBasic => string <$> multilineBasicString p.text

end Scalar

end FlasherStub.Toml
