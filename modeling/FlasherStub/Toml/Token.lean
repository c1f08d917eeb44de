/-!
The tokens of a TOML document. Punctuation is one character; blank space is a run of spaces and
tabs; a comment runs from `#` to the end of its line; a line break is `\n`, `\r\n` or a lone
`\r` (which is refused later); the four kinds of string run to their closing quotes, or to the end
of the line (single-line strings) or of the text (multi-line strings) when they are not closed;
and everything else is an atom, a run of characters up to the next punctuation, blank or line
break. Bare keys, numbers, booleans and dates are all atoms; a dotted number such as `1.5` is the
atoms `1` and `5` around a dot, and is put together again when values are read.
-/

namespace FlasherStub.Toml

/-- The kinds of token. -/
inductive TokenKind where
  | dot
  | equals
  | comma
  | openBracket
  | closeBracket
  | openBrace
  | closeBrace
  | blank
  | comment
  | newline
  | literalString
  | basicString
  | multilineLiteralString
  | multilineBasicString
  | atom
  deriving DecidableEq, Repr

/-- A token with its text. -/
structure Token where
  kind : TokenKind
  text : List Char
  deriving DecidableEq, Repr

/-- Whether a token kind is a string or an atom, the kinds that can be keys and scalar values. -/
def TokenKind.isKeyLike : TokenKind → Bool
  | .literalString | .basicString | .multilineLiteralString | .multilineBasicString | .atom => true
  | _ => false

/-- Whether a character ends an atom. -/
def endsAtom (c : Char) : Bool :=
  c = '.' || c = '=' || c = ',' || c = '[' || c = ']' || c = '\x7b' || c = '\x7d' ||
    c = ' ' || c = '\t' || c = '#' || c = '\r' || c = '\n'

/-- Splits a single-line basic string body after its opening quote: up to and including the
closing quote, or up to a line feed. A backslash takes a following backslash or quote with it,
so that neither ends the string; any other character after it is read as usual. -/
def basicBody : List Char → List Char × List Char
  | [] => ([], [])
  | '\\' :: '\\' :: r => let (s, t) := basicBody r; ('\\' :: '\\' :: s, t)
  | '\\' :: '"' :: r => let (s, t) := basicBody r; ('\\' :: '"' :: s, t)
  | '"' :: r => (['"'], r)
  | '\n' :: r => ([], '\n' :: r)
  | c :: r => let (s, t) := basicBody r; (c :: s, t)

/-- Splits a single-line literal string body after its opening quote. -/
def literalBody : List Char → List Char × List Char
  | [] => ([], [])
  | '\'' :: r => (['\''], r)
  | '\n' :: r => ([], '\n' :: r)
  | c :: r => let (s, t) := literalBody r; (c :: s, t)

/-- Up to two more quote characters after a closing delimiter belong to the string. -/
def extraQuotes (q : Char) : List Char → List Char × List Char
  | a :: b :: r =>
    if a = q then (if b = q then ([a, b], r) else ([a], b :: r)) else ([], a :: b :: r)
  | [a] => if a = q then ([a], []) else ([], [a])
  | [] => ([], [])

/-- Splits a multi-line basic string body after its opening delimiter, the closing delimiter
included; a backslash takes the next character with it. -/
def multilineBasicBody : List Char → List Char × List Char
  | [] => ([], [])
  | '\\' :: c :: r => let (s, t) := multilineBasicBody r; ('\\' :: c :: s, t)
  | '"' :: '"' :: '"' :: r => let (x, t) := extraQuotes '"' r; ('"' :: '"' :: '"' :: x, t)
  | c :: r => let (s, t) := multilineBasicBody r; (c :: s, t)

/-- Splits a multi-line literal string body after its opening delimiter, the closing delimiter
included. -/
def multilineLiteralBody : List Char → List Char × List Char
  | [] => ([], [])
  | '\'' :: '\'' :: '\'' :: r => let (x, t) := extraQuotes '\'' r; ('\'' :: '\'' :: '\'' :: x, t)
  | c :: r => let (s, t) := multilineLiteralBody r; (c :: s, t)

/-- The first token of a non-empty text and the text after it. -/
def first (c : Char) (r : List Char) : Token × List Char :=
  if c = '.' then (⟨.dot, [c]⟩, r)
  else if c = '=' then (⟨.equals, [c]⟩, r)
  else if c = ',' then (⟨.comma, [c]⟩, r)
  else if c = '[' then (⟨.openBracket, [c]⟩, r)
  else if c = ']' then (⟨.closeBracket, [c]⟩, r)
  else if c = '\x7b' then (⟨.openBrace, [c]⟩, r)
  else if c = '\x7d' then (⟨.closeBrace, [c]⟩, r)
  else if c = ' ' ∨ c = '\t' then
    (⟨.blank, c :: r.takeWhile (fun x => x = ' ' || x = '\t')⟩,
      r.dropWhile (fun x => x = ' ' || x = '\t'))
  else if c = '#' then
    (⟨.comment, c :: r.takeWhile (fun x => x != '\n' && x != '\r')⟩,
      r.dropWhile (fun x => x != '\n' && x != '\r'))
  else if c = '\n' then (⟨.newline, [c]⟩, r)
  else if c = '\r' then
    match r with
    | '\n' :: r' => (⟨.newline, ['\r', '\n']⟩, r')
    | _ => (⟨.newline, [c]⟩, r)
  else if c = '"' then
    match r with
    | '"' :: '"' :: r' =>
      let (s, t) := multilineBasicBody r'
      (⟨.multilineBasicString, '"' :: '"' :: '"' :: s⟩, t)
    | _ =>
      let (s, t) := basicBody r
      (⟨.basicString, c :: s⟩, t)
  else if c = '\'' then
    match r with
    | '\'' :: '\'' :: r' =>
      let (s, t) := multilineLiteralBody r'
      (⟨.multilineLiteralString, '\'' :: '\'' :: '\'' :: s⟩, t)
    | _ =>
      let (s, t) := literalBody r
      (⟨.literalString, c :: s⟩, t)
  else (⟨.atom, c :: r.takeWhile (fun x => !endsAtom x)⟩, r.dropWhile (fun x => !endsAtom x))

/-- The tokens of a text; `fuel` bounds the number of tokens. -/
def tokensOf : Nat → List Char → List Token
  | 0, _ => []
  | _, [] => []
  | fuel + 1, c :: r => let (t, rest) := first c r; t :: tokensOf fuel rest

/-- The tokens of a document, a leading byte order mark dropped. -/
def tokenize (text : String) : List Token :=
  let cs := match text.toList with
    | '\uFEFF' :: r => r
    | cs => cs
  tokensOf (cs.length + 1) cs

end FlasherStub.Toml
