import FlasherStub.Toml.Token
import FlasherStub.Toml.Error

/-!
The syntax of a TOML document: lines that assign a value to a dotted key, and table and
array-of-tables headers. Keys and scalars are kept as written (`Piece`); they are decoded when the
document is built. A missing key or value is an empty bare piece, which is refused only then.

`Syntax.parse` reads the tokens in order and stops at the first syntax error; since a document
with a syntax error is refused with its first one, nothing after it matters. Arrays and inline
tables may nest 80 deep.

An unquoted scalar runs over atoms and dots, and over blank space followed by another atom, so
that a date and a time separated by a blank are one scalar; any other text with a blank in it is
refused when it is decoded. Inline tables may span lines, hold comments and end with a comma. A
member of an inline table left without its `=` or its value at the closing brace gets an empty
quoted value, which is refused when it is decoded.
-/

namespace FlasherStub.Toml

/-- How a key or scalar is written. -/
inductive Quoting where
  | bare
  | literal
  | basic
  | multilineLiteral
  | multilineBasic
  deriving DecidableEq, Repr

/-- A key or scalar as written. -/
structure Piece where
  quoting : Quoting
  text : String
  deriving DecidableEq, Repr

/-- A value as written. -/
inductive Node where
  | scalar (p : Piece)
  | array (items : List Node)
  | inline (entries : List (List Piece × Node))
  deriving Repr

/-- A line of a document that means something. -/
inductive Line where
  | pair (keys : List Piece) (value : Node)
  | table (keys : List Piece)
  | arrayTable (keys : List Piece)
  deriving Repr

namespace Syntax

/-- The deepest nesting of arrays and inline tables. -/
def maxDepth : Nat := 80

/-- The piece that stands for a missing key or value. -/
def missing : Piece := ⟨.bare, ""⟩

/-- The quoting of a key-like token. -/
def quotingOf : TokenKind → Quoting
  | .literalString => .literal
  | .basicString => .basic
  | .multilineLiteralString => .multilineLiteral
  | .multilineBasicString => .multilineBasic
  | _ => .bare

/-- The piece a key-like token writes. -/
def pieceOf (t : Token) : Piece := ⟨quotingOf t.kind, String.ofList t.text⟩

/-- Drops blank tokens. -/
def skipBlanks (ts : List Token) : List Token := ts.dropWhile (fun t => t.kind == .blank)

/-- A comment may hold tabs and printable characters only. -/
def checkComment (t : Token) : Except Error Unit :=
  if t.text.all (fun c => c = '\t' || (' ' ≤ c && c ≤ '~') || c.toNat ≥ 0x80) then .ok ()
  else .error (.expecting "invalid comment character" [.description "printable characters"])

/-- A carriage return must be followed by a line feed. -/
def checkNewline (t : Token) : Except Error Unit :=
  if t.text = ['\r'] then
    .error (.expecting "carriage return must be followed by newline" [.literal "\n"])
  else .ok ()

/-- Atoms and dots that directly follow, and blank space with the atom after it, as one text. -/
def atomRun : List Token → List Char × List Token
  | t :: r =>
    if t.kind == .atom || t.kind == .dot then
      let (cs, rest) := atomRun r
      (t.text ++ cs, rest)
    else if t.kind == .blank then
      match r with
      | a :: r' =>
        if a.kind == .atom then
          let (cs, rest) := atomRun r'
          (t.text ++ a.text ++ cs, rest)
        else ([], t :: r)
      | [] => ([], [t])
    else ([], t :: r)
  | [] => ([], [])

/-- A scalar starting with token `t`: strings stand alone, while atoms and dots are joined with
the atoms and dots after them and with atoms after blank space. -/
def scalarOf (t : Token) (rest : List Token) : Piece × List Token :=
  if t.kind == .atom || t.kind == .dot then
    let (cs, r) := atomRun rest
    (⟨.bare, String.ofList (t.text ++ cs)⟩, r)
  else (pieceOf t, rest)


/-- Dotted parts after a first key: each dot is followed by a key, missing keys standing as
empty pieces. The flag tells whether the dotted key ended with a key. -/
def dottedRest : Nat → List Piece → List Token → List Piece × Bool × List Token
  | 0, keys, ts => (keys, true, ts)
  | fuel + 1, keys, ts =>
    match skipBlanks ts with
    | t :: r =>
      if t.kind == .dot then afterDot fuel keys r else (keys, true, t :: r)
    | [] => (keys, true, [])
where
  /-- After a dot: the next key. -/
  afterDot : Nat → List Piece → List Token → List Piece × Bool × List Token
    | 0, keys, ts => (keys, true, ts)
    | fuel + 1, keys, ts =>
      match ts with
      | [] => (keys ++ [missing], false, [])
      | t :: r =>
        if t.kind == .blank then afterDot fuel keys r
        else if t.kind == .dot then afterDot fuel (keys ++ [missing]) r
        else if t.kind.isKeyLike then dottedRest fuel (keys ++ [pieceOf t]) r
        else (keys ++ [missing], false, t :: r)

/-- The blanks, comment and line break that may end a line. -/
def lineEnd : List Token → Except Error (List Token)
  | [] => .ok []
  | t :: r =>
    if t.kind == .blank then lineEnd r
    else if t.kind == .comment then do
      checkComment t
      match r with
      | n :: r' => if n.kind == .newline then do checkNewline n; pure r' else pure r
      | [] => pure []
    else if t.kind == .newline then do checkNewline t; pure r
    else .error (.expecting "unexpected key or value" [.literal "\n", .literal "#"])

/-- Skips the rest of a line that is not read, its line break included; a comment on it is
still checked. -/
def skipLine : List Token → Except Error (List Token)
  | [] => .ok []
  | t :: r =>
    if t.kind == .newline then do checkNewline t; pure r
    else if t.kind == .comment then do checkComment t; skipLine r
    else skipLine r

/-- The states of an inline table between its braces. -/
inductive InlineState where
  | needsKey
  | needsEquals (keys : List Piece)
  | needsValue (keys : List Piece)
  | needsComma

/-- What an inline table would accept in a state. -/
def InlineState.expected : InlineState → List Expected
  | .needsKey => [.description "key"]
  | .needsEquals _ => [.literal "="]
  | .needsValue _ => [.description "value"]
  | .needsComma => [.literal ","]

/-- The error when the tokens run out before the document does. -/
def exhausted : Error := .plain "document too deeply nested"

/-- The error when an array or inline table opens too deep. -/
def tooDeep : Error := .plain "cannot recurse further; max recursion depth met"

/-- The value a member of an inline table gets when the table closes before it: an empty
quoted text without its quotes. -/
def unfinished : Piece := ⟨.literal, ""⟩

mutual

/-- A value, the blanks before it already skipped; `depth` counts the open arrays and inline
tables around it. -/
def value : Nat → Nat → List Token → Except Error (Node × List Token)
  | 0, _, _ => .error exhausted
  | fuel + 1, depth, ts =>
    match ts with
    | [] => .ok (.scalar missing, [])
    | t :: r =>
      match t.kind with
      | .equals => .error (.nothing "extra `=`")
      | .openBrace => inlineTable fuel (depth + 1) r
      | .closeBrace => .error (.expecting "missing inline table opening" [.literal "\x7b"])
      | .openBracket => array fuel (depth + 1) r
      | .closeBracket => .error (.expecting "missing array opening" [.literal "["])
      | .comment | .comma | .newline | .blank => .ok (.scalar missing, ts)
      | _ => let (p, r') := scalarOf t r; .ok (.scalar p, r')

/-- An array after its opening bracket. -/
def array : Nat → Nat → List Token → Except Error (Node × List Token)
  | 0, _, _ => .error exhausted
  | fuel + 1, depth, ts =>
    if depth > maxDepth then .error tooDeep else arrayItems fuel depth false [] ts

/-- The items of an array; `needsComma` after an item, `acc` the items so far in reverse. -/
def arrayItems :
    Nat → Nat → Bool → List Node → List Token → Except Error (Node × List Token)
  | 0, _, _, _, _ => .error exhausted
  | fuel + 1, depth, needsComma, acc, ts =>
    let missingComma : Error := .expecting "missing comma between array elements" [.literal ","]
    match ts with
    | [] => .error (.expecting "unclosed array" [.literal "]"])
    | t :: r =>
      match t.kind with
      | .comment => do
        checkComment t
        arrayItems fuel depth needsComma acc r
      | .blank => arrayItems fuel depth needsComma acc r
      | .newline => do
        checkNewline t
        arrayItems fuel depth needsComma acc r
      | .comma =>
        if needsComma then arrayItems fuel depth false acc r
        else .error (.expecting "extra comma in array" [.description "value"])
      | .equals =>
        .error (.expecting "unexpected `=` in array" [.description "value", .literal "]"])
      | .closeBracket => .ok (.array acc.reverse, r)
      | .closeBrace =>
        if needsComma then .error missingComma
        else .error (.expecting "missing inline table opening" [.literal "\x7b"])
      | .openBrace =>
        if needsComma then .error missingComma
        else do
          let (n, r') ← inlineTable fuel (depth + 1) r
          arrayItems fuel depth true (n :: acc) r'
      | .openBracket =>
        if needsComma then .error missingComma
        else do
          let (n, r') ← array fuel (depth + 1) r
          arrayItems fuel depth true (n :: acc) r'
      | _ =>
        if needsComma then .error missingComma
        else
          let (p, r') := scalarOf t r
          arrayItems fuel depth true (.scalar p :: acc) r'

/-- An inline table after its opening brace. -/
def inlineTable : Nat → Nat → List Token → Except Error (Node × List Token)
  | 0, _, _ => .error exhausted
  | fuel + 1, depth, ts =>
    if depth > maxDepth then .error tooDeep else inlineItems fuel depth .needsKey [] ts

/-- The members of an inline table; `acc` holds the members so far in reverse. -/
def inlineItems :
    Nat → Nat → InlineState → List (List Piece × Node) → List Token →
    Except Error (Node × List Token)
  | 0, _, _, _, _ => .error exhausted
  | fuel + 1, depth, state, acc, ts =>
    match ts with
    | [] => .error (.expecting "unclosed inline table" [.literal "\x7d"])
    | t :: r =>
      match t.kind with
      | .comment => do
        checkComment t
        inlineItems fuel depth state acc r
      | .blank => inlineItems fuel depth state acc r
      | .newline => do
        checkNewline t
        inlineItems fuel depth state acc r
      | .comma =>
        match state with
        | .needsComma => inlineItems fuel depth .needsKey acc r
        | s => .error (.expecting "extra comma in inline table" s.expected)
      | .equals =>
        match state with
        | .needsKey => inlineItems fuel depth (.needsValue [missing]) acc r
        | .needsEquals keys => inlineItems fuel depth (.needsValue keys) acc r
        | s => .error (.expecting "extra assignment between key-value pairs" s.expected)
      | .closeBrace =>
        match state with
        | .needsEquals keys | .needsValue keys =>
          .ok (.inline ((keys, .scalar unfinished) :: acc).reverse, r)
        | _ => .ok (.inline acc.reverse, r)
      | .openBrace =>
        match state with
        | .needsValue keys => do
          let (n, r') ← inlineTable fuel (depth + 1) r
          inlineItems fuel depth .needsComma ((keys, n) :: acc) r'
        | .needsEquals _ =>
          .error (.expecting "missing assignment between key-value pairs" [.literal "="])
        | s => .error (.expecting "missing key for inline table element" s.expected)
      | .openBracket =>
        match state with
        | .needsValue keys => do
          let (n, r') ← array fuel (depth + 1) r
          inlineItems fuel depth .needsComma ((keys, n) :: acc) r'
        | .needsEquals _ =>
          .error (.expecting "missing assignment between key-value pairs" [.literal "="])
        | s => .error (.expecting "missing key for inline table element" s.expected)
      | .closeBracket =>
        match state with
        | .needsValue _ => .error (.expecting "missing array opening" [.literal "["])
        | s => .error (.expecting "invalid inline table element" s.expected)
      | _ =>
        match state with
        | .needsKey => do
          let (keys, _, r') :=
            if t.kind == .dot then dottedRest.afterDot (r.length + 1) [missing] r
            else dottedRest (r.length + 1) [pieceOf t] r
          inlineItems fuel depth (.needsEquals keys) acc r'
        | .needsEquals _ =>
          .error (.expecting "missing assignment between key-value pairs" [.literal "="])
        | .needsValue keys =>
          let (p, r') := scalarOf t r
          inlineItems fuel depth .needsComma ((keys, .scalar p) :: acc) r'
        | .needsComma =>
          .error (.expecting "missing comma between key-value pairs" [.literal ","])

end

/-- The key of a table header, blanks before it skipped; the flag tells whether it ended with a
key. -/
def headerKey : List Piece → List Token → List Piece × Bool × List Token
  | keys, [] => (keys ++ [missing], false, [])
  | keys, t :: r =>
    if t.kind == .blank then headerKey keys r
    else if t.kind == .dot then headerKey (keys ++ [missing]) r
    else if t.kind.isKeyLike then dottedRest (r.length + 1) (keys ++ [pieceOf t]) r
    else (keys ++ [missing], false, t :: r)

/-- A table or array-of-tables header after its first bracket. -/
def header (ts : List Token) : Except Error (Line × List Token) := do
  let (isArray, ts) := match ts with
    | t :: r => if t.kind == TokenKind.openBracket then (true, r) else (false, t :: r)
    | [] => (false, [])
  let (keys, complete, ts) := headerKey [] (skipBlanks ts)
  let line := if isArray then Line.arrayTable keys else Line.table keys
  closing isArray complete line ts
where
  /-- The closing brackets of a header and the end of its line, after its key. -/
  closing (isArray complete : Bool) (line : Line) (ts : List Token) :
      Except Error (Line × List Token) :=
    match skipBlanks ts with
    | t :: r =>
      if t.kind == TokenKind.closeBracket then
        if isArray then
          match r with
          | t' :: r' =>
            if t'.kind == TokenKind.closeBracket then do let rest ← lineEnd r'; pure (line, rest)
            else .error (.expecting "unclosed array table" [.literal "]"])
          | [] => .error (.expecting "unclosed array table" [.literal "]"])
        else do let rest ← lineEnd r; pure (line, rest)
      else unclosed isArray complete line (t :: r)
    | [] => unclosed isArray complete line []
  /-- A header without its closing bracket is refused when its key was complete. -/
  unclosed (isArray complete : Bool) (line : Line) (ts : List Token) :
      Except Error (Line × List Token) :=
    if complete then
      if isArray then .error (.expecting "unclosed array table" [.literal "]]"])
      else .error (.expecting "unclosed table" [.literal "]"])
    else do let rest ← skipLine ts; pure (line, rest)

/-- A key-value line after its key: the `=`, the value and the end of the line. -/
def assignment (keys : List Piece) (ts : List Token) : Except Error (Line × List Token) := do
  let ts' := skipBlanks ts
  let (node, rest) ← value (3 * ts'.length + 3) 0 ts'
  let rest ← lineEnd rest
  pure (.pair keys node, rest)

/-- A key-value line from its keys on; `missingText` is the complaint when the `=` is missing,
which differs for a line that starts with a dot. -/
def keyLine (missingText : String) (keys : List Piece) (ts : List Token) :
    Except Error (Line × List Token) := do
  let (keys, _, r) := dottedRest (ts.length + 1) keys ts
  match skipBlanks r with
  | t :: r' =>
    if t.kind == .equals then assignment keys r'
    else .error (.expecting missingText [.literal "="])
  | [] => .error (.expecting missingText [.literal "="])

/-- The lines of a document, in order; `acc` holds those read so far in reverse. -/
def lines : Nat → List Line → List Token → Except Error (List Line)
  | 0, acc, _ => .ok acc.reverse
  | _, acc, [] => .ok acc.reverse
  | fuel + 1, acc, t :: r =>
    match t.kind with
    | .blank => lines fuel acc r
    | .newline => do checkNewline t; lines fuel acc r
    | .comment => do checkComment t; lines fuel acc r
    | .openBracket => do
      let (line, rest) ← header r
      lines fuel (line :: acc) rest
    | .closeBracket => .error (.expecting "missing table open" [.literal "["])
    | .equals => do
      let (line, rest) ← assignment [missing] r
      lines fuel (line :: acc) rest
    | .dot => do
      let (keys, _, r') := dottedRest.afterDot (r.length + 1) [missing] r
      let (line, rest) ← keyLine "missing value for key" keys r'
      lines fuel (line :: acc) rest
    | .comma | .openBrace | .closeBrace =>
      .error (.expecting "invalid key-value pair" [.description "key"])
    | _ => do
      let (line, rest) ← keyLine "key with no value" [pieceOf t] r
      lines fuel (line :: acc) rest

/-- The lines of a document, or its first syntax error. -/
def parse (ts : List Token) : Except Error (List Line) := lines (ts.length + 1) [] ts

end Syntax

end FlasherStub.Toml
