import FlasherStub.Cli.Terminal

/-!
Laying out help text on a terminal. Text is measured in characters, each counting one column,
except that an escape sequence takes no room: from an ASCII control character up to and including
the next letter m, which is how a terminal colour sequence ends. A paragraph is wrapped line by
line: a line is cut into words, each keeping the spaces after it, and a word that would pass the
right margin starts a new line, indented like the first word of its paragraph when that word is
blank. A word is moved to a new line when the current line holds a word that is not blank, even
one that takes no room, or when the line is already wider than the margin; a line holding only
an indent that fits keeps the word however long it is. Only what a terminal shows is laid out:
escape sequences and controls stay where they are and the line goes on across them.
-/

namespace FlasherStub.Cli.Layout

/-- The columns taken by characters after the first ones, `inSequence` telling whether an escape
sequence is still open: a control character opens one and the letter m closes it. -/
def widthFrom : List Char → Bool → Nat
  | [], _ => 0
  | c :: cs, inSequence =>
    if c.toNat < 32 || c.toNat == 127 then widthFrom cs true
    else if inSequence then widthFrom cs (c != 'm')
    else widthFrom cs false + 1

/-- The display width of a text: its characters, each one column, with escape sequences left out.
-/
def width (s : String) : Nat := widthFrom s.toList false

/-- Whether a character is white space in the Unicode sense. -/
def isSpace (c : Char) : Bool :=
  c == ' ' || ('\t' ≤ c && c ≤ '\r') || c == '\x85' || c == '\xA0' || c == '\u1680' ||
    ('\u2000' ≤ c && c ≤ '\u200A') || c == '\u2028' || c == '\u2029' || c == '\u202F' ||
    c == '\u205F' || c == '\u3000'

/-- A text without the white space at its end. -/
def trimEnd (s : String) : String :=
  String.ofList (s.toList.reverse.dropWhile isSpace).reverse

/-- A text without white space at either end. -/
def trim (s : String) : String :=
  String.ofList ((trimEnd s).toList.dropWhile isSpace)

/-- The words of a line, `cur` holding the current word reversed and `inSpace` whether it has
reached its trailing spaces. -/
def wordsFrom : List Char → List Char → Bool → List String
  | [], cur, _ => if cur.isEmpty then [] else [String.ofList cur.reverse]
  | c :: cs, cur, inSpace =>
    let space := c == ' '
    if inSpace && !space then String.ofList cur.reverse :: wordsFrom cs [c] space
    else wordsFrom cs (c :: cur) space

/-- The words of a line: runs of other characters with the spaces after them. Leading spaces
form a word of their own. -/
def words (line : String) : List String := wordsFrom line.toList [] false

/-- Whether a word is blank: nothing but white space. -/
def isBlank (w : String) : Bool := (trim w).isEmpty

/-- Places the words of one line within `hard` columns. `carry` indents the lines a cut starts,
`used` is the width already taken on the current line, `filled` tells whether that line holds a
word that is not blank, and `acc` the pieces laid out so far, in reverse. Gives the width taken
on the last line, whether it holds a word that is not blank, and the pieces. A word that would
pass the margin is moved to a new line when the line holds such a word, or when the line is
already wider than the margin without it; a line holding only an indent that fits is kept. The
spaces after a word count by their bytes, as does the indent of a new line. -/
def placeWords (hard : Nat) (carry : String) :
    Nat → Bool → List String → List String → Nat × Bool × List String
  | used, filled, acc, [] => (used, filled, acc.reverse)
  | used, filled, acc, w :: ws =>
    let t := trimEnd w
    let tail := w.utf8ByteSize - t.utf8ByteSize
    if hard < used + width t && (filled || hard < used) then
      let acc := match acc with
        | p :: ps => trimEnd p :: ps
        | [] => []
      placeWords hard carry (carry.utf8ByteSize + width t + tail) (!isBlank w)
        (w :: carry :: "\n" :: acc) ws
    else placeWords hard carry (used + width t + tail) (filled || !isBlank w) (w :: acc) ws

/-- What the line filler keeps from one stretch of shown text to the next: the width taken on
the current line, whether that line holds a word that is not blank, and the indent of the lines
a cut starts, fixed by the first word of a paragraph. -/
structure Filler where
  used : Nat := 0
  filled : Bool := false
  carry : Option String := none
  deriving DecidableEq, Repr

/-- Lays out the words of one line; the first word of a paragraph that is only spaces becomes
the indent of its later lines. -/
def Filler.fill (hard : Nat) (f : Filler) : List String → Filler × String
  | [] => (f, "")
  | w :: ws =>
    let carry := f.carry.getD (if isBlank w then w else "")
    let (used, filled, pieces) := placeWords hard carry f.used f.filled [] (w :: ws)
    ({ used, filled, carry := some carry }, String.join pieces)

/-- The lines of a text, each with its line break. -/
def linesOf (s : String) : List String :=
  match s.splitOn "\n" with
  | [] => []
  | parts =>
    let n := parts.length
    (parts.zipIdx.filterMap fun (p, i) =>
      if i + 1 < n then some (p ++ "\n") else if p.isEmpty then none else some p)

/-- Lays out a stretch of shown text line by line; every line after its first starts a new
paragraph, while the first goes on with the line left by the stretches before. -/
def Filler.fillStretch (hard : Nat) (f : Filler) (s : String) : Filler × String :=
  match linesOf s with
  | [] => (f, "")
  | l :: ls =>
    ls.foldl (fun (_, out) l =>
      let (f, more) := Filler.fill hard {} (words l)
      (f, out ++ more)) (f.fill hard (words l))

/-- Wraps a text at `hard` columns and drops the white space at its end. Only the shown
stretches are laid out; escape sequences and controls between them are kept as they are, and
the line goes on across them. -/
def wrap (hard : Nat) (s : String) : String :=
  let step := fun ((f, out) : Filler × String) ((shown, t) : Bool × String) =>
    if shown then
      let (f, more) := f.fillStretch hard t
      (f, out ++ more)
    else (f, out ++ t)
  trimEnd ((Terminal.stretches s).foldl step ({}, "")).2

/-- Indents every line of a text after the first. -/
def indent (trailing : String) (s : String) : String :=
  ("\n" ++ trailing).intercalate (s.splitOn "\n")

/-- A run of spaces. -/
def spaces (n : Nat) : String := String.ofList (List.replicate n ' ')

end FlasherStub.Cli.Layout
