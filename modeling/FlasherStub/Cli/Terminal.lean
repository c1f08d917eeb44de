/-!
Escape sequences on a terminal. Help text is written with escape sequences for bold and
underlined words, and a value it quotes may carry sequences and control characters of its own.
When the output does not go to a terminal these are left out, and what is left out is decided by
the state machine DEC-compatible terminals read their input with: a character is kept when, in
the state reached so far, it is shown rather than taken as a control or as part of a sequence.
Kept are the printable characters, every character beyond ASCII met in plain text, and tab, line
feed, form feed and carriage return, even in the middle of a sequence they cut short; DEL and
every other control are dropped. A kept character brings the reading back to plain text.

Characters beyond ASCII are read byte by byte inside a sequence: only the byte `0x9c`, the string
terminator, ends the device-control and privacy strings they may stand in.
-/

namespace FlasherStub.Cli.Terminal

/-- Where the reading of a text stands. -/
inductive Mode where
  /-- Plain text. -/
  | ground
  /-- Just after an escape character. -/
  | escape
  /-- Among the intermediate characters of an escape sequence. -/
  | escapeIntermediate
  /-- Just after the introducer of a control sequence. -/
  | csiEntry
  /-- Among the parameters of a control sequence. -/
  | csiParam
  /-- Among the intermediate characters of a control sequence. -/
  | csiIntermediate
  /-- In a malformed control sequence, up to its final character. -/
  | csiIgnore
  /-- Just after the introducer of a device control string. -/
  | dcsEntry
  /-- Among the parameters of a device control string. -/
  | dcsParam
  /-- Among the intermediate characters of a device control string. -/
  | dcsIntermediate
  /-- In the data of a device control string. -/
  | dcsPassthrough
  /-- In a malformed device control string. -/
  | dcsIgnore
  /-- In an operating system command, which a bell or an escape ends. -/
  | oscString
  /-- In a start-of-string, privacy message or application program command. -/
  | sosPmApcString
  deriving DecidableEq, Repr

/-- What an ASCII character does, besides moving the reading on. -/
inductive Effect where
  /-- It is shown. -/
  | print
  /-- It is a control carried out on the spot. -/
  | execute
  /-- It is taken into a sequence or dropped. -/
  | swallow
  deriving DecidableEq, Repr

/-- The controls that are carried out in plain text and in escape and control sequences: all of
C0 except cancel, substitute and escape, which act the same in every state. -/
def isPlainControl (b : Nat) : Bool := b ≤ 0x17 || b == 0x19 || (0x1c ≤ b && b ≤ 0x1f)

/-- Whether `lo ≤ b ≤ hi`. -/
def within (b lo hi : Nat) : Bool := lo ≤ b && b ≤ hi

/-- Reads the ASCII character with code `b` in a state: the state it moves to, when it moves, and
what the character does. Cancel and substitute end any sequence and escape starts one, in every
state. -/
def react (m : Mode) (b : Nat) : Option Mode × Effect :=
  if b == 0x18 || b == 0x1a then (some .ground, .execute)
  else if b == 0x1b then (some .escape, .swallow)
  else match m with
    | .ground => (none, if isPlainControl b then .execute else .print)
    | .escape =>
      if isPlainControl b then (none, .execute)
      else if b == 0x7f then (none, .swallow)
      else if within b 0x20 0x2f then (some .escapeIntermediate, .swallow)
      else if b == 0x5b then (some .csiEntry, .swallow)
      else if b == 0x5d then (some .oscString, .swallow)
      else if b == 0x50 then (some .dcsEntry, .swallow)
      else if b == 0x58 || b == 0x5e || b == 0x5f then (some .sosPmApcString, .swallow)
      else (some .ground, .swallow)
    | .escapeIntermediate =>
      if isPlainControl b then (none, .execute)
      else if within b 0x30 0x7e then (some .ground, .swallow)
      else (none, .swallow)
    | .csiEntry =>
      if isPlainControl b then (none, .execute)
      else if b == 0x7f then (none, .swallow)
      else if within b 0x20 0x2f then (some .csiIntermediate, .swallow)
      else if within b 0x30 0x3f then (some .csiParam, .swallow)
      else (some .ground, .swallow)
    | .csiParam =>
      if isPlainControl b then (none, .execute)
      else if within b 0x30 0x3b || b == 0x7f then (none, .swallow)
      else if within b 0x3c 0x3f then (some .csiIgnore, .swallow)
      else if within b 0x20 0x2f then (some .csiIntermediate, .swallow)
      else (some .ground, .swallow)
    | .csiIntermediate =>
      if isPlainControl b then (none, .execute)
      else if within b 0x20 0x2f || b == 0x7f then (none, .swallow)
      else if within b 0x30 0x3f then (some .csiIgnore, .swallow)
      else (some .ground, .swallow)
    | .csiIgnore =>
      if isPlainControl b then (none, .execute)
      else if within b 0x40 0x7e then (some .ground, .swallow)
      else (none, .swallow)
    | .dcsEntry =>
      if isPlainControl b || b == 0x7f then (none, .swallow)
      else if within b 0x20 0x2f then (some .dcsIntermediate, .swallow)
      else if within b 0x30 0x3f then (some .dcsParam, .swallow)
      else (some .dcsPassthrough, .swallow)
    | .dcsParam =>
      if isPlainControl b || within b 0x30 0x3b || b == 0x7f then (none, .swallow)
      else if within b 0x3c 0x3f then (some .dcsIgnore, .swallow)
      else if within b 0x20 0x2f then (some .dcsIntermediate, .swallow)
      else (some .dcsPassthrough, .swallow)
    | .dcsIntermediate =>
      if isPlainControl b || within b 0x20 0x2f || b == 0x7f then (none, .swallow)
      else if within b 0x30 0x3f then (some .dcsIgnore, .swallow)
      else (some .dcsPassthrough, .swallow)
    | .dcsPassthrough => (none, .swallow)
    | .dcsIgnore => (none, .swallow)
    | .oscString => (if b == 0x07 then some .ground else none, .swallow)
    | .sosPmApcString => (none, .swallow)

/-- Whether a state is a string that the byte `0x9c` ends. -/
def Mode.endsAtTerminator : Mode → Bool
  | .dcsPassthrough | .dcsIgnore | .sosPmApcString => true
  | _ => false

/-- Reads one character in a state: the state after it and whether the character is shown. -/
def step (m : Mode) (c : Char) : Mode × Bool :=
  let b := c.toNat
  if b < 0x80 then
    let (next, effect) := react m b
    let shown := match effect with
      | .print => b != 0x7f
      | .execute => b == 0x09 || b == 0x0a || b == 0x0c || b == 0x0d
      | .swallow => false
    if shown then (.ground, true) else (next.getD m, false)
  else if m == .ground then (.ground, true)
  else if m.endsAtTerminator && ((String.utf8EncodeChar c).drop 1).contains 0x9c then
    (.ground, false)
  else (m, false)

/-- Marks each character of a text, read from a state, with whether it is shown. -/
def marks : Mode → List Char → List (Char × Bool)
  | _, [] => []
  | m, c :: cs =>
    let (next, shown) := step m c
    (c, shown) :: marks next cs

/-- The characters of a text that are shown. -/
def strip (s : String) : String :=
  String.ofList (((marks .ground s.toList).filter (·.2)).map (·.1))

/-- Groups marked characters into maximal runs that are all shown or all hidden. -/
def runs : List (Char × Bool) → List (Bool × List Char)
  | [] => []
  | (c, b) :: rest =>
    match runs rest with
    | (b', cs) :: more => if b == b' then (b, c :: cs) :: more else (b, [c]) :: (b', cs) :: more
    | [] => [(b, [c])]

/-- A text cut into maximal stretches of shown and of hidden characters, each marked with
whether it is shown. -/
def stretches (s : String) : List (Bool × String) :=
  (runs (marks .ground s.toList)).map fun (b, cs) => (b, String.ofList cs)

/-- A word in bold. -/
def bold (s : String) : String := "\x1b[1m" ++ s ++ "\x1b[0m"

/-- A heading: bold and underlined. -/
def heading (s : String) : String := "\x1b[1m\x1b[4m" ++ s ++ "\x1b[0m"

end FlasherStub.Cli.Terminal
