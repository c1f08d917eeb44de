/-!
Base64 with the standard alphabet and canonical padding. Decoding works on the bytes of the
text and refuses, with the offset of the culprit, any byte outside the alphabet, a pad byte that
is not part of the final padding, a final group of one symbol, padding that does not complete
the last group of four, and a last symbol whose unused low bits are not zero. So a text decodes
exactly when it is the encoding of its result.
-/

namespace FlasherStub.Base64

/-- Why a text is not canonical base64. Offsets count bytes from the start of the text. -/
inductive DecodeError where
  | invalidByte (offset : Nat) (byte : UInt8)
  | invalidLength (len : Nat)
  | invalidLastSymbol (offset : Nat) (byte : UInt8)
  | invalidPadding
  deriving DecidableEq, Repr

/-- The one-line description of a decoding error. -/
def DecodeError.message : DecodeError → String
  | .invalidByte i b => "Invalid symbol " ++ toString b.toNat ++ ", offset " ++ toString i ++ "."
  | .invalidLength n => "Invalid input length: " ++ toString n
  | .invalidLastSymbol i b =>
    "Invalid last symbol " ++ toString b.toNat ++ ", offset " ++ toString i ++ "."
  | .invalidPadding => "Invalid padding"

/-- The pad byte `=`. -/
def pad : UInt8 := 61

/-- The six-bit value of a symbol of the standard alphabet. -/
def symbolValue? (b : UInt8) : Option Nat :=
  let n := b.toNat
  if 65 ≤ n ∧ n ≤ 90 then some (n - 65)
  else if 97 ≤ n ∧ n ≤ 122 then some (n - 71)
  else if 48 ≤ n ∧ n ≤ 57 then some (n + 4)
  else if n = 43 then some 62
  else if n = 47 then some 63
  else none

/-- The symbol of a six-bit value. -/
def symbol (v : Nat) : UInt8 :=
  if v < 26 then UInt8.ofNat (65 + v)
  else if v < 52 then UInt8.ofNat (71 + v)
  else if v < 62 then UInt8.ofNat (v - 4)
  else if v = 62 then 43
  else 47

/-- The bytes carried by a group of symbol values: the top `8 * (n * 6 / 8)` bits of their
concatenation. -/
def groupBytes (vs : List Nat) : List UInt8 :=
  let bits := vs.foldl (fun acc v => acc * 64 + v) 0
  let count := vs.length * 6 / 8
  let top := bits / Nat.pow 2 (vs.length * 6 - count * 8)
  (List.range count).map fun k => UInt8.ofNat (top / Nat.pow 2 (8 * (count - 1 - k)) % 256)

/-- The low bits of a group's concatenation that carry no byte. -/
def trailingBits (vs : List Nat) : Nat :=
  let bits := vs.foldl (fun acc v => acc * 64 + v) 0
  bits % Nat.pow 2 (vs.length * 6 - vs.length * 6 / 8 * 8)

/-- Decodes whole groups of four symbols; `start` is the offset of the first one. The first
byte outside the alphabet, a pad byte included, is refused. -/
def decodeQuads (start : Nat) : List UInt8 → Except DecodeError (List UInt8)
  | a :: b :: c :: d :: rest => do
    let va ← (symbolValue? a).elim (.error (.invalidByte start a)) .ok
    let vb ← (symbolValue? b).elim (.error (.invalidByte (start + 1) b)) .ok
    let vc ← (symbolValue? c).elim (.error (.invalidByte (start + 2) c)) .ok
    let vd ← (symbolValue? d).elim (.error (.invalidByte (start + 3) d)) .ok
    let tail ← decodeQuads (start + 4) rest
    pure (groupBytes [va, vb, vc, vd] ++ tail)
  | _ => .ok []

/-- What the scan of the final group found: its symbol values, its pad count and its last
symbol. -/
structure Tail where
  values : List Nat
  pads : Nat
  firstPad : Nat
  last : UInt8

/-- Scans the final group (at most four bytes) whose first byte is at offset `start`; `i` is the
position within the group. Padding may only follow two symbols and nothing may follow padding. -/
def scanTail (start : Nat) : Nat → List UInt8 → Tail → Except DecodeError Tail
  | _, [], t => .ok t
  | i, b :: r, t =>
    if b = pad then
      if i < 2 then .error (.invalidByte (start + i) b)
      else scanTail start (i + 1) r
        { t with pads := t.pads + 1, firstPad := if t.pads = 0 then i else t.firstPad }
    else if 0 < t.pads then .error (.invalidByte (start + t.firstPad) pad)
    else match symbolValue? b with
      | none => .error (.invalidByte (start + i) b)
      | some v => scanTail start (i + 1) r { t with values := t.values ++ [v], last := b }

/-- Decodes canonical padded base64. -/
def decode (input : List UInt8) : Except DecodeError (List UInt8) := do
  let len := input.length
  let rem := len % 4
  if rem = 1 then
    match input.getLast? with
    | some b => if b ≠ pad ∧ symbolValue? b = none then throw (.invalidByte (len - 1) b)
    | none => pure ()
  let bodyLen := len - rem - (if rem = 0 then 4 else 0)
  let body ← decodeQuads 0 (input.take bodyLen)
  let t ← scanTail bodyLen 0 (input.drop bodyLen) ⟨[], 0, 0, 0⟩
  if input ≠ [] ∧ t.values.length < 2 then throw (.invalidLength (bodyLen + t.values.length))
  if (t.pads + t.values.length) % 4 ≠ 0 then throw .invalidPadding
  if trailingBits t.values ≠ 0 then
    throw (.invalidLastSymbol (bodyLen + t.values.length - 1) t.last)
  pure (body ++ groupBytes t.values)

/-- Encodes bytes as padded base64 with the standard alphabet. -/
def encode : List UInt8 → List UInt8
  | a :: b :: c :: rest =>
    let n := a.toNat * 65536 + b.toNat * 256 + c.toNat
    symbol (n / 262144) :: symbol (n / 4096 % 64) :: symbol (n / 64 % 64) :: symbol (n % 64) ::
      encode rest
  | [a, b] =>
    let n := a.toNat * 65536 + b.toNat * 256
    [symbol (n / 262144), symbol (n / 4096 % 64), symbol (n / 64 % 64), pad]
  | [a] =>
    let n := a.toNat * 65536
    [symbol (n / 262144), symbol (n / 4096 % 64), pad, pad]
  | [] => []

end FlasherStub.Base64
