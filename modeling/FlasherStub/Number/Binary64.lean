/-!
Binary64 numbers computed exactly. A value is its sign, its biased exponent and its fraction, as
in the interchange format; `roundRatio` gives the binary64 number nearest to a non-negative
ratio of naturals, a tie going to the even significand and a magnitude at or beyond `2 ^ 1024`
becoming infinity. Products and quotients of two numbers are the exact results rounded once,
which is what the format's arithmetic does. No runtime floating-point operation is involved.
-/

namespace FlasherStub

/-- A binary64 number by its fields: `biased = 2047` is an infinity or a NaN. -/
structure Binary64 where
  negative : Bool
  biased : Nat
  fraction : Nat
  deriving DecidableEq, Repr

namespace Binary64

/-- The number of fraction bits. -/
def fractionBits : Nat := 52

/-- The smallest normal significand, `2 ^ 52`. -/
def hidden : Nat := Nat.pow 2 52

/-- Positive zero. -/
def zero : Binary64 := ⟨false, 0, 0⟩

/-- Positive infinity. -/
def infinity : Binary64 := ⟨false, 2047, 0⟩

/-- A quiet NaN. -/
def nan : Binary64 := ⟨false, 2047, hidden / 2⟩

/-- Whether the number is an infinity or a NaN. -/
def isSpecial (x : Binary64) : Bool := x.biased = 2047

/-- Whether the number is a NaN. -/
def isNaN (x : Binary64) : Bool := x.biased = 2047 ∧ x.fraction ≠ 0

/-- Whether the number is zero of either sign. -/
def isZero (x : Binary64) : Bool := x.biased = 0 ∧ x.fraction = 0

/-- The significand of a finite number: its value is `significand * 2 ^ exponent`. -/
def significand (x : Binary64) : Nat :=
  if x.biased = 0 then x.fraction else hidden + x.fraction

/-- The exponent of the last significand bit of a finite number. -/
def exponent (x : Binary64) : Int :=
  if x.biased = 0 then -1074 else (x.biased : Int) - 1075

/-- The number with the other sign. -/
def neg (x : Binary64) : Binary64 := { x with negative := !x.negative }

/-- The quotient `⌊num * 2 ^ (-e) / den⌋`, and how twice the remainder compares with the
divisor. -/
def divPow2 (num den : Nat) (e : Int) : Nat × Ordering :=
  let n := num * Nat.pow 2 (-e).toNat
  let d := den * Nat.pow 2 e.toNat
  (n / d, compare (2 * (n % d)) d)

/-- The quotient rounded to nearest, a tie going to the even result. -/
def roundHalfEven (q : Nat) (o : Ordering) : Nat :=
  match o with
  | .gt => q + 1
  | .eq => if q % 2 = 1 then q + 1 else q
  | .lt => q

/-- The exponent `e` for which `num / den / 2 ^ e` lies in `[2 ^ 52, 2 ^ 53)`, before the
subnormal range is taken into account. -/
def normalExponent (num den : Nat) : Int :=
  let guess : Int := (Nat.log2 num : Int) - (Nat.log2 den : Int) - 52
  if (divPow2 num den guess).1 < hidden then guess - 1 else guess

/-- The binary64 number nearest to `num / den`, with the given sign. -/
def roundRatio (negative : Bool) (num den : Nat) : Binary64 :=
  if num = 0 ∨ den = 0 then ⟨negative, 0, 0⟩
  else
    let e := max (normalExponent num den) (-1074)
    let (q, o) := divPow2 num den e
    let m := roundHalfEven q o
    let (m, e) := if m = 2 * hidden then (hidden, e + 1) else (m, e)
    if e + 52 > 1023 then ⟨negative, 2047, 0⟩
    else if m < hidden then ⟨negative, 0, m⟩
    else ⟨negative, (e + 1075).toNat, m - hidden⟩

/-- The number nearest to `digits * 10 ^ exp10`. -/
def ofDecimal (negative : Bool) (digits : Nat) (exp10 : Int) : Binary64 :=
  if exp10 ≥ 0 then roundRatio negative (digits * Nat.pow 10 exp10.toNat) 1
  else roundRatio negative digits (Nat.pow 10 (-exp10).toNat)

/-- The number nearest to a natural. -/
def ofNat (n : Nat) : Binary64 := roundRatio false n 1

/-- The exact value of a finite number as a signed ratio `(negative, num, den)`. -/
def ratio (x : Binary64) : Bool × Nat × Nat :=
  let e := x.exponent
  (x.negative, x.significand * Nat.pow 2 e.toNat, Nat.pow 2 (-e).toNat)

/-- The rounded product of two finite numbers. -/
def mul (x y : Binary64) : Binary64 :=
  if x.isSpecial ∨ y.isSpecial then nan
  else
    let (sx, nx, dx) := x.ratio
    let (sy, ny, dy) := y.ratio
    roundRatio (sx != sy) (nx * ny) (dx * dy)

/-- The rounded quotient of two finite numbers, the divisor not zero. -/
def div (x y : Binary64) : Binary64 :=
  if x.isSpecial ∨ y.isSpecial ∨ y.isZero then nan
  else
    let (sx, nx, dx) := x.ratio
    let (sy, ny, dy) := y.ratio
    roundRatio (sx != sy) (nx * dy) (dx * ny)

end Binary64

end FlasherStub
