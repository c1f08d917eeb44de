import FlasherStub.Number.Binary64

/-!
The shortest decimal form of a binary64 number: the fewest significant digits whose value reads
back as the same number, and of those the one nearest to it. A number reads back from every
point of its rounding interval, the half-way points to its two neighbours, which belong to the
interval exactly when its significand is even. For `n = 1, 2, ...` digits the two points of the
`n`-digit grid around the value are tested in exact natural arithmetic; the first grid with a
hit wins. When both points of that grid read back and the value lies half-way between them, the
upper one is taken. Two texts are built from the digits: `positional`, which never uses an exponent, and
`compact`, which switches to an exponent outside `1e-5 .. 1e16`.
-/

namespace FlasherStub.Shortest

/-- Compares `a * 10 ^ k` with `b * 2 ^ e` in exact arithmetic. -/
def cmpScaled (a : Nat) (k : Int) (b : Nat) (e : Int) : Ordering :=
  compare (a * Nat.pow 10 k.toNat * Nat.pow 2 (-e).toNat)
    (b * Nat.pow 2 e.toNat * Nat.pow 10 (-k).toNat)

/-- The largest `k` with `10 ^ k ≤ m * 2 ^ e`, for `m > 0`. -/
def floorLog10 (m : Nat) (e : Int) : Int :=
  let guess : Int := ((Nat.log2 m : Int) + e) * 30103 / 100000
  let up (k : Int) : Int := if cmpScaled 1 (k + 1) m e != .gt then k + 1 else k
  let down (k : Int) : Int := if cmpScaled 1 k m e == .gt then k - 1 else k
  down (down (up (up guess)))

/-- The decimal digits and exponent of the shortest form of a positive finite value
`m * 2 ^ e`, whose rounding interval reaches `low / 4 * 2 ^ e` below and `(4 m + 2) / 4 * 2 ^ e`
above. The result `(c, k)` stands for `c * 10 ^ k`. -/
def search (m : Nat) (e : Int) (low : Nat) (inclusive : Bool) : Nat → Nat → Nat × Int
  | 0, _ => (m, 0)
  | fuel + 1, n =>
    let k := floorLog10 m e - (n : Int) + 1
    -- the value is `m * 2 ^ e = num / den`, and `lo = ⌊num / den / 10 ^ k⌋`
    let num := m * Nat.pow 2 e.toNat * Nat.pow 10 (-k).toNat
    let den := Nat.pow 2 (-e).toNat * Nat.pow 10 k.toNat
    let lo := num / den
    let hi := lo + 1
    let inside (o : Ordering) : Bool := o == .lt || (inclusive && o == .eq)
    let loIn := inside (cmpScaled lo k low (e - 2)).swap
    let hiIn := inside (cmpScaled hi k (4 * m + 2) (e - 2))
    if loIn && hiIn then
      match compare (2 * num) ((2 * lo + 1) * den) with
      | .lt => (lo, k)
      | .gt => (hi, k)
      | .eq => (hi, k)
    else if loIn then (lo, k)
    else if hiIn then (hi, k)
    else search m e low inclusive fuel (n + 1)

/-- Drops the trailing zeros of `c * 10 ^ k`. -/
def trim (c : Nat) (k : Int) : Nat × Int :=
  if h : c ≠ 0 ∧ c % 10 = 0 then trim (c / 10) (k + 1) else (c, k)
termination_by c
decreasing_by omega

/-- The shortest digits of a finite nonzero number, sign ignored: `(c, k)` stands for
`c * 10 ^ k`, with `c` not a multiple of ten. -/
def digits (x : Binary64) : Nat × Int :=
  let m := x.significand
  let e := x.exponent
  let low := if x.fraction = 0 ∧ x.biased > 1 then 4 * m - 1 else 4 * m - 2
  let (c, k) := search m e low (m % 2 = 0) 20 1
  trim c k

/-- A run of `n` zeros. -/
def zeros (n : Nat) : String := String.ofList (List.replicate n '0')

/-- The digits `c * 10 ^ k` written out without an exponent. -/
def plain (c : Nat) (k : Int) : String :=
  let s := toString c
  if k ≥ 0 then s ++ zeros k.toNat
  else
    let point := (s.length : Int) + k
    if point > 0 then
      String.ofList (s.toList.take point.toNat) ++ "." ++ String.ofList (s.toList.drop point.toNat)
    else "0." ++ zeros (-point).toNat ++ s

/-- Positional text with at least one fractional digit: `1000.0`, `1.5`, `0.001`, `NaN`,
`inf`. -/
def positional (x : Binary64) : String :=
  if x.isNaN then "NaN"
  else
    let sign := if x.negative then "-" else ""
    if x.isSpecial then sign ++ "inf"
    else if x.isZero then sign ++ "0.0"
    else
      let (c, k) := digits x
      let s := plain c k
      sign ++ (if s.contains '.' then s else s ++ ".0")

/-- Text that is positional for values from `1e-5` below `1e16` and otherwise carries a decimal
exponent, signed either way: `100000.0`, `1.5`, `1e+16`, `1.25e-7`. -/
def compact (x : Binary64) : String :=
  if x.isNaN then "NaN"
  else
    let sign := if x.negative then "-" else ""
    if x.isSpecial then sign ++ "inf"
    else if x.isZero then sign ++ "0.0"
    else
      let (c, k) := digits x
      let s := toString c
      let len : Int := s.length
      let point := len + k
      let body :=
        if 0 ≤ k ∧ point ≤ 16 then s ++ zeros k.toNat ++ ".0"
        else if 0 < point ∧ point ≤ 16 then plain c k
        else if -5 < point ∧ point ≤ 0 then plain c k
        else
          let exp := if point - 1 < 0 then toString (point - 1) else "+" ++ toString (point - 1)
          match s.toList with
          | [d] => String.ofList [d] ++ "e" ++ exp
          | d :: rest => String.ofList [d] ++ "." ++ String.ofList rest ++ "e" ++ exp
          | [] => s
      sign ++ body

end FlasherStub.Shortest
