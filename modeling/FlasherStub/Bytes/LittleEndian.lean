/-!
Little-endian byte encodings of naturals of a fixed width. `toBytes w n` is exactly `w` bytes,
least significant first, and `ofBytes` reads them back: `ofBytes (toBytes w n) = n` for every
`n < 256 ^ w`.
-/

namespace FlasherStub.LittleEndian

/-- The `w` little-endian bytes of `n`; bits above `8 * w` are dropped. -/
def toBytes : Nat → Nat → List UInt8
  | 0, _ => []
  | w + 1, n => UInt8.ofNat (n % 256) :: toBytes w (n / 256)

/-- The natural with the given little-endian bytes. -/
def ofBytes : List UInt8 → Nat
  | [] => 0
  | b :: bs => b.toNat + 256 * ofBytes bs

/-- The four little-endian bytes of a 32-bit word. -/
def word (x : UInt32) : List UInt8 := toBytes 4 x.toNat

@[simp] theorem toBytes_zero (n : Nat) : toBytes 0 n = [] := rfl

@[simp] theorem toBytes_succ (w n : Nat) :
    toBytes (w + 1) n = UInt8.ofNat (n % 256) :: toBytes w (n / 256) := rfl

@[simp] theorem ofBytes_nil : ofBytes [] = 0 := rfl

@[simp] theorem ofBytes_cons (b : UInt8) (bs : List UInt8) :
    ofBytes (b :: bs) = b.toNat + 256 * ofBytes bs := rfl

@[simp] theorem length_toBytes (w n : Nat) : (toBytes w n).length = w := by
  induction w generalizing n with
  | zero => rfl
  | succ w ih => simp [ih]

@[simp] theorem length_word (x : UInt32) : (word x).length = 4 := by
  simp [word]

end FlasherStub.LittleEndian
