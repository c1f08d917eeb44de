import FlasherStub.Toml.Scalar
import FlasherStub.Proofs.Except
import Mathlib

/-!
Integer literals of TOML documents and the integers they write.

`IntegerLiteral cs n` is the grammar of the TOML specification: a decimal literal with an
optional sign and no leading zero, or an unsigned hexadecimal, octal or binary one after its
lowercase prefix, single underscores standing only between two digits; `n` is the number its
digits write. The main statement, `decode_eq_integer`, says that a piece decodes to an integer
only when it is an unquoted integer literal of exactly that integer: no float, exponent or date
is ever read as an integer, and no digit is lost on the way.
-/

namespace FlasherStub.Toml

open Scalar

/-! ## The grammar -/

/-- A digit of the radix `base`. -/
def IsDigitOf (base : ℕ) (c : Char) : Prop := ∃ v, hexValue c = some v ∧ v < base

/-- Digits of a radix with single underscores between them. -/
inductive Grouped (base : ℕ) : List Char → Prop
  | last {c : Char} : IsDigitOf base c → Grouped base [c]
  | cons {c : Char} {cs : List Char} : IsDigitOf base c → Grouped base cs → Grouped base (c :: cs)
  | sep {c : Char} {cs : List Char} : IsDigitOf base c → Grouped base cs →
      Grouped base (c :: '_' :: cs)

/-- The number that digits of a radix write, the most significant first; underscores do not
count. -/
def digitsOf (base : ℕ) (cs : List Char) : ℕ :=
  Nat.ofDigits base ((cs.filter (· ≠ '_')).reverse.map fun c => (hexValue c).getD 0)

/-- The sign in front of a decimal literal: none, `+` or `-`. -/
def Sign (sign : List Char) : Prop := sign = [] ∨ sign = ['+'] ∨ sign = ['-']

/-- A magnitude with a sign in front of it. -/
def signed (sign : List Char) (v : ℕ) : Int := if sign = ['-'] then -(v : Int) else v

/-- A decimal integer literal: an optional sign, then digits with no leading zero. -/
def DecimalLiteral (cs : List Char) (n : Int) : Prop :=
  ∃ sign ds, cs = sign ++ ds ∧ Sign sign ∧ Grouped 10 ds ∧ (ds.head? = some '0' → ds = ['0']) ∧
    n = signed sign (digitsOf 10 ds)

/-- The lowercase letter after `0` that names the hexadecimal, octal or binary radix. -/
def RadixLetter (p : Char) (base : ℕ) : Prop :=
  p = 'x' ∧ base = 16 ∨ p = 'o' ∧ base = 8 ∨ p = 'b' ∧ base = 2

/-- An unsigned integer literal after a radix prefix. -/
def PrefixedLiteral (cs : List Char) (n : Int) : Prop :=
  ∃ p base ds, cs = '0' :: p :: ds ∧ RadixLetter p base ∧ Grouped base ds ∧ n = digitsOf base ds

/-- A TOML integer literal and the integer it writes. -/
def IntegerLiteral (cs : List Char) (n : Int) : Prop := DecimalLiteral cs n ∨ PrefixedLiteral cs n

/-! ## Digits and their values -/

theorem digit?_isSome_iff {r : Radix} {c : Char} : (r.digit? c).isSome ↔ IsDigitOf r.base c := by
  unfold Radix.digit? IsDigitOf
  cases hexValue c with
  | none => simp
  | some v => by_cases hv : v < r.base <;> simp [hv]

theorem not_isDigitOf_of_hexValue {base : ℕ} {c : Char} (h : hexValue c = none) :
    ¬IsDigitOf base c := by
  rintro ⟨v, hv, -⟩
  simp [h] at hv

theorem not_isDigitOf_plus (base : ℕ) : ¬IsDigitOf base '+' :=
  not_isDigitOf_of_hexValue (by decide)

theorem not_isDigitOf_minus (base : ℕ) : ¬IsDigitOf base '-' :=
  not_isDigitOf_of_hexValue (by decide)

/-- A decimal digit character is a digit of every radix from ten up. -/
theorem isDigitOf_of_isDigit {c : Char} (h : c.isDigit = true) : IsDigitOf 10 c := by
  have hr : '0' ≤ c ∧ c ≤ '9' := by simpa [Char.isDigit, Char.le_def] using h
  refine ⟨c.toNat - 48, by simp [hexValue, hr], ?_⟩
  have h9 : c.toNat ≤ 57 := hr.2
  omega

/-- Reading digits from the left, multiplying by the base at each step, gives the number they
write. -/
theorem digitsValue_eq_ofDigits (base : ℕ) (cs : List Char) :
    digitsValue base cs = Nat.ofDigits base (cs.reverse.map fun c => (hexValue c).getD 0) := by
  unfold digitsValue
  induction cs using List.reverseRecOn with
  | nil => rfl
  | append_singleton cs c ih =>
    rw [List.foldl_append, ih, List.reverse_append, List.reverse_singleton, List.singleton_append,
      List.map_cons, Nat.ofDigits_cons]
    simp only [List.foldl_cons, List.foldl_nil]
    ring

theorem digitsValue_filter (base : ℕ) (cs : List Char) :
    digitsValue base (cs.filter (· ≠ '_')) = digitsOf base cs :=
  digitsValue_eq_ofDigits base _

/-! ## Underscores -/

/-- Text whose underscores all stand between two characters, every other character a digit of
the radix, is grouped digits. -/
theorem grouped_of_underscoresBetweenDigits {base : ℕ} {cs : List Char}
    (hu : underscoresBetweenDigits .integer cs = true) (hne : cs ≠ [])
    (hd : ∀ c ∈ cs, c ≠ '_' → IsDigitOf base c) : Grouped base cs := by
  fun_induction underscoresBetweenDigits .integer cs with
  | case1 => exact absurd rfl hne
  | case2 c =>
    have hc : c ≠ '_' := by simpa using hu
    exact .last (hd c (by simp) hc)
  | case3 => simp at hu
  | case4 c hc e tail ih =>
    have hrest : underscoresBetweenDigits .integer (e :: tail) = true := by
      simp only [Bool.and_eq_true] at hu
      exact hu.2
    refine .sep (hd c (by simp) hc) (ih hrest (by simp) fun x hx => hd x ?_)
    simp [hx]
  | case5 => simp at hu
  | case6 c d r hc hd' ih =>
    refine .cons (hd c (by simp) hc) (ih hu (by simp) fun x hx => hd x ?_)
    simp [hx]

/-- A character that is no digit, in front of text whose underscores stand between digits,
cannot itself be followed by an underscore. -/
theorem underscoresBetweenDigits_of_cons {c : Char} {cs : List Char}
    (hc : NumberKind.integer.isDigit c = false)
    (h : underscoresBetweenDigits .integer (c :: cs) = true) :
    underscoresBetweenDigits .integer cs = true ∧ ∀ d ∈ cs.head?, d ≠ '_' := by
  match cs with
  | [] => simp [underscoresBetweenDigits]
  | d :: r =>
    by_cases hcu : c = '_'
    · simp [underscoresBetweenDigits, hcu] at h
    by_cases hdu : d = '_'
    · subst hdu
      cases r with
      | nil => simp [underscoresBetweenDigits, hcu] at h
      | cons e t => simp [underscoresBetweenDigits, hcu, hc] at h
    · simp only [underscoresBetweenDigits, hcu, hdu, if_false] at h
      exact ⟨h, by simpa using hdu⟩

/-- Text whose underscores stand between digits does not start with one. -/
theorem head_ne_underscore {cs : List Char} (h : underscoresBetweenDigits .integer cs = true) :
    ∀ d ∈ cs.head?, d ≠ '_' := by
  match cs with
  | [] => simp
  | [c] => simpa [underscoresBetweenDigits] using h
  | c :: d :: r =>
    by_cases hc : c = '_'
    · simp [underscoresBetweenDigits, hc] at h
    · simpa using hc

/-! ## Reading an integer -/

/-- The range of integers that `readInteger` reads: from `-2 ^ 127` up to `2 ^ 128 - 1`. -/
def InReadRange (n : Int) : Prop := -(Nat.pow 2 127 : Int) ≤ n ∧ n < (Nat.pow 2 128 : Int)

/-- What `readInteger` accepts after a sign: at least one digit of the radix and nothing else,
with a signed value in its range. -/
theorem readInteger_sign_append_eq_some {r : Radix} {sign ds : List Char} {n : Int}
    (hs : Sign sign) (hhead : ∀ c ∈ ds.head?, c ≠ '+' ∧ c ≠ '-') :
    readInteger r (sign ++ ds) = some n ↔
      ds ≠ [] ∧ (∀ c ∈ ds, IsDigitOf r.base c) ∧ n = signed sign (digitsValue r.base ds) ∧
        InReadRange n := by
  -- `readInteger` strips exactly the sign
  have hstrip : readInteger r (sign ++ ds) =
      if ds.isEmpty || !ds.all (fun c => (r.digit? c).isSome) then none
      else if -(Nat.pow 2 127 : Int) ≤ signed sign (digitsValue r.base ds) &&
          signed sign (digitsValue r.base ds) < (Nat.pow 2 128 : Int)
        then some (signed sign (digitsValue r.base ds)) else none := by
    rcases hs with rfl | rfl | rfl
    · cases ds with
      | nil => simp [readInteger]
      | cons c t =>
        obtain ⟨hp, hm⟩ := hhead c rfl
        simp [readInteger, signed, hp, hm]
    · simp [readInteger, signed]
    · simp [readInteger, signed]
  rw [hstrip]
  split_ifs with hbad hrange
  · simp only [false_iff]
    rintro ⟨hne, hd, -⟩
    apply absurd hbad
    simpa [digit?_isSome_iff, hne] using hd
  · have hds : ds ≠ [] ∧ ∀ c ∈ ds, IsDigitOf r.base c := by
      simpa [digit?_isSome_iff] using hbad
    simp only [Bool.and_eq_true, decide_eq_true_eq] at hrange
    simp only [Option.some.injEq, InReadRange]
    constructor
    · rintro rfl
      exact ⟨hds.1, hds.2, rfl, hrange⟩
    · rintro ⟨-, -, rfl, -⟩
      rfl
  · simp only [false_iff, InReadRange]
    simp only [Bool.and_eq_true, decide_eq_true_eq, not_and, not_lt] at hrange
    rintro ⟨-, -, rfl, hlo, hhi⟩
    exact absurd hhi (not_lt.mpr (hrange hlo))

theorem withoutUnderscores_eq_ok {k : NumberKind} {cs ds : List Char}
    (h : withoutUnderscores k cs = .ok ds) :
    underscoresBetweenDigits k cs = true ∧ ds = cs.filter (· ≠ '_') := by
  unfold withoutUnderscores at h
  split_ifs at h with hu
  · cases h
    exact ⟨hu, rfl⟩

theorem readInteger_of_integerOf {r : Radix} {cs : List Char} {n : Int}
    (h : integerOf r cs = .integer n) : readInteger r cs = some n := by
  unfold integerOf at h
  split at h
  · cases h
    assumption
  · cases h

/-- Text with no sign in front reads as an unsigned integer. -/
theorem readInteger_nil_append {r : Radix} {ds : List Char} {n : Int}
    (hhead : ∀ c ∈ ds.head?, c ≠ '+' ∧ c ≠ '-') (h : readInteger r ds = some n) :
    ds ≠ [] ∧ (∀ c ∈ ds, IsDigitOf r.base c) ∧ n = digitsValue r.base ds := by
  obtain ⟨hne, hd, hn, -⟩ :=
    (readInteger_sign_append_eq_some (show Sign [] by simp [Sign]) hhead).mp h
  exact ⟨hne, hd, by simpa [signed] using hn⟩

/-- An unsigned integer after its radix prefix. -/
theorem radixed_eq_integer {r : Radix} {cs : List Char} {n : Int}
    (h : radixed r cs = .ok (.integer n)) : Grouped r.base cs ∧ n = digitsOf r.base cs := by
  unfold radixed at h
  dsimp only at h
  split at h
  · simp at h
  · simp at h
  · split_ifs at h with hall
    · simp at h
    · rw [Except.bind_eq_ok_iff] at h
      obtain ⟨ds, hw, hi⟩ := h
      obtain ⟨hu, rfl⟩ := withoutUnderscores_eq_ok hw
      have hdigit : ∀ c ∈ cs, c ≠ '_' → IsDigitOf r.base c := by
        intro c hc hcu
        have hc' : r.digit? c = none → c = '_' := by
          simp only [Bool.not_eq_true', List.all_eq_false, not_exists, not_and] at hall
          simpa using hall c hc
        apply digit?_isSome_iff.mp
        cases hd : r.digit? c with
        | none => exact absurd (hc' hd) hcu
        | some v => rfl
      -- no digit of the radix is a sign
      have hhead : ∀ c ∈ (cs.filter (· ≠ '_')).head?, c ≠ '+' ∧ c ≠ '-' := by
        intro c hc
        have hmem := List.mem_filter.mp (List.mem_of_mem_head? hc)
        have hd := hdigit c hmem.1 (by simpa using hmem.2)
        exact ⟨fun h => not_isDigitOf_plus _ (h ▸ hd), fun h => not_isDigitOf_minus _ (h ▸ hd)⟩
      obtain ⟨hne, -, hn⟩ := readInteger_nil_append hhead
        (readInteger_of_integerOf (Except.ok.inj hi))
      refine ⟨grouped_of_underscoresBetweenDigits hu ?_ hdigit, by rw [hn, digitsValue_filter]⟩
      rintro rfl
      exact hne rfl

/-- A decimal integer: its sign, and then grouped digits that write its magnitude. -/
theorem decimal_eq_integer {sign value : List Char} {n : Int} (hs : Sign sign)
    (hhead : ∀ c ∈ value.head?, c = '_' ∨ c.isDigit)
    (h : decimal (sign ++ value) = .ok (.integer n)) :
    Grouped 10 value ∧ n = signed sign (digitsOf 10 value) := by
  unfold decimal at h
  rw [Except.bind_eq_ok_iff] at h
  obtain ⟨ds, hw, hi⟩ := h
  obtain ⟨hu, rfl⟩ := withoutUnderscores_eq_ok hw
  -- a sign is no digit, so no underscore follows it
  have hvalue : underscoresBetweenDigits .integer value = true ∧ ∀ d ∈ value.head?, d ≠ '_' := by
    rcases hs with rfl | rfl | rfl
    · exact ⟨hu, head_ne_underscore hu⟩
    · exact underscoresBetweenDigits_of_cons (by decide) hu
    · exact underscoresBetweenDigits_of_cons (by decide) hu
  have hfilter : (sign ++ value).filter (· ≠ '_') = sign ++ value.filter (· ≠ '_') := by
    rcases hs with rfl | rfl | rfl <;> simp
  -- the value starts with a digit, which the filter keeps
  have hhead' : ∀ c ∈ (value.filter (· ≠ '_')).head?, c ≠ '+' ∧ c ≠ '-' := by
    cases value with
    | nil => simp
    | cons c t =>
      have hc : c ≠ '_' := hvalue.2 c rfl
      have hdigit : c.isDigit = true := (hhead c rfl).resolve_left hc
      have hd := isDigitOf_of_isDigit hdigit
      simp only [List.filter_cons, ne_eq, hc, not_false_eq_true, decide_true, if_true,
        List.head?_cons, Option.mem_def, Option.some.injEq]
      rintro d rfl
      exact ⟨fun h => not_isDigitOf_plus _ (h ▸ hd), fun h => not_isDigitOf_minus _ (h ▸ hd)⟩
  have hread := readInteger_of_integerOf (Except.ok.inj hi)
  rw [hfilter] at hread
  obtain ⟨hne, hd, hn, -⟩ := (readInteger_sign_append_eq_some hs hhead').mp hread
  refine ⟨grouped_of_underscoresBetweenDigits hvalue.1 ?_ ?_, by rw [hn, digitsValue_filter]; rfl⟩
  · rintro rfl
    exact hne rfl
  · intro c hc hcu
    exact hd c (List.mem_filter.mpr ⟨hc, by simpa using hcu⟩)

/-! ## Texts that are no integer -/

theorem invalid_ne_ok (cs : List Char) (v : Scalar) : invalid cs ≠ .ok v := by
  unfold invalid
  dsimp only
  split_ifs <;> simp

theorem floatNumber_ne_integer (shape value : List Char) (n : Int) :
    floatNumber shape value ≠ .ok (.integer n) := by
  unfold floatNumber
  intro h
  simp only [Except.bind_eq_ok_iff] at h
  obtain ⟨-, -, cs, -, h⟩ := h
  split_ifs at h <;> simp at h

theorem keyword_eq_ok {cs : List Char} {word what : String} {v v' : Scalar}
    (h : keyword cs word v what = .ok v') : v' = v := by
  unfold keyword at h
  split_ifs at h with hw hblank
  · cases h
    rfl
  · exact absurd h (invalid_ne_ok cs v')

/-! ## Where an integer is read -/

/-- A text read as a date or a number is an integer only when it is a decimal integer whose
digits have no leading zero. -/
theorem dateOrNumber_eq_integer {value all : List Char} {n : Int}
    (h : dateOrNumber value all = .ok (.integer n)) :
    (value.head? = some '0' → value = ['0']) ∧ decimal all = .ok (.integer n) := by
  unfold dateOrNumber at h
  dsimp only at h
  cases hrest : value.dropWhile Char.isDigit with
  | nil =>
    -- digits alone: a leading zero is refused when more digits follow it
    rw [hrest] at h
    dsimp only at h
    by_cases hlen : value.length > 1
    · rw [if_pos hlen, Except.bind_eq_ok_iff] at h
      obtain ⟨_, hzero, h⟩ := h
      refine ⟨fun h0 => ?_, h⟩
      rw [if_pos h0] at hzero
      cases hzero
    · rw [if_neg hlen] at h
      refine ⟨fun h0 => ?_, h⟩
      rcases value with _ | ⟨x, _ | ⟨y, t⟩⟩
      · simp at h0
      · simpa using h0
      · simp at hlen
  | cons c t =>
    rw [hrest] at h
    dsimp only at h
    by_cases hdate : c = '-' ∨ c = ':'
    · rw [if_pos hdate] at h
      cases h
    rw [if_neg hdate] at h
    by_cases hblank : (c :: t).contains ' ' = true
    · rw [if_pos hblank] at h
      exact absurd h (invalid_ne_ok _ _)
    rw [if_neg hblank] at h
    by_cases hfloat : ((c :: t).contains '.' || (c :: t).contains 'e' ||
        (c :: t).contains 'E') = true
    · rw [if_pos hfloat] at h
      exact absurd h (floatNumber_ne_integer _ _ _)
    rw [if_neg hfloat] at h
    by_cases hunder : c = '_'
    · -- digits and underscores: again no leading zero
      rw [if_pos hunder, Except.bind_eq_ok_iff] at h
      obtain ⟨_, hzero, h⟩ := h
      refine ⟨fun h0 => ?_, h⟩
      rw [if_pos h0] at hzero
      cases hzero
    · rw [if_neg hunder] at h
      exact absurd h (invalid_ne_ok _ _)

/-- A radix prefix is read only when it is lowercase and no sign stands before it. -/
theorem prefixed_eq_ok {hasSign : Bool} {p lower : Char} {radix : Radix} {r : List Char}
    {v : Scalar} (h : prefixed hasSign p lower radix r = .ok v) :
    hasSign = false ∧ p = lower ∧ radixed radix r = .ok v := by
  unfold prefixed unsignedRadix at h
  cases hasSign
  · by_cases hp : p = lower
    · simp only [hp] at h
      exact ⟨rfl, hp, by simpa using h⟩
    · simp [hp] at h
  · simp at h

/-- A text starting with `0` is an integer only when it is `0` alone or, with no sign in front,
a radix prefix and the grouped digits of its radix. -/
theorem zeroPrefixed_eq_integer {value all : List Char} {hasSign : Bool} {n : Int}
    (h : zeroPrefixed value all hasSign = .ok (.integer n)) (h0 : value.head? = some '0') :
    (value = ['0'] ∧ decimal all = .ok (.integer n)) ∨
      (hasSign = false ∧ PrefixedLiteral value n) := by
  unfold zeroPrefixed at h
  rcases value with _ | ⟨x, _ | ⟨p, r⟩⟩
  · simp at h0
  · exact .inl ⟨by simpa using h0, h⟩
  have hx : x = '0' := by simpa using h0
  subst hx
  dsimp only at h
  -- every radix prefix: a lowercase letter, no sign, then the digits of the radix
  have ofPrefixed : ∀ {lower : Char} {radix : Radix}, RadixLetter lower radix.base →
      prefixed hasSign p lower radix r = .ok (.integer n) →
      hasSign = false ∧ PrefixedLiteral ('0' :: p :: r) n := by
    intro lower radix hl hpre
    obtain ⟨hs, rfl, hr⟩ := prefixed_eq_ok hpre
    obtain ⟨hg, hn⟩ := radixed_eq_integer hr
    exact ⟨hs, p, radix.base, r, rfl, hl, hg, hn⟩
  by_cases hblank : ("xXoObBdD".toList.contains p && r.contains ' ') = true
  · rw [if_pos hblank] at h
    exact absurd h (invalid_ne_ok _ _)
  rw [if_neg hblank] at h
  by_cases hhex : p = 'x' ∨ p = 'X'
  · rw [if_pos hhex] at h
    exact .inr (ofPrefixed (by simp [RadixLetter, Radix.base]) h)
  rw [if_neg hhex] at h
  by_cases hoct : p = 'o' ∨ p = 'O'
  · rw [if_pos hoct] at h
    exact .inr (ofPrefixed (by simp [RadixLetter, Radix.base]) h)
  rw [if_neg hoct] at h
  by_cases hbin : p = 'b' ∨ p = 'B'
  · rw [if_pos hbin] at h
    exact .inr (ofPrefixed (by simp [RadixLetter, Radix.base]) h)
  rw [if_neg hbin] at h
  by_cases hdec : p = 'd' ∨ p = 'D'
  · -- `0d` names the decimal radix, which takes no prefix
    rw [if_pos hdec, Except.bind_eq_ok_iff] at h
    obtain ⟨_, -, h⟩ := h
    cases h
  rw [if_neg hdec] at h
  by_cases hfloat : p = 'e' ∨ p = 'E' ∨ p = '.'
  · rw [if_pos hfloat] at h
    exact absurd h (floatNumber_ne_integer _ _ _)
  rw [if_neg hfloat] at h
  -- a zero followed by more digits is a leading zero
  have := (dateOrNumber_eq_integer h).1 h0
  simp at this

/-- After a sign, an integer is a decimal one that starts with a digit or an underscore. -/
theorem afterSign_eq_integer {value all : List Char} {negative : Bool} {n : Int}
    (h : afterSign value all negative = .ok (.integer n)) :
    (value.head? = some '0' → value = ['0']) ∧ (∀ c ∈ value.head?, c = '_' ∨ c.isDigit) ∧
      decimal all = .ok (.integer n) := by
  unfold afterSign at h
  rcases value with _ | ⟨c, t⟩
  · exact absurd h (invalid_ne_ok _ _)
  dsimp only at h
  by_cases hsign : c = '+' ∨ c = '-'
  · rw [if_pos hsign] at h
    cases h
  rw [if_neg hsign] at h
  by_cases hdigit : c = '_' ∨ (c.isDigit && decide (c ≠ '0')) = true
  · rw [if_pos hdigit] at h
    obtain ⟨h0, hdec⟩ := dateOrNumber_eq_integer h
    refine ⟨h0, fun d hd => ?_, hdec⟩
    obtain rfl : d = c := by simpa using hd.symm
    simp only [Bool.and_eq_true, decide_eq_true_eq] at hdigit
    exact hdigit.imp_right And.left
  rw [if_neg hdigit] at h
  by_cases hzero : c = '0'
  · -- a zero after a sign stands alone: no radix may follow a sign
    rw [if_pos hzero] at h
    subst hzero
    obtain ⟨hv, hdec⟩ | ⟨hs, -⟩ := zeroPrefixed_eq_integer h rfl
    · refine ⟨fun _ => hv, fun d hd => .inr ?_, hdec⟩
      obtain rfl : d = '0' := by simpa using hd.symm
      decide
    · cases hs
  rw [if_neg hzero] at h
  by_cases hdot : c = '.'
  · rw [if_pos hdot] at h
    exact absurd h (floatNumber_ne_integer _ _ _)
  rw [if_neg hdot] at h
  by_cases hinf : c = 'i' ∨ c = 'I'
  · rw [if_pos hinf] at h
    split_ifs at h
    cases h
  rw [if_neg hinf] at h
  by_cases hnan : c = 'n' ∨ c = 'N'
  · rw [if_pos hnan] at h
    split_ifs at h
    cases h
  rw [if_neg hnan] at h
  exact absurd h (invalid_ne_ok _ _)

theorem map_string_ne_integer (x : Except Error String) (n : Int) :
    Scalar.string <$> x ≠ .ok (.integer n) := by
  cases x <;> simp [Functor.map, Except.map]

/-- An unquoted text is read as an integer only when it is an integer literal of it. -/
theorem bare_eq_integer {text : String} {n : Int} (h : bare text = .ok (.integer n)) :
    IntegerLiteral text.toList n := by
  unfold bare at h
  by_cases hblank : (text.toList.contains ' ' && !looksLikeDatetime text.toList) = true
  · rw [if_pos hblank] at h
    exact absurd h (invalid_ne_ok _ _)
  rw [if_neg hblank] at h
  cases hcs : text.toList with
  | nil =>
    rw [hcs] at h
    exact absurd h (invalid_ne_ok _ _)
  | cons c r =>
    rw [hcs] at h
    dsimp only at h
    -- the first character decides how the text is read
    by_cases hplus : c = '+'
    · rw [if_pos hplus] at h
      subst hplus
      obtain ⟨hzero, hhead, hdec⟩ := afterSign_eq_integer h
      obtain ⟨hg, hn⟩ := decimal_eq_integer (show Sign ['+'] by simp [Sign]) hhead hdec
      exact .inl ⟨['+'], r, rfl, by simp [Sign], hg, hzero, hn⟩
    rw [if_neg hplus] at h
    by_cases hminus : c = '-'
    · rw [if_pos hminus] at h
      subst hminus
      obtain ⟨hzero, hhead, hdec⟩ := afterSign_eq_integer h
      obtain ⟨hg, hn⟩ := decimal_eq_integer (show Sign ['-'] by simp [Sign]) hhead hdec
      exact .inl ⟨['-'], r, rfl, by simp [Sign], hg, hzero, hn⟩
    rw [if_neg hminus] at h
    by_cases hzero : c = '0'
    · -- zero alone, or a radix prefix
      rw [if_pos hzero] at h
      subst hzero
      obtain ⟨hv, hdec⟩ | ⟨-, hpre⟩ := zeroPrefixed_eq_integer h rfl
      · obtain ⟨hg, hn⟩ := decimal_eq_integer (show Sign [] by simp [Sign]) (by simp) hdec
        exact .inl ⟨[], '0' :: r, rfl, by simp [Sign], hg, fun _ => hv, hn⟩
      · exact .inr hpre
    rw [if_neg hzero] at h
    by_cases hdigit : c = '_' ∨ c.isDigit = true
    · -- an unsigned decimal integer
      rw [if_pos hdigit] at h
      obtain ⟨hzero, hdec⟩ := dateOrNumber_eq_integer h
      obtain ⟨hg, hn⟩ :=
        decimal_eq_integer (show Sign [] by simp [Sign]) (by simpa using hdigit) hdec
      exact .inl ⟨[], c :: r, rfl, by simp [Sign], hg, hzero, hn⟩
    rw [if_neg hdigit] at h
    -- what is left is a float, a keyword or no value
    by_cases hdot : c = '.'
    · rw [if_pos hdot] at h
      exact absurd h (floatNumber_ne_integer _ _ _)
    rw [if_neg hdot] at h
    by_cases htrue : c = 't' ∨ c = 'T'
    · rw [if_pos htrue] at h
      cases keyword_eq_ok h
    rw [if_neg htrue] at h
    by_cases hfalse : c = 'f' ∨ c = 'F'
    · rw [if_pos hfalse] at h
      cases keyword_eq_ok h
    rw [if_neg hfalse] at h
    by_cases hinf : c = 'i' ∨ c = 'I'
    · rw [if_pos hinf] at h
      cases keyword_eq_ok h
    rw [if_neg hinf] at h
    by_cases hnan : c = 'n' ∨ c = 'N'
    · rw [if_pos hnan] at h
      cases keyword_eq_ok h
    rw [if_neg hnan] at h
    exact absurd h (invalid_ne_ok _ _)

/-- A piece decodes to an integer only when it is an unquoted integer literal of it. -/
theorem decode_eq_integer {p : Piece} {n : Int} (h : decode p = .ok (.integer n)) :
    p.quoting = .bare ∧ IntegerLiteral p.text.toList n := by
  unfold decode at h
  split at h
  · rename_i hq
    exact ⟨hq, bare_eq_integer h⟩
  all_goals exact absurd h (map_string_ne_integer _ n)

end FlasherStub.Toml
