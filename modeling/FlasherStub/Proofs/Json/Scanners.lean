import FlasherStub.Proofs.Json.Grammar
import Mathlib

/-!
The scanners of the JSON reader against the grammar. Each lemma takes a successful run of one
scanner apart: the bytes it consumed are one phrase of the grammar, and what it leaves is the
rest of the input. Runs are stated on the input as a whole, `s = phrase ++ r`, so that the
lemmas of a sequence of scanners compose by rewriting.
-/

namespace FlasherStub.Json

open Grammar

/-! ### Running a reader -/

section Run

variable {α β : Type}

@[simp] theorem ascii_apply (c : Char) : ascii c = c.toNat.toUInt8 := rfl

@[simp] theorem pure_apply (a : α) (s : List UInt8) : (pure a : Reader α) s = .ok a s := rfl

theorem bind_apply (x : Reader α) (f : α → Reader β) (s : List UInt8) :
    (x >>= f) s = match x s with
      | .ok a s' => f a s'
      | .error e s' => .error e s' := by
  show EStateM.bind x f s = _
  unfold EStateM.bind
  cases x s <;> rfl

theorem map_apply (f : α → β) (x : Reader α) (s : List UInt8) :
    (f <$> x) s = match x s with
      | .ok a s' => .ok (f a) s'
      | .error e s' => .error e s' := by
  show EStateM.map f x s = _
  unfold EStateM.map
  cases x s <;> rfl

@[simp] theorem peek_apply (s : List UInt8) : peek s = .ok s.head? s := rfl

@[simp] theorem eat_apply (s : List UInt8) : eat s = .ok () s.tail := rfl

@[simp] theorem skipBlank_apply (s : List UInt8) :
    skipBlank s = .ok (s.dropWhile isBlank).head? (s.dropWhile isBlank) := rfl

@[simp] theorem skipDigits_apply (s : List UInt8) : skipDigits s = .ok () (s.dropWhile isDigit) :=
  rfl

@[simp] theorem fail_apply (r : Reason) (s : List UInt8) :
    (fail r : Reader α) s = .error ⟨r, some s.length⟩ s := rfl

@[simp] theorem failNext_apply (r : Reason) (s : List UInt8) :
    (failNext r : Reader α) s = .error ⟨r, some (s.length - 1)⟩ s := rfl

@[simp] theorem failField_apply (e : FieldError) (s : List UInt8) :
    (failField e : Reader α) s = .error ⟨.field e, none⟩ s := rfl

/-! The first step of a sequence, run on an input of known shape. With these as simp lemmas a
reader runs symbolically as long as the bytes it looks at are known. -/

@[simp] theorem pure_bind' (a : α) (f : α → Reader β) (s : List UInt8) :
    (pure a >>= f) s = f a s := by
  rw [bind_apply, pure_apply]

@[simp] theorem eat_bind (f : Unit → Reader β) (s : List UInt8) : (eat >>= f) s = f () s.tail := by
  rw [bind_apply, eat_apply]

@[simp] theorem peek_bind (f : Option UInt8 → Reader β) (s : List UInt8) :
    (peek >>= f) s = f s.head? s := by
  rw [bind_apply, peek_apply]

@[simp] theorem skipBlank_bind (f : Option UInt8 → Reader β) (s : List UInt8) :
    (skipBlank >>= f) s = f (s.dropWhile isBlank).head? (s.dropWhile isBlank) := by
  rw [bind_apply, skipBlank_apply]

@[simp] theorem skipDigits_bind (f : Unit → Reader β) (s : List UInt8) :
    (skipDigits >>= f) s = f () (s.dropWhile isDigit) := by
  rw [bind_apply, skipDigits_apply]

@[simp] theorem next_bind_cons (f : Option UInt8 → Reader β) (b : UInt8) (t : List UInt8) :
    (next >>= f) (b :: t) = f (some b) t := by
  rw [bind_apply]
  rfl

@[simp] theorem next_bind_nil (f : Option UInt8 → Reader β) : (next >>= f) [] = f none [] := by
  rw [bind_apply]
  rfl

@[simp] theorem nextInString_bind_cons (f : UInt8 → Reader β) (b : UInt8) (t : List UInt8) :
    (nextInString >>= f) (b :: t) = f b t := by
  rw [bind_apply]
  rfl

@[simp] theorem peekInString_bind_cons (f : UInt8 → Reader β) (b : UInt8) (t : List UInt8) :
    (peekInString >>= f) (b :: t) = f b (b :: t) := by
  rw [bind_apply]
  rfl

@[simp] theorem nextInString_bind_nil (f : UInt8 → Reader β) :
    (nextInString >>= f) [] = .error ⟨.eofWhileParsingString, some 0⟩ [] := by
  rw [bind_apply]
  rfl

@[simp] theorem peekInString_bind_nil (f : UInt8 → Reader β) :
    (peekInString >>= f) [] = .error ⟨.eofWhileParsingString, some 0⟩ [] := by
  rw [bind_apply]
  rfl

@[simp] theorem fail_bind (e : Reason) (f : α → Reader β) (s : List UInt8) :
    (fail e >>= f) s = .error ⟨e, some s.length⟩ s := by
  rw [bind_apply, fail_apply]

@[simp] theorem failNext_bind (e : Reason) (f : α → Reader β) (s : List UInt8) :
    (failNext e >>= f) s = .error ⟨e, some (s.length - 1)⟩ s := by
  rw [bind_apply, failNext_apply]

@[simp] theorem failField_bind (e : FieldError) (f : α → Reader β) (s : List UInt8) :
    (failField e >>= f) s = .error ⟨.field e, none⟩ s := by
  rw [bind_apply, failField_apply]

/-- A run of `x >>= f` that succeeds is a run of `x` and then one of `f`. -/
theorem bind_eq_ok {x : Reader α} {f : α → Reader β} {s r : List UInt8} {b : β} :
    (x >>= f) s = .ok b r ↔ ∃ a s', x s = .ok a s' ∧ f a s' = .ok b r := by
  rw [bind_apply]
  cases h : x s with
  | ok a s' => simp
  | error e s' => simp

theorem map_eq_ok {f : α → β} {x : Reader α} {s r : List UInt8} {b : β} :
    (f <$> x) s = .ok b r ↔ ∃ a, x s = .ok a r ∧ f a = b := by
  rw [map_apply]
  cases h : x s with
  | ok a s' =>
    simp only [EStateM.Result.ok.injEq]
    constructor
    · rintro ⟨rfl, rfl⟩
      exact ⟨a, ⟨rfl, rfl⟩, rfl⟩
    · rintro ⟨a', ⟨rfl, rfl⟩, rfl⟩
      exact ⟨rfl, rfl⟩
  | error e s' => simp

theorem fixPosition_eq_ok {x : Reader α} {s r : List UInt8} {a : α} :
    fixPosition x s = .ok a r ↔ x s = .ok a r := by
  unfold fixPosition
  cases h : x s with
  | ok a' s' => simp
  | error e s' => simp

end Run

/-! ### Blank space and fixed words -/

theorem isBlank_iff {b : UInt8} : isBlank b = true ↔ IsBlank b := by
  simp only [isBlank, IsBlank, Bool.or_eq_true, beq_iff_eq]
  tauto

theorem isDigit_iff {b : UInt8} : isDigit b = true ↔ IsDigit b := by
  simp [isDigit, IsDigit]

theorem blank_takeWhile (s : List UInt8) : Blank (s.takeWhile isBlank) :=
  fun _ hb => isBlank_iff.1 (List.mem_takeWhile_imp hb)

/-- Skipping blank space splits the input at the first byte that is not blank. -/
theorem eq_takeWhile_blank (s : List UInt8) :
    s = s.takeWhile isBlank ++ s.dropWhile isBlank := (List.takeWhile_append_dropWhile).symm

theorem colon_sound {s r : List UInt8} (h : colon s = .ok () r) :
    ∃ w, s = w ++ 58 :: r ∧ Blank w := by
  unfold colon at h
  rw [bind_eq_ok] at h
  obtain ⟨b, s', hskip, hrest⟩ := h
  simp only [skipBlank_apply, EStateM.Result.ok.injEq] at hskip
  obtain ⟨rfl, rfl⟩ := hskip
  refine ⟨s.takeWhile isBlank, ?_, blank_takeWhile s⟩
  have hsplit := eq_takeWhile_blank s
  cases hd : s.dropWhile isBlank with
  | nil => simp [hd] at hrest
  | cons c t =>
    simp only [hd, List.head?_cons] at hrest
    by_cases hc : c = 58
    · simp [hc] at hrest
      rw [hd, hc, hrest] at hsplit
      exact hsplit
    · simp [hc] at hrest

/-- Reading the rest of a keyword consumes exactly its bytes. -/
theorem ident_sound {cs s r : List UInt8} (h : ident cs s = .ok () r) : s = cs ++ r := by
  induction cs generalizing s with
  | nil =>
    simp only [ident, pure_apply, EStateM.Result.ok.injEq] at h
    simp [h.2]
  | cons c cs ih =>
    simp only [ident] at h
    rw [bind_eq_ok] at h
    obtain ⟨b, s', hnext, hrest⟩ := h
    cases s with
    | nil =>
      simp only [next, EStateM.Result.ok.injEq] at hnext
      obtain ⟨rfl, rfl⟩ := hnext
      simp at hrest
    | cons x t =>
      simp only [next, EStateM.Result.ok.injEq] at hnext
      obtain ⟨rfl, rfl⟩ := hnext
      by_cases hx : x = c
      · simp only [hx, beq_self_eq_true, ↓reduceIte] at hrest
        rw [hx, ih hrest, List.cons_append]
      · simp [hx] at hrest

/-! ### Integers -/

/-- The value of digits read left to right, scaled by what came before them. -/
theorem foldl_digit_eq (ds : List UInt8) (acc : ℕ) :
    ds.foldl (fun acc d => acc * 10 + (d.toNat - 48)) acc = acc * 10 ^ ds.length + decimal ds := by
  induction ds generalizing acc with
  | nil => simp [decimal]
  | cons d ds ih =>
    have hdec : decimal (d :: ds) = decimal ds + 10 ^ ds.length * (d.toNat - 48) := by
      simp only [decimal, List.reverse_cons, List.map_append, List.map_cons, List.map_nil,
        Nat.ofDigits_append, List.length_map, List.length_reverse, Nat.ofDigits_singleton]
    rw [List.foldl_cons, ih, hdec, List.length_cons, pow_succ]
    ring

theorem digitsValue_eq_decimal (ds : List UInt8) : digitsValue ds = decimal ds := by
  simpa [digitsValue] using foldl_digit_eq ds 0

theorem integerDigits_of_digit_run {c : UInt8} {r : List UInt8} (hc : IsDigit c) (h0 : c ≠ 48) :
    IntegerDigits (c :: r.takeWhile isDigit) := by
  refine Or.inr ⟨c, r.takeWhile isDigit, rfl, hc, h0, fun x hx => ?_⟩
  exact isDigit_iff.1 (List.mem_takeWhile_imp hx)

/-- The digits of a natural number in plain decimal. -/
theorem unsignedDecimal_sound {s r : List UInt8} {n : ℕ} (h : unsignedDecimal s = .ok n r) :
    ∃ ds, s = ds ++ r ∧ IntegerDigits ds ∧ n = decimal ds := by
  unfold unsignedDecimal at h
  rcases s with _ | ⟨c, t⟩
  · simp at h
  · by_cases hzero : c = 48
    · -- a zero stands alone: no digit may follow it
      subst hzero
      have hrest : n = 0 ∧ t = r := by
        rcases t with _ | ⟨d, t'⟩
        · simp only [ascii_apply, Char.reduceToNat, Nat.toUInt8_eq, UInt8.reduceOfNat,
            beq_self_eq_true, ↓reduceIte, EStateM.Result.ok.injEq] at h
          exact ⟨h.1.symm, h.2⟩
        · by_cases hd : isDigit d = true
          · simp [hd] at h
          · simp only [ascii_apply, Char.reduceToNat, Nat.toUInt8_eq, UInt8.reduceOfNat,
              beq_self_eq_true, ↓reduceIte, hd, Bool.false_eq_true, EStateM.Result.ok.injEq] at h
            exact ⟨h.1.symm, h.2⟩
      obtain ⟨rfl, rfl⟩ := hrest
      exact ⟨[48], rfl, Or.inl rfl, by simp [decimal]⟩
    · by_cases hc : isDigit c = true
      · simp [hzero, hc, digitRun] at h
        obtain ⟨rfl, rfl⟩ := h
        refine ⟨c :: t.takeWhile isDigit, ?_, integerDigits_of_digit_run (isDigit_iff.1 hc) hzero,
          digitsValue_eq_decimal _⟩
        rw [List.cons_append, List.takeWhile_append_dropWhile]
      · simp [hzero, hc] at h

/-- A range check lets its value through unchanged, or refuses. -/
theorem ite_pure_fail_eq_ok {p : Prop} [Decidable p] {a b : Int} {e : Reason} {s r : List UInt8}
    (h : (if p then pure a else fail e : Reader Int) s = .ok b r) : p ∧ a = b ∧ s = r := by
  split_ifs at h with hp
  · simp only [pure_apply, EStateM.Result.ok.injEq] at h
    exact ⟨hp, h⟩
  · simp at h

/-- A 128-bit integer is an integer literal after blank space, of a value in range. -/
theorem int128_sound {s r : List UInt8} {v : Int} (h : int128 s = .ok v r) :
    ∃ w lit, s = w ++ lit ++ r ∧ Blank w ∧ Int128Lit lit v := by
  unfold int128 at h
  simp only [skipBlank_bind] at h
  have hsplit := eq_takeWhile_blank s
  refine ⟨s.takeWhile isBlank, ?_⟩
  cases hd : s.dropWhile isBlank with
  | nil => simp [hd] at h
  | cons c t =>
    rw [hd] at hsplit h
    by_cases hneg : c = 45
    · -- a minus sign, then the digits of the magnitude
      subst hneg
      simp only [List.head?_cons, ascii_apply, Char.reduceToNat, Nat.toUInt8_eq,
        UInt8.reduceOfNat, beq_self_eq_true, ↓reduceIte, eat_bind, List.tail_cons] at h
      rw [bind_eq_ok] at h
      obtain ⟨m, s₂, hmag, hrange⟩ := h
      obtain ⟨ds, rfl, hds, rfl⟩ := unsignedDecimal_sound hmag
      obtain ⟨⟨hmin, hmax⟩, rfl, rfl⟩ := ite_pure_fail_eq_ok hrange
      exact ⟨45 :: ds, hsplit.trans (by simp), blank_takeWhile s,
        ⟨ds, hds, Or.inr ⟨rfl, rfl⟩⟩, hmin, hmax⟩
    · have hc : (c == ascii '-') = false := by simpa using hneg
      simp only [List.head?_cons, hc, Bool.false_eq_true, ↓reduceIte] at h
      rw [bind_eq_ok] at h
      obtain ⟨m, s₂, hmag, hrange⟩ := h
      obtain ⟨ds, hds_eq, hds, rfl⟩ := unsignedDecimal_sound hmag
      obtain ⟨⟨hmin, hmax⟩, rfl, rfl⟩ := ite_pure_fail_eq_ok hrange
      exact ⟨ds, hsplit.trans (by rw [hds_eq, List.append_assoc]), blank_takeWhile s,
        ⟨ds, hds, Or.inl ⟨rfl, rfl⟩⟩, hmin, hmax⟩

/-! ### Strings -/

/-- Four hexadecimal digits and the code unit they write. -/
theorem hexEscape_sound {s r : List UInt8} {n : ℕ} (h : hexEscape s = .ok n r) :
    ∃ h₁ h₂ h₃ h₄, s = h₁ :: h₂ :: h₃ :: h₄ :: r ∧ codeUnit h₁ h₂ h₃ h₄ = some n := by
  match s, h with
  | a :: b :: c :: d :: t, h =>
    unfold hexEscape at h
    dsimp only at h
    split at h
    · next w x y z ha hb hc hd =>
      simp only [EStateM.Result.ok.injEq] at h
      obtain ⟨rfl, rfl⟩ := h
      exact ⟨a, b, c, d, rfl, by simp [codeUnit, ha, hb, hc, hd]⟩
    · simp at h
  | [], h | [_], h | [_, _], h | [_, _, _], h => simp [hexEscape] at h

/-- The rest of a `\u` escape: a code point outside the surrogates, or a surrogate pair. -/
theorem unicodeEscape_sound {s r e : List UInt8} (h : unicodeEscape s = .ok e r) :
    ∃ u, s = u ++ r ∧ Escape (117 :: u) e := by
  unfold unicodeEscape at h
  rw [bind_eq_ok] at h
  obtain ⟨n, s₁, hhex, h⟩ := h
  obtain ⟨h₁, h₂, h₃, h₄, rfl, hn⟩ := hexEscape_sound hhex
  split_ifs at h with htrail hbmp
  · simp at h
  · -- a code point outside the surrogates stands alone
    simp only [pure_apply, EStateM.Result.ok.injEq] at h
    obtain ⟨rfl, rfl⟩ := h
    exact ⟨[h₁, h₂, h₃, h₄], rfl, Escape.unit hn (by omega)⟩
  · -- a leading surrogate: `\u` and a trailing surrogate must follow
    rcases s₁ with _ | ⟨b, t⟩
    · simp at h
    by_cases hb : b = 92
    · subst hb
      rcases t with _ | ⟨c, t⟩
      · simp at h
      by_cases hc : c = 117
      · subst hc
        simp at h
        rw [bind_eq_ok] at h
        obtain ⟨lo, s₂, hlo, h⟩ := h
        obtain ⟨l₁, l₂, l₃, l₄, rfl, hunit⟩ := hexEscape_sound hlo
        split_ifs at h with hrange
        · simp at h
        · simp only [pure_apply, EStateM.Result.ok.injEq] at h
          obtain ⟨rfl, rfl⟩ := h
          exact ⟨[h₁, h₂, h₃, h₄, 92, 117, l₁, l₂, l₃, l₄], rfl,
            Escape.pair hn (by omega) (by omega) hunit (by omega) (by omega)⟩
      · simp [hc] at h
    · simp [hb] at h

/-- An escape after its backslash. -/
theorem escape_sound {s r e : List UInt8} (h : escape s = .ok e r) :
    ∃ u, s = u ++ r ∧ Escape u e := by
  unfold escape at h
  rcases s with _ | ⟨c, t⟩
  · simp at h
  simp only [nextInString_bind_cons] at h
  by_cases hu : c = 117
  · subst hu
    simp at h
    obtain ⟨u, rfl, hesc⟩ := unicodeEscape_sound h
    exact ⟨117 :: u, rfl, hesc⟩
  · -- one of the simple escapes, each the byte `escapeByte` names
    obtain ⟨x, hx, rfl, rfl⟩ : ∃ x, escapeByte c = some x ∧ e = [x] ∧ t = r := by
      split_ifs at h <;> simp_all [escapeByte]
    exact ⟨[c], rfl, Escape.simple hx⟩

/-- The body of a string up to its closing quote, and the bytes of its text after `acc`. -/
theorem stringBody_sound {fuel : ℕ} {acc s r out : List UInt8}
    (h : stringBody fuel acc s = .ok out r) :
    ∃ body dec, s = body ++ 34 :: r ∧ Decodes body dec ∧ out = acc.reverse ++ dec := by
  induction fuel generalizing acc s with
  | zero => simp [stringBody] at h
  | succ fuel ih =>
    rcases s with _ | ⟨b, t⟩
    · simp [stringBody] at h
    simp only [stringBody] at h
    by_cases hq : b = 34
    · -- the closing quote
      subst hq
      simp at h
      obtain ⟨rfl, rfl⟩ := h
      exact ⟨[], [], rfl, Decodes.nil, by simp⟩
    by_cases hbs : b = 92
    · -- an escape, then the rest of the body
      subst hbs
      simp at h
      rw [bind_eq_ok] at h
      obtain ⟨e, t₁, hesc, hrest⟩ := h
      obtain ⟨u, rfl, hu⟩ := escape_sound hesc
      obtain ⟨body, dec, rfl, hdec, rfl⟩ := ih hrest
      exact ⟨92 :: (u ++ body), e ++ dec, by simp, Decodes.escape hu hdec, by simp⟩
    by_cases hctl : b < 0x20
    · simp [hq, hbs, hctl] at h
    · -- a byte that stands for itself
      simp [hq, hbs, hctl] at h
      obtain ⟨body, dec, rfl, hdec, rfl⟩ := ih h
      exact ⟨b :: body, b :: dec, rfl, Decodes.plain (UInt8.not_lt.1 hctl) hq hbs hdec, by simp⟩

/-- A string after its opening quote: its body, the closing quote, and the text it stands for. -/
theorem string_sound {s r : List UInt8} {str : String} (h : string s = .ok str r) :
    ∃ body dec, s = body ++ 34 :: r ∧ Decodes body dec ∧ str = textOf dec := by
  unfold string at h
  obtain ⟨out, hbody, rfl⟩ := map_eq_ok.1 h
  obtain ⟨body, dec, rfl, hdec, hout⟩ := stringBody_sound hbody
  refine ⟨body, dec, rfl, hdec, ?_⟩
  simp [hout]

/-- An escape skipped after its backslash is one as written. -/
theorem skipEscape_sound {s r : List UInt8} (h : skipEscape s = .ok () r) :
    ∃ u, s = u ++ r ∧ EscapeText u := by
  unfold skipEscape at h
  rcases s with _ | ⟨c, t⟩
  · simp at h
  simp only [nextInString_bind_cons] at h
  by_cases hc : c ∈ simpleEscapes
  · have hsimple := hc
    simp only [simpleEscapes, List.mem_cons, List.not_mem_nil, or_false] at hc
    simp [hc] at h
    exact ⟨[c], by simp [h], EscapeText.simple hsimple⟩
  · simp only [simpleEscapes, List.mem_cons, List.not_mem_nil, or_false] at hc
    by_cases hu : c = 117
    · -- `u` and four hexadecimal digits
      subst hu
      simp at h
      obtain ⟨n, hhex, -⟩ := map_eq_ok.1 h
      obtain ⟨h₁, h₂, h₃, h₄, rfl, hn⟩ := hexEscape_sound hhex
      exact ⟨[117, h₁, h₂, h₃, h₄], rfl, EscapeText.unit hn⟩
    · simp [hc, hu] at h

/-- A string body skipped up to its closing quote is one as written. -/
theorem skipStringBody_sound {fuel : ℕ} {s r : List UInt8} (h : skipStringBody fuel s = .ok () r) :
    ∃ body, s = body ++ 34 :: r ∧ Chars body := by
  induction fuel generalizing s with
  | zero => simp [skipStringBody] at h
  | succ fuel ih =>
    rcases s with _ | ⟨b, t⟩
    · simp [skipStringBody] at h
    simp only [skipStringBody] at h
    by_cases hq : b = 34
    · subst hq
      simp at h
      exact ⟨[], by simp [h], Chars.nil⟩
    by_cases hbs : b = 92
    · subst hbs
      simp at h
      rw [bind_eq_ok] at h
      obtain ⟨_, t₁, hesc, hrest⟩ := h
      obtain ⟨u, rfl, hu⟩ := skipEscape_sound hesc
      obtain ⟨body, rfl, hbody⟩ := ih hrest
      exact ⟨92 :: (u ++ body), by simp, Chars.escape hu hbody⟩
    by_cases hctl : b < 0x20
    · simp [hq, hbs, hctl] at h
    · simp [hq, hbs, hctl] at h
      obtain ⟨body, rfl, hbody⟩ := ih h
      exact ⟨b :: body, rfl, Chars.plain (UInt8.not_lt.1 hctl) hq hbs hbody⟩

theorem skipString_sound {s r : List UInt8} (h : skipString s = .ok () r) :
    ∃ body, s = body ++ 34 :: r ∧ Chars body :=
  skipStringBody_sound h

/-! ### Numbers of any form -/

theorem digits_takeWhile_cons {c : UInt8} (hc : IsDigit c) (t : List UInt8) :
    Digits (c :: t.takeWhile isDigit) := by
  refine ⟨List.cons_ne_nil _ _, fun d hd => ?_⟩
  rcases List.mem_cons.1 hd with rfl | hd
  · exact hc
  · exact isDigit_iff.1 (List.mem_takeWhile_imp hd)

/-- Digits and what follows them. -/
theorem eq_takeWhile_digit (s : List UInt8) :
    s = s.takeWhile isDigit ++ s.dropWhile isDigit := (List.takeWhile_append_dropWhile).symm

/-- The digits of an exponent, at least one. -/
theorem skipExponentDigits_sound {s r : List UInt8} (h : skipExponentDigits s = .ok () r) :
    ∃ ds, s = ds ++ r ∧ Digits ds := by
  unfold skipExponentDigits at h
  rcases s with _ | ⟨d, u⟩
  · simp at h
  by_cases hd : isDigit d = true
  · simp only [next_bind_cons, hd, ↓reduceIte, skipDigits_apply, EStateM.Result.ok.injEq,
      true_and] at h
    subst h
    refine ⟨d :: u.takeWhile isDigit, ?_, digits_takeWhile_cons (isDigit_iff.1 hd) u⟩
    rw [List.cons_append, ← eq_takeWhile_digit]
  · simp [hd] at h

/-- An exponent skipped from its `e` on. -/
theorem skipExponent_sound {c : UInt8} {t r : List UInt8} (hc : c = 101 ∨ c = 69)
    (h : skipExponent (c :: t) = .ok () r) : ∃ e, c :: t = e ++ r ∧ Exponent e := by
  unfold skipExponent at h
  simp only [eat_bind, List.tail_cons, peek_bind] at h
  -- the sign, if there is one, is consumed before the digits
  obtain ⟨sign, u, rfl, hsign, h⟩ : ∃ sign u, t = sign ++ u ∧
      (sign = [] ∨ sign = [43] ∨ sign = [45]) ∧ skipExponentDigits u = .ok () r := by
    rcases t with _ | ⟨b, u⟩
    · exact ⟨[], [], rfl, Or.inl rfl, by simpa using h⟩
    by_cases hplus : b = 43
    · subst hplus
      exact ⟨[43], u, rfl, Or.inr (Or.inl rfl), by simpa using h⟩
    by_cases hminus : b = 45
    · subst hminus
      exact ⟨[45], u, rfl, Or.inr (Or.inr rfl), by simpa using h⟩
    · exact ⟨[], b :: u, rfl, Or.inl rfl, by simpa [hplus, hminus] using h⟩
  obtain ⟨ds, rfl, hds⟩ := skipExponentDigits_sound h
  exact ⟨c :: (sign ++ ds), by simp, c, sign, ds, rfl, hc, hsign, hds⟩

theorem skipOptionalExponent_sound {s r : List UInt8} (h : skipOptionalExponent s = .ok () r) :
    ∃ e, s = e ++ r ∧ (e = [] ∨ Exponent e) := by
  unfold skipOptionalExponent at h
  rcases s with _ | ⟨c, t⟩
  · simp at h
    exact ⟨[], by simp [h], Or.inl rfl⟩
  by_cases hc : c = 101 ∨ c = 69
  · simp [hc] at h
    obtain ⟨e, he, hexp⟩ := skipExponent_sound hc h
    exact ⟨e, he, Or.inr hexp⟩
  · simp [hc] at h
    exact ⟨[], by simp [h], Or.inl rfl⟩

/-- A fraction skipped from its point on, with the exponent after it. -/
theorem skipFraction_sound {t r : List UInt8} (h : skipFraction (46 :: t) = .ok () r) :
    ∃ f e, 46 :: t = f ++ e ++ r ∧ Fraction f ∧ (e = [] ∨ Exponent e) := by
  unfold skipFraction at h
  simp only [eat_bind, List.tail_cons, peek_bind] at h
  rcases t with _ | ⟨d, u⟩
  · simp at h
  by_cases hd : isDigit d = true
  · simp [hd] at h
    obtain ⟨e, he, hexp⟩ := skipOptionalExponent_sound h
    refine ⟨46 :: d :: u.takeWhile isDigit, e, ?_,
      ⟨d :: u.takeWhile isDigit, rfl, digits_takeWhile_cons (isDigit_iff.1 hd) u⟩, hexp⟩
    calc 46 :: d :: u = 46 :: d :: (u.takeWhile isDigit ++ u.dropWhile isDigit) := by
          rw [← eq_takeWhile_digit]
      _ = 46 :: d :: u.takeWhile isDigit ++ e ++ r := by rw [he]; simp
  · simp [hd] at h

/-- What may follow the integer digits of a number: a fraction, an exponent, both or neither. -/
theorem skipNumberTail_sound {s r : List UInt8} (h : skipNumberTail s = .ok () r) :
    ∃ f e, s = f ++ e ++ r ∧ (f = [] ∨ Fraction f) ∧ (e = [] ∨ Exponent e) := by
  unfold skipNumberTail at h
  rcases s with _ | ⟨c, t⟩
  · simp at h
    exact ⟨[], [], by simp [h], Or.inl rfl, Or.inl rfl⟩
  by_cases hpoint : c = 46
  · subst hpoint
    simp at h
    obtain ⟨f, e, he, hf, hexp⟩ := skipFraction_sound h
    exact ⟨f, e, he, Or.inr hf, hexp⟩
  by_cases hc : c = 101 ∨ c = 69
  · simp [hpoint, hc] at h
    obtain ⟨e, he, hexp⟩ := skipExponent_sound hc h
    exact ⟨[], e, by simp [he], Or.inl rfl, Or.inr hexp⟩
  · simp [hpoint, hc] at h
    exact ⟨[], [], by simp [h], Or.inl rfl, Or.inl rfl⟩

/-- A number skipped after its sign is a number without a sign. -/
theorem skipNumber_sound {s r : List UInt8} (h : skipNumber s = .ok () r) :
    ∃ u, s = u ++ r ∧ UnsignedNumber u := by
  unfold skipNumber at h
  rcases s with _ | ⟨c, t⟩
  · simp at h
  -- the integer digits: a lone zero, or digits that do not start with zero
  obtain ⟨i, t', hs, hi, h⟩ : ∃ i t', c :: t = i ++ t' ∧ IntegerDigits i ∧
      skipNumberTail t' = .ok () r := by
    by_cases hzero : c = 48
    · subst hzero
      rcases t with _ | ⟨d, u⟩
      · exact ⟨[48], [], rfl, Or.inl rfl, by simpa using h⟩
      by_cases hd : isDigit d = true
      · simp [hd] at h
      · exact ⟨[48], d :: u, rfl, Or.inl rfl, by simpa [hd] using h⟩
    by_cases hd : isDigit c = true
    · simp [hzero, hd] at h
      refine ⟨c :: t.takeWhile isDigit, t.dropWhile isDigit, ?_,
        integerDigits_of_digit_run (isDigit_iff.1 hd) hzero, h⟩
      rw [List.cons_append, ← eq_takeWhile_digit]
    · simp [hzero, hd] at h
  obtain ⟨f, e, rfl, hf, he⟩ := skipNumberTail_sound h
  exact ⟨i ++ f ++ e, by simp [hs], i, f, e, rfl, hi, hf, he⟩

end FlasherStub.Json
