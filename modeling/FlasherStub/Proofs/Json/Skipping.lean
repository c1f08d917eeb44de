import FlasherStub.Proofs.Json.Scanners
import Mathlib

/-!
Skipping a value of any kind. The reader passes over a value with a stack of the containers
still open, innermost first, and meets the text between two of its steps in pieces that the
grammar does not name: the rest of a value followed by the rest of every open container. The
relations below name those pieces, and the two skipping loops are proved against them, each by
induction on its fuel: `closeContainers` closes what ends after a value, and `skipValues` reads
values until the one it started with is complete.
-/

namespace FlasherStub.Json

open Grammar

/-! ### What remains of open containers -/

/-- The brackets that open containers. -/
def Frames (fs : List UInt8) : Prop := ∀ f ∈ fs, f = 91 ∨ f = 123

/-- What completes the container opened with `frame`, from its opening bracket (`first`) or from
one of its elements on. -/
def Rest (frame : UInt8) (first : Bool) (t : List UInt8) : Prop :=
  if frame = 91 then ArrayRest first t else ObjectRest first t

/-- What completes the open containers `stack`, innermost first, each after one of its
elements. -/
def Pending : List UInt8 → List UInt8 → Prop
  | [], t => t = []
  | frame :: stack, t => ∃ t₁ t₂, t = t₁ ++ t₂ ∧ Rest frame false t₁ ∧ Pending stack t₂

/-- What completes the container `frame`, from its opening bracket (`first`) or from an element
on, and then the containers `stack` around it. -/
def Cont (first : Bool) (frame : UInt8) (stack t : List UInt8) : Prop :=
  ∃ t₁ t₂, t = t₁ ++ t₂ ∧ Rest frame first t₁ ∧ Pending stack t₂

/-- A value after blank space, and then what completes the open containers `stack`. -/
def ValueThen (stack t : List UInt8) : Prop :=
  ∃ w v p, t = w ++ v ++ p ∧ Blank w ∧ Value v ∧ Pending stack p

/-- The next item of the container `frame`, a member of an object or an element of an array,
and then what completes it and the containers `stack` around it. -/
def ItemThen (frame : UInt8) (stack t : List UInt8) : Prop :=
  if frame = 123 then ∃ m t', t = m ++ t' ∧ Member m ∧ Cont false frame stack t'
  else ValueThen (frame :: stack) t

/-- What follows a value inside `frame :: stack` once `closeContainers` has run: with `none`
every container is closed; with `some` the reader stands before the next item of a container,
and whatever it reads there completes the containers it was given. -/
def Closes (first : Bool) (frame : UInt8) (stack s r : List UInt8) :
    Option (UInt8 × List UInt8) → Prop
  | none => ∃ t, s = t ++ r ∧ Cont first frame stack t
  | some (f, st) => Frames (f :: st) ∧
      ∃ c, s = c ++ r ∧ ∀ t, ItemThen f st t → Cont first frame stack (c ++ t)

/-- The byte that closes the container opened with `frame`. -/
def closer (frame : UInt8) : UInt8 := if frame = 91 then 93 else 125

theorem Frames.head {f : UInt8} {fs : List UInt8} (h : Frames (f :: fs)) : f = 91 ∨ f = 123 :=
  h f List.mem_cons_self

theorem Frames.tail {f : UInt8} {fs : List UInt8} (h : Frames (f :: fs)) : Frames fs :=
  fun x hx => h x (List.mem_cons_of_mem f hx)

theorem pending_cons {frame : UInt8} {stack t : List UInt8} :
    Pending (frame :: stack) t ↔ Cont false frame stack t := Iff.rfl

theorem pending_nil {t : List UInt8} : Pending [] t ↔ t = [] := Iff.rfl

/-- The reader's test for the closing bracket of a container. -/
theorem closes_iff {frame b : UInt8} (hf : frame = 91 ∨ frame = 123) :
    ((b == ascii ']' && frame == ascii '[') || (b == ascii '\x7d' && !frame == ascii '[')) = true ↔
      b = closer frame := by
  rcases hf with rfl | rfl <;> simp [closer]

/-- Blank space and the closing bracket complete a container, wherever it stands. -/
theorem cont_close {first : Bool} {frame : UInt8} {stack w p : List UInt8} (hw : Blank w)
    (hp : Pending stack p) : Cont first frame stack (w ++ closer frame :: p) := by
  refine ⟨w ++ [closer frame], p, by simp, ?_, hp⟩
  unfold Rest closer
  split_ifs
  · exact ArrayRest.close hw
  · exact ObjectRest.close hw

/-- A comma after an element, and the next item, go on with the container. -/
theorem cont_next {frame : UInt8} {stack w t : List UInt8} (hf : frame = 91 ∨ frame = 123)
    (hw : Blank w) (ht : ItemThen frame stack t) : Cont false frame stack (w ++ 44 :: t) := by
  rcases hf with rfl | rfl
  · rw [ItemThen, if_neg (by decide)] at ht
    obtain ⟨w', v, p, rfl, hw', hv, p₁, p₂, rfl, hp₁, hp₂⟩ := ht
    rw [Rest, if_pos rfl] at hp₁
    refine ⟨w ++ 44 :: (w' ++ v ++ p₁), p₂, by simp, ?_, hp₂⟩
    rw [Rest, if_pos rfl]
    exact ArrayRest.next hw hw' hv hp₁
  · rw [ItemThen, if_pos rfl] at ht
    obtain ⟨m, t', rfl, hm, p₁, p₂, rfl, hp₁, hp₂⟩ := ht
    rw [Rest, if_neg (by decide)] at hp₁
    refine ⟨w ++ 44 :: (m ++ p₁), p₂, by simp, ?_, hp₂⟩
    rw [Rest, if_neg (by decide)]
    exact ObjectRest.next hw hm hp₁

/-- Blank space after an opening bracket, and a first item, go on with the container. -/
theorem cont_first {frame : UInt8} {stack w t : List UInt8} (hf : frame = 91 ∨ frame = 123)
    (hw : Blank w) (ht : ItemThen frame stack t) : Cont true frame stack (w ++ t) := by
  rcases hf with rfl | rfl
  · rw [ItemThen, if_neg (by decide)] at ht
    obtain ⟨w', v, p, rfl, hw', hv, p₁, p₂, rfl, hp₁, hp₂⟩ := ht
    rw [Rest, if_pos rfl] at hp₁
    refine ⟨w ++ w' ++ v ++ p₁, p₂, by simp, ?_, hp₂⟩
    rw [Rest, if_pos rfl]
    exact ArrayRest.element (blank_append hw hw') hv hp₁
  · rw [ItemThen, if_pos rfl] at ht
    obtain ⟨m, t', rfl, hm, p₁, p₂, rfl, hp₁, hp₂⟩ := ht
    rw [Rest, if_neg (by decide)] at hp₁
    refine ⟨w ++ m ++ p₁, p₂, by simp, ?_, hp₂⟩
    rw [Rest, if_neg (by decide)]
    exact ObjectRest.member (Member.blank_append hw hm) hp₁

/-- A container opened with `frame` and completed from its opening bracket is a value. -/
theorem value_of_rest {frame : UInt8} {t : List UInt8} (hf : frame = 91 ∨ frame = 123)
    (h : Rest frame true t) : Value (frame :: t) := by
  rcases hf with rfl | rfl
  · rw [Rest, if_pos rfl] at h
    exact Value.array h
  · rw [Rest, if_neg (by decide)] at h
    exact Value.object h

/-! ### The steps of skipping -/

/-- The first step of skipping a value at its first byte `b`: a whole scalar, or the opening
bracket of a container. -/
theorem skipValueStart_sound {b : UInt8} {t r : List UInt8} {container : Option UInt8}
    (h : skipValueStart b (b :: t) = .ok container r) :
    (container = none ∧ ∃ v, b :: t = v ++ r ∧ Value v) ∨
      (container = some b ∧ (b = 91 ∨ b = 123) ∧ r = t) := by
  unfold skipValueStart at h
  split_ifs at h with hnull htrue hfalse hminus hdigit hquote hopen
  · -- `null`
    have hb : b = 110 := by simpa using hnull
    subst hb
    simp only [eat_bind, List.tail_cons] at h
    rw [bind_eq_ok] at h
    obtain ⟨_, s₁, hident, hpure⟩ := h
    simp only [pure_apply, EStateM.Result.ok.injEq] at hpure
    obtain ⟨rfl, rfl⟩ := hpure
    refine Or.inl ⟨rfl, [110, 117, 108, 108], ?_, Value.null⟩
    simpa using ident_sound hident
  · -- `true`
    have hb : b = 116 := by simpa using htrue
    subst hb
    simp only [eat_bind, List.tail_cons] at h
    rw [bind_eq_ok] at h
    obtain ⟨_, s₁, hident, hpure⟩ := h
    simp only [pure_apply, EStateM.Result.ok.injEq] at hpure
    obtain ⟨rfl, rfl⟩ := hpure
    refine Or.inl ⟨rfl, [116, 114, 117, 101], ?_, Value.true⟩
    simpa using ident_sound hident
  · -- `false`
    have hb : b = 102 := by simpa using hfalse
    subst hb
    simp only [eat_bind, List.tail_cons] at h
    rw [bind_eq_ok] at h
    obtain ⟨_, s₁, hident, hpure⟩ := h
    simp only [pure_apply, EStateM.Result.ok.injEq] at hpure
    obtain ⟨rfl, rfl⟩ := hpure
    refine Or.inl ⟨rfl, [102, 97, 108, 115, 101], ?_, Value.false⟩
    simpa using ident_sound hident
  · -- a negative number
    have hb : b = 45 := by simpa using hminus
    subst hb
    simp only [eat_bind, List.tail_cons] at h
    rw [bind_eq_ok] at h
    obtain ⟨_, s₁, hnum, hpure⟩ := h
    simp only [pure_apply, EStateM.Result.ok.injEq] at hpure
    obtain ⟨rfl, rfl⟩ := hpure
    obtain ⟨u, rfl, hu⟩ := skipNumber_sound hnum
    exact Or.inl ⟨rfl, 45 :: u, rfl, Value.number (Or.inr ⟨u, rfl, hu⟩)⟩
  · -- a number without a sign
    rw [bind_eq_ok] at h
    obtain ⟨_, s₁, hnum, hpure⟩ := h
    simp only [pure_apply, EStateM.Result.ok.injEq] at hpure
    obtain ⟨rfl, rfl⟩ := hpure
    obtain ⟨u, hu_eq, hu⟩ := skipNumber_sound hnum
    exact Or.inl ⟨rfl, u, hu_eq, Value.number (Or.inl hu)⟩
  · -- a string
    have hb : b = 34 := by simpa using hquote
    subst hb
    simp only [eat_bind, List.tail_cons] at h
    rw [bind_eq_ok] at h
    obtain ⟨_, s₁, hstr, hpure⟩ := h
    simp only [pure_apply, EStateM.Result.ok.injEq] at hpure
    obtain ⟨rfl, rfl⟩ := hpure
    obtain ⟨body, rfl, hbody⟩ := skipString_sound hstr
    exact Or.inl ⟨rfl, 34 :: (body ++ [34]), by simp, Value.string hbody⟩
  · -- the opening bracket of a container
    simp only [eat_bind, List.tail_cons, pure_apply, EStateM.Result.ok.injEq] at h
    obtain ⟨rfl, rfl⟩ := h
    exact Or.inr ⟨rfl, by simpa using hopen, rfl⟩
  · simp at h

/-- The key of a member skipped with the colon after it. -/
theorem skipMemberKey_sound {s r : List UInt8} (h : skipMemberKey s = .ok () r) :
    ∃ w body w₁, s = w ++ 34 :: (body ++ 34 :: (w₁ ++ 58 :: r)) ∧ Blank w ∧ Chars body ∧
      Blank w₁ := by
  unfold skipMemberKey at h
  simp only [skipBlank_bind] at h
  have hsplit := eq_takeWhile_blank s
  cases hd : s.dropWhile isBlank with
  | nil => simp [hd] at h
  | cons c t =>
    rw [hd] at h hsplit
    by_cases hc : c = 34
    · subst hc
      simp at h
      rw [bind_eq_ok] at h
      obtain ⟨_, s₁, hstr, h⟩ := h
      obtain ⟨body, rfl, hbody⟩ := skipString_sound hstr
      simp only [skipBlank_bind] at h
      have hsplit₁ := eq_takeWhile_blank s₁
      cases hd₁ : s₁.dropWhile isBlank with
      | nil => simp [hd₁] at h
      | cons c₁ t₁ =>
        rw [hd₁] at h hsplit₁
        by_cases hc₁ : c₁ = 58
        · subst hc₁
          simp at h
          subst h
          exact ⟨s.takeWhile isBlank, body, s₁.takeWhile isBlank, hsplit.trans (by rw [← hsplit₁]),
            blank_takeWhile s, hbody, blank_takeWhile s₁⟩
        · simp [hc₁] at h
    · simp [hc] at h

/-! ### Closing containers -/

/-- After a value inside `frame :: stack`, the containers that end are closed, and the reader
stops before the next item or once the outermost container is closed. -/
theorem closeContainers_sound {fuel : ℕ} {acc : Bool} {frame : UInt8} {stack s r : List UInt8}
    {res : Option (UInt8 × List UInt8)} (hf : Frames (frame :: stack))
    (h : closeContainers fuel acc frame stack s = .ok res r) :
    Closes (!acc) frame stack s r res := by
  induction fuel generalizing acc frame stack s with
  | zero => simp [closeContainers] at h
  | succ fuel ih =>
    simp only [closeContainers, skipBlank_bind] at h
    have hsplit := eq_takeWhile_blank s
    have hw := blank_takeWhile s
    cases hd : s.dropWhile isBlank with
    | nil => simp [hd] at h
    | cons b t =>
      rw [hd] at h hsplit
      simp only [List.head?_cons] at h
      by_cases hcomma : b = 44 ∧ acc = true
      · -- a comma after an element: the next item is in the same container
        obtain ⟨rfl, rfl⟩ := hcomma
        simp at h
        obtain ⟨rfl, rfl⟩ := h
        refine ⟨hf, s.takeWhile isBlank ++ [44], by simp [← hsplit], fun t' ht' => ?_⟩
        simpa using cont_next hf.head hw ht'
      rw [if_neg (by simpa using hcomma)] at h
      by_cases hclose : b = closer frame
      · -- the closing bracket: the container ends, and the one around it goes on
        rw [if_pos ((closes_iff hf.head).2 hclose)] at h
        subst hclose
        rcases stack with _ | ⟨f, rest⟩
        · simp at h
          obtain ⟨rfl, rfl⟩ := h
          exact ⟨s.takeWhile isBlank ++ [closer frame], by simp [← hsplit], cont_close hw rfl⟩
        · simp only [eat_bind, List.tail_cons] at h
          have hclosed := ih hf.tail h
          rcases res with _ | ⟨f', st'⟩
          · obtain ⟨t', rfl, ht'⟩ := hclosed
            exact ⟨s.takeWhile isBlank ++ closer frame :: t', by simp [← hsplit],
              cont_close hw (pending_cons.2 ht')⟩
          · obtain ⟨hf', c, rfl, hc⟩ := hclosed
            refine ⟨hf', s.takeWhile isBlank ++ closer frame :: c, by simp [← hsplit],
              fun t' ht' => ?_⟩
            simpa using cont_close hw (pending_cons.2 (hc t' ht'))
      · rw [if_neg (fun hb => hclose ((closes_iff hf.head).1 hb))] at h
        cases acc with
        | true => simp at h
        | false =>
          -- at the opening bracket the reader stops before the first item
          simp only [Bool.false_eq_true, ↓reduceIte, pure_apply, EStateM.Result.ok.injEq] at h
          obtain ⟨rfl, rfl⟩ := h
          exact ⟨hf, s.takeWhile isBlank, hsplit, fun t' ht' => cont_first hf.head hw ht'⟩

/-! ### Skipping values -/

theorem Frames.cons {f : UInt8} {fs : List UInt8} (hf : f = 91 ∨ f = 123) (hfs : Frames fs) :
    Frames (f :: fs) := by
  intro x hx
  rcases List.mem_cons.1 hx with rfl | hx
  · exact hf
  · exact hfs x hx

/-- Skipping reads a value after blank space and then what completes the open containers. -/
theorem skipValues_sound {fuel : ℕ} {opened s r : List UInt8} (hf : Frames opened)
    (h : skipValues fuel opened s = .ok () r) : ∃ t, s = t ++ r ∧ ValueThen opened t := by
  induction fuel generalizing opened s with
  | zero => simp [skipValues] at h
  | succ fuel ih =>
    simp only [skipValues, skipBlank_bind] at h
    have hsplit := eq_takeWhile_blank s
    cases hd : s.dropWhile isBlank with
    | nil => simp [hd] at h
    | cons b t =>
      rw [hd] at h hsplit
      simp only [List.head?_cons] at h
      rw [bind_eq_ok] at h
      obtain ⟨container, s₁, hstart, h⟩ := h
      rw [bind_eq_ok] at h
      obtain ⟨following, s₂, hclose, h⟩ := h
      -- what the rest of the run reads is an item of the container that takes it
      have hitem : ∀ f st, following = some (f, st) → Frames (f :: st) →
          ∃ t', s₂ = t' ++ r ∧ ItemThen f st t' := by
        rintro f st rfl hfst
        by_cases hobj : f = 123
        · subst hobj
          simp at h
          rw [bind_eq_ok] at h
          obtain ⟨_, s₃, hkey, hval⟩ := h
          obtain ⟨w, body, w₁, rfl, hw, hbody, hw₁⟩ := skipMemberKey_sound hkey
          obtain ⟨t'', rfl, w₂, v, p, rfl, hw₂, hv, hp⟩ := ih hfst hval
          refine ⟨w ++ 34 :: (body ++ 34 :: (w₁ ++ 58 :: (w₂ ++ v ++ p))), by simp, ?_⟩
          rw [ItemThen, if_pos rfl]
          exact ⟨w ++ 34 :: (body ++ 34 :: (w₁ ++ 58 :: (w₂ ++ v))), p, by simp,
            Member.mk hw hbody hw₁ hw₂ hv, pending_cons.1 hp⟩
        · simp [hobj] at h
          obtain ⟨t'', rfl, hvt⟩ := ih hfst h
          refine ⟨t'', rfl, ?_⟩
          rw [ItemThen, if_neg hobj]
          exact hvt
      -- the value, and what completes the containers around it
      obtain ⟨V, P, hVP, hV, hP⟩ : ∃ V P, b :: t = V ++ P ++ r ∧ Value V ∧ Pending opened P := by
        rcases skipValueStart_sound hstart with ⟨rfl, v, hv_eq, hv⟩ | ⟨rfl, hb, rfl⟩
        · -- a scalar, then the closing of the containers it stands in
          rcases opened with _ | ⟨f, rest⟩
          · simp only [closeAfter, pure_apply, EStateM.Result.ok.injEq] at hclose
            obtain ⟨rfl, rfl⟩ := hclose
            simp at h
            subst h
            exact ⟨v, [], by simp [hv_eq], hv, rfl⟩
          · simp only [closeAfter] at hclose
            have hclosed := closeContainers_sound hf hclose
            rcases following with _ | ⟨f', st'⟩
            · obtain ⟨t', rfl, ht'⟩ := hclosed
              simp at h
              subst h
              exact ⟨v, t', by simp [hv_eq], hv, pending_cons.2 ht'⟩
            · obtain ⟨hf', c, rfl, hc⟩ := hclosed
              obtain ⟨t', rfl, ht'⟩ := hitem f' st' rfl hf'
              exact ⟨v, c ++ t', by simp [hv_eq], hv, pending_cons.2 (hc t' ht')⟩
        · -- an opening bracket: the items of the new container, then its closing
          simp only [closeAfter] at hclose
          have hclosed := closeContainers_sound (Frames.cons hb hf) hclose
          rcases following with _ | ⟨f', st'⟩
          · obtain ⟨t', rfl, t₁, t₂, rfl, hrest, hp⟩ := hclosed
            simp at h
            subst h
            exact ⟨b :: t₁, t₂, by simp, value_of_rest hb hrest, hp⟩
          · obtain ⟨hf', c, rfl, hc⟩ := hclosed
            obtain ⟨t', rfl, ht'⟩ := hitem f' st' rfl hf'
            obtain ⟨t₁, t₂, ht₁₂, hrest, hp⟩ := hc t' ht'
            exact ⟨b :: t₁, t₂, by rw [← List.append_assoc c, ht₁₂]; simp, value_of_rest hb hrest, hp⟩
      exact ⟨s.takeWhile isBlank ++ V ++ P, hsplit.trans (by rw [hVP]; simp),
        s.takeWhile isBlank, V, P, rfl, blank_takeWhile s, hV, hP⟩

/-- A value skipped whole, with the blank space before it. -/
theorem skipValue_sound {s r : List UInt8} (h : skipValue s = .ok () r) :
    ∃ w v, s = w ++ v ++ r ∧ Blank w ∧ Value v := by
  obtain ⟨t, rfl, w, v, p, rfl, hw, hv, hp⟩ := skipValues_sound (fun _ hx => absurd hx List.not_mem_nil) h
  rw [pending_nil] at hp
  subst hp
  exact ⟨w, v, by simp, hw, hv⟩

end FlasherStub.Json
