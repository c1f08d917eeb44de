import FlasherStub.Proofs.Json.Skipping
import FlasherStub.Proofs.Description
import Mathlib

/-!
What a description document read from JSON writes. The reader takes the members of an object one
key at a time, or the elements of an array in order, with a reader of its own for each value it
keeps and `skipValue` for the rest. Each lemma below takes one of those readers apart against the
grammar; the members are then read by induction on the reader's fuel, with an invariant that
says what the members still to come must hold for the fields read so far to end as the
description returned. The main result, `ofJson_writes`, is that an accepted document is an
object or an array in the grammar that writes each address of the description as an integer
literal of its value, exactly once.
-/

namespace FlasherStub.Json

open Grammar Description

/-! ### Values kept and values skipped -/

/-- `read` reads one value after blank space, and what it returns is related to the text of that
value by `P`. -/
def ReadsValue {α : Type} (read : Reader α) (P : List UInt8 → α → Prop) : Prop :=
  ∀ s r a, read s = .ok a r → ∃ w v, s = w ++ v ++ r ∧ Blank w ∧ Value v ∧ P v a

/-- The text of an optional value: `null` when it has none. -/
def OptionalText {α : Type} (P : List UInt8 → α → Prop) (v : List UInt8) : Option α → Prop
  | none => v = nullText
  | some a => P v a

theorem readsValue_int128 : ReadsValue int128 Int128Lit := by
  intro s r a h
  obtain ⟨w, lit, rfl, hw, hlit⟩ := int128_sound h
  exact ⟨w, lit, rfl, hw, hlit.value, hlit⟩

theorem readsValue_skipValue : ReadsValue skipValue fun _ _ => True := by
  intro s r a h
  obtain ⟨w, v, rfl, hw, hv⟩ := skipValue_sound h
  exact ⟨w, v, rfl, hw, hv, trivial⟩

/-- Describing a value of the wrong kind always refuses. -/
theorem invalidType_ne_ok {α : Type} {wanted : Wanted} {s r : List UInt8} {a : α} :
    invalidType wanted s ≠ .ok a r := by
  intro h
  unfold invalidType at h
  rw [fixPosition_eq_ok, bind_eq_ok] at h
  obtain ⟨b, s₁, -, h⟩ := h
  split_ifs at h <;> simp [bind_eq_ok] at h

theorem stringValue_sound {s r : List UInt8} {str : String} (h : stringValue s = .ok str r) :
    ∃ w body dec, s = w ++ 34 :: (body ++ 34 :: r) ∧ Blank w ∧ Decodes body dec ∧
      str = textOf dec := by
  unfold stringValue at h
  rw [fixPosition_eq_ok] at h
  simp only [skipBlank_bind] at h
  have hsplit := eq_takeWhile_blank s
  cases hd : s.dropWhile isBlank with
  | nil => simp [hd] at h
  | cons b t =>
    rw [hd] at h hsplit
    by_cases hq : b = 34
    · subst hq
      simp at h
      obtain ⟨body, dec, rfl, hdec, rfl⟩ := string_sound h
      exact ⟨_, body, dec, hsplit, blank_takeWhile s, hdec, rfl⟩
    · simp [hq] at h
      exact absurd h invalidType_ne_ok

theorem readsValue_stringValue : ReadsValue stringValue fun _ _ => True := by
  intro s r a h
  obtain ⟨w, body, dec, rfl, hw, hdec, -⟩ := stringValue_sound h
  exact ⟨w, 34 :: (body ++ [34]), by simp, hw, Value.string hdec.chars, trivial⟩

/-- What `optional read` found after blank space: `null`, or a value that `read` reads. -/
def OptionalRead {α : Type} (read : Reader α) (s r : List UInt8) : Option α → Prop
  | none => s = nullText ++ r
  | some a => read s = .ok a r

/-- A value that may be `null`: the reader for the value runs after the blank space. -/
theorem optional_sound {α : Type} {read : Reader α} {s r : List UInt8} {x : Option α}
    (h : optional read s = .ok x r) :
    ∃ w s', s = w ++ s' ∧ Blank w ∧ OptionalRead read s' r x := by
  unfold optional at h
  simp only [skipBlank_bind] at h
  have hsplit := eq_takeWhile_blank s
  refine ⟨s.takeWhile isBlank, s.dropWhile isBlank, hsplit, blank_takeWhile s, ?_⟩
  cases hd : s.dropWhile isBlank with
  | nil =>
    rw [hd] at h
    simp only [List.head?_nil] at h
    obtain ⟨a, hread, rfl⟩ := map_eq_ok.1 h
    exact hread
  | cons b t =>
    rw [hd] at h
    by_cases hn : b = 110
    · -- `null`
      subst hn
      simp at h
      obtain ⟨_, hident, rfl⟩ := map_eq_ok.1 h
      simpa [OptionalRead, nullText] using ident_sound hident
    · simp [hn] at h
      obtain ⟨a, hread, rfl⟩ := map_eq_ok.1 h
      exact hread

theorem readsValue_optional {α : Type} {read : Reader α} {P : List UInt8 → α → Prop}
    (hread : ReadsValue read P) : ReadsValue (optional read) (OptionalText P) := by
  intro s r x h
  obtain ⟨w, s', rfl, hw, hx⟩ := optional_sound h
  cases x with
  | none =>
    simp only [OptionalRead] at hx
    subst hx
    exact ⟨w, nullText, by simp, hw, Value.null, rfl⟩
  | some a =>
    obtain ⟨w', v, rfl, hw', hv, hP⟩ := hread s' r a hx
    exact ⟨w ++ w', v, by simp, blank_append hw hw', hv, hP⟩

/-! ### Keys and members -/

/-- The separator before a member or element: nothing before the first, blank space and a comma
before the others. -/
def Sep : Bool → List UInt8 → Prop
  | true, sep => sep = []
  | false, sep => ∃ w, sep = w ++ [44] ∧ Blank w

/-- Storing a field that was not given yet reads the colon and then its value. -/
theorem store_sound {α : Type} {k : Key} {slot : Option α} {read : Reader α} {s r : List UInt8}
    {a : α} (h : store k slot read s = .ok a r) :
    slot = none ∧ ∃ w s', s = w ++ 58 :: s' ∧ Blank w ∧ read s' = .ok a r := by
  unfold store at h
  cases slot with
  | some v => simp at h
  | none =>
    simp only [Option.isSome_none, Bool.false_eq_true, ↓reduceIte] at h
    rw [bind_eq_ok] at h
    obtain ⟨_, s', hcolon, hread⟩ := h
    obtain ⟨w, rfl, hw⟩ := colon_sound hcolon
    exact ⟨rfl, w, s', rfl, hw, hread⟩

/-- What `nextKey` read: blank space before the closing brace, or the separator and the key
of the next member. -/
def KeyRead (first : Bool) (s r : List UInt8) : Option String → Prop
  | none => ∃ w, s = w ++ r ∧ Blank w
  | some name => ∃ sep w body dec, s = sep ++ w ++ 34 :: (body ++ 34 :: r) ∧ Sep first sep ∧
      Blank w ∧ Decodes body dec ∧ textOf dec = name

/-- The key of the next member, or the end of the object. -/
theorem nextKey_sound {first : Bool} {s r : List UInt8} {x : Option String}
    (h : nextKey first s = .ok x r) : KeyRead first s r x := by
  unfold nextKey at h
  simp only [skipBlank_bind] at h
  have hsplit := eq_takeWhile_blank s
  have hw := blank_takeWhile s
  cases hd : s.dropWhile isBlank with
  | nil => cases first <;> simp [hd] at h
  | cons b t =>
    rw [hd] at h hsplit
    simp only [List.head?_cons] at h
    by_cases hclose : b = 125
    · -- the closing brace, not consumed
      subst hclose
      simp at h
      obtain ⟨rfl, rfl⟩ := h
      exact ⟨_, hsplit, hw⟩
    by_cases hcomma : b = 44 ∧ first = false
    · -- a comma after a member, then the key after blank space
      obtain ⟨rfl, rfl⟩ := hcomma
      simp at h
      have hsplit' := eq_takeWhile_blank t
      cases hd' : t.dropWhile isBlank with
      | nil => simp [hd'] at h
      | cons c t' =>
        rw [hd'] at h hsplit'
        simp only [List.head?_cons] at h
        by_cases hq : c = 34
        · subst hq
          simp at h
          obtain ⟨str, hstr, rfl⟩ := map_eq_ok.1 h
          obtain ⟨body, dec, rfl, hdec, rfl⟩ := string_sound hstr
          refine ⟨s.takeWhile isBlank ++ [44], t.takeWhile isBlank, body, dec, ?_,
            ⟨_, rfl, hw⟩, blank_takeWhile t, hdec, rfl⟩
          conv_lhs => rw [hsplit, hsplit']
          simp
        · simp [hq] at h
          split_ifs at h <;> simp at h
    · cases first with
      | false =>
        have hb : b ≠ 44 := fun hb => hcomma ⟨hb, rfl⟩
        simp [hclose, hb] at h
      | true =>
        -- the first key, right after the opening brace
        by_cases hq : b = 34
        · subst hq
          simp at h
          obtain ⟨str, hstr, rfl⟩ := map_eq_ok.1 h
          obtain ⟨body, dec, rfl, hdec, rfl⟩ := string_sound hstr
          exact ⟨[], s.takeWhile isBlank, body, dec, by simpa using hsplit, rfl, hw, hdec, rfl⟩
        · simp [hclose, hq] at h

/-! ### The fields read so far -/

/-- What the members still to come must give for a slot of the fields read so far to end as
`v`: a filled slot is given no more members of its name and keeps its value, and an empty one
is given by them as `Given` says. -/
def SlotAgrees {β : Type} (Given : List (String × List UInt8) → String → β → Prop)
    (slot : Option β) (ms : List (String × List UInt8)) (name : String) (v : β) : Prop :=
  match slot with
  | some v₀ => ms.filter (·.1 = name) = [] ∧ v = v₀
  | none => Given ms name v

/-- The invariant of reading members: the address slots of the fields `f`, with the members
`ms` still to come, end as the addresses of `d`. -/
def FieldsAgree (f : Fields) (ms : List (String × List UInt8)) (d : Description) : Prop :=
  SlotAgrees AddressAt f.entry ms "entry" d.entry ∧
    SlotAgrees AddressAt f.textStart ms "text_start" d.textStart ∧
    SlotAgrees OptionalAddressAt f.dataStart ms "data_start" d.dataStart

theorem filter_name_cons_of_ne {n name : String} {v : List UInt8}
    {ms : List (String × List UInt8)} (h : n ≠ name) :
    ((n, v) :: ms).filter (·.1 = name) = ms.filter (·.1 = name) := by
  simp [h]

theorem filter_name_cons_self {name : String} {v : List UInt8} {ms : List (String × List UInt8)}
    (h : ms.filter (·.1 = name) = []) : ((name, v) :: ms).filter (·.1 = name) = [(name, v)] := by
  simp [h]

theorem addressAt_cons_of_ne {n name : String} {v : List UInt8} {ms : List (String × List UInt8)}
    {x : Int} (h : n ≠ name) : AddressAt ((n, v) :: ms) name x ↔ AddressAt ms name x := by
  simp only [AddressAt, filter_name_cons_of_ne h]

theorem optionalAddressAt_cons_of_ne {n name : String} {v : List UInt8}
    {ms : List (String × List UInt8)} {x : Option Int} (h : n ≠ name) :
    OptionalAddressAt ((n, v) :: ms) name x ↔ OptionalAddressAt ms name x := by
  cases x <;> simp only [OptionalAddressAt, AddressAt, filter_name_cons_of_ne h]

/-- A member of another name leaves a slot as it was. -/
theorem SlotAgrees.cons_of_ne {β : Type} {Given : List (String × List UInt8) → String → β → Prop}
    {slot : Option β} {ms : List (String × List UInt8)} {n name : String} {v : List UInt8}
    {y : β} (hGiven : ∀ ms y, Given ((n, v) :: ms) name y ↔ Given ms name y) (h : n ≠ name)
    (hslot : SlotAgrees Given slot ms name y) : SlotAgrees Given slot ((n, v) :: ms) name y := by
  cases slot with
  | some v₀ =>
    obtain ⟨hnil, rfl⟩ := hslot
    exact ⟨by rw [filter_name_cons_of_ne h, hnil], rfl⟩
  | none => exact (hGiven ms y).2 hslot

theorem FieldsAgree.cons_other {f : Fields} {ms : List (String × List UInt8)} {d : Description}
    {n : String} {v : List UInt8} (h₁ : n ≠ "entry") (h₂ : n ≠ "text_start")
    (h₃ : n ≠ "data_start") (h : FieldsAgree f ms d) : FieldsAgree f ((n, v) :: ms) d :=
  ⟨h.1.cons_of_ne (fun _ _ => addressAt_cons_of_ne h₁) h₁,
    h.2.1.cons_of_ne (fun _ _ => addressAt_cons_of_ne h₂) h₂,
    h.2.2.cons_of_ne (fun _ _ => optionalAddressAt_cons_of_ne h₃) h₃⟩

/-- The member that fills an empty address slot gives the literal of its value. -/
theorem addressAt_of_slot {ms : List (String × List UInt8)} {name : String} {v : List UInt8}
    {x y : Int} (hv : Int128Lit v x) (h : SlotAgrees AddressAt (some x) ms name y) :
    AddressAt ((name, v) :: ms) name y := by
  obtain ⟨hnil, rfl⟩ := h
  exact ⟨v, filter_name_cons_self hnil, hv⟩

theorem optionalAddressAt_of_slot {ms : List (String × List UInt8)} {name : String}
    {v : List UInt8} {x y : Option Int} (hv : OptionalText Int128Lit v x)
    (h : SlotAgrees OptionalAddressAt (some x) ms name y) :
    OptionalAddressAt ((name, v) :: ms) name y := by
  obtain ⟨hnil, rfl⟩ := h
  cases y with
  | none =>
    simp only [OptionalText] at hv
    subst hv
    exact Or.inr (filter_name_cons_self hnil)
  | some n => exact ⟨v, filter_name_cons_self hnil, hv⟩

theorem FieldsAgree.cons_entry {f : Fields} {ms : List (String × List UInt8)} {d : Description}
    {v : List UInt8} {x : Int} (hv : Int128Lit v x) (h : FieldsAgree { f with entry := some x } ms d)
    (hslot : f.entry = none) : FieldsAgree f (("entry", v) :: ms) d := by
  refine ⟨?_, h.2.1.cons_of_ne (fun _ _ => addressAt_cons_of_ne (by decide)) (by decide),
    h.2.2.cons_of_ne (fun _ _ => optionalAddressAt_cons_of_ne (by decide)) (by decide)⟩
  rw [hslot]
  exact addressAt_of_slot hv h.1

theorem FieldsAgree.cons_textStart {f : Fields} {ms : List (String × List UInt8)}
    {d : Description} {v : List UInt8} {x : Int} (hv : Int128Lit v x)
    (h : FieldsAgree { f with textStart := some x } ms d) (hslot : f.textStart = none) :
    FieldsAgree f (("text_start", v) :: ms) d := by
  refine ⟨h.1.cons_of_ne (fun _ _ => addressAt_cons_of_ne (by decide)) (by decide), ?_,
    h.2.2.cons_of_ne (fun _ _ => optionalAddressAt_cons_of_ne (by decide)) (by decide)⟩
  rw [hslot]
  exact addressAt_of_slot hv h.2.1

theorem FieldsAgree.cons_dataStart {f : Fields} {ms : List (String × List UInt8)}
    {d : Description} {v : List UInt8} {x : Option Int} (hv : OptionalText Int128Lit v x)
    (h : FieldsAgree { f with dataStart := some x } ms d) (hslot : f.dataStart = none) :
    FieldsAgree f (("data_start", v) :: ms) d := by
  refine ⟨h.1.cons_of_ne (fun _ _ => addressAt_cons_of_ne (by decide)) (by decide),
    h.2.1.cons_of_ne (fun _ _ => addressAt_cons_of_ne (by decide)) (by decide), ?_⟩
  rw [hslot]
  exact optionalAddressAt_of_slot hv h.2.2

/-- Complete fields agree with the description they make, with no members to come. -/
theorem finish_sound {f : Fields} {s r : List UInt8} {d : Description}
    (h : f.finish s = .ok d r) : s = r ∧ FieldsAgree f [] d := by
  obtain ⟨e, t, ts, da, ds⟩ := f
  cases e with
  | none => simp [Fields.finish] at h
  | some e =>
    cases t with
    | none => simp [Fields.finish] at h
    | some t =>
      cases ts with
      | none => simp [Fields.finish] at h
      | some ts =>
        simp only [Fields.finish, pure_apply, EStateM.Result.ok.injEq] at h
        obtain ⟨rfl, rfl⟩ := h
        refine ⟨rfl, ⟨rfl, rfl⟩, ⟨rfl, rfl⟩, ?_⟩
        cases ds with
        | none => exact Or.inl rfl
        | some x => exact ⟨rfl, rfl⟩

/-! ### Reading the members of an object -/

/-- A member after its separator, then the members after it. -/
theorem members_cons {first : Bool} {sep w body dec w₁ w₂ v t : List UInt8} {name : String}
    {ms : List (String × List UInt8)} (hsep : Sep first sep) (hw : Blank w)
    (hdec : Decodes body dec) (hname : textOf dec = name) (hw₁ : Blank w₁) (hw₂ : Blank w₂)
    (hv : Value v) (hms : Members false ms t) :
    Members first ((name, v) :: ms)
      (sep ++ w ++ 34 :: (body ++ 34 :: (w₁ ++ 58 :: (w₂ ++ v ++ t)))) := by
  have hm : MemberText name v (w ++ 34 :: (body ++ 34 :: (w₁ ++ 58 :: (w₂ ++ v)))) :=
    ⟨w, body, dec, w₁, w₂, rfl, hw, hdec, hname, hw₁, hw₂, hv⟩
  cases first with
  | true =>
    simp only [Sep] at hsep
    subst hsep
    simpa using Members.member hm hms
  | false =>
    obtain ⟨w₀, rfl, hw₀⟩ := hsep
    simpa using Members.next hw₀ hm hms

/-- A member whose value is kept: its colon, its value, and what the reader does after. -/
theorem stored_sound {α : Type} {read : Reader α} {P : List UInt8 → α → Prop}
    (hread : ReadsValue read P) {k : Key} {slot : Option α} {next : α → Reader Description}
    {s r : List UInt8} {d : Description} (h : (store k slot read >>= next) s = .ok d r) :
    slot = none ∧ ∃ a w₁ w₂ v s', s = w₁ ++ 58 :: (w₂ ++ v ++ s') ∧ Blank w₁ ∧ Blank w₂ ∧
      Value v ∧ P v a ∧ next a s' = .ok d r := by
  rw [bind_eq_ok] at h
  obtain ⟨a, s₁, hstore, hnext⟩ := h
  obtain ⟨rfl, w₁, s', rfl, hw₁, hval⟩ := store_sound hstore
  obtain ⟨w₂, v, rfl, hw₂, hv, hP⟩ := hread s' s₁ a hval
  exact ⟨rfl, a, w₁, w₂, v, s₁, by simp, hw₁, hw₂, hv, hP, hnext⟩

/-- The members read after the opening brace (`first`) or a member: their text, and the
invariant that ties the fields read so far to the description returned. -/
theorem members_sound {fuel : ℕ} {first : Bool} {f : Fields} {s r : List UInt8}
    {d : Description} (h : members fuel first f s = .ok d r) :
    ∃ ms body, s = body ++ r ∧ Members first ms body ∧ FieldsAgree f ms d := by
  induction fuel generalizing first f s with
  | zero =>
    obtain ⟨rfl, hagree⟩ := finish_sound h
    exact ⟨[], [], rfl, Members.stop blank_nil, hagree⟩
  | succ fuel ih =>
    simp only [members] at h
    rw [bind_eq_ok] at h
    obtain ⟨key, s₁, hkey, h⟩ := h
    have hread := nextKey_sound hkey
    cases key with
    | none =>
      -- the end of the object: the fields are complete
      obtain ⟨w, rfl, hw⟩ := hread
      obtain ⟨rfl, hagree⟩ := finish_sound h
      exact ⟨[], w, by simp, Members.stop hw, hagree⟩
    | some name =>
      obtain ⟨sep, w, body, dec, rfl, hsep, hw, hdec, hname⟩ := hread
      cases hk : Key.ofName? name with
      | none =>
        -- a key of no field: its value is skipped
        simp only [hk] at h
        rw [bind_eq_ok] at h
        obtain ⟨_, s₂, hcolon, h⟩ := h
        obtain ⟨w₁, rfl, hw₁⟩ := colon_sound hcolon
        rw [bind_eq_ok] at h
        obtain ⟨_, s₃, hskip, hrest⟩ := h
        obtain ⟨w₂, v, rfl, hw₂, hv, -⟩ := readsValue_skipValue s₂ s₃ () hskip
        obtain ⟨ms, t, rfl, hms, hagree⟩ := ih hrest
        have hother := Key.ne_name_of_ofName?_eq_none hk
        exact ⟨(name, v) :: ms, _, by simp, members_cons hsep hw hdec hname hw₁ hw₂ hv hms,
          hagree.cons_other (hother .entry) (hother .textStart) (hother .dataStart)⟩
      | some k =>
        have hn := Key.ofName?_eq_some_iff.mp hk
        cases k with
        | entry =>
          simp only [hk] at h
          obtain ⟨hslot, x, w₁, w₂, v, s', rfl, hw₁, hw₂, hv, hx, hrest⟩ :=
            stored_sound readsValue_int128 h
          obtain ⟨ms, t, rfl, hms, hagree⟩ := ih hrest
          subst hn
          exact ⟨(_, v) :: ms, _, by simp, members_cons hsep hw hdec hname hw₁ hw₂ hv hms,
            hagree.cons_entry hx hslot⟩
        | text =>
          simp only [hk] at h
          obtain ⟨-, x, w₁, w₂, v, s', rfl, hw₁, hw₂, hv, -, hrest⟩ :=
            stored_sound readsValue_stringValue h
          obtain ⟨ms, t, rfl, hms, hagree⟩ := ih hrest
          subst hn
          exact ⟨(_, v) :: ms, _, by simp, members_cons hsep hw hdec hname hw₁ hw₂ hv hms,
            hagree.cons_other (by decide) (by decide) (by decide)⟩
        | textStart =>
          simp only [hk] at h
          obtain ⟨hslot, x, w₁, w₂, v, s', rfl, hw₁, hw₂, hv, hx, hrest⟩ :=
            stored_sound readsValue_int128 h
          obtain ⟨ms, t, rfl, hms, hagree⟩ := ih hrest
          subst hn
          exact ⟨(_, v) :: ms, _, by simp, members_cons hsep hw hdec hname hw₁ hw₂ hv hms,
            hagree.cons_textStart hx hslot⟩
        | data =>
          simp only [hk] at h
          obtain ⟨-, x, w₁, w₂, v, s', rfl, hw₁, hw₂, hv, -, hrest⟩ :=
            stored_sound (readsValue_optional readsValue_stringValue) h
          obtain ⟨ms, t, rfl, hms, hagree⟩ := ih hrest
          subst hn
          exact ⟨(_, v) :: ms, _, by simp, members_cons hsep hw hdec hname hw₁ hw₂ hv hms,
            hagree.cons_other (by decide) (by decide) (by decide)⟩
        | dataStart =>
          simp only [hk] at h
          obtain ⟨hslot, x, w₁, w₂, v, s', rfl, hw₁, hw₂, hv, hx, hrest⟩ :=
            stored_sound (readsValue_optional readsValue_int128) h
          obtain ⟨ms, t, rfl, hms, hagree⟩ := ih hrest
          subst hn
          exact ⟨(_, v) :: ms, _, by simp, members_cons hsep hw hdec hname hw₁ hw₂ hv hms,
            hagree.cons_dataStart hx hslot⟩

/-! ### Reading the elements of an array -/

/-- What `nextElement` read: blank space before the closing bracket, not consumed, or the
separator of the next element and the blank space before it. -/
def ElementRead {α : Type} (first : Bool) (read : Reader α) (s r : List UInt8) :
    Option α → Prop
  | none => ∃ w, s = w ++ r ∧ Blank w ∧ r.head? = some 93
  | some a => ∃ sep w s', s = sep ++ w ++ s' ∧ Sep first sep ∧ Blank w ∧ read s' = .ok a r

/-- The next element of an array, or its end. -/
theorem nextElement_sound {α : Type} {first : Bool} {read : Reader α} {s r : List UInt8}
    {x : Option α} (h : nextElement first read s = .ok x r) : ElementRead first read s r x := by
  unfold nextElement at h
  simp only [skipBlank_bind] at h
  have hsplit := eq_takeWhile_blank s
  have hw := blank_takeWhile s
  cases hd : s.dropWhile isBlank with
  | nil => cases first <;> simp [hd] at h
  | cons b t =>
    rw [hd] at h hsplit
    simp only [List.head?_cons] at h
    by_cases hclose : b = 93
    · -- the closing bracket, not consumed
      subst hclose
      simp at h
      obtain ⟨rfl, rfl⟩ := h
      exact ⟨_, hsplit, hw, rfl⟩
    by_cases hcomma : b = 44 ∧ first = false
    · -- a comma after an element, then the element after blank space
      obtain ⟨rfl, rfl⟩ := hcomma
      simp at h
      have hsplit' := eq_takeWhile_blank t
      cases hd' : t.dropWhile isBlank with
      | nil => simp [hd'] at h
      | cons c t' =>
        rw [hd'] at h hsplit'
        simp only [List.head?_cons] at h
        by_cases hc : c = 93
        · simp [hc] at h
        · simp [hc] at h
          obtain ⟨a, hread, rfl⟩ := map_eq_ok.1 h
          refine ⟨s.takeWhile isBlank ++ [44], t.takeWhile isBlank, c :: t', ?_, ⟨_, rfl, hw⟩,
            blank_takeWhile t, hread⟩
          conv_lhs => rw [hsplit, hsplit']
          simp
    · cases first with
      | false =>
        have hb : b ≠ 44 := fun hb => hcomma ⟨hb, rfl⟩
        simp [hclose, hb] at h
      | true =>
        -- the first element, right after the opening bracket
        simp [hclose] at h
        obtain ⟨a, hread, rfl⟩ := map_eq_ok.1 h
        exact ⟨[], s.takeWhile isBlank, b :: t, by simpa using hsplit, rfl, hw, hread⟩

/-- At the closing bracket there is no next element. -/
theorem nextElement_close {α : Type} {first : Bool} {read : Reader α} (t : List UInt8) :
    nextElement first read (93 :: t) = .ok none (93 :: t) := by
  cases first <;> simp [nextElement, isBlank]

/-- An element read whole: its separator, the blank space before it, and its value. -/
theorem element_sound {α : Type} {read : Reader α} {P : List UInt8 → α → Prop}
    (hread : ReadsValue read P) {first : Bool} {s r : List UInt8} {a : α}
    (h : nextElement first read s = .ok (some a) r) :
    ∃ sep w v, s = sep ++ w ++ v ++ r ∧ Sep first sep ∧ Blank w ∧ Value v ∧ P v a := by
  obtain ⟨sep, w, s', rfl, hsep, hw, hs'⟩ := nextElement_sound h
  obtain ⟨w', v, rfl, hw', hv, hP⟩ := hread s' r a hs'
  exact ⟨sep, w ++ w', v, by simp, hsep, blank_append hw hw', hv, hP⟩

theorem required_sound {α : Type} {index : ℕ} {first : Bool} {read : Reader α}
    {s r : List UInt8} {a : α} (h : required index first read s = .ok a r) :
    nextElement first read s = .ok (some a) r := by
  unfold required at h
  rw [bind_eq_ok] at h
  obtain ⟨x, s', hx, h⟩ := h
  cases x with
  | none => simp at h
  | some v =>
    simp only [pure_apply, EStateM.Result.ok.injEq] at h
    obtain ⟨rfl, rfl⟩ := h
    exact hx

/-- An element after its separator, then the elements after it. -/
theorem elements_cons {first : Bool} {sep w v t : List UInt8} {vs : List (List UInt8)}
    (hsep : Sep first sep) (hw : Blank w) (hv : Value v) (hvs : Elements false vs t) :
    Elements first (v :: vs) (sep ++ w ++ v ++ t) := by
  cases first with
  | true =>
    simp only [Sep] at hsep
    subst hsep
    simpa using Elements.element hw hv hvs
  | false =>
    obtain ⟨w₀, rfl, hw₀⟩ := hsep
    simpa using Elements.next hw₀ hw hv hvs

/-- The two optional elements of the array form, the data segment and its address. -/
theorem optionalElements_sound {s s' r : List UInt8} {data : Option (Option String)}
    {ds : Option (Option Int)} (hdata : nextElement false (optional stringValue) s = .ok data s')
    (hds : nextElement false (optional int128) s' = .ok ds r) :
    ∃ tail vs, s = tail ++ r ∧ Elements false vs tail ∧ OptionalAddressIn vs 1 (ds.getD none) := by
  cases data with
  | none =>
    -- no data segment: the bracket that closes the array stops both readers
    obtain ⟨w, rfl, hw, hclose⟩ := nextElement_sound hdata
    obtain ⟨t, rfl⟩ : ∃ t, s' = 93 :: t := by
      cases s' with
      | nil => simp at hclose
      | cons b t => simp only [List.head?_cons, Option.some.injEq] at hclose; exact ⟨t, by rw [hclose]⟩
    rw [nextElement_close] at hds
    simp only [EStateM.Result.ok.injEq] at hds
    obtain ⟨rfl, rfl⟩ := hds
    exact ⟨w, [], rfl, Elements.stop hw, Or.inl rfl⟩
  | some x =>
    obtain ⟨sep, w, v, rfl, hsep, hw, hv, -⟩ :=
      element_sound (readsValue_optional readsValue_stringValue) hdata
    cases ds with
    | none =>
      obtain ⟨w', rfl, hw', -⟩ := nextElement_sound hds
      exact ⟨sep ++ w ++ v ++ w', [v], by simp, elements_cons hsep hw hv (Elements.stop hw'),
        Or.inl rfl⟩
    | some y =>
      obtain ⟨sep', w', v', rfl, hsep', hw', hv', hy⟩ :=
        element_sound (readsValue_optional readsValue_int128) hds
      refine ⟨sep ++ w ++ v ++ (sep' ++ w' ++ v'), [v, v'], by simp,
        elements_cons hsep hw hv (by simpa using elements_cons hsep' hw' hv' (Elements.stop blank_nil)), ?_⟩
      cases y with
      | none =>
        simp only [OptionalText] at hy
        subst hy
        exact Or.inr rfl
      | some n => exact ⟨v', rfl, hy⟩

/-- The array form: the three required elements, then the optional ones. -/
theorem elements_sound {s r : List UInt8} {d : Description} (h : elements s = .ok d r) :
    ∃ vs body, s = body ++ r ∧ Elements true vs body ∧ AddressIn vs 0 d.entry ∧
      AddressIn vs 2 d.textStart ∧ OptionalAddressIn vs 4 d.dataStart := by
  unfold elements at h
  rw [bind_eq_ok] at h
  obtain ⟨e, s₁, he, h⟩ := h
  rw [bind_eq_ok] at h
  obtain ⟨t, s₂, ht, h⟩ := h
  rw [bind_eq_ok] at h
  obtain ⟨ts, s₃, hts, h⟩ := h
  rw [bind_eq_ok] at h
  obtain ⟨data, s₄, hdata, h⟩ := h
  rw [bind_eq_ok] at h
  obtain ⟨ds, s₅, hds, h⟩ := h
  simp only [pure_apply, EStateM.Result.ok.injEq] at h
  obtain ⟨rfl, rfl⟩ := h
  obtain ⟨sep₀, w₀, v₀, rfl, hsep₀, hw₀, hv₀, hentry⟩ :=
    element_sound readsValue_int128 (required_sound he)
  obtain ⟨sep₁, w₁, v₁, rfl, hsep₁, hw₁, hv₁, -⟩ :=
    element_sound readsValue_stringValue (required_sound ht)
  obtain ⟨sep₂, w₂, v₂, rfl, hsep₂, hw₂, hv₂, htextStart⟩ :=
    element_sound readsValue_int128 (required_sound hts)
  obtain ⟨tail, vs, rfl, htail, hopt⟩ := optionalElements_sound hdata hds
  refine ⟨v₀ :: v₁ :: v₂ :: vs,
    sep₀ ++ w₀ ++ v₀ ++ (sep₁ ++ w₁ ++ v₁ ++ (sep₂ ++ w₂ ++ v₂ ++ tail)), by simp, ?_,
    ⟨v₀, rfl, hentry⟩, ⟨v₂, rfl, htextStart⟩, hopt⟩
  exact elements_cons hsep₀ hw₀ hv₀
    (elements_cons hsep₁ hw₁ hv₁ (elements_cons hsep₂ hw₂ hv₂ htail))

/-! ### Documents -/

theorem endObject_sound {s r : List UInt8} (h : endObject s = .ok () r) :
    ∃ w, s = w ++ 125 :: r ∧ Blank w := by
  unfold endObject at h
  simp only [skipBlank_bind] at h
  have hsplit := eq_takeWhile_blank s
  cases hd : s.dropWhile isBlank with
  | nil => simp [hd] at h
  | cons b t =>
    rw [hd] at h hsplit
    by_cases hb : b = 125
    · subst hb
      simp at h
      subst h
      exact ⟨_, hsplit, blank_takeWhile s⟩
    · simp [hb] at h
      split_ifs at h <;> simp at h

theorem endArray_sound {s r : List UInt8} (h : endArray s = .ok () r) :
    ∃ w, s = w ++ 93 :: r ∧ Blank w := by
  unfold endArray at h
  simp only [skipBlank_bind] at h
  have hsplit := eq_takeWhile_blank s
  cases hd : s.dropWhile isBlank with
  | nil => simp [hd] at h
  | cons b t =>
    rw [hd] at h hsplit
    by_cases hb : b = 93
    · subst hb
      simp at h
      subst h
      exact ⟨_, hsplit, blank_takeWhile s⟩
    by_cases hc : b = 44
    · -- a comma before the end is refused, whatever follows it
      subst hc
      simp at h
      cases hd' : t.dropWhile isBlank with
      | nil => simp [hd'] at h
      | cons c t' =>
        rw [hd'] at h
        simp only [List.head?_cons] at h
        split_ifs at h <;> simp at h
    · simp [hb, hc] at h

theorem closing_eq_ok {α : Type} {body : Reader α} {close : Reader Unit} {s r : List UInt8}
    {a : α} (h : closing body close s = .ok a r) :
    ∃ s', body s = .ok a s' ∧ close s' = .ok () r := by
  unfold closing at h
  cases hb : body s with
  | ok b s' =>
    cases hc : close s' with
    | ok u s'' =>
      simp only [hb, hc, EStateM.Result.ok.injEq] at h
      obtain ⟨rfl, rfl⟩ := h
      exact ⟨s', rfl, hc⟩
    | error e s'' => simp [hb, hc] at h
  | error e s' =>
    cases hc : close s' <;> simp [hb, hc] at h

/-- A description read as an object or an array is a document that writes its addresses, up to
the blank space that may follow it. -/
theorem description_sound {s r : List UInt8} {d : Description} (h : description s = .ok d r) :
    ∃ t, s = t ++ r ∧ ∀ w, Blank w → Writes d (t ++ w) := by
  unfold description at h
  rw [fixPosition_eq_ok] at h
  simp only [skipBlank_bind] at h
  have hsplit := eq_takeWhile_blank s
  have hw₁ := blank_takeWhile s
  cases hd : s.dropWhile isBlank with
  | nil => simp [hd] at h
  | cons b t =>
    rw [hd] at h hsplit
    by_cases hopen : b = 91
    · -- the array form
      subst hopen
      simp at h
      obtain ⟨s₁, hbody, hclose⟩ := closing_eq_ok h
      obtain ⟨vs, body, rfl, hvs, he, hts, hds⟩ := elements_sound hbody
      obtain ⟨w, rfl, hw⟩ := endArray_sound hclose
      refine ⟨s.takeWhile isBlank ++ 91 :: (body ++ w ++ [93]), hsplit.trans (by simp),
        fun w₂ hw₂ => Or.inr ⟨vs, ?_, he, hts, hds⟩⟩
      exact ⟨s.takeWhile isBlank, body ++ w, w₂, by simp, hw₁, hvs.append_blank hw, hw₂⟩
    by_cases hobj : b = 123
    · -- the object form
      subst hobj
      simp at h
      obtain ⟨s₁, hbody, hclose⟩ := closing_eq_ok h
      obtain ⟨ms, body, rfl, hms, he, hts, hds⟩ := members_sound hbody
      obtain ⟨w, rfl, hw⟩ := endObject_sound hclose
      refine ⟨s.takeWhile isBlank ++ 123 :: (body ++ w ++ [125]), hsplit.trans (by simp),
        fun w₂ hw₂ => Or.inl ⟨ms, ?_, he, hts, hds⟩⟩
      exact ⟨s.takeWhile isBlank, body ++ w, w₂, by simp, hw₁, hms.append_blank hw, hw₂⟩
    · simp [hopen, hobj] at h
      exact absurd h invalidType_ne_ok

/-- An accepted document, blank space after it included. -/
theorem document_sound {s r : List UInt8} {d : Description} (h : document s = .ok d r) :
    Writes d s := by
  unfold document at h
  rw [bind_eq_ok] at h
  obtain ⟨d', s₁, hdesc, h⟩ := h
  obtain ⟨t, rfl, hwrites⟩ := description_sound hdesc
  simp only [skipBlank_bind] at h
  cases hd : s₁.dropWhile isBlank with
  | nil =>
    rw [hd] at h
    simp only [List.head?_nil, pure_apply, EStateM.Result.ok.injEq] at h
    obtain ⟨rfl, -⟩ := h
    have hsplit := eq_takeWhile_blank s₁
    rw [hd, List.append_nil] at hsplit
    rw [hsplit]
    exact hwrites _ (blank_takeWhile s₁)
  | cons b t' =>
    rw [hd] at h
    simp at h

/-- A description read from JSON text is written in it: the text is an object or an array of
the grammar, and it gives each address of the description as an integer literal of its value,
exactly once, the optional one absent or `null` when the description has none. -/
theorem ofJson_writes {text : String} {d : Description} (h : Description.ofJson text = .ok d) :
    Writes d text.toUTF8.toList := by
  unfold Description.ofJson at h
  dsimp only at h
  split at h
  · next d' r hdoc =>
    simp only [Except.ok.injEq] at h
    subst h
    exact document_sound hdoc
  · simp at h

end FlasherStub.Json
