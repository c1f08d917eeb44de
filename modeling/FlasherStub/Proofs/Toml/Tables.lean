import FlasherStub.Toml.Document
import FlasherStub.Proofs.Except
import Mathlib

/-!
Where the values of a TOML document's root table come from.

A line `key = value` before the first header assigns to the root table; every later line either
assigns inside a section's table or names a table or an array of tables. The main statement,
`tableOf_assigned`, follows the tables built from a document's lines: the root's keys are
distinct, and under each name the root holds a value that a line can assign (a scalar, an array
written as a value or an inline table) exactly when one line of the root section assigns that
name alone, and then it holds the value that line builds. Headers and dotted keys only ever put
tables and arrays of tables in the root, and never replace an assigned value.
-/

namespace FlasherStub.Toml

open FlasherStub.Except

/-! ## Tables as lookups -/

namespace Table

/-- The keys of a table are distinct. -/
def Keyed (t : Table) : Prop := (t.map Prod.fst).Nodup

@[simp] theorem get?_nil (k : String) : Table.get? [] k = none := rfl

theorem get?_cons (t : Table) (k k' : String) (v : Value) :
    Table.get? ((k', v) :: t) k = if k' = k then some v else t.get? k := by
  by_cases h : k' = k <;> simp [get?, h]

theorem get?_append_singleton (t : Table) (k k' : String) (v : Value) :
    (t ++ [(k', v)]).get? k = (t.get? k).or (if k' = k then some v else none) := by
  induction t with
  | nil => by_cases h : k' = k <;> simp [get?, h]
  | cons e t ih =>
    obtain ⟨l, w⟩ := e
    by_cases hl : l = k
    · simp [get?_cons, hl]
    · simp only [List.cons_append, get?_cons, hl, if_false, ih]

theorem get?_set (t : Table) (k k' : String) (v : Value) :
    (t.set k' v).get? k = if k' = k then (t.get? k).map (fun _ => v) else t.get? k := by
  induction t with
  | nil => by_cases h : k' = k <;> simp [set, h]
  | cons e t ih =>
    obtain ⟨l, w⟩ := e
    have hcons : Table.set ((l, w) :: t) k' v =
        (if l = k' then (k', v) else (l, w)) :: Table.set t k' v := by
      simp [set]
    rw [hcons]
    by_cases hl : l = k'
    · subst hl
      by_cases hk : l = k <;> simp [get?_cons, hk, ih]
    · by_cases hk : k' = k
      · subst hk
        simp [get?_cons, hl, ih]
      · simp [get?_cons, hl, hk, ih]

theorem get?_erase (t : Table) (k k' : String) :
    (t.erase k').get? k = if k' = k then none else t.get? k := by
  induction t with
  | nil => simp [erase]
  | cons e t ih =>
    obtain ⟨l, w⟩ := e
    have hcons : Table.erase ((l, w) :: t) k' =
        if l = k' then Table.erase t k' else (l, w) :: Table.erase t k' := by
      by_cases hl : l = k' <;> simp [erase, hl]
    rw [hcons]
    by_cases hl : l = k'
    · subst hl
      by_cases hk : l = k
      · subst hk
        simpa using ih
      · simp [ih, get?_cons, hk]
    · simp only [hl, if_false, get?_cons, ih]
      by_cases hk : k' = k
      · subst hk
        simp [hl]
      · simp [hk]

theorem get?_eq_none_iff {t : Table} {k : String} : t.get? k = none ↔ k ∉ t.map Prod.fst := by
  simp only [get?, Option.map_eq_none_iff, List.find?_eq_none, beq_iff_eq, List.mem_map,
    not_exists, not_and]

theorem keys_set (t : Table) (k : String) (v : Value) :
    (t.set k v).map Prod.fst = t.map Prod.fst := by
  induction t with
  | nil => rfl
  | cons e t ih =>
    obtain ⟨l, w⟩ := e
    by_cases hl : l = k <;> simp [set, hl] at ih ⊢ <;> exact ih

theorem Keyed.append_singleton {t : Table} {k : String} (v : Value) (ht : t.Keyed)
    (hk : t.get? k = none) : (t ++ [(k, v)]).Keyed := by
  unfold Keyed
  rw [List.map_append, List.nodup_append]
  refine ⟨ht, by simp, ?_⟩
  intro a ha b hb
  obtain rfl : b = k := by simpa using hb
  rintro rfl
  exact get?_eq_none_iff.mp hk ha

theorem Keyed.set {t : Table} (k : String) (v : Value) (ht : t.Keyed) : (t.set k v).Keyed := by
  unfold Keyed
  rw [keys_set]
  exact ht

theorem Keyed.erase {t : Table} (k : String) (ht : t.Keyed) : (t.erase k).Keyed :=
  List.Nodup.sublist (List.Sublist.map _ List.filter_sublist) ht

end Table

/-! ## Values that lines assign -/

/-- The values a line can assign: scalars, arrays written as values and inline tables. Tables
named by headers or made by dotted keys, and arrays of tables, are not among them. -/
def Value.Assignable : Value → Prop
  | .scalar _ => True
  | .array _ ofTables => ofTables = false
  | .table _ o => o = .inline

theorem build_assignable {node : Node} {v : Value} (h : build node = .ok v) : v.Assignable := by
  cases node with
  | scalar p =>
    simp only [build, bind_eq_ok_iff] at h
    obtain ⟨_, -, _, -, h⟩ := h
    cases h
    trivial
  | array items =>
    simp only [build, bind_eq_ok_iff] at h
    obtain ⟨_, -, h⟩ := h
    cases h
    rfl
  | inline entries =>
    simp only [build, bind_eq_ok_iff] at h
    obtain ⟨_, -, h⟩ := h
    cases h
    rfl

/-- The second table holds the same assignable values as the first, under the same keys. -/
def Table.Agrees (t t' : Table) : Prop :=
  ∀ k v, v.Assignable → (t'.get? k = some v ↔ t.get? k = some v)

namespace Table.Agrees

theorem refl (t : Table) : t.Agrees t := fun _ _ _ => Iff.rfl

theorem trans {t t' t'' : Table} (h : t.Agrees t') (h' : t'.Agrees t'') : t.Agrees t'' :=
  fun k v hv => (h' k v hv).trans (h k v hv)

/-- A new key with a value that no line assigns. -/
theorem append_singleton {t : Table} {k : String} {v : Value} (hk : t.get? k = none)
    (hv : ¬v.Assignable) : t.Agrees (t ++ [(k, v)]) := by
  intro k' w hw
  rw [get?_append_singleton]
  by_cases hkk : k = k'
  · subst hkk
    simp only [hk, Option.none_or, if_true, Option.some.injEq, reduceCtorEq, iff_false]
    rintro rfl
    exact hv hw
  · simp [hkk]

/-- A value that no line assigns, in place of another such value. -/
theorem set {t : Table} {k : String} {v : Value} (hold : ∀ w, t.get? k = some w → ¬w.Assignable)
    (hv : ¬v.Assignable) : t.Agrees (t.set k v) := by
  intro k' w hw
  rw [get?_set]
  by_cases hkk : k = k'
  · subst hkk
    simp only [if_true]
    constructor
    · rintro h
      obtain ⟨_, -, rfl⟩ := Option.map_eq_some_iff.mp h
      exact absurd hw hv
    · intro h
      exact absurd hw (hold w h)
  · simp [hkk]

/-- A key whose value no line assigns, taken out. -/
theorem erase {t : Table} {k : String} (hold : ∀ w, t.get? k = some w → ¬w.Assignable) :
    t.Agrees (t.erase k) := by
  intro k' w hw
  rw [get?_erase]
  by_cases hkk : k = k'
  · subst hkk
    simp only [if_true, reduceCtorEq, false_iff]
    intro h
    exact hold w h hw
  · simp [hkk]

end Table.Agrees

/-! ## Following a path of keys -/

/-- What following a path of keys through the tables of a document does to the first table: its
first key gets a new table, or a table or an array of tables in place of one. Either way that
key holds no assigned value before or after. -/
theorem enter_cons_eq_ok {α : Type} {dotted : Bool} {f : Origin → Table → Except Error (Table × α)}
    {o : Origin} {t t' : Table} {k : String} {ks : List String} {a : α}
    (h : enter .document dotted f o t (k :: ks) = .ok (t', a)) :
    (t.get? k = none ∧ ∃ v', ¬v'.Assignable ∧ t' = t ++ [(k, v')]) ∨
      (∃ v v', t.get? k = some v ∧ ¬v.Assignable ∧ ¬v'.Assignable ∧ t' = t.set k v') := by
  unfold enter at h
  split at h
  · -- a new table under the key
    rename_i hk
    dsimp only at h
    rw [bind_eq_ok_iff] at h
    obtain ⟨⟨inner, b⟩, -, h⟩ := h
    cases h
    refine .inl ⟨hk, _, ?_, rfl⟩
    cases dotted <;> simp [Value.Assignable]
  · rename_i v hk
    split at h
    · -- into the last table of an array of tables
      split at h
      · rw [bind_eq_ok_iff] at h
        obtain ⟨⟨inner, b⟩, -, h⟩ := h
        cases h
        exact .inr ⟨_, _, hk, by simp [Value.Assignable], by simp [Value.Assignable], rfl⟩
      · simp at h
      · simp at h
    · -- into a table that no line wrote inline
      split_ifs at h with hin
      rw [bind_eq_ok_iff] at h
      obtain ⟨⟨inner, b⟩, -, h⟩ := h
      cases h
      exact .inr ⟨_, _, hk, by simpa [Value.Assignable] using hin,
        by simpa [Value.Assignable] using hin, rfl⟩
    · contradiction
    · simp at h

/-- Following a path through the tables of a document keeps the assigned values of the first
table and its keys distinct. -/
theorem enter_cons_agrees {α : Type} {dotted : Bool}
    {f : Origin → Table → Except Error (Table × α)} {o : Origin} {t t' : Table} {k : String}
    {ks : List String} {a : α} (h : enter .document dotted f o t (k :: ks) = .ok (t', a)) :
    t.Agrees t' ∧ (t.Keyed → t'.Keyed) := by
  rcases enter_cons_eq_ok h with ⟨hk, v', hv', rfl⟩ | ⟨v, v', hk, hv, hv', rfl⟩
  · exact ⟨Table.Agrees.append_singleton hk hv', fun ht => ht.append_singleton v' hk⟩
  · refine ⟨Table.Agrees.set (fun w hw => ?_) hv', fun ht => ht.set k v'⟩
    rw [hk] at hw
    cases hw
    exact hv

/-- Placing a value in a section's table: a key of one part gets the value and must be new,
and a dotted key only passes through tables that no line assigned. -/
theorem placeKey_eq_ok {t t' : Table} {ks : List String} {v : Value}
    (h : placeKey .document .header t ks v = .ok t') :
    (∃ k, ks = [k] ∧ t.get? k = none ∧ t' = t ++ [(k, v)]) ∨
      ((∀ k, ks ≠ [k]) ∧ t.Agrees t' ∧ (t.Keyed → t'.Keyed)) := by
  unfold placeKey at h
  split at h
  · rename_i key hlast
    have hks := List.dropLast_append_getLast? key hlast
    unfold place at h
    cases hd : ks.dropLast with
    | nil =>
      rw [hd] at h hks
      simp only [enter, bind_eq_ok_iff] at h
      obtain ⟨⟨t₁, _⟩, hplace, h⟩ := h
      by_cases hsome : (t.get? key).isSome
      · simp [hsome] at hplace
      · simp [hsome] at hplace
        obtain ⟨rfl, -⟩ := hplace
        simp only [pure_eq_ok, Except.ok.injEq] at h
        exact .inl ⟨key, hks.symm, by simpa using hsome, h.symm⟩
    | cons k' rest =>
      rw [hd] at h hks
      rw [bind_eq_ok_iff] at h
      obtain ⟨⟨t₁, _⟩, henter, h⟩ := h
      cases h
      obtain ⟨hagrees, hkeyed⟩ := enter_cons_agrees henter
      refine .inr ⟨fun k hk => ?_, hagrees, hkeyed⟩
      rw [← hks] at hk
      simp at hk
  · rename_i hlast
    cases h
    refine .inr ⟨fun k hk => ?_, Table.Agrees.refl t, id⟩
    simp [hk] at hlast

/-! ## The root section -/

/-- Whether a line assigns a value, rather than naming a table. -/
def Line.isPair : Line → Bool
  | .pair _ _ => true
  | _ => false

/-- A header line names a table: its key has at least one part. -/
def Line.Named : Line → Prop
  | .pair _ _ => True
  | .table keys => keys ≠ []
  | .arrayTable keys => keys ≠ []

/-- The lines before the first header: those that assign to the root table itself. -/
def rootSection (lines : List Line) : List Line := lines.takeWhile Line.isPair

/-- The values that lines assign to the key `name` alone, in order. -/
def assignments (lines : List Line) (name : String) : List Node :=
  lines.filterMap fun
    | .pair keys node => if decodeKey keys = .ok [name] then some node else none
    | _ => none

theorem assignments_append_pair (lines : List Line) (keys : List Piece) (node : Node)
    (name : String) :
    assignments (lines ++ [.pair keys node]) name =
      assignments lines name ++ if decodeKey keys = .ok [name] then [node] else [] := by
  by_cases h : decodeKey keys = .ok [name] <;> simp [assignments, h]

/-- What a table holds under `name` after lines that assign to it: no assigned value when no
line assigns `name` alone, and the value that line builds when one does. No two lines do. -/
def Assigned (lines : List Line) (t : Table) (name : String) : Prop :=
  (assignments lines name = [] ∧ ∀ v, t.get? name = some v → ¬v.Assignable) ∨
    (∃ node v, assignments lines name = [node] ∧ build node = .ok v ∧ t.get? name = some v)

theorem Assigned.of_agrees {lines : List Line} {t t' : Table} {name : String}
    (h : Assigned lines t name) (hag : t.Agrees t') : Assigned lines t' name := by
  rcases h with ⟨hnone, hfree⟩ | ⟨node, v, hnode, hv, hget⟩
  · refine .inl ⟨hnone, fun v hget' hv => hfree v ((hag name v hv).mp hget') hv⟩
  · exact .inr ⟨node, v, hnode, hv, (hag name v (build_assignable hv)).mpr hget⟩

/-- What holds of the state while the root section is read: no header yet, and the open table
holds what the lines read so far assign, under distinct keys. -/
structure RootSectionState (pre : List Line) (s : State) : Prop where
  header_eq : s.header = none
  keyed : s.current.Keyed
  assigned : ∀ name, Assigned pre s.current name

theorem rootSectionState_init : RootSectionState [] ({} : State) :=
  ⟨rfl, List.nodup_nil, fun _ => .inl ⟨rfl, by simp⟩⟩

/-- One assignment of the root section: a key of one part is new and gets the value its line
builds; a dotted key passes through tables only. -/
theorem RootSectionState.apply_pair {pre : List Line} {s s' : State} {keys : List Piece}
    {node : Node} (hs : RootSectionState pre s) (h : s.apply (.pair keys node) = .ok s') :
    RootSectionState (pre ++ [.pair keys node]) s' := by
  simp only [State.apply, bind_eq_ok_iff, pure_eq_ok, Except.ok.injEq] at h
  obtain ⟨ks, hks, v, hv, current, hplace, rfl⟩ := h
  rcases placeKey_eq_ok hplace with ⟨k, rfl, hnew, rfl⟩ | ⟨hmany, hag, hkeyed⟩
  · refine ⟨hs.header_eq, hs.keyed.append_singleton v hnew, fun name => ?_⟩
    rw [Assigned, assignments_append_pair, hks, Table.get?_append_singleton]
    by_cases hname : k = name
    · -- the key is new, so no earlier line assigned it
      subst hname
      rcases hs.assigned k with ⟨hnone, -⟩ | ⟨_, _, -, -, hget⟩
      · exact .inr ⟨node, v, by simp [hnone], hv, by simp [hnew]⟩
      · simp [hnew] at hget
    · have hne : (Except.ok [k] : Except Error (List String)) ≠ .ok [name] := by simpa using hname
      simpa [Assigned, hne, hname] using hs.assigned name
  · refine ⟨hs.header_eq, hkeyed hs.keyed, fun name => ?_⟩
    have hne : decodeKey keys ≠ .ok [name] := by
      rw [hks]
      simpa using hmany name
    have := (hs.assigned name).of_agrees hag
    simpa [Assigned, assignments_append_pair, hne] using this

theorem RootSectionState.foldlM {pre lines : List Line} {s s' : State}
    (hs : RootSectionState pre s) (hp : ∀ l ∈ lines, l.isPair = true)
    (h : lines.foldlM State.apply s = .ok s') : RootSectionState (pre ++ lines) s' := by
  induction lines generalizing pre s with
  | nil =>
    simp only [List.foldlM_nil, pure_eq_ok, Except.ok.injEq] at h
    subst h
    simpa using hs
  | cons l rest ih =>
    rw [List.foldlM_cons, bind_eq_ok_iff] at h
    obtain ⟨s₁, h₁, h₂⟩ := h
    cases l with
    | pair keys node =>
      have hrest := ih (hs.apply_pair h₁) (fun l hl => hp l (List.mem_cons_of_mem _ hl)) h₂
      simpa using hrest
    | table keys => simp [Line.isPair] at hp
    | arrayTable keys => simp [Line.isPair] at hp

/-! ## Sections under headers -/

/-- What holds once the first header is read, for the table `base` of the root section: a
section is open, the root's keys are distinct, the root agrees with `base` on assigned values,
and the section of a top-level table header has taken any value under its key out of the root,
so that no assigned value is there. -/
structure SectionState (base : Table) (s : State) : Prop where
  header_isSome : s.header.isSome
  keyed : s.root.Keyed
  agrees : base.Agrees s.root
  free : ∀ h, s.header = some h → h.isArray = false → h.path = [] →
    ∀ v, s.root.get? h.key = some v → ¬v.Assignable

/-- Closing a header's section puts its table back, or appends it to its array of tables, and
touches no assigned value of the root. -/
theorem State.close_some {s s' : State} {h : Header} (hh : s.header = some h)
    (hfree : h.isArray = false → h.path = [] → ∀ v, s.root.get? h.key = some v → ¬v.Assignable)
    (hc : s.close = .ok s') : s.root.Agrees s'.root ∧ (s.root.Keyed → s'.root.Keyed) := by
  unfold State.close at hc
  rw [hh] at hc
  dsimp only at hc
  rw [bind_eq_ok_iff] at hc
  obtain ⟨⟨root, _⟩, henter, hc⟩ := hc
  cases hc
  cases hp : h.path with
  | nil =>
    rw [hp] at henter
    simp only [enter] at henter
    show s.root.Agrees root ∧ (s.root.Keyed → root.Keyed)
    split_ifs at henter with harr hsome
    · -- an array of tables: a new one, or one more table in it
      split at henter
      · rename_i hk
        cases henter
        exact ⟨Table.Agrees.append_singleton hk (by simp [Value.Assignable]),
          fun ht => ht.append_singleton _ hk⟩
      · rename_i items hk
        cases henter
        refine ⟨Table.Agrees.set (fun w hw => ?_) (by simp [Value.Assignable]), fun ht => ht.set _ _⟩
        rw [hk] at hw
        cases hw
        simp [Value.Assignable]
      · simp at henter
    · -- a table in place of the one its section took out
      cases henter
      exact ⟨Table.Agrees.set (hfree (by simpa using harr) hp) (by simp [Value.Assignable]),
        fun ht => ht.set _ _⟩
    · cases henter
      have hk : s.root.get? h.key = none := by simpa using hsome
      exact ⟨Table.Agrees.append_singleton hk (by simp [Value.Assignable]),
        fun ht => ht.append_singleton _ hk⟩
  | cons k ks =>
    rw [hp] at henter
    exact enter_cons_agrees henter

/-- Opening a header's section: a table's header takes its table out of its place, which must
be new or made by deeper headers, and leaves no assigned value under a top-level key. -/
theorem State.open_eq_ok {s s' : State} {h : Header} (ho : s.open h = .ok s') :
    s'.header = some h ∧ s.root.Agrees s'.root ∧ (s.root.Keyed → s'.root.Keyed) ∧
      (h.isArray = false → h.path = [] → ∀ v, s'.root.get? h.key = some v → ¬v.Assignable) := by
  unfold State.open at ho
  split_ifs at ho with harr
  · cases ho
    exact ⟨rfl, Table.Agrees.refl _, id, fun h' => by simp [harr] at h'⟩
  · rw [bind_eq_ok_iff] at ho
    obtain ⟨⟨root, taken⟩, henter, ho⟩ := ho
    cases ho
    refine ⟨rfl, ?_⟩
    show s.root.Agrees root ∧ (s.root.Keyed → root.Keyed) ∧
      (h.isArray = false → h.path = [] → ∀ v, root.get? h.key = some v → ¬v.Assignable)
    cases hp : h.path with
    | nil =>
      rw [hp] at henter
      simp only [enter] at henter
      split at henter
      · rename_i hk
        cases henter
        exact ⟨Table.Agrees.refl _, id, fun _ _ v hv => by simp [hk] at hv⟩
      · -- a table made by deeper headers is taken out
        rename_i es hk
        cases henter
        have hold : ∀ w, s.root.get? h.key = some w → ¬w.Assignable := by
          intro w hw
          rw [hk] at hw
          cases hw
          simp [Value.Assignable]
        exact ⟨Table.Agrees.erase hold, fun ht => ht.erase _,
          fun _ _ v hv => by simp [Table.get?_erase] at hv⟩
      · simp at henter
    | cons k ks =>
      rw [hp] at henter
      obtain ⟨hag, hkeyed⟩ := enter_cons_agrees henter
      exact ⟨hag, hkeyed, fun _ hnil => by simp at hnil⟩

theorem decodeKey_ne_nil {keys : List Piece} {ks : List String} (hkeys : keys ≠ [])
    (h : decodeKey keys = .ok ks) : ks ≠ [] := by
  simp only [decodeKey, bind_eq_ok_iff] at h
  obtain ⟨parts, hparts, h⟩ := h
  split_ifs at h
  · simp at h
  simp only [pure_eq_ok, Except.ok.injEq] at h
  subst h
  obtain ⟨k, rest, rfl⟩ := List.exists_cons_of_ne_nil hkeys
  simp only [List.mapM_cons, bind_eq_ok_iff, pure_eq_ok, Except.ok.injEq] at hparts
  obtain ⟨_, -, _, -, rfl⟩ := hparts
  simp

/-- A header line closes the open section and opens its own. -/
theorem State.startSection_eq_ok {s s' : State} {keys : List Piece} {isArray : Bool}
    (hkeys : keys ≠ []) (h : s.startSection keys isArray = .ok s') :
    ∃ s₁ hdr, s.close = .ok s₁ ∧ s₁.open hdr = .ok s' := by
  simp only [State.startSection, bind_eq_ok_iff] at h
  obtain ⟨s₁, hc, ks, hks, h⟩ := h
  split at h
  · exact ⟨s₁, _, hc, h⟩
  · rename_i hlast
    exact absurd (List.getLast?_eq_none_iff.mp hlast) (decodeKey_ne_nil hkeys hks)

/-- The first header ends the root section: its table becomes the root. -/
theorem RootSectionState.startSection {pre : List Line} {s s' : State} {keys : List Piece}
    {isArray : Bool} (hs : RootSectionState pre s) (hkeys : keys ≠ [])
    (h : s.startSection keys isArray = .ok s') : SectionState s.current s' := by
  obtain ⟨s₁, hdr, hc, ho⟩ := State.startSection_eq_ok hkeys h
  have hroot : s₁.root = s.current := by
    simp only [State.close, hs.header_eq, Except.ok.injEq] at hc
    rw [← hc]
  obtain ⟨hh, hag, hkeyed, hfree⟩ := State.open_eq_ok ho
  rw [hroot] at hag hkeyed
  refine ⟨by simp [hh], hkeyed hs.keyed, hag, fun h' he => ?_⟩
  rw [hh] at he
  cases he
  exact hfree

/-- A later header closes the open section and opens its own. -/
theorem SectionState.startSection {base : Table} {s s' : State} {keys : List Piece}
    {isArray : Bool} (hs : SectionState base s) (hkeys : keys ≠ [])
    (h : s.startSection keys isArray = .ok s') : SectionState base s' := by
  obtain ⟨s₁, hdr, hc, ho⟩ := State.startSection_eq_ok hkeys h
  obtain ⟨hdr₀, hh₀⟩ := Option.isSome_iff_exists.mp hs.header_isSome
  obtain ⟨hag₁, hkeyed₁⟩ := State.close_some hh₀ (hs.free hdr₀ hh₀) hc
  obtain ⟨hh, hag₂, hkeyed₂, hfree⟩ := State.open_eq_ok ho
  refine ⟨by simp [hh], hkeyed₂ (hkeyed₁ hs.keyed), (hs.agrees.trans hag₁).trans hag₂,
    fun h' he => ?_⟩
  rw [hh] at he
  cases he
  exact hfree

/-- One line after the first header. -/
theorem SectionState.apply {base : Table} {s s' : State} {l : Line} (hs : SectionState base s)
    (hl : l.Named) (h : s.apply l = .ok s') : SectionState base s' := by
  cases l with
  | pair keys node =>
    -- an assignment changes the open section's table only
    simp only [State.apply, bind_eq_ok_iff, pure_eq_ok, Except.ok.injEq] at h
    obtain ⟨_, -, _, -, _, -, rfl⟩ := h
    exact ⟨hs.header_isSome, hs.keyed, hs.agrees, hs.free⟩
  | table keys => exact hs.startSection hl h
  | arrayTable keys => exact hs.startSection hl h

theorem SectionState.foldlM {base : Table} {lines : List Line} {s s' : State}
    (hs : SectionState base s) (hl : ∀ l ∈ lines, l.Named)
    (h : lines.foldlM State.apply s = .ok s') : SectionState base s' := by
  induction lines generalizing s with
  | nil =>
    simp only [List.foldlM_nil, pure_eq_ok, Except.ok.injEq] at h
    exact h ▸ hs
  | cons l rest ih =>
    rw [List.foldlM_cons, bind_eq_ok_iff] at h
    obtain ⟨s₁, h₁, h₂⟩ := h
    exact ih (hs.apply (hl l List.mem_cons_self) h₁)
      (fun l hl' => hl l (List.mem_cons_of_mem _ hl')) h₂

/-- The last section closes into a root that agrees with the root section's table. -/
theorem SectionState.close {base : Table} {s s' : State} (hs : SectionState base s)
    (hc : s.close = .ok s') : base.Agrees s'.root ∧ s'.root.Keyed := by
  obtain ⟨hdr, hh⟩ := Option.isSome_iff_exists.mp hs.header_isSome
  obtain ⟨hag, hkeyed⟩ := State.close_some hh (hs.free hdr hh) hc
  exact ⟨hs.agrees.trans hag, hkeyed hs.keyed⟩

/-! ## The root table -/

/-- The root table of a document whose headers name tables: its keys are distinct, and under
each name it holds an assigned value exactly when one line of the root section assigns that
name alone, the value that line builds. -/
theorem tableOf_assigned {lines : List Line} {root : Table} (hl : ∀ l ∈ lines, l.Named)
    (h : tableOf lines = .ok root) :
    root.Keyed ∧ ∀ name, Assigned (rootSection lines) root name := by
  simp only [tableOf, bind_eq_ok_iff, pure_eq_ok, Except.ok.injEq] at h
  obtain ⟨s, hrun, s', hclose, rfl⟩ := h
  rw [← List.takeWhile_append_dropWhile (p := Line.isPair) (l := lines), List.foldlM_append,
    bind_eq_ok_iff] at hrun
  obtain ⟨s₁, hroot, hrest⟩ := hrun
  have hs₁ : RootSectionState (rootSection lines) s₁ := by
    simpa [rootSection] using
      rootSectionState_init.foldlM (fun l hl => List.mem_takeWhile_imp hl) hroot
  cases hd : lines.dropWhile Line.isPair with
  | nil =>
    -- no header: the root section's table is the root
    rw [hd] at hrest
    simp only [List.foldlM_nil, pure_eq_ok, Except.ok.injEq] at hrest
    subst hrest
    simp only [State.close, hs₁.header_eq, Except.ok.injEq] at hclose
    subst hclose
    exact ⟨hs₁.keyed, hs₁.assigned⟩
  | cons l rest =>
    rw [hd] at hrest
    rw [List.foldlM_cons, bind_eq_ok_iff] at hrest
    obtain ⟨s₂, hfirst, hrest⟩ := hrest
    have hmem : ∀ x ∈ l :: rest, x.Named :=
      fun x hx => hl x ((List.dropWhile_suffix Line.isPair).subset (hd ▸ hx))
    -- the first line after the root section is a header
    have hsection : SectionState s₁.current s₂ := by
      have hpair := @List.head_dropWhile_not _ Line.isPair lines (by simp [hd])
      simp only [hd, List.head_cons] at hpair
      cases l with
      | pair keys node => simp [Line.isPair] at hpair
      | table keys => exact hs₁.startSection (hmem _ List.mem_cons_self) hfirst
      | arrayTable keys => exact hs₁.startSection (hmem _ List.mem_cons_self) hfirst
    obtain ⟨hag, hkeyed⟩ := (hsection.foldlM (fun x hx => hmem x (List.mem_cons_of_mem _ hx))
      hrest).close hclose
    exact ⟨hkeyed, fun name => (hs₁.assigned name).of_agrees hag⟩

end FlasherStub.Toml
