import FlasherStub.Proofs.Toml.Integer
import FlasherStub.Proofs.Toml.Tables
import FlasherStub.Proofs.Description
import Mathlib

/-!
What a description read from TOML writes.

A document is read in three stages: its tokens into lines, its lines into a root table, and the
root table into a description. The first section shows that every header line the syntax gives
names a table, which is what `tableOf_assigned` asks of the lines; the second takes the keys of
the root table in sorted order and finds each address under its own key. The main result,
`ofToml_writes`, is that an accepted document assigns `entry` and `text_start` exactly once each,
and `data_start` at most once, in the lines before its first header, each as an unquoted integer
literal of its value within 128 signed bits.
-/

namespace FlasherStub.Toml

open FlasherStub.Except

/-! ## Header lines name tables -/

namespace Syntax

/-- The dotted parts after a first key only add to the keys read before them. -/
theorem dottedRest_extends (fuel : ℕ) : ∀ (keys : List Piece) (ts : List Token),
    keys <+: (dottedRest fuel keys ts).1 ∧ keys <+: (dottedRest.afterDot fuel keys ts).1 := by
  induction fuel with
  | zero =>
    intro keys ts
    exact ⟨by simp [dottedRest], by simp [dottedRest.afterDot]⟩
  | succ fuel ih =>
    intro keys ts
    refine ⟨?_, ?_⟩
    · unfold dottedRest
      split
      · split_ifs
        · exact (ih keys _).2
        · exact List.prefix_refl keys
      · exact List.prefix_refl keys
    · unfold dottedRest.afterDot
      split
      · exact List.prefix_append keys _
      · split_ifs
        · exact (ih keys _).2
        · exact (List.prefix_append keys _).trans (ih _ _).2
        · exact (List.prefix_append keys _).trans (ih _ _).1
        · exact List.prefix_append keys _

/-- The key of a header has at least one part, a missing one standing as an empty piece. -/
theorem headerKey_ne_nil (keys : List Piece) (ts : List Token) : (headerKey keys ts).1 ≠ [] := by
  induction ts generalizing keys with
  | nil => simp [headerKey]
  | cons t r ih =>
    unfold headerKey
    split_ifs
    · exact ih keys
    · exact ih _
    · intro hnil
      have hpre := (dottedRest_extends (r.length + 1) (keys ++ [pieceOf t]) r).1
      rw [hnil, List.prefix_nil] at hpre
      simp at hpre
    · simp

theorem header.unclosed_eq_ok {isArray complete : Bool} {line line' : Line}
    {ts rest : List Token} (h : header.unclosed isArray complete line ts = .ok (line', rest)) :
    line' = line := by
  unfold header.unclosed at h
  split_ifs at h
  simp only [bind_eq_ok_iff, pure_eq_ok, Except.ok.injEq, Prod.mk.injEq] at h
  obtain ⟨_, -, rfl, -⟩ := h
  rfl

/-- The end of a header returns the line its key makes, or fails. -/
theorem header.closing_eq_ok {isArray complete : Bool} {line line' : Line}
    {ts rest : List Token} (h : header.closing isArray complete line ts = .ok (line', rest)) :
    line' = line := by
  unfold header.closing at h
  split at h
  · split_ifs at h
    · split at h
      · split_ifs at h
        simp only [bind_eq_ok_iff, pure_eq_ok, Except.ok.injEq, Prod.mk.injEq] at h
        obtain ⟨_, -, rfl, -⟩ := h
        rfl
      · simp at h
    · simp only [bind_eq_ok_iff, pure_eq_ok, Except.ok.injEq, Prod.mk.injEq] at h
      obtain ⟨_, -, rfl, -⟩ := h
      rfl
    · exact header.unclosed_eq_ok h
  · exact header.unclosed_eq_ok h

/-- A table header or an array-of-tables header names a table when its key has a part. -/
theorem named_of_ne_nil (isArray : Bool) {keys : List Piece} (hk : keys ≠ []) :
    (if isArray = true then Line.arrayTable keys else Line.table keys).Named := by
  cases isArray
  · exact hk
  · exact hk

theorem header_named {ts rest : List Token} {line : Line} (h : header ts = .ok (line, rest)) :
    line.Named := by
  unfold header at h
  dsimp only at h
  rw [header.closing_eq_ok h]
  exact named_of_ne_nil _ (headerKey_ne_nil _ _)

theorem assignment_named {keys : List Piece} {ts rest : List Token} {line : Line}
    (h : assignment keys ts = .ok (line, rest)) : line.Named := by
  simp only [assignment, bind_eq_ok_iff, pure_eq_ok, Except.ok.injEq, Prod.mk.injEq] at h
  obtain ⟨_, -, _, -, rfl, -⟩ := h
  trivial

theorem keyLine_named {what : String} {keys : List Piece} {ts rest : List Token} {line : Line}
    (h : keyLine what keys ts = .ok (line, rest)) : line.Named := by
  unfold keyLine at h
  dsimp only at h
  split at h
  · split_ifs at h
    exact assignment_named h
  · simp at h

/-- Every line read names its table, when the lines read before did. -/
theorem lines_named (fuel : ℕ) : ∀ (acc : List Line) (ts : List Token) (out : List Line),
    (∀ l ∈ acc, l.Named) → lines fuel acc ts = .ok out → ∀ l ∈ out, l.Named := by
  induction fuel with
  | zero =>
    intro acc ts out hacc h
    simp only [lines, Except.ok.injEq] at h
    subst h
    simpa using hacc
  | succ fuel ih =>
    intro acc ts out hacc h
    cases ts with
    | nil =>
      simp only [lines, Except.ok.injEq] at h
      subst h
      simpa using hacc
    | cons t r =>
      unfold lines at h
      -- one line is read, or a blank, a line break or a comment is passed over
      have next : ∀ {line : Line} {rest : List Token}, line.Named →
          lines fuel (line :: acc) rest = .ok out → ∀ l ∈ out, l.Named :=
        fun hline h => ih _ _ out (List.forall_mem_cons.mpr ⟨hline, hacc⟩) h
      split at h
      · exact ih acc r out hacc h
      · rw [bind_eq_ok_iff] at h
        obtain ⟨_, -, h⟩ := h
        exact ih acc r out hacc h
      · rw [bind_eq_ok_iff] at h
        obtain ⟨_, -, h⟩ := h
        exact ih acc r out hacc h
      · rw [bind_eq_ok_iff] at h
        obtain ⟨⟨line, rest⟩, hline, h⟩ := h
        exact next (header_named hline) h
      · simp at h
      · rw [bind_eq_ok_iff] at h
        obtain ⟨⟨line, rest⟩, hline, h⟩ := h
        exact next (assignment_named hline) h
      · split at h
        rw [bind_eq_ok_iff] at h
        obtain ⟨⟨line, rest⟩, hline, h⟩ := h
        exact next (keyLine_named hline) h
      · simp at h
      · simp at h
      · simp at h
      · rw [bind_eq_ok_iff] at h
        obtain ⟨⟨line, rest⟩, hline, h⟩ := h
        exact next (keyLine_named hline) h

/-- Every header line of a parsed document names a table. -/
theorem parse_named {ts : List Token} {ls : List Line} (h : parse ts = .ok ls) :
    ∀ l ∈ ls, l.Named :=
  lines_named _ [] ts ls (by simp) h

end Syntax

/-! ## Addresses of the root table -/

open Description in
/-- The address a field of the fields read so far holds, for the keys of addresses. -/
def Fields.addressAt (f : Fields) : Key → Option Int
  | .entry => f.entry
  | .textStart => f.textStart
  | .dataStart => f.dataStart
  | .text => none
  | .data => none

open Description in
/-- The keys whose values are addresses. -/
def IsAddressKey (k : Key) : Prop := k = .entry ∨ k = .textStart ∨ k = .dataStart

open Description in
/-- Taking one key of the root table reads an address under its own key and leaves the other
address fields as they were. -/
theorem Fields.take_addressAt {f f' : Fields} {name : String} {v : Value} {k : Key}
    (hk : IsAddressKey k) (h : f.take (name, v) = .ok f') :
    (name = k.name → ∃ x, address v = .ok x ∧ f'.addressAt k = some x) ∧
      (name ≠ k.name → f'.addressAt k = f.addressAt k) := by
  unfold Fields.take at h
  dsimp only at h
  cases hkey : Key.ofName? name with
  | none =>
    simp only [hkey] at h
    have hf : f' = f := by
      split at h
      · simp at h
      · simpa using h.symm
    subst hf
    exact ⟨fun hn => absurd hn (Key.ne_name_of_ofName?_eq_none hkey k), fun _ => rfl⟩
  | some key =>
    have hname := Key.ofName?_eq_some_iff.mp hkey
    subst hname
    simp only [hkey] at h
    rcases hk with rfl | rfl | rfl <;> cases key <;>
      simp only [bind_eq_ok_iff, pure_eq_ok, Except.ok.injEq] at h <;>
      obtain ⟨x, hx, rfl⟩ := h <;>
      simp [Fields.addressAt, Key.name, hx]

/-- In a table with distinct keys, a key holds exactly the value it is listed with. -/
theorem Table.get?_eq_some_iff {t : Table} {k : String} {v : Value} (ht : t.Keyed) :
    t.get? k = some v ↔ (k, v) ∈ t := by
  induction t with
  | nil => simp
  | cons e t ih =>
    obtain ⟨l, w⟩ := e
    simp only [Table.Keyed, List.map_cons, List.nodup_cons] at ht
    rw [Table.get?_cons]
    by_cases hl : l = k
    · subst hl
      have hnot : (l, v) ∉ t := fun hmem => ht.1 (List.mem_map_of_mem hmem)
      simp [hnot, eq_comm]
    · simp [hl, ih ht.2, Ne.symm hl]

open Description in
/-- Reading the keys of a table in order: an address key that is there is read as an address,
and one that is not leaves its field as it was. -/
theorem foldlM_take_addressAt {k : Key} (hk : IsAddressKey k) :
    ∀ (l : Table) (f f' : Fields), l.Keyed → l.foldlM Fields.take f = .ok f' →
      (k.name ∉ l.map Prod.fst → f'.addressAt k = f.addressAt k) ∧
        (∀ v, (k.name, v) ∈ l → ∃ x, address v = .ok x ∧ f'.addressAt k = some x) := by
  intro l
  induction l with
  | nil =>
    intro f f' _ h
    simp only [List.foldlM_nil, pure_eq_ok, Except.ok.injEq] at h
    subst h
    simp
  | cons e rest ih =>
    intro f f' hkeyed h
    obtain ⟨name, v⟩ := e
    simp only [Table.Keyed, List.map_cons, List.nodup_cons] at hkeyed
    rw [List.foldlM_cons, bind_eq_ok_iff] at h
    obtain ⟨f₁, h₁, h₂⟩ := h
    have hrest := ih f₁ f' hkeyed.2 h₂
    by_cases hn : name = k.name
    · -- the key itself: read here, and nowhere after
      subst hn
      obtain ⟨x, hx, hf₁⟩ := (Fields.take_addressAt hk h₁).1 rfl
      have hkept : f'.addressAt k = some x := (hrest.1 hkeyed.1).trans hf₁
      refine ⟨fun hnot => absurd (List.mem_cons_self) hnot, fun w hw => ?_⟩
      rcases List.mem_cons.mp hw with hw | hw
      · cases hw
        exact ⟨x, hx, hkept⟩
      · exact absurd (List.mem_map_of_mem (f := Prod.fst) hw) hkeyed.1
    · have hf₁ := (Fields.take_addressAt hk h₁).2 hn
      refine ⟨fun hnot => ?_, fun w hw => ?_⟩
      · rw [hrest.1 (fun hmem => hnot (List.mem_cons_of_mem _ hmem)), hf₁]
      · rcases List.mem_cons.mp hw with hw | hw
        · cases hw
          exact absurd rfl hn
        · exact hrest.2 w hw

open Description in
/-- What the fields read from a root table with distinct keys hold: under each address key the
table has, the address its value reads as, and nothing under one it lacks. -/
theorem descriptionOf_fields {root : Table} {d : Description} (hkeyed : root.Keyed)
    (h : descriptionOf root = .ok d) :
    ∃ f : Fields, f.finish = .ok d ∧ ∀ k, IsAddressKey k →
      (root.get? k.name = none → f.addressAt k = none) ∧
        (∀ v, root.get? k.name = some v → ∃ x, address v = .ok x ∧ f.addressAt k = some x) := by
  simp only [descriptionOf, bind_eq_ok_iff] at h
  obtain ⟨f, hfold, hfinish⟩ := h
  -- the keys are read in sorted order, a permutation of the table
  have hperm := List.mergeSort_perm root (fun a b => decide (a.1 < b.1))
  have hsorted : Table.Keyed (root.mergeSort fun a b => decide (a.1 < b.1)) :=
    (hperm.map Prod.fst).nodup_iff.mpr hkeyed
  refine ⟨f, hfinish, fun k hk => ?_⟩
  obtain ⟨habsent, hpresent⟩ := foldlM_take_addressAt hk _ {} f hsorted hfold
  constructor
  · intro hnone
    have hnot : k.name ∉ (root.mergeSort fun a b => decide (a.1 < b.1)).map Prod.fst := by
      rw [(hperm.map Prod.fst).mem_iff]
      exact Table.get?_eq_none_iff.mp hnone
    rw [habsent hnot]
    cases k <;> rfl
  · intro v hv
    exact hpresent v (hperm.mem_iff.mpr ((Table.get?_eq_some_iff hkeyed).mp hv))

theorem Fields.finish_eq_ok {f : Fields} {d : Description} (h : f.finish = .ok d) :
    f.entry = some d.entry ∧ f.textStart = some d.textStart ∧ f.dataStart = d.dataStart := by
  unfold Fields.finish at h
  split at h
  · simp at h
  · simp at h
  · simp at h
  · rename_i e t ts he ht hts
    simp only [Except.ok.injEq] at h
    subst h
    exact ⟨he, hts, rfl⟩

/-- An address is an integer within 128 signed bits, and nothing else. -/
theorem address_eq_ok {v : Value} {x : Int} (h : address v = .ok x) :
    v = .scalar (.integer x) ∧ fitsSigned 128 x = true := by
  unfold address at h
  split at h
  · simp at h
  · simp at h
  · split_ifs at h with hfits
    cases h
    exact ⟨rfl, hfits⟩
  · simp at h

theorem checkScalar_eq_ok {s s' : Scalar} (h : checkScalar s = .ok s') : s' = s := by
  unfold checkScalar at h
  split at h
  · simp only [bind_eq_ok_iff, pure_eq_ok, Except.ok.injEq] at h
    obtain ⟨_, -, h⟩ := h
    exact h.symm
  · simp only [Except.ok.injEq] at h
    exact h.symm

/-- A written value builds an integer only when it is a piece that decodes to it. -/
theorem build_eq_integer {node : Node} {x : Int} (h : build node = .ok (.scalar (.integer x))) :
    ∃ p, node = .scalar p ∧ Scalar.decode p = .ok (.integer x) := by
  cases node with
  | scalar p =>
    simp only [build, bind_eq_ok_iff, pure_eq_ok, Except.ok.injEq, Value.scalar.injEq] at h
    obtain ⟨s, hs, s', hs', rfl⟩ := h
    -- checking leaves the scalar as it was decoded
    have hsame := checkScalar_eq_ok hs'
    subst hsame
    exact ⟨p, rfl, hs⟩
  | array items =>
    simp only [build, bind_eq_ok_iff, pure_eq_ok, Except.ok.injEq] at h
    obtain ⟨_, -, h⟩ := h
    cases h
  | inline entries =>
    simp only [build, bind_eq_ok_iff, pure_eq_ok, Except.ok.injEq] at h
    obtain ⟨_, -, h⟩ := h
    cases h

/-! ## What a document writes -/

/-- The lines before the first header assign `name` once, an unquoted integer literal of `n`
within 128 signed bits. -/
def AssignsAddress (lines : List Line) (name : String) (n : Int) : Prop :=
  ∃ p, assignments (rootSection lines) name = [.scalar p] ∧ p.quoting = .bare ∧
    IntegerLiteral p.text.toList n ∧ fitsSigned 128 n = true

/-- An optional address: assigned as above, or not assigned at all. -/
def AssignsOptionalAddress (lines : List Line) (name : String) : Option Int → Prop
  | none => assignments (rootSection lines) name = []
  | some n => AssignsAddress lines name n

/-- A TOML text writes the addresses of a description: its lines parse, and before its first
header it assigns `entry` and `text_start` once each, and `data_start` at most once, as integer
literals of their values. -/
def Writes (d : Description) (text : String) : Prop :=
  ∃ lines, Syntax.parse (tokenize text) = .ok lines ∧
    AssignsAddress lines "entry" d.entry ∧ AssignsAddress lines "text_start" d.textStart ∧
    AssignsOptionalAddress lines "data_start" d.dataStart

/-- An address read from the root table was written as an integer literal by the one line of
the root section that assigns its key. -/
theorem assignsAddress_of_assigned {lines : List Line} {root : Table} {name : String} {v : Value}
    {x : Int} (hassigned : Assigned (rootSection lines) root name) (hv : root.get? name = some v)
    (hx : address v = .ok x) : AssignsAddress lines name x := by
  obtain ⟨rfl, hfits⟩ := address_eq_ok hx
  rcases hassigned with ⟨-, hfree⟩ | ⟨node, w, hnode, hbuild, hget⟩
  · exact absurd trivial (hfree _ hv)
  · rw [hv] at hget
    cases hget
    obtain ⟨p, rfl, hdecode⟩ := build_eq_integer hbuild
    obtain ⟨hbare, hliteral⟩ := decode_eq_integer hdecode
    exact ⟨p, hnode, hbare, hliteral, hfits⟩

theorem assignments_eq_nil_of_assigned {lines : List Line} {root : Table} {name : String}
    (hassigned : Assigned (rootSection lines) root name) (hnone : root.get? name = none) :
    assignments (rootSection lines) name = [] := by
  rcases hassigned with ⟨h, -⟩ | ⟨_, _, -, -, hget⟩
  · exact h
  · rw [hnone] at hget
    cases hget

open Description in
/-- A field that the fields read from the root table fill holds an address written by the root
section. -/
theorem assignsAddress_of_field {lines : List Line} {root : Table} {f : Fields} {k : Key}
    {n : Int} (hassigned : Assigned (rootSection lines) root k.name)
    (hfield : (root.get? k.name = none → f.addressAt k = none) ∧
      (∀ v, root.get? k.name = some v → ∃ x, address v = .ok x ∧ f.addressAt k = some x))
    (hn : f.addressAt k = some n) : AssignsAddress lines k.name n := by
  cases hget : root.get? k.name with
  | none => simp [hfield.1 hget] at hn
  | some v =>
    obtain ⟨x, hx, hfx⟩ := hfield.2 v hget
    rw [hn, Option.some.injEq] at hfx
    subst hfx
    exact assignsAddress_of_assigned hassigned hget hx

open Description in
/-- An accepted TOML document writes the addresses of its description as integer literals, each
once, in the lines before its first header. -/
theorem ofToml_writes {text : String} {d : Description} (h : Description.ofToml text = .ok d) :
    Writes d text := by
  unfold Description.ofToml at h
  split at h
  · simp at h
  rename_i root hparse
  split at h
  · rename_i d' hdesc
    simp only [Except.ok.injEq] at h
    subst h
    simp only [parseTable, bind_eq_ok_iff] at hparse
    obtain ⟨lines, hlines, htable⟩ := hparse
    obtain ⟨hkeyed, hassigned⟩ := tableOf_assigned (Syntax.parse_named hlines) htable
    obtain ⟨f, hfinish, hfields⟩ := descriptionOf_fields hkeyed hdesc
    obtain ⟨hentry, htextStart, hdataStart⟩ := Fields.finish_eq_ok hfinish
    refine ⟨lines, hlines, ?_, ?_, ?_⟩
    · exact assignsAddress_of_field (k := .entry) (hassigned _) (hfields _ (.inl rfl)) hentry
    · exact assignsAddress_of_field (k := .textStart) (hassigned _) (hfields _ (.inr (.inl rfl)))
        htextStart
    · -- the data address is optional
      cases hd : d'.dataStart with
      | none =>
        have hfield := hfields .dataStart (.inr (.inr rfl))
        cases hget : root.get? Key.dataStart.name with
        | none => exact assignments_eq_nil_of_assigned (hassigned _) hget
        | some v =>
          obtain ⟨x, -, hfx⟩ := hfield.2 v hget
          have hnone : f.dataStart = none := hdataStart.trans hd
          simp [Fields.addressAt, hnone] at hfx
      | some n =>
        exact assignsAddress_of_field (k := .dataStart) (hassigned _)
          (hfields _ (.inr (.inr rfl))) (hdataStart.trans hd)
  · simp at h

end FlasherStub.Toml
