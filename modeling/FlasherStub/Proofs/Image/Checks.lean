import FlasherStub.Image
import FlasherStub.Proofs.Except
import Mathlib

/-!
Which records have an image, and what the image of a record holds.

`Image.ofRecord` converts the three addresses while it assembles the image and checks the two
segment lengths afterwards, so which error it reports is decided by the order of its steps and
not by any single comparison. `Record.faults` lists every fault of a record, in the order the
checks look for them, with no reference to how the checks are run. The error reported is the
first fault (`ofRecord_eq_error_iff`); a record without faults gives the image that holds its own
values, tagged with the chip type it was given (`ofRecord_eq_ok_iff`). The chip type takes no
part in the checks, so changing it changes nothing but the tag of the image.
-/

namespace FlasherStub

/-- Every fault that keeps a record from being an image, in the order they are looked for: each
address outside `0 ..= 0xffffffff`, in the order entry, text start, data start, and after them
each segment whose length does not fit a length word, text before data. -/
def Record.faults (r : Record) : List EncodingError :=
  [(AddressField.entry, r.entry), (.textStart, r.textStart), (.dataStart, r.dataStart)].filterMap
      (fun (f, v) => if 0 ≤ v ∧ v ≤ wordMax then none else some (.addressOutOfRange f v)) ++
    [(Segment.text, r.text.length), (.data, r.data.length)].filterMap
      (fun (s, n) => if n ≤ wordMax then none else some (.segmentTooLarge s n))

/-- A record has no fault when every address fits a word and every segment a length word. -/
@[simp] theorem Record.faults_eq_nil_iff (r : Record) :
    r.faults = [] ↔
      (0 ≤ r.entry ∧ r.entry ≤ wordMax) ∧ (0 ≤ r.textStart ∧ r.textStart ≤ wordMax) ∧
        (0 ≤ r.dataStart ∧ r.dataStart ≤ wordMax) ∧ r.text.length ≤ wordMax ∧
          r.data.length ≤ wordMax := by
  simp only [Record.faults, List.append_eq_nil_iff, List.filterMap_eq_nil_iff, List.mem_cons,
    List.not_mem_nil, or_false, forall_eq_or_imp, forall_eq, ite_eq_left_iff, reduceCtorEq,
    imp_false, not_not]
  tauto

namespace Image

/-- An address is accepted exactly when it fits a word, and then the word holds it unchanged. -/
theorem address_eq_ok_iff {f : AddressField} {v : Int} {w : UInt32} :
    address f v = .ok w ↔ (0 ≤ v ∧ v ≤ wordMax) ∧ (w.toNat : Int) = v := by
  unfold address
  split
  · rename_i hv
    have hlt : v.toNat < UInt32.size := by
      simp only [wordMax] at hv
      change v.toNat < 4294967296
      omega
    constructor
    · rintro ⟨⟩
      simp only [UInt32.toNat_ofNat_of_lt' hlt]
      exact ⟨hv, Int.toNat_of_nonneg hv.1⟩
    · rintro ⟨-, hw⟩
      congr
      apply UInt32.toNat_inj.mp
      rw [UInt32.toNat_ofNat_of_lt' hlt]
      omega
  · rename_i hv
    simp only [reduceCtorEq, false_iff, not_and]
    exact fun h => absurd h hv

/-- A length fits a length word exactly when it is at most `wordMax`. -/
theorem lt_length_word_iff {n : ℕ} : n < 4294967296 ↔ n ≤ wordMax := by
  simp only [wordMax]
  omega

variable {r : Record} {c : UInt32}

/-- The first fault of a record is the error the checks report. -/
theorem ofRecord_eq_error_of_faults_eq_cons {e : EncodingError} {es : List EncodingError}
    (h : r.faults = e :: es) : ofRecord r c = .error e := by
  -- The checks are tried in the order of the faults, and each case fixes the first fault.
  by_cases he : 0 ≤ r.entry ∧ r.entry ≤ wordMax
  swap
  · simp [Record.faults, he] at h
    obtain ⟨rfl, -⟩ := h
    simp [ofRecord, address, he]
  by_cases hts : 0 ≤ r.textStart ∧ r.textStart ≤ wordMax
  swap
  · simp [Record.faults, he, hts] at h
    obtain ⟨rfl, -⟩ := h
    simp [ofRecord, address, he, hts]
  by_cases hds : 0 ≤ r.dataStart ∧ r.dataStart ≤ wordMax
  swap
  · simp [Record.faults, he, hts, hds] at h
    obtain ⟨rfl, -⟩ := h
    simp [ofRecord, address, he, hts, hds]
  by_cases ht : r.text.length ≤ wordMax
  swap
  · simp [Record.faults, he, hts, hds, ht] at h
    obtain ⟨rfl, -⟩ := h
    simp [ofRecord, address, he, hts, hds, lt_length_word_iff, ht]
  by_cases hd : r.data.length ≤ wordMax
  swap
  · simp [Record.faults, he, hts, hds, ht, hd] at h
    obtain ⟨rfl, -⟩ := h
    simp [ofRecord, address, he, hts, hds, lt_length_word_iff, ht, hd]
  simp [Record.faults, he, hts, hds, ht, hd] at h

/-- A record without faults has an image, and that image holds the record's own values. -/
theorem exists_ofRecord_eq_ok (h : r.faults = []) :
    ∃ i, ofRecord r c = .ok i ∧ i.chipType = c ∧ (i.entry.toNat : Int) = r.entry ∧
      (i.textStart.toNat : Int) = r.textStart ∧ i.text = r.text ∧
      (i.dataStart.toNat : Int) = r.dataStart ∧ i.data = r.data := by
  obtain ⟨he, hts, hds, ht, hd⟩ := (Record.faults_eq_nil_iff r).mp h
  obtain ⟨entry, hentry⟩ : ∃ w, address .entry r.entry = .ok w := ⟨_, if_pos he⟩
  obtain ⟨textStart, htextStart⟩ : ∃ w, address .textStart r.textStart = .ok w := ⟨_, if_pos hts⟩
  obtain ⟨dataStart, hdataStart⟩ : ∃ w, address .dataStart r.dataStart = .ok w := ⟨_, if_pos hds⟩
  refine ⟨⟨c, entry, textStart, r.text, dataStart, r.data, lt_length_word_iff.mpr ht,
    lt_length_word_iff.mpr hd⟩, ?_, rfl,
    (address_eq_ok_iff.mp hentry).2, (address_eq_ok_iff.mp htextStart).2, rfl,
    (address_eq_ok_iff.mp hdataStart).2, rfl⟩
  simp [ofRecord, hentry, htextStart, hdataStart, lt_length_word_iff, ht, hd]

/-- The error reported for a record is the first of its faults. -/
theorem ofRecord_eq_error_iff {e : EncodingError} : ofRecord r c = .error e ↔ r.faults.head? = some e := by
  constructor
  · intro h
    cases hf : r.faults with
    | nil =>
      obtain ⟨i, hi, -⟩ := exists_ofRecord_eq_ok (c := c) hf
      rw [hi] at h
      cases h
    | cons e' es =>
      rw [ofRecord_eq_error_of_faults_eq_cons hf] at h
      cases h
      rfl
  · intro h
    obtain ⟨es, hf⟩ : ∃ es, r.faults = e :: es := by
      cases hf : r.faults with
      | nil => simp [hf] at h
      | cons e' es => simp only [hf, List.head?_cons, Option.some.injEq] at h; exact ⟨es, h ▸ rfl⟩
    exact ofRecord_eq_error_of_faults_eq_cons hf

/-- An image comes from a record exactly when the record has no fault, and it is then the image
of the record's values with the chip type it was given. -/
theorem ofRecord_eq_ok_iff {i : Image} :
    ofRecord r c = .ok i ↔ r.faults = [] ∧ i.chipType = c ∧ (i.entry.toNat : Int) = r.entry ∧
      (i.textStart.toNat : Int) = r.textStart ∧ i.text = r.text ∧
      (i.dataStart.toNat : Int) = r.dataStart ∧ i.data = r.data := by
  have hnil : ofRecord r c = .ok i → r.faults = [] := by
    intro h
    cases hf : r.faults with
    | nil => rfl
    | cons e es => rw [ofRecord_eq_error_of_faults_eq_cons hf] at h; cases h
  constructor
  · intro h
    obtain ⟨i', hi', hfields⟩ := exists_ofRecord_eq_ok (c := c) (hnil h)
    rw [h] at hi'
    cases hi'
    exact ⟨hnil h, hfields⟩
  · rintro ⟨hf, hc, he, hts, ht, hds, hd⟩
    obtain ⟨i', hi', hc', he', hts', ht', hds', hd'⟩ := exists_ofRecord_eq_ok (c := c) hf
    rw [hi']
    obtain ⟨c₁, e₁, ts₁, t₁, ds₁, d₁, _, _⟩ := i
    obtain ⟨c₂, e₂, ts₂, t₂, ds₂, d₂, _, _⟩ := i'
    simp only at hc he hts ht hds hd hc' he' hts' ht' hds' hd'
    subst hc hc' ht ht' hd hd'
    have word_eq {a b : UInt32} (hab : (a.toNat : Int) = b.toNat) : a = b :=
      UInt32.toNat_inj.mp (by omega)
    rw [word_eq (he'.trans he.symm), word_eq (hts'.trans hts.symm), word_eq (hds'.trans hds.symm)]

/-- The chip type takes no part in the checks: another chip type gives the same error, or the
same image with the other tag. -/
theorem ofRecord_retag (c' : UInt32) :
    ofRecord r c' = (ofRecord r c).map fun i => { i with chipType := c' } := by
  cases hf : r.faults with
  | nil =>
    obtain ⟨i, hi, hfields⟩ := exists_ofRecord_eq_ok (c := c) hf
    rw [hi, Except.map_ok, ofRecord_eq_ok_iff]
    exact ⟨hf, rfl, hfields.2⟩
  | cons e es =>
    rw [ofRecord_eq_error_of_faults_eq_cons hf, ofRecord_eq_error_of_faults_eq_cons hf,
      Except.map_error]

/-- A record is written as an image exactly when its addresses fit a word and its segments a
length word. Otherwise the error names the first address out of range, in the order entry, text
start, data start, with its exact value, and only when all three fit the first segment too long,
text before data, with its exact length. The chip type has no say in any of it, and an image holds
the record's values unchanged. -/
theorem ofRecord_accepts_fitting_reports_first_fault (r : Record) (c : UInt32) :
    ((∃ i, ofRecord r c = .ok i) ↔
        (0 ≤ r.entry ∧ r.entry ≤ wordMax) ∧ (0 ≤ r.textStart ∧ r.textStart ≤ wordMax) ∧
          (0 ≤ r.dataStart ∧ r.dataStart ≤ wordMax) ∧ r.text.length ≤ wordMax ∧
            r.data.length ≤ wordMax) ∧
      (∀ e, ofRecord r c = .error e ↔ r.faults.head? = some e) ∧
      (∀ c', ofRecord r c' = (ofRecord r c).map fun i => { i with chipType := c' }) ∧
      (∀ i, ofRecord r c = .ok i → i.chipType = c ∧ (i.entry.toNat : Int) = r.entry ∧
        (i.textStart.toNat : Int) = r.textStart ∧ i.text = r.text ∧
        (i.dataStart.toNat : Int) = r.dataStart ∧ i.data = r.data) := by
  refine ⟨?_, fun e => ofRecord_eq_error_iff, ofRecord_retag, fun i h => (ofRecord_eq_ok_iff.mp h).2⟩
  rw [← Record.faults_eq_nil_iff]
  constructor
  · rintro ⟨i, hi⟩
    exact (ofRecord_eq_ok_iff.mp hi).1
  · intro hf
    obtain ⟨i, hi, -⟩ := exists_ofRecord_eq_ok (c := c) hf
    exact ⟨i, hi⟩

end Image

end FlasherStub
