import FlasherStub.Source
import FlasherStub.Proofs.Except
import FlasherStub.Proofs.Text.Base64
import Mathlib

/-!
Facts about descriptions that both document formats share: a key is read back from its written
name and from nothing else, and decoding the segments of a description hands its addresses to
the record as they are, an absent data address as zero.

The segments are canonical base64 (`Base64.decode_eq_ok_iff`), so decoding a description
succeeds exactly when its text, and its data when it has one, are encodings of byte strings, and
then the record holds exactly those byte strings. A text that is not canonical is reported
before the data is looked at.
-/

namespace FlasherStub.Description

open FlasherStub.Except

@[simp] theorem Key.ofName?_name (k : Key) : Key.ofName? k.name = some k := by
  cases k <;> rfl

/-- A key is read from its written name and from nothing else. -/
theorem Key.ofName?_eq_some_iff {n : String} {k : Key} : Key.ofName? n = some k ↔ n = k.name := by
  constructor
  · intro h
    unfold Key.ofName? at h
    split at h <;> simp only [Option.some.injEq, reduceCtorEq] at h
    all_goals subst h; rfl
  · rintro rfl
    exact Key.ofName?_name k

theorem Key.ne_name_of_ofName?_eq_none {n : String} (h : Key.ofName? n = none) (k : Key) :
    n ≠ k.name := by
  rintro rfl
  simp at h

/-- Decoding the segments keeps the addresses, an absent data address becoming zero. -/
theorem toRecordOrError_addresses {d : Description} {r : Record}
    (h : d.toRecordOrError = .ok r) :
    r.entry = d.entry ∧ r.textStart = d.textStart ∧ r.dataStart = d.dataStart.getD 0 := by
  unfold toRecordOrError toRecord at h
  cases htext : decodeSegment .text d.text with
  | error e => simp [htext] at h
  | ok text =>
    -- whatever the data segment decodes to, the addresses are copied
    cases hd : d.data with
    | none =>
      simp only [htext, hd, ok_bind, pure_eq_ok, mapError_ok, Except.ok.injEq] at h
      subst h
      exact ⟨rfl, rfl, rfl⟩
    | some s =>
      cases hs : decodeSegment .data s with
      | error e => simp [htext, hd, hs] at h
      | ok data =>
        simp only [htext, hd, hs, ok_bind, pure_eq_ok, mapError_ok, Except.ok.injEq] at h
        subst h
        exact ⟨rfl, rfl, rfl⟩

/-! ### Decoding the segments -/

/-- A segment decodes to `bs` exactly when its bytes are the encoding of `bs`. -/
theorem decodeSegment_eq_ok_iff {seg : Segment} {s : String} {bs : List UInt8} :
    decodeSegment seg s = .ok bs ↔ s.toUTF8.toList = Base64.encode bs := by
  unfold decodeSegment
  rw [← Base64.decode_eq_ok_iff]
  cases Base64.decode s.toUTF8.toList <;> simp

/-- A segment whose bytes encode nothing is refused, and the refusal names the segment. -/
theorem decodeSegment_eq_error (seg : Segment) {s : String}
    (h : ∀ bs, s.toUTF8.toList ≠ Base64.encode bs) :
    ∃ e, decodeSegment seg s = .error (seg, e) := by
  cases hd : Base64.decode s.toUTF8.toList with
  | ok bs => exact absurd (Base64.eq_encode_of_decode_eq_ok hd) (h bs)
  | error e => exact ⟨e, by simp only [decodeSegment, hd]⟩

/-- Decoding the segments of a description succeeds exactly when its text is canonical base64
and its data is absent or canonical base64; the record then holds the bytes they encode, no
data when it is absent, and the description's addresses, an absent data address as zero. When
decoding fails, the error names the text whenever the text is not canonical, whatever the data
holds, and names the data when only the data is not. -/
theorem toRecordOrError_eq_ok_iff_canonical (d : Description) :
    (∀ r, d.toRecordOrError = .ok r ↔
      d.text.toUTF8.toList = Base64.encode r.text ∧
        (d.data = none ∧ r.data = [] ∨
          ∃ s, d.data = some s ∧ s.toUTF8.toList = Base64.encode r.data) ∧
        r.entry = d.entry ∧ r.textStart = d.textStart ∧ r.dataStart = d.dataStart.getD 0) ∧
    ((∀ t, d.text.toUTF8.toList ≠ Base64.encode t) →
      ∃ e, d.toRecordOrError = .error (.invalidBase64 .text e)) ∧
    ((∃ t, d.text.toUTF8.toList = Base64.encode t) → ∀ s, d.data = some s →
      (∀ u, s.toUTF8.toList ≠ Base64.encode u) →
      ∃ e, d.toRecordOrError = .error (.invalidBase64 .data e)) := by
  refine ⟨fun r => ?_, fun htext => ?_, fun ⟨t, ht⟩ s hs hdata => ?_⟩
  · obtain ⟨entry, textStart, text, dataStart, data⟩ := r
    unfold toRecordOrError toRecord
    cases htext : decodeSegment .text d.text with
    | error e =>
      -- a text that does not decode is the encoding of nothing
      have hbad : ∀ t, d.text.toUTF8.toList ≠ Base64.encode t := fun t ht =>
        by rw [decodeSegment_eq_ok_iff.mpr ht] at htext; cases htext
      simp only [error_bind, mapError_error, reduceCtorEq, false_iff, not_and]
      exact fun h => absurd h (hbad text)
    | ok text' =>
      have hcanon := decodeSegment_eq_ok_iff.mp htext
      cases hd : d.data with
      | none =>
        simp only [ok_bind, pure_eq_ok, mapError_ok, Except.ok.injEq, Record.mk.injEq,
          reduceCtorEq, false_and, exists_false, or_false, true_and]
        constructor
        · rintro ⟨rfl, rfl, rfl, rfl, rfl⟩
          exact ⟨hcanon, rfl, rfl, rfl, rfl⟩
        · rintro ⟨htext', rfl, rfl, rfl, rfl⟩
          exact ⟨rfl, rfl, Base64.encode_injective (hcanon.symm.trans htext'), rfl, rfl⟩
      | some s =>
        dsimp only
        cases hs : decodeSegment .data s with
        | error e =>
          have hbad : ∀ u, s.toUTF8.toList ≠ Base64.encode u := fun u hu =>
            by rw [decodeSegment_eq_ok_iff.mpr hu] at hs; cases hs
          simp only [ok_bind, error_bind, mapError_error, reduceCtorEq, false_iff, not_and,
            Option.some.injEq, false_and, exists_eq_left', false_or]
          exact fun _ h => absurd h (hbad data)
        | ok data' =>
          have hdcanon := decodeSegment_eq_ok_iff.mp hs
          simp only [ok_bind, pure_eq_ok, mapError_ok, Except.ok.injEq, Record.mk.injEq,
            reduceCtorEq, false_and, Option.some.injEq, exists_eq_left', false_or]
          constructor
          · rintro ⟨rfl, rfl, rfl, rfl, rfl⟩
            exact ⟨hcanon, hdcanon, rfl, rfl, rfl⟩
          · rintro ⟨htext', hdata', rfl, rfl, rfl⟩
            exact ⟨rfl, rfl, Base64.encode_injective (hcanon.symm.trans htext'), rfl,
              Base64.encode_injective (hdcanon.symm.trans hdata')⟩
  · obtain ⟨e, he⟩ := decodeSegment_eq_error .text htext
    exact ⟨e, by simp [toRecordOrError, toRecord, he]⟩
  · have htext : decodeSegment .text d.text = .ok t := decodeSegment_eq_ok_iff.mpr ht
    obtain ⟨e, he⟩ := decodeSegment_eq_error .data hdata
    exact ⟨e, by simp [toRecordOrError, toRecord, htext, hs, he]⟩

end FlasherStub.Description
