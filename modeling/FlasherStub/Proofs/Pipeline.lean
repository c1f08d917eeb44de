import FlasherStub.Proofs.Json.Document
import FlasherStub.Proofs.Toml.Document
import FlasherStub.Proofs.Image.Checks
import Mathlib

/-!
Addresses on their way from a description document to an image.

A description file is read in its format (`Format.parse`), its segments are decoded
(`Description.toRecordOrError`), and the record is checked against the widths of the image
(`Image.ofRecord`). `Format.Writes` says what a document of each format writes: in JSON an
object or an array of the grammar whose address members are integer literals, in TOML lines
whose root section assigns the addresses as integer literals. Either way each address is written
once, within 128 signed bits, and the description holds its value.

The main statement, `addresses_reach_image_exactly`, follows the addresses through all three
stages: an image holds exactly the integers written, an absent data address being zero, and a
record with an address outside a word is refused for the first such address, in the order entry,
text start, data start, with that address's own value. No stage rounds, wraps or cuts an
address.
-/

namespace FlasherStub

open Image

/-- What a document of a format writes for the addresses of a description. -/
def Format.Writes : Format → Description → String → Prop
  | .json, d, text => Json.Grammar.Writes d text.toUTF8.toList
  | .toml, d, text => Toml.Writes d text

/-- A document read in its format writes the addresses of the description read. -/
theorem Format.parse_writes {fmt : Format} {text : String} {d : Description}
    (h : fmt.parse text = .ok d) : fmt.Writes d text := by
  cases fmt with
  | json =>
    have hjson : Description.ofJson text = .ok d := by
      simp only [Format.parse] at h
      cases hj : Description.ofJson text with
      | error e => simp [hj] at h
      | ok d' => simpa [hj] using h
    exact Json.ofJson_writes hjson
  | toml =>
    have htoml : Description.ofToml text = .ok d := by
      simp only [Format.parse] at h
      cases ht : Description.ofToml text with
      | error e => simp [ht] at h
      | ok d' => simpa [ht] using h
    exact Toml.ofToml_writes htoml

/-- The checks of a record report the first address outside a word, in the order entry, text
start, data start, with its value. -/
theorem ofRecord_first_address_fault (r : Record) (c : UInt32) :
    (¬(0 ≤ r.entry ∧ r.entry ≤ wordMax) →
        ofRecord r c = .error (.addressOutOfRange .entry r.entry)) ∧
      ((0 ≤ r.entry ∧ r.entry ≤ wordMax) → ¬(0 ≤ r.textStart ∧ r.textStart ≤ wordMax) →
        ofRecord r c = .error (.addressOutOfRange .textStart r.textStart)) ∧
      ((0 ≤ r.entry ∧ r.entry ≤ wordMax) → (0 ≤ r.textStart ∧ r.textStart ≤ wordMax) →
        ¬(0 ≤ r.dataStart ∧ r.dataStart ≤ wordMax) →
        ofRecord r c = .error (.addressOutOfRange .dataStart r.dataStart)) := by
  refine ⟨fun he => ?_, fun he hts => ?_, fun he hts hds => ?_⟩
  · rw [ofRecord_eq_error_iff]
    simp [Record.faults, he]
  · rw [ofRecord_eq_error_iff]
    simp [Record.faults, he, hts]
  · rw [ofRecord_eq_error_iff]
    simp [Record.faults, he, hts, hds]

/-- A document read in its format writes its addresses as integer literals; the image of its
record for any chip holds exactly those integers, an absent data address being zero; and an
address outside a word refuses the record at the first such address, in the order entry, text
start, data start, with the value written. -/
theorem addresses_reach_image_exactly (fmt : Format) (text : String) (d : Description)
    (c : Chip) (h : fmt.parse text = .ok d) :
    fmt.Writes d text ∧
      ∀ r, d.toRecordOrError = .ok r →
        (∀ i, ofRecord r c.chipType = .ok i →
          (i.entry.toNat : Int) = d.entry ∧ (i.textStart.toNat : Int) = d.textStart ∧
            (i.dataStart.toNat : Int) = d.dataStart.getD 0) ∧
        (¬(0 ≤ d.entry ∧ d.entry ≤ wordMax) →
          ofRecord r c.chipType = .error (.addressOutOfRange .entry d.entry)) ∧
        ((0 ≤ d.entry ∧ d.entry ≤ wordMax) → ¬(0 ≤ d.textStart ∧ d.textStart ≤ wordMax) →
          ofRecord r c.chipType = .error (.addressOutOfRange .textStart d.textStart)) ∧
        ((0 ≤ d.entry ∧ d.entry ≤ wordMax) → (0 ≤ d.textStart ∧ d.textStart ≤ wordMax) →
          ¬(0 ≤ d.dataStart.getD 0 ∧ d.dataStart.getD 0 ≤ wordMax) →
          ofRecord r c.chipType =
            .error (.addressOutOfRange .dataStart (d.dataStart.getD 0))) := by
  refine ⟨Format.parse_writes h, fun r hr => ?_⟩
  -- the record holds the description's addresses as they are
  obtain ⟨hentry, htextStart, hdataStart⟩ := Description.toRecordOrError_addresses hr
  rw [← hentry, ← htextStart, ← hdataStart]
  refine ⟨fun i hi => ?_, ofRecord_first_address_fault r c.chipType⟩
  obtain ⟨-, -, he, hts, -, hds, -⟩ := ofRecord_eq_ok_iff.mp hi
  exact ⟨he, hts, hds⟩

/-- The JSON array `[4294967296,"",2]` describes a stub whose entry is one past the largest
word: it is read with that entry, and its record is refused for it. -/
theorem addresses_reach_image_of_wide_entry :
    Format.parse .json "[4294967296,\"\",2]" = .ok ⟨4294967296, "", 2, none, none⟩ ∧
      (Format.Writes .json ⟨4294967296, "", 2, none, none⟩ "[4294967296,\"\",2]" ∧
        ∀ r, Description.toRecordOrError ⟨4294967296, "", 2, none, none⟩ = .ok r →
          (∀ i, ofRecord r Chip.esp32.chipType = .ok i →
            (i.entry.toNat : Int) = 4294967296 ∧ (i.textStart.toNat : Int) = 2 ∧
              (i.dataStart.toNat : Int) = (none : Option Int).getD 0) ∧
          (¬(0 ≤ (4294967296 : Int) ∧ (4294967296 : Int) ≤ wordMax) →
            ofRecord r Chip.esp32.chipType = .error (.addressOutOfRange .entry 4294967296)) ∧
          ((0 ≤ (4294967296 : Int) ∧ (4294967296 : Int) ≤ wordMax) →
            ¬(0 ≤ (2 : Int) ∧ (2 : Int) ≤ wordMax) →
            ofRecord r Chip.esp32.chipType = .error (.addressOutOfRange .textStart 2)) ∧
          ((0 ≤ (4294967296 : Int) ∧ (4294967296 : Int) ≤ wordMax) →
            (0 ≤ (2 : Int) ∧ (2 : Int) ≤ wordMax) →
            ¬(0 ≤ (none : Option Int).getD 0 ∧ (none : Option Int).getD 0 ≤ wordMax) →
            ofRecord r Chip.esp32.chipType =
              .error (.addressOutOfRange .dataStart ((none : Option Int).getD 0)))) := by
  have h : Format.parse .json "[4294967296,\"\",2]" = .ok ⟨4294967296, "", 2, none, none⟩ := by
    decide +kernel
  exact ⟨h, addresses_reach_image_exactly .json _ _ .esp32 h⟩

end FlasherStub
