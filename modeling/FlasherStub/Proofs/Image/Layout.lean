import FlasherStub.Proofs.Image.Checks
import Mathlib

/-!
The serialized form of an image, read back.

An image is written as the magic, four header words, the text, two more words and the data, the
position of the second pair of words depending on the length of the text. `Image.ofBytes?`
reads that layout: it takes the two lengths from the words where the layout puts them and
refuses anything left over. Reading the bytes of an image gives the image back
(`ofBytes?_toBytes`), and the same bytes with anything after them are refused
(`ofBytes?_toBytes_append`): the serialized form holds its own length.

For an image built from a record this gives the round trip of the whole format, and with it that
two accepted records with the same bytes are the same record for the same chip type, and that no
accepted image is a proper prefix of another. The bytes are also spelled out field by field, each
word holding the exact value of its field, and the size is the length of the bytes.
-/

namespace FlasherStub

/-! ### Little-endian words -/

namespace LittleEndian

/-- Writing `w` bytes keeps the value modulo `256 ^ w`, and reading gives exactly that back. -/
theorem ofBytes_toBytes (w n : ℕ) : ofBytes (toBytes w n) = n % 256 ^ w := by
  induction w generalizing n with
  | zero => simp [Nat.mod_one]
  | succ w ih =>
    -- The first byte is the value modulo `256`, the others write `n / 256` on one byte fewer.
    have hbyte : (UInt8.ofNat (n % 256)).toNat = n % 256 :=
      UInt8.toNat_ofNat_of_lt' (Nat.mod_lt _ (by decide))
    calc ofBytes (toBytes (w + 1) n)
        = n % 256 + 256 * (n / 256 % 256 ^ w) := by rw [toBytes_succ, ofBytes_cons, ih, hbyte]
      _ = n % (256 * 256 ^ w) := (Nat.mod_mul ..).symm
      _ = n % 256 ^ (w + 1) := by rw [pow_succ']

/-- The four bytes of a word read back as the word. -/
theorem ofBytes_word (x : UInt32) : ofBytes (word x) = x.toNat := by
  rw [word, ofBytes_toBytes, Nat.mod_eq_of_lt (by simpa using x.toNat_lt)]

end LittleEndian

namespace Image

/-! ### Reading an image -/

theorem readWord_word_append (x : UInt32) (rest : List UInt8) :
    readWord (LittleEndian.word x ++ rest) = some (x, rest) := by
  have hlen := LittleEndian.length_word x
  simp [readWord, hlen, List.take_left' hlen, List.drop_left' hlen, LittleEndian.ofBytes_word]

/-- A segment of an image is short enough that its length word holds its length. -/
theorem toNat_lengthWord {bs : List UInt8} (h : bs.length < Nat.pow 2 32) :
    (lengthWord bs).toNat = bs.length :=
  UInt32.toNat_ofNat_of_lt' h

/-- The reader finds the image in its bytes and refuses the bytes when anything follows them. -/
theorem ofBytes?_toBytes_append (i : Image) (t : List UInt8) :
    ofBytes? (i.toBytes ++ t) = if t = [] then some i else none := by
  obtain ⟨c, e, ts, text, ds, data, ht, hd⟩ := i
  have ht' : text.length < 4294967296 := ht
  have hd' : data.length < 4294967296 := hd
  -- Each header word reads back; after the data length word what is left is `data ++ t`.
  simp only [ofBytes?, toBytes, List.append_assoc, magic]
  simp [readWord_word_append, toNat_lengthWord ht, toNat_lengthWord hd]
  by_cases h : t = []
  · subst h
    simp [ht', hd']
  · simp [h]

theorem ofBytes?_toBytes (i : Image) : ofBytes? i.toBytes = some i := by
  simpa using ofBytes?_toBytes_append i []

/-- Two images with the same bytes are the same image. -/
theorem toBytes_injective : Function.Injective toBytes := by
  intro i j h
  have hj := ofBytes?_toBytes j
  rwa [← h, ofBytes?_toBytes, Option.some.injEq] at hj

/-- The bytes of an image are never a proper prefix of the bytes of another. -/
theorem toBytes_eq_of_isPrefixOf {i j : Image} (h : i.toBytes <+: j.toBytes) : i.toBytes = j.toBytes := by
  obtain ⟨t, ht⟩ := h
  have hread := ofBytes?_toBytes_append i t
  rw [ht, ofBytes?_toBytes] at hread
  by_cases hnil : t = []
  · rw [← ht, hnil, List.append_nil]
  · simp [hnil] at hread

/-! ### Images of records -/

variable {r : Record} {c : UInt32} {i : Image}

/-- The record and the chip type of an image can be read off the image. -/
theorem ofRecord_inj {r' : Record} {c' : UInt32} (h : ofRecord r c = .ok i)
    (h' : ofRecord r' c' = .ok i) : r = r' ∧ c = c' := by
  obtain ⟨-, hc, he, hts, ht, hds, hd⟩ := ofRecord_eq_ok_iff.mp h
  obtain ⟨-, hc', he', hts', ht', hds', hd'⟩ := ofRecord_eq_ok_iff.mp h'
  obtain ⟨_, _, _, _, _⟩ := r
  obtain ⟨_, _, _, _, _⟩ := r'
  simp only at he hts ht hds hd he' hts' ht' hds' hd'
  refine ⟨?_, hc.symm.trans hc'⟩
  simp only [Record.mk.injEq]
  refine ⟨he.symm.trans he', hts.symm.trans hts', ht.symm.trans ht', hds.symm.trans hds',
    hd.symm.trans hd'⟩

/-- Reading back the bytes of a record's image gives the chip type and the record's values; the
reader uses every byte and refuses the bytes with anything after them. Two accepted records with
the same bytes are the same record for the same chip type, and the bytes of no accepted record
are a proper prefix of those of another. -/
theorem ofBytes?_toBytes_of_ofRecord (r : Record) (c : UInt32) (i : Image)
    (h : ofRecord r c = .ok i) :
    (∃ d, ofBytes? i.toBytes = some d ∧ d.chipType = c ∧ (d.entry.toNat : Int) = r.entry ∧
        (d.textStart.toNat : Int) = r.textStart ∧ d.text = r.text ∧
        (d.dataStart.toNat : Int) = r.dataStart ∧ d.data = r.data) ∧
      (∀ t ≠ [], ofBytes? (i.toBytes ++ t) = none) ∧
      (∀ r' c' i', ofRecord r' c' = .ok i' → i'.toBytes = i.toBytes → r' = r ∧ c' = c) ∧
      (∀ r' c' i', ofRecord r' c' = .ok i' → i.toBytes <+: i'.toBytes → i'.toBytes = i.toBytes) := by
  refine ⟨⟨i, ofBytes?_toBytes i, (ofRecord_eq_ok_iff.mp h).2⟩, ?_, ?_, ?_⟩
  · intro t ht
    simp [ofBytes?_toBytes_append, ht]
  · intro r' c' i' h' hbytes
    rw [toBytes_injective hbytes] at h'
    exact ofRecord_inj h' h
  · intro r' c' i' _ hprefix
    exact (toBytes_eq_of_isPrefixOf hprefix).symm

/-- The image of a record like the one of the test of the format that decodes a whole stub. -/
theorem ofBytes?_toBytes_of_small_record :
    ∃ r i, r = (⟨0x4037c8ac, 0x4037c000, [0, 1, 2, 255], 0x3fcb2bf0, [0x66, 0x6c]⟩ : Record) ∧
      ofRecord r 5 = .ok i ∧
      ((∃ d, ofBytes? i.toBytes = some d ∧ d.chipType = 5 ∧ (d.entry.toNat : Int) = r.entry ∧
          (d.textStart.toNat : Int) = r.textStart ∧ d.text = r.text ∧
          (d.dataStart.toNat : Int) = r.dataStart ∧ d.data = r.data) ∧
        (∀ t ≠ [], ofBytes? (i.toBytes ++ t) = none) ∧
        (∀ r' c' i', ofRecord r' c' = .ok i' → i'.toBytes = i.toBytes → r' = r ∧ c' = 5) ∧
        (∀ r' c' i', ofRecord r' c' = .ok i' → i.toBytes <+: i'.toBytes →
          i'.toBytes = i.toBytes)) := by
  obtain ⟨i, h⟩ : ∃ i, ofRecord ⟨0x4037c8ac, 0x4037c000, [0, 1, 2, 255], 0x3fcb2bf0,
      [0x66, 0x6c]⟩ 5 = .ok i := ⟨_, rfl⟩
  exact ⟨_, i, rfl, h, ofBytes?_toBytes_of_ofRecord _ _ i h⟩

/-- Writing an image is checking the record and then writing the image it gives. -/
theorem encode_eq_map_toBytes (r : Record) (c : UInt32) :
    encode r c = (ofRecord r c).map toBytes := by
  cases h : ofRecord r c <;> simp [encode, h]

/-- The bytes of a word of an image, for a field whose value fits a word. -/
theorem word_eq_toBytes {w : UInt32} {v : Int} (h : (w.toNat : Int) = v) :
    LittleEndian.word w = LittleEndian.toBytes 4 v.toNat := by
  rw [LittleEndian.word, ← h, Int.toNat_natCast]

/-- Four little-endian bytes of a value that fits a word read back as that value. -/
theorem ofBytes_toBytes_four {v : Int} (h0 : 0 ≤ v) (h1 : v ≤ wordMax) :
    (LittleEndian.ofBytes (LittleEndian.toBytes 4 v.toNat) : Int) = v := by
  have hlt : v.toNat < 256 ^ 4 := by
    simp only [wordMax] at h1
    omega
  rw [LittleEndian.ofBytes_toBytes, Nat.mod_eq_of_lt hlt, Int.toNat_of_nonneg h0]

/-- Encoding is the check followed by the writing, for every record and chip type. The bytes of
an accepted record's image, field by field, are the magic, the chip type, the entry, the text
start, the text length, the text, the data start, the data length and the data, each number as
four little-endian bytes. Those four bytes read back as the exact value of the field, so nothing
was cut off or wrapped. The size, the two packed headers and the two segments, is the length of
the bytes, `28` more than the two segments together, and is far below `2 ^ 64`. -/
theorem toBytes_of_ofRecord :
    (∀ (r : Record) (c : UInt32), encode r c = (ofRecord r c).map toBytes) ∧
    ∀ (r : Record) (c : UInt32) (i : Image), ofRecord r c = .ok i →
      i.toBytes = magic ++ LittleEndian.toBytes 4 c.toNat ++ LittleEndian.toBytes 4 r.entry.toNat ++
          LittleEndian.toBytes 4 r.textStart.toNat ++ LittleEndian.toBytes 4 r.text.length ++
          r.text ++ LittleEndian.toBytes 4 r.dataStart.toNat ++
          LittleEndian.toBytes 4 r.data.length ++ r.data ∧
        (∀ v ∈ [r.entry, r.textStart, (r.text.length : Int), r.dataStart, (r.data.length : Int)],
          (LittleEndian.ofBytes (LittleEndian.toBytes 4 v.toNat) : Int) = v) ∧
        i.size = i.toBytes.length ∧ i.toBytes.length = 28 + r.text.length + r.data.length ∧
        i.size < 2 ^ 64 := by
  refine ⟨encode_eq_map_toBytes, fun r c i h => ?_⟩
  obtain ⟨hf, hc, he, hts, ht, hds, hd⟩ := ofRecord_eq_ok_iff.mp h
  obtain ⟨⟨he0, he1⟩, ⟨hts0, hts1⟩, ⟨hds0, hds1⟩, htl, hdl⟩ := (Record.faults_eq_nil_iff r).mp hf
  have hlength (bs : List UInt8) (hbs : bs.length < Nat.pow 2 32) :
      LittleEndian.word (lengthWord bs) = LittleEndian.toBytes 4 bs.length := by
    rw [LittleEndian.word, toNat_lengthWord hbs]
  -- the two packed headers take twenty and eight bytes
  have hheaders : headerSize = 20 ∧ segmentHeaderSize = 8 := ⟨rfl, rfl⟩
  have hsize : i.size = i.toBytes.length := by
    simp only [size, toBytes, List.length_append, LittleEndian.length_word, magic, List.length_cons,
      List.length_nil, hheaders]
  refine ⟨?_, ?_, hsize, ?_, ?_⟩
  · rw [toBytes, word_eq_toBytes he, word_eq_toBytes hts, word_eq_toBytes hds,
      hlength _ i.text_lt, hlength _ i.data_lt, LittleEndian.word, hc, ht, hd]
  · simp only [List.mem_cons, List.not_mem_nil, or_false]
    rintro v (rfl | rfl | rfl | rfl | rfl)
    · exact ofBytes_toBytes_four he0 he1
    · exact ofBytes_toBytes_four hts0 hts1
    · exact ofBytes_toBytes_four (Int.natCast_nonneg _) (by exact_mod_cast htl)
    · exact ofBytes_toBytes_four hds0 hds1
    · exact ofBytes_toBytes_four (Int.natCast_nonneg _) (by exact_mod_cast hdl)
  · rw [← hsize, size, ht, hd, hheaders.1, hheaders.2]
    omega
  · have htext := i.text_lt
    have hdata := i.data_lt
    simp only [Nat.pow_eq] at htext hdata
    rw [size, hheaders.1, hheaders.2]
    omega

/-- The image of the record of the test of the format that writes a stub for the first chip. -/
theorem toBytes_of_esp8266_record :
    ∃ r i, r = (⟨0x4010f000, 0x40100000, [1, 2], 0x3ffe8000, [0xaa]⟩ : Record) ∧
      ofRecord r 0x10000 = .ok i ∧
      encode r 0x10000 = (ofRecord r 0x10000).map toBytes ∧
      (i.toBytes = magic ++ LittleEndian.toBytes 4 (0x10000 : UInt32).toNat ++
          LittleEndian.toBytes 4 r.entry.toNat ++ LittleEndian.toBytes 4 r.textStart.toNat ++
          LittleEndian.toBytes 4 r.text.length ++ r.text ++ LittleEndian.toBytes 4 r.dataStart.toNat ++
          LittleEndian.toBytes 4 r.data.length ++ r.data ∧
        (∀ v ∈ [r.entry, r.textStart, (r.text.length : Int), r.dataStart, (r.data.length : Int)],
          (LittleEndian.ofBytes (LittleEndian.toBytes 4 v.toNat) : Int) = v) ∧
        i.size = i.toBytes.length ∧ i.toBytes.length = 28 + r.text.length + r.data.length ∧
        i.size < 2 ^ 64) := by
  obtain ⟨i, h⟩ : ∃ i, ofRecord ⟨0x4010f000, 0x40100000, [1, 2], 0x3ffe8000, [0xaa]⟩ 0x10000 =
      .ok i := ⟨_, rfl⟩
  exact ⟨_, i, rfl, h, toBytes_of_ofRecord.1 _ _, toBytes_of_ofRecord.2 _ _ i h⟩

end Image

end FlasherStub
