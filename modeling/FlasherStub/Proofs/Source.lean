import FlasherStub.Proofs.Extract.Single
import Mathlib

/-!
Reading stub descriptions: the format from the path, the file from the stub directory.

The format of a description file is chosen from its path alone (`Path.HasExtension`): the text
after the last dot of the path's final part, where empty parts and `.` parts do not count, the
final part must not be `..`, and a dot that starts the part does not mark an extension. A path
reads as JSON or TOML exactly when its extension is `json` or `toml`, with the file read whole as
UTF-8; any other path is refused before any file operation (`readDescription_format_from_extension`).

In a stub directory, a chip's description is the JSON file when that is a regular file, and the
TOML file otherwise; the choice depends on which files exist and never on their contents, and each
file is read in the format its name gives, since the name survives any directory it is joined to
(`Path.extension_join`). So loading a stub never meets an unknown format
(`loadStub_chooses_by_existence`).
-/

namespace FlasherStub.Path

/-! ### The extension of a name -/

/-- A list of characters holds no dot, or is split at its last dot. -/
theorem no_dot_or_last_dot (l : List Char) :
    '.' ∉ l ∨ ∃ b a, l = b ++ '.' :: a ∧ '.' ∉ a := by
  induction l with
  | nil => exact .inl List.not_mem_nil
  | cons c l ih =>
    rcases ih with hl | ⟨b, a, rfl, ha⟩
    · by_cases hc : c = '.'
      · exact .inr ⟨[], l, by simp [hc], hl⟩
      · exact .inl (by simp [Ne.symm hc, hl])
    · exact .inr ⟨c :: b, a, rfl, ha⟩

theorem splitOn_dot_eq_nil_singleton_iff {l : List Char} : l.splitOn '.' = [[]] ↔ l = [] := by
  constructor
  · intro h
    calc l = ['.'].intercalate (l.splitOn '.') := (List.intercalate_splitOn '.').symm
      _ = [] := by rw [h]; rfl
  · rintro rfl
    rfl

/-- The pieces of a text split at its dots, last first, when its last dot is known. -/
theorem reverse_splitOn_of_last_dot {b a : List Char} (ha : '.' ∉ a) :
    ((b ++ '.' :: a).splitOn '.').reverse = a :: (b.splitOn '.').reverse := by
  rw [List.splitOn_append_cons_self, List.splitOn_eq_singleton ha]
  simp

theorem extensionOf_of_no_dot {n : String} (h : '.' ∉ n.toList) : extensionOf n = none := by
  unfold extensionOf
  split
  · rfl
  · rw [List.splitOn_eq_singleton h]
    rfl

theorem extensionOf_of_last_dot {n : String} {b a : List Char} (hn : n ≠ "..")
    (h : n.toList = b ++ '.' :: a) (ha : '.' ∉ a) :
    extensionOf n = if b = [] then none else some (String.ofList a) := by
  unfold extensionOf
  rw [if_neg hn, h, reverse_splitOn_of_last_dot ha]
  obtain ⟨before, earlier, hbe⟩ := List.exists_cons_of_ne_nil
    (List.reverse_ne_nil_iff.2 (List.splitOn_ne_nil '.' b))
  rw [hbe]
  dsimp only
  -- the text before the last dot is empty exactly when it splits into one empty piece
  have hempty : (earlier.isEmpty ∧ before.isEmpty) ↔ b = [] := by
    rw [← splitOn_dot_eq_nil_singleton_iff, ← List.reverse_inj, hbe]
    simp [and_comm]
  by_cases hb : b = []
  · rw [if_pos (hempty.2 hb), if_pos hb]
  · rw [if_neg (mt hempty.1 hb), if_neg hb]

/-- The extension of a name is the text after its last dot, when text comes before that dot
and the name is not `..`. -/
theorem extensionOf_eq_some_iff {n e : String} :
    extensionOf n = some e ↔ n ≠ ".." ∧ ∃ b, b ≠ "" ∧ n = b ++ "." ++ e ∧ '.' ∉ e.toList := by
  constructor
  · intro h
    have hn : n ≠ ".." := by
      rintro rfl
      simp [extensionOf] at h
    refine ⟨hn, ?_⟩
    rcases no_dot_or_last_dot n.toList with hno | ⟨b, a, hba, ha⟩
    · rw [extensionOf_of_no_dot hno] at h
      cases h
    · rw [extensionOf_of_last_dot hn hba ha] at h
      by_cases hb : b = []
      · rw [if_pos hb] at h
        cases h
      · rw [if_neg hb, Option.some_inj] at h
        subst h
        refine ⟨String.ofList b, by simpa using hb, ?_, by simpa using ha⟩
        apply String.toList_injective
        simp [hba]
  · rintro ⟨hn, b, hb, rfl, he⟩
    have hsplit : (b ++ "." ++ e).toList = b.toList ++ '.' :: e.toList := by simp
    rw [extensionOf_of_last_dot hn hsplit he, if_neg (by simpa using hb)]
    simp

/-! ### The final part of a path -/

/-- The last text between separators of a path that is neither empty nor `.`. -/
def lastPart? (p : String) : Option String :=
  ((pieces p).filter (fun s => s ≠ "" ∧ s ≠ ".")).getLast?

/-- The final component of a path is a name exactly when its last part other than `.` is a
text other than `..`: a leading root or `.` is never a name. -/
theorem getLast?_components_eq_name_iff {p n : String} :
    (components p).getLast? = some (.name n) ↔ lastPart? p = some n ∧ n ≠ ".." := by
  unfold components lastPart?
  dsimp only
  rw [List.getLast?_append, List.getLast?_map]
  cases ((pieces p).filter (fun s => s ≠ "" ∧ s ≠ ".")).getLast? with
  | none =>
    simp only [Option.map_none, Option.none_or, reduceCtorEq, false_and, iff_false]
    intro hlead
    split at hlead
    · simp at hlead
    · split at hlead <;> simp at hlead
  | some s =>
    simp only [Option.map_some, Option.some_or, Option.some_inj]
    by_cases hs : s = ".."
    · subst hs
      simp only [↓reduceIte, reduceCtorEq, false_iff, not_and, not_not]
      exact fun h => h.symm
    · rw [if_neg hs, Component.name.injEq]
      constructor
      · rintro rfl
        exact ⟨rfl, hs⟩
      · rintro ⟨rfl, -⟩
        rfl

theorem fileName_eq_some_iff {p n : String} :
    fileName p = some n ↔ lastPart? p = some n ∧ n ≠ ".." := by
  rw [← getLast?_components_eq_name_iff]
  unfold fileName
  cases (components p).getLast? with
  | none => simp
  | some c => cases c <;> simp

/-- The extension of a path: the text after the last dot of its final part, when that part is
neither empty, nor `.`, nor `..`, and text comes before that dot. -/
def HasExtension (p e : String) : Prop :=
  ∃ n, lastPart? p = some n ∧ n ≠ ".." ∧ ∃ b, b ≠ "" ∧ n = b ++ "." ++ e ∧ '.' ∉ e.toList

theorem extension_eq_some_iff {p e : String} : extension p = some e ↔ HasExtension p e := by
  unfold extension HasExtension
  rw [Option.bind_eq_some_iff]
  constructor
  · rintro ⟨n, hn, he⟩
    obtain ⟨hlast, -⟩ := fileName_eq_some_iff.1 hn
    exact ⟨n, hlast, extensionOf_eq_some_iff.1 he⟩
  · rintro ⟨n, hlast, hdot, hsplit⟩
    exact ⟨n, fileName_eq_some_iff.2 ⟨hlast, hdot⟩, extensionOf_eq_some_iff.2 ⟨hdot, hsplit⟩⟩

/-- A name joined to a path is the path's last part. -/
theorem lastPart?_join (base : String) {n : String} (hn : Tree.IsEntryName n) :
    lastPart? (join base n) = some n := by
  -- the pieces of the joined path end with the name, whatever the base
  obtain ⟨pre, hpre⟩ : ∃ pre, pieces (join base n) = pre ++ [n] := by
    rw [join_of_no_sep base hn.no_sep]
    by_cases he : base.isEmpty
    · exact ⟨[], by rw [if_pos he, pieces_of_no_sep hn.no_sep]; rfl⟩
    · rw [if_neg he]
      by_cases hs : base.endsWith "/"
      · obtain ⟨b, rfl⟩ := eq_append_sep_of_endsWith hs
        exact ⟨pieces b, by rw [if_pos hs, pieces_append_sep, pieces_of_no_sep hn.no_sep]⟩
      · exact ⟨pieces base, by rw [if_neg hs, pieces_append_sep, pieces_of_no_sep hn.no_sep]⟩
  unfold lastPart?
  rw [hpre, List.filter_append, List.getLast?_append]
  simp [hn.ne_empty, hn.ne_current]

/-- The extension of a name joined to a path is the extension of the name. -/
theorem extension_join (base : String) {n : String} (hn : Tree.IsEntryName n) :
    extension (join base n) = extensionOf n := by
  have hname : fileName (join base n) = some n :=
    fileName_eq_some_iff.2 ⟨lastPart?_join base hn, hn.ne_parent⟩
  rw [extension, hname, Option.bind_some]

end FlasherStub.Path

namespace FlasherStub

/-! ### The format of a path -/

/-- The extension that names a format. -/
def Format.extension : Format → String
  | .json => "json"
  | .toml => "toml"

/-- A path is read in a format exactly when its extension names the format. -/
theorem Format.ofPath?_eq_some_iff {p : String} {fmt : Format} :
    Format.ofPath? p = some fmt ↔ Path.HasExtension p fmt.extension := by
  rw [← Path.extension_eq_some_iff]
  unfold Format.ofPath?
  split <;> cases fmt <;> simp_all [Format.extension]

/-- A path without the extension of a format is refused before any file operation. -/
theorem readDescription_of_ofPath?_eq_none {m : Type → Type} [Monad m] [Store m] {p : String}
    (h : Format.ofPath? p = none) :
    (readDescription p : m _) = pure (.error (.unknownStubFormat p)) := by
  unfold readDescription
  rw [h]

/-- A description file is read in the format its path's extension names, whole and as UTF-8
text, a failure to read it being an I/O error about the path; a path whose extension names no
format is refused at once, with no file operation, in any monad. -/
theorem readDescription_format_from_extension (p : String) :
    (∀ fmt, Format.ofPath? p = some fmt ↔ Path.HasExtension p fmt.extension) ∧
    (∀ fmt : Format, Path.HasExtension p fmt.extension → ∀ t : Tree,
      (readDescription p : StateM Tree _).run t = (fmt.readFile t p, t)) ∧
    ((∀ fmt : Format, ¬ Path.HasExtension p fmt.extension) →
      ∀ (m : Type → Type) [Monad m] [Store m],
        (readDescription p : m _) = pure (.error (.unknownStubFormat p))) := by
  refine ⟨fun fmt => Format.ofPath?_eq_some_iff, fun fmt h t =>
    readDescription_run_of_ofPath?_eq_some (Format.ofPath?_eq_some_iff.2 h) t, fun h m _ _ => ?_⟩
  apply readDescription_of_ofPath?_eq_none
  cases hp : Format.ofPath? p with
  | none => rfl
  | some fmt => exact absurd (Format.ofPath?_eq_some_iff.1 hp) (h fmt)

example : Format.ofPath? ".json" = none ∧ Format.ofPath? "x.JSON" = none := by decide +kernel

example : Format.ofPath? "a.b.json" = some .json ∧ Format.ofPath? "..json" = some .json ∧
    Format.ofPath? "dir/a.json/" = some .json := by decide +kernel

/-! ### Finding a chip's description -/

namespace Chip

theorem ofPath?_join_jsonStubName (dir : String) (c : Chip) :
    Format.ofPath? (Path.join dir c.jsonStubName) = some .json := by
  rw [Format.ofPath?, Path.extension_join dir (isEntryName_jsonStubName c)]
  cases c <;> decide +kernel

theorem ofPath?_join_tomlStubName (dir : String) (c : Chip) :
    Format.ofPath? (Path.join dir c.tomlStubName) = some .toml := by
  rw [Format.ofPath?, Path.extension_join dir (isEntryName_tomlStubName c)]
  cases c <;> decide +kernel

end Chip

/-- A directory is not a regular file. -/
theorem Tree.isFile_eq_false_of_isDir {t : Tree} {p : String} (h : t.isDir p = true) :
    t.isFile p = false := by
  unfold isDir at h
  unfold isFile
  cases hloc : t.locate p with
  | found loc e => cases e <;> simp_all
  | _ => simp

section Load

variable (dir : String) (c : Chip) (t : Tree)

theorem loadStub_run'_of_json (h : t.isFile (Path.join dir c.jsonStubName) = true) :
    (loadStub dir c : StateM Tree _).run' t =
      (Format.json.readFile t (Path.join dir c.jsonStubName) >>= Description.toRecordOrError) := by
  rw [loadStub_run', stubPath_run', if_pos h]
  exact readRecord_run'_of_ofPath?_eq_some (Chip.ofPath?_join_jsonStubName dir c) t

theorem loadStub_run'_of_toml (hj : t.isFile (Path.join dir c.jsonStubName) = false)
    (h : t.isFile (Path.join dir c.tomlStubName) = true) :
    (loadStub dir c : StateM Tree _).run' t =
      (Format.toml.readFile t (Path.join dir c.tomlStubName) >>= Description.toRecordOrError) := by
  rw [loadStub_run', stubPath_run', if_neg (by simp [hj]), if_pos h]
  exact readRecord_run'_of_ofPath?_eq_some (Chip.ofPath?_join_tomlStubName dir c) t

theorem loadStub_run'_of_none (hj : t.isFile (Path.join dir c.jsonStubName) = false)
    (ht : t.isFile (Path.join dir c.tomlStubName) = false) :
    (loadStub dir c : StateM Tree _).run' t = .error (.stubNotFound c dir) := by
  rw [loadStub_run', stubPath_run', if_neg (by simp [hj]), if_neg (by simp [ht])]

theorem loadStub_run'_eq_error_of_json (h : t.isFile (Path.join dir c.jsonStubName) = true)
    {e : Error} (he : (loadStub dir c : StateM Tree _).run' t = .error e) : e.OfReading .json := by
  rw [loadStub_run', stubPath_run', if_pos h] at he
  exact readRecord_run'_eq_error_of_ofPath?_eq_some (Chip.ofPath?_join_jsonStubName dir c) he

theorem loadStub_run'_eq_error_of_toml (hj : t.isFile (Path.join dir c.jsonStubName) = false)
    (h : t.isFile (Path.join dir c.tomlStubName) = true)
    {e : Error} (he : (loadStub dir c : StateM Tree _).run' t = .error e) : e.OfReading .toml := by
  rw [loadStub_run', stubPath_run', if_neg (by simp [hj]), if_pos h] at he
  exact readRecord_run'_eq_error_of_ofPath?_eq_some (Chip.ofPath?_join_tomlStubName dir c) he

end Load

/-- Loading a chip's stub picks its description by which file exists, never by whether it
parses, and reads it in the format its name gives. When the JSON description is a regular file,
it is read as JSON, failing only with an error of the file, of JSON or of the segments, and the
outcome is the same in every tree holding the same JSON file, whatever the TOML description is.
Otherwise, when the TOML description is a regular file, it is read as TOML, failing only with an
error of the file, of TOML or of the segments. Otherwise the stub is not found. A directory under
either name is not a regular file, and the format of the file is never unknown, for every
directory text. -/
theorem loadStub_chooses_by_existence (dir : String) (c : Chip) (t : Tree) :
    (∀ q, (loadStub dir c : StateM Tree _).run' t ≠ .error (.unknownStubFormat q)) ∧
    (t.isFile (Path.join dir c.jsonStubName) = true →
      (loadStub dir c : StateM Tree _).run' t =
          (Format.json.readFile t (Path.join dir c.jsonStubName) >>=
            Description.toRecordOrError) ∧
        (∀ e, (loadStub dir c : StateM Tree _).run' t = .error e → e.OfReading .json) ∧
        ∀ t' : Tree, t'.isFile (Path.join dir c.jsonStubName) = true →
          t'.read (Path.join dir c.jsonStubName) = t.read (Path.join dir c.jsonStubName) →
          (loadStub dir c : StateM Tree _).run' t' = (loadStub dir c : StateM Tree _).run' t) ∧
    (t.isFile (Path.join dir c.jsonStubName) = false →
      t.isFile (Path.join dir c.tomlStubName) = true →
      (loadStub dir c : StateM Tree _).run' t =
          (Format.toml.readFile t (Path.join dir c.tomlStubName) >>=
            Description.toRecordOrError) ∧
        ∀ e, (loadStub dir c : StateM Tree _).run' t = .error e → e.OfReading .toml) ∧
    (t.isFile (Path.join dir c.jsonStubName) = false →
      t.isFile (Path.join dir c.tomlStubName) = false →
      (loadStub dir c : StateM Tree _).run' t = .error (.stubNotFound c dir)) ∧
    (t.isDir (Path.join dir c.jsonStubName) = true →
      t.isFile (Path.join dir c.jsonStubName) = false) ∧
    (t.isDir (Path.join dir c.tomlStubName) = true →
      t.isFile (Path.join dir c.tomlStubName) = false) := by
  refine ⟨fun q hq => ?_, fun hj => ⟨loadStub_run'_of_json dir c t hj,
      fun e => loadStub_run'_eq_error_of_json dir c t hj, fun t' hj' hread => ?_⟩,
    fun hj ht => ⟨loadStub_run'_of_toml dir c t hj ht,
      fun e => loadStub_run'_eq_error_of_toml dir c t hj ht⟩,
    loadStub_run'_of_none dir c t, Tree.isFile_eq_false_of_isDir, Tree.isFile_eq_false_of_isDir⟩
  · -- an unknown format is none of the errors of reading, nor a missing stub
    cases hj : t.isFile (Path.join dir c.jsonStubName)
    · cases ht : t.isFile (Path.join dir c.tomlStubName)
      · rw [loadStub_run'_of_none dir c t hj ht] at hq
        cases hq
      · exact loadStub_run'_eq_error_of_toml dir c t hj ht hq
    · exact loadStub_run'_eq_error_of_json dir c t hj hq
  · rw [loadStub_run'_of_json dir c t' hj', loadStub_run'_of_json dir c t hj,
      Format.readFile_congr hread]

end FlasherStub
