import FlasherStub.Tree
import Mathlib

/-!
Walking paths through a tree.

A walk passes through directories only: every part before the last must name a directory, and
the walk stops at the first lookup that finds none. Three facts about walks carry the proofs
about files. A walk that ends at a file or a device looked that entry up last, under the last
part of the path (`walkWith_eq_found`); one that stops at a missing entry stopped at the last
part too (`walkWith_eq_absent`). A walk reads only the entries it passes through, so entries
that are not directories can change without changing any walk that ends elsewhere
(`walkWith_congr_of_found`). And a name joined to a path that the tree resolves to a directory is
found by one lookup in that directory (`locate_join`), which gives reading and writing such a
path in closed form (`read_join`, `write_join`).
-/

namespace FlasherStub.Tree

theorem get?_put (t : Tree) (loc : List String) (e : Entry) (x : List String) :
    (t.put loc e).get? x = if x = loc then some e else t.get? x := by
  unfold put get?
  split
  · rename_i hsome
    rw [List.find?_map]
    -- replacing the entries named `loc` keeps every entry's name
    have hp : ((fun y : List String × Entry => y.1 == x) ∘
        fun y => if y.1 == loc then (loc, e) else y) = fun y => y.1 == x := by
      funext y
      by_cases hy : y.1 = loc <;> simp [hy]
    rw [hp]
    by_cases hx : x = loc
    · subst hx
      cases hf : t.entries.find? (·.1 == x) with
      | none => simp [hf] at hsome
      | some y =>
        have hy := List.find?_some hf
        simp [beq_iff_eq.1 hy]
    · cases hf : t.entries.find? (·.1 == x) with
      | none => simp [hx]
      | some y =>
        have hy := List.find?_some hf
        simp [beq_iff_eq.1 hy, hx]
  · rename_i hnone
    rw [List.find?_append]
    by_cases hx : x = loc
    · subst hx
      cases hf : t.entries.find? (·.1 == x) with
      | none => simp
      | some y => simp [hf] at hnone
    · simp [hx, Ne.symm hx]

section Walks

variable {look look' : List String → Option Entry} {rooted : Bool}

/-- A step to a named entry looks the entry up, unless the name is too long. -/
theorem walkWith_name {cur : List String} {n : String} {rest : List String} (h1 : n ≠ ".")
    (h2 : n ≠ "..") :
    walkWith look rooted cur (n :: rest) =
      if n.utf8ByteSize > maxNameBytes then .failed .nameTooLong
      else match look (cur ++ [n]) with
        | none => if rest.isEmpty then .absent cur n else .failed .notFound
        | some .dir => walkWith look rooted (cur ++ [n]) rest
        | some e => if rest.isEmpty then .found (cur ++ [n]) e else .failed .notADirectory := by
  rw [walkWith.eq_def]
  split
  · contradiction
  · simp_all
  · simp_all
  · next m r _ _ heq =>
    obtain ⟨rfl, rfl⟩ := List.cons_eq_cons.1 heq
    rfl

/-- A walk that ends at a directory, or at an entry outside `X`, ends there for any lookup that
agrees outside `X`, as long as nothing in `X` is a directory: the walk only passes through
directories. -/
theorem walkWith_congr_of_found {X : List String → Prop}
    (hagree : ∀ x, ¬ X x → look x = look' x) (hX : ∀ x, X x → look x ≠ some .dir)
    {cur ps : List String} {loc : List String} {e : Entry}
    (h : walkWith look rooted cur ps = .found loc e) (hloc : e = .dir ∨ ¬ X loc) :
    walkWith look' rooted cur ps = .found loc e := by
  fun_induction walkWith look rooted cur ps with
  | case1 cur => simpa [walkWith] using h
  | case2 cur rest ih => simpa [walkWith] using ih h
  | case3 cur rest hcur hr ih => simpa [walkWith, hcur, hr] using ih h
  | case4 cur rest hcur hr => simp at h
  | case5 cur rest hcur ih => simpa [walkWith, hcur] using ih h
  | case6 cur n rest h1 h2 hlong => simp at h
  | case7 cur n rest h1 h2 hlong _ hnone hrest => simp at h
  | case8 cur n rest h1 h2 hlong _ hnone hrest => simp at h
  | case9 cur n rest h1 h2 hlong _ hdir ih =>
    have hx : look' (cur ++ [n]) = some .dir := hagree _ (fun hx => hX _ hx hdir) ▸ hdir
    rw [walkWith_name h1 h2, if_neg hlong, hx]
    exact ih h
  | case10 cur n rest h1 h2 hlong _ e' he' hsome hrest =>
    obtain ⟨rfl, rfl⟩ := Walk.found.inj h
    have hx : look' (cur ++ [n]) = some e' := hagree _ (hloc.resolve_left he') ▸ hsome
    show _ = Walk.found (cur ++ [n]) e'
    rw [walkWith_name h1 h2, if_neg hlong, hx]
    cases e' with
    | dir => exact absurd rfl he'
    | file bs => simp [hrest]
    | device => simp [hrest]
  | case11 cur n rest h1 h2 hlong _ e' he' hsome hrest => simp at h

theorem ne_nil_of_walkWith_eq_found {cur rest dst : List String} {e : Entry}
    (h : walkWith look rooted cur rest = .found dst e) (he : e ≠ .dir) : rest ≠ [] := by
  rintro rfl
  exact he (Walk.found.inj h).2.symm

/-- A walk that ends at a file or a device looked it up last, under the last part of the path. -/
theorem walkWith_eq_found {cur ps dst : List String} {e : Entry}
    (h : walkWith look rooted cur ps = .found dst e) (he : e ≠ .dir) :
    look dst = some e ∧ dst.getLast? = ps.getLast? := by
  fun_induction walkWith look rooted cur ps with
  | case1 cur => exact absurd (Walk.found.inj h).2.symm he
  | case2 cur rest ih =>
    rw [List.getLast?_cons_of_ne_nil (ne_nil_of_walkWith_eq_found h he)]
    exact ih h
  | case3 cur rest hcur hr ih =>
    rw [List.getLast?_cons_of_ne_nil (ne_nil_of_walkWith_eq_found h he)]
    exact ih h
  | case4 cur rest hcur hr => simp at h
  | case5 cur rest hcur ih =>
    rw [List.getLast?_cons_of_ne_nil (ne_nil_of_walkWith_eq_found h he)]
    exact ih h
  | case6 cur n rest h1 h2 hlong => simp at h
  | case7 cur n rest h1 h2 hlong _ hnone hrest => simp at h
  | case8 cur n rest h1 h2 hlong _ hnone hrest => simp at h
  | case9 cur n rest h1 h2 hlong _ hdir ih =>
    rw [List.getLast?_cons_of_ne_nil (ne_nil_of_walkWith_eq_found h he)]
    exact ih h
  | case10 cur n rest h1 h2 hlong loc e' he' hsome hrest =>
    obtain ⟨rfl, rfl⟩ := Walk.found.inj h
    rw [List.isEmpty_iff.1 hrest]
    exact ⟨hsome, List.getLast?_concat⟩
  | case11 cur n rest h1 h2 hlong _ e' he' hsome hrest => simp at h

/-- A walk that stops at a missing entry stops at the last part of the path, and the lookup found
nothing there. -/
theorem walkWith_eq_absent {cur ps par : List String} {n : String}
    (h : walkWith look rooted cur ps = .absent par n) :
    look (par ++ [n]) = none ∧ ps.getLast? = some n := by
  have hne : ∀ {cur rest : List String}, walkWith look rooted cur rest = .absent par n →
      rest ≠ [] := by
    rintro cur rest h rfl
    simp [walkWith] at h
  fun_induction walkWith look rooted cur ps with
  | case1 cur => simp at h
  | case2 cur rest ih =>
    rw [List.getLast?_cons_of_ne_nil (hne h)]
    exact ih h
  | case3 cur rest hcur hr ih =>
    rw [List.getLast?_cons_of_ne_nil (hne h)]
    exact ih h
  | case4 cur rest hcur hr => simp at h
  | case5 cur rest hcur ih =>
    rw [List.getLast?_cons_of_ne_nil (hne h)]
    exact ih h
  | case6 cur n rest h1 h2 hlong => simp at h
  | case7 cur m rest h1 h2 hlong loc hnone hrest =>
    obtain ⟨rfl, rfl⟩ := Walk.absent.inj h
    rw [List.isEmpty_iff.1 hrest]
    exact ⟨hnone, rfl⟩
  | case8 cur n rest h1 h2 hlong _ hnone hrest => simp at h
  | case9 cur n rest h1 h2 hlong _ hdir ih =>
    rw [List.getLast?_cons_of_ne_nil (hne h)]
    exact ih h
  | case10 cur n rest h1 h2 hlong _ e' he' hsome hrest => simp at h
  | case11 cur n rest h1 h2 hlong _ e' he' hsome hrest => simp at h

/-- Walking on from a directory that a path reaches is walking the longer path. -/
theorem walkWith_append_of_dir {cur ps dir : List String}
    (h : walkWith look rooted cur ps = .found dir .dir) (qs : List String) :
    walkWith look rooted cur (ps ++ qs) = walkWith look rooted dir qs := by
  fun_induction walkWith look rooted cur ps with
  | case1 cur => rw [(Walk.found.inj h).1]; rfl
  | case2 cur rest ih => simpa [walkWith] using ih h
  | case3 cur rest hcur hr ih => simpa [walkWith, hcur, hr] using ih h
  | case4 cur rest hcur hr => simp at h
  | case5 cur rest hcur ih => simpa [walkWith, hcur] using ih h
  | case6 cur n rest h1 h2 hlong => simp at h
  | case7 cur n rest h1 h2 hlong _ hnone hrest => simp at h
  | case8 cur n rest h1 h2 hlong _ hnone hrest => simp at h
  | case9 cur n rest h1 h2 hlong _ hdir ih =>
    rw [List.cons_append, walkWith_name h1 h2, if_neg hlong, hdir]
    exact ih h
  | case10 cur n rest h1 h2 hlong _ e' he' hsome hrest => exact absurd (Walk.found.inj h).2 he'
  | case11 cur n rest h1 h2 hlong _ e' he' hsome hrest => simp at h

/-- A path that does not reach a directory cannot be walked further: going on below it fails or
leaves the tree. -/
theorem walkWith_append_of_not_dir {cur ps : List String}
    (h : ∀ dir, walkWith look rooted cur ps ≠ .found dir .dir) (n : String) (qs : List String) :
    (∃ err, walkWith look rooted cur (ps ++ n :: qs) = .failed err) ∨
      walkWith look rooted cur (ps ++ n :: qs) = .outside := by
  fun_induction walkWith look rooted cur ps with
  | case1 cur => exact absurd rfl (h cur)
  | case2 cur rest ih => simpa [walkWith] using ih h
  | case3 cur rest hcur hr ih => simpa [walkWith, hcur, hr] using ih h
  | case4 cur rest hcur hr => simp [walkWith, hcur, hr]
  | case5 cur rest hcur ih => simpa [walkWith, hcur] using ih h
  | case6 cur m rest h1 h2 hlong =>
    rw [List.cons_append, walkWith_name h1 h2, if_pos hlong]
    exact .inl ⟨_, rfl⟩
  | case7 cur m rest h1 h2 hlong _ hnone hrest =>
    rw [List.cons_append, walkWith_name h1 h2, if_neg hlong, hnone]
    exact .inl ⟨.notFound, by simp⟩
  | case8 cur m rest h1 h2 hlong _ hnone hrest =>
    rw [List.cons_append, walkWith_name h1 h2, if_neg hlong, hnone]
    exact .inl ⟨.notFound, by simp⟩
  | case9 cur m rest h1 h2 hlong _ hdir ih =>
    rw [List.cons_append, walkWith_name h1 h2, if_neg hlong, hdir]
    exact ih h
  | case10 cur m rest h1 h2 hlong _ e' he' hsome hrest =>
    rw [List.cons_append, walkWith_name h1 h2, if_neg hlong, hsome]
    cases e' <;> simp_all
  | case11 cur m rest h1 h2 hlong _ e' he' hsome hrest =>
    rw [List.cons_append, walkWith_name h1 h2, if_neg hlong, hsome]
    cases e' <;> simp_all

end Walks

/-- A name that a directory can hold: no separator in it, not empty, neither `.` nor `..`, and
short enough to be looked up. -/
structure IsEntryName (n : String) : Prop where
  no_sep : '/' ∉ n.toList
  ne_empty : n ≠ ""
  ne_current : n ≠ "."
  ne_parent : n ≠ ".."
  short : ¬ n.utf8ByteSize > maxNameBytes

theorem walkWith_single {look : List String → Option Entry} {rooted : Bool} {dir : List String}
    {n : String} (hn : IsEntryName n) :
    walkWith look rooted dir [n] =
      match look (dir ++ [n]) with
      | none => .absent dir n
      | some e => .found (dir ++ [n]) e := by
  rw [walkWith_name hn.ne_current hn.ne_parent, if_neg hn.short]
  cases look (dir ++ [n]) with
  | none => rfl
  | some e => cases e <;> rfl

end FlasherStub.Tree

namespace FlasherStub.Path

theorem pieces_of_no_sep {n : String} (hn : '/' ∉ n.toList) : pieces n = [n] := by
  unfold pieces
  rw [List.splitOn_eq_singleton hn]
  simp

theorem pieces_append_sep (a b : String) : pieces (a ++ "/" ++ b) = pieces a ++ pieces b := by
  unfold pieces
  have : (a ++ "/" ++ b).toList = a.toList ++ '/' :: b.toList := by simp
  rw [this, List.splitOn_append_cons_self, List.map_append]

theorem isAbsolute_of_no_sep {n : String} (hn : '/' ∉ n.toList) : isAbsolute n = false := by
  unfold isAbsolute
  simp only [Bool.eq_false_iff, ne_eq, String.startsWith_string_iff]
  exact fun h => hn (h.subset (by simp))

theorem eq_append_sep_of_endsWith {base : String} (h : base.endsWith "/" = true) :
    ∃ b, base = b ++ "/" := by
  rw [String.endsWith_eq_endsWith_toSlice, String.Slice.endsWith_string_iff] at h
  obtain ⟨b, hb⟩ := h
  refine ⟨String.ofList b, ?_⟩
  apply String.toList_injective
  simpa using hb.symm

/-- Joining a name to a path: the name alone after an empty path, and otherwise after one
separator. -/
theorem join_of_no_sep (base : String) {n : String} (hn : '/' ∉ n.toList) :
    join base n = if base.isEmpty then n
      else if base.endsWith "/" then base ++ n else base ++ "/" ++ n := by
  simp [join, isAbsolute_of_no_sep hn]

end FlasherStub.Path

namespace FlasherStub.Tree

@[simp] theorem parts_empty : parts "" = [] := by decide

/-- The parts of a name joined to a path are the path's parts and the name. -/
theorem parts_join (base : String) {n : String} (hn : IsEntryName n) :
    parts (Path.join base n) = parts base ++ [n] := by
  have hkeep : [n].filter (· ≠ "") = [n] := by simp [hn.ne_empty]
  rw [Path.join_of_no_sep base hn.no_sep]
  by_cases he : base.isEmpty
  · rw [if_pos he, String.isEmpty_iff.1 he, parts_empty, List.nil_append, parts,
      Path.pieces_of_no_sep hn.no_sep, hkeep]
  · rw [if_neg he]
    by_cases hs : base.endsWith "/"
    · rw [if_pos hs]
      obtain ⟨b, rfl⟩ := Path.eq_append_sep_of_endsWith hs
      have hb : b ++ "/" = b ++ "/" ++ "" := by simp
      rw [parts, parts, Path.pieces_append_sep, hb, Path.pieces_append_sep,
        Path.pieces_of_no_sep hn.no_sep]
      simp [Path.pieces, hn.ne_empty]
    · rw [if_neg hs, parts, parts, Path.pieces_append_sep, Path.pieces_of_no_sep hn.no_sep,
        List.filter_append, hkeep]

/-- A name alone is one part. -/
theorem parts_name {n : String} (hn : IsEntryName n) : parts n = [n] := by
  have h := parts_join "" hn
  rwa [Path.join_of_no_sep "" hn.no_sep, if_pos (by decide), parts_empty, List.nil_append] at h

theorem getLast?_parts_join (base : String) {n : String} (hn : IsEntryName n) :
    (parts (Path.join base n)).getLast? = some n := by
  rw [parts_join base hn, List.getLast?_concat]

theorem endsWith_sep_iff {s : String} : s.endsWith "/" = true ↔ s.toList.getLast? = some '/' := by
  have hsep : "/".toList = ['/'] := by decide
  rw [String.endsWith_eq_endsWith_toSlice, String.Slice.endsWith_string_iff,
    List.getLast?_eq_some_iff, String.copy_toSlice, hsep]
  exact ⟨fun ⟨t, ht⟩ => ⟨t, ht.symm⟩, fun ⟨t, ht⟩ => ⟨t, ht.symm⟩⟩

/-- A text that ends with a name does not end with a separator. -/
theorem endsWith_sep_append_name (a : String) {n : String} (hn : IsEntryName n) :
    (a ++ n).endsWith "/" = false := by
  rw [Bool.eq_false_iff, ne_eq, endsWith_sep_iff, String.toList_append, List.getLast?_append]
  intro h
  cases hl : n.toList.getLast? with
  | none => exact hn.ne_empty (by simpa using List.getLast?_eq_none_iff.1 hl)
  | some x =>
    rw [hl, Option.some_or, Option.some_inj] at h
    exact hn.no_sep (h ▸ List.mem_of_getLast? hl)

/-- A name joined to a path is the path's text, possibly with a separator, then the name. -/
theorem exists_join_eq_append (base : String) {n : String} (hn : IsEntryName n) :
    ∃ a, Path.join base n = a ++ n := by
  rw [Path.join_of_no_sep base hn.no_sep]
  by_cases he : base.isEmpty
  · exact ⟨"", by simp [he]⟩
  · by_cases hs : base.endsWith "/"
    · exact ⟨base, by simp [he, hs]⟩
    · exact ⟨base ++ "/", by simp [he, hs, String.append_assoc]⟩

theorem trailing_join (base : String) {n : String} (hn : IsEntryName n) :
    trailing (Path.join base n) = false := by
  obtain ⟨a, ha⟩ := exists_join_eq_append base hn
  rw [trailing, ha, endsWith_sep_append_name a hn, Bool.false_and]

theorem isEmpty_join (base : String) {n : String} (hn : IsEntryName n) :
    (Path.join base n).isEmpty = false := by
  obtain ⟨a, ha⟩ := exists_join_eq_append base hn
  rw [ha, Bool.eq_false_iff, ne_eq, String.isEmpty_iff]
  intro h
  exact hn.ne_empty (String.append_eq_empty_iff.1 h).2

/-- Text after a non-empty text does not change whether it starts from the root. -/
theorem isAbsolute_append {a : String} (ha : a ≠ "") (b : String) :
    isAbsolute (a ++ b) = isAbsolute a := by
  obtain ⟨c, l, hl⟩ := List.exists_cons_of_ne_nil (by simpa using ha : a.toList ≠ [])
  have hsep : "/".toList = ['/'] := by decide
  rw [Bool.eq_iff_iff, isAbsolute, isAbsolute, String.startsWith_string_iff,
    String.startsWith_string_iff, String.toList_append, hl, hsep]
  simp

theorem isAbsolute_join (base : String) {n : String} (hn : IsEntryName n) :
    isAbsolute (Path.join base n) = isAbsolute base := by
  rw [Path.join_of_no_sep base hn.no_sep]
  by_cases he : base.isEmpty
  · rw [if_pos he, String.isEmpty_iff.1 he]
    exact Path.isAbsolute_of_no_sep hn.no_sep
  · have hne : base ≠ "" := fun h => he (String.isEmpty_iff.2 h)
    rw [if_neg he]
    split
    · exact isAbsolute_append hne n
    · rw [String.append_assoc, isAbsolute_append hne]

/-! ### Paths below a directory -/

/-- A tree of regular files and directories only, as a working directory holds: the one device
is the null device outside it. -/
def Plain (t : Tree) : Prop := ∀ loc, t.get? loc ≠ some .device

/-- The tree walks the path, from the working directory, to the directory at `dir`. -/
def Resolves (t : Tree) (p : String) (dir : List String) : Prop :=
  isAbsolute p = false ∧ t.walk [] (parts p) = .found dir .dir

theorem Resolves.unique {t : Tree} {p : String} {dir dir' : List String} (h : t.Resolves p dir)
    (h' : t.Resolves p dir') : dir = dir' :=
  (Walk.found.inj (h.2.symm.trans h'.2)).1

/-- A directory of the working directory is reached by its name. -/
theorem resolves_name {t : Tree} {n : String} (hn : IsEntryName n) (h : t.get? [n] = some .dir) :
    t.Resolves n [n] := by
  refine ⟨Path.isAbsolute_of_no_sep hn.no_sep, ?_⟩
  rw [walk, parts_name hn, walkWith_single hn, List.nil_append, h]

section Joined

variable {t : Tree} {out : String} {dir : List String} {n : String}

/-- A name joined to a path that resolves to a directory is looked up in that directory. -/
theorem locate_join (hres : t.Resolves out dir) (hn : IsEntryName n) :
    t.locate (Path.join out n) =
      if (Path.join out n).utf8ByteSize > maxPathBytes then .failed .nameTooLong
      else match t.get? (dir ++ [n]) with
        | none => .absent dir n
        | some e => .found (dir ++ [n]) e := by
  rw [locate, isAbsolute_join out hn, hres.1, walk, parts_join out hn,
    walkWith_append_of_dir hres.2, walkWith_single hn]
  rfl

theorem read_join (hres : t.Resolves out dir) (hn : IsEntryName n) :
    t.read (Path.join out n) =
      match pathRefusal? (Path.join out n) with
      | some e => .error e
      | none =>
        if (Path.join out n).utf8ByteSize > maxPathBytes then .error .nameTooLong
        else match t.get? (dir ++ [n]) with
          | none => .error .notFound
          | some .dir => .error .isADirectory
          | some (.file bs) => .ok bs
          | some .device => .ok [] := by
  rw [read, isEmpty_join out hn, locate_join hres hn, trailing_join out hn]
  cases pathRefusal? (Path.join out n) with
  | some e => rfl
  | none =>
    by_cases hlong : (Path.join out n).utf8ByteSize > maxPathBytes
    · simp only [hlong, Bool.false_eq_true, ↓reduceIte]
    · simp only [hlong, ↓reduceIte]
      cases t.get? (dir ++ [n]) with
      | none => rfl
      | some e => cases e <;> rfl

theorem write_join (hres : t.Resolves out dir) (hn : IsEntryName n) (bs : List UInt8) :
    t.write (Path.join out n) bs =
      match pathRefusal? (Path.join out n) with
      | some e => .error e
      | none =>
        if (Path.join out n).utf8ByteSize > maxPathBytes then .error .nameTooLong
        else match t.get? (dir ++ [n]) with
          | some .dir => .error .isADirectory
          | some .device => .ok t
          | _ => .ok (t.put (dir ++ [n]) (.file bs)) := by
  rw [write, isEmpty_join out hn, locate_join hres hn, trailing_join out hn,
    isAbsolute_join out hn, hres.1]
  cases pathRefusal? (Path.join out n) with
  | some e => rfl
  | none =>
    by_cases hlong : (Path.join out n).utf8ByteSize > maxPathBytes
    · simp only [hlong, Bool.false_eq_true, ↓reduceIte]
    · simp only [hlong, ↓reduceIte]
      cases t.get? (dir ++ [n]) with
      | none => rfl
      | some e => cases e <;> rfl

/-- A name below a resolved path can be written when the path is short, is not refused and the
name is no directory. -/
theorem exists_write_join_eq_ok (hres : t.Resolves out dir) (hn : IsEntryName n)
    (hnone : pathRefusal? (Path.join out n) = none)
    (hshort : ¬ (Path.join out n).utf8ByteSize > maxPathBytes)
    (hnd : t.get? (dir ++ [n]) ≠ some .dir) (bs : List UInt8) :
    ∃ t', t.write (Path.join out n) bs = .ok t' := by
  rw [write_join hres hn, hnone]
  dsimp only
  rw [if_neg hshort]
  cases h : t.get? (dir ++ [n]) with
  | none => exact ⟨_, rfl⟩
  | some e =>
    cases e with
    | dir => exact absurd h hnd
    | file _ => exact ⟨_, rfl⟩
    | device => exact ⟨_, rfl⟩

theorem isFile_join (hres : t.Resolves out dir) (hn : IsEntryName n) :
    t.isFile (Path.join out n) =
      ((pathRefusal? (Path.join out n)).isNone &&
        !decide ((Path.join out n).utf8ByteSize > maxPathBytes) &&
        match t.get? (dir ++ [n]) with
        | some (.file _) => true
        | _ => false) := by
  rw [isFile, locate_join hres hn, trailing_join out hn]
  by_cases hlong : (Path.join out n).utf8ByteSize > maxPathBytes
  · simp [hlong]
  · rw [if_neg hlong, decide_eq_false hlong, Bool.not_false, Bool.and_true]
    cases t.get? (dir ++ [n]) with
    | none => rfl
    | some e => cases e <;> rfl

/-- Two trees in which a path resolves to the same directory, and which hold the same entry other
than a device under a name there, write the name alike. -/
theorem write_join_map {t' : Tree} (hres : t.Resolves out dir) (hres' : t'.Resolves out dir)
    (hn : IsEntryName n) (hget : t'.get? (dir ++ [n]) = t.get? (dir ++ [n]))
    (hdev : t.get? (dir ++ [n]) ≠ some .device) (bs : List UInt8) :
    t'.write (Path.join out n) bs =
      (t.write (Path.join out n) bs).map fun _ => t'.put (dir ++ [n]) (.file bs) := by
  rw [write_join hres' hn, write_join hres hn, hget]
  cases pathRefusal? (Path.join out n) with
  | some e => rfl
  | none =>
    dsimp only
    by_cases hlong : (Path.join out n).utf8ByteSize > maxPathBytes
    · rw [if_pos hlong, if_pos hlong]
      rfl
    · rw [if_neg hlong, if_neg hlong]
      cases he : t.get? (dir ++ [n]) with
      | none => rfl
      | some e =>
        cases e with
        | file => rfl
        | dir => rfl
        | device => exact absurd he hdev

end Joined

/-! ### What a path names -/

section Locate

variable {t t' : Tree} {p : String}

/-- A path that names a file or a device names an entry under the path's last part, which the
lookup of the tree (or, from the root, of the system entries) holds. -/
theorem locate_eq_found {loc : List String} {e : Entry} (h : t.locate p = .found loc e)
    (he : e ≠ .dir) :
    loc.getLast? = (parts p).getLast? ∧
      (if isAbsolute p then systemEntry? loc else t.get? loc) = some e := by
  unfold locate at h
  by_cases hlong : p.utf8ByteSize > maxPathBytes
  · rw [if_pos hlong] at h
    cases h
  · rw [if_neg hlong] at h
    by_cases habs : isAbsolute p
    · rw [if_pos habs] at h
      rw [if_pos habs]
      exact (walkWith_eq_found h he).symm
    · rw [if_neg habs] at h
      rw [if_neg habs]
      exact (walkWith_eq_found h he).symm

/-- A relative path that names a missing entry: the tree has nothing there. -/
theorem get?_of_locate_eq_absent {par : List String} {n : String}
    (h : t.locate p = .absent par n) (habs : isAbsolute p = false) : t.get? (par ++ [n]) = none := by
  unfold locate at h
  by_cases hlong : p.utf8ByteSize > maxPathBytes
  · rw [if_pos hlong] at h
    cases h
  · rw [if_neg hlong, habs, if_neg Bool.false_ne_true] at h
    exact (walkWith_eq_absent h).1

/-- A path that names a directory, or an entry outside `X`, names it in every tree that agrees
outside `X` and has no directory in `X`. -/
theorem locate_congr_of_found {X : List String → Prop}
    (hagree : ∀ x, ¬ X x → t.get? x = t'.get? x) (hX : ∀ x, X x → t.get? x ≠ some .dir)
    {loc : List String} {e : Entry} (h : t.locate p = .found loc e) (hloc : e = .dir ∨ ¬ X loc) :
    t'.locate p = .found loc e := by
  unfold locate at h ⊢
  by_cases hlong : p.utf8ByteSize > maxPathBytes
  · rw [if_pos hlong] at h
    cases h
  · rw [if_neg hlong] at h ⊢
    by_cases habs : isAbsolute p
    · rw [if_pos habs] at h ⊢
      exact h
    · rw [if_neg habs] at h ⊢
      exact walkWith_congr_of_found hagree hX h hloc

theorem isFile_eq_true_iff :
    t.isFile p = true ↔
      pathRefusal? p = none ∧ trailing p = false ∧ ∃ loc bs, t.locate p = .found loc (.file bs) := by
  unfold isFile
  cases hloc : t.locate p with
  | found loc e => cases e <;> simp
  | _ => simp

theorem read_eq_of_locate_eq (h : t.locate p = t'.locate p) : t.read p = t'.read p := by
  unfold read
  rw [h]

theorem locate_congr_get? (h : ∀ x, t.get? x = t'.get? x) : t.locate p = t'.locate p := by
  have hget : t.get? = t'.get? := funext h
  unfold locate walk
  rw [hget]

/-- A write fails alike in two trees in which the path names the same thing. -/
theorem write_eq_error_congr {bs : List UInt8} {e : IoError} (hloc : t.locate p = t'.locate p)
    (h : t.write p bs = .error e) : t'.write p bs = .error e := by
  unfold write at h ⊢
  rw [← hloc]
  generalize pathRefusal? p = r at h ⊢
  cases r with
  | some e' => exact h
  | none =>
    dsimp only at h ⊢
    by_cases hemp : p.isEmpty
    · rw [if_pos hemp] at h ⊢
      exact h
    · rw [if_neg hemp] at h ⊢
      -- the two writes differ only in the tree they return
      generalize t.locate p = w at h ⊢
      rcases w with ⟨loc, _ | _ | _⟩ | ⟨par, n⟩ | _ | _ <;>
        first | exact h | (split_ifs at h ⊢ <;> exact h)

/-- Trees that agree outside `X`, with no directory in `X`, have the same files at every path
whose last part is the last part of nothing in `X`. -/
theorem isFile_congr {X : List String → Prop}
    (hagree : ∀ x, ¬ X x → t.get? x = t'.get? x) (hX : ∀ x, X x → t.get? x ≠ some .dir)
    (hX' : ∀ x, X x → t'.get? x ≠ some .dir) (hlast : ∀ x, X x → x.getLast? ≠ (parts p).getLast?) :
    t.isFile p = t'.isFile p ∧ (t.isFile p = true → t.read p = t'.read p) := by
  -- a file that one tree has at the path, the other has there too
  have transfer : ∀ {a b : Tree}, (∀ x, ¬ X x → a.get? x = b.get? x) →
      (∀ x, X x → a.get? x ≠ some .dir) → ∀ {loc bs}, a.locate p = .found loc (.file bs) →
      b.locate p = .found loc (.file bs) := by
    intro a b hab haX loc bs h
    refine locate_congr_of_found hab haX h (.inr fun hx => hlast loc hx ?_)
    exact (locate_eq_found h (by simp)).1
  have hsymm : ∀ x, ¬ X x → t'.get? x = t.get? x := fun x hx => (hagree x hx).symm
  have hiff : t.isFile p = true ↔ t'.isFile p = true := by
    simp only [isFile_eq_true_iff]
    constructor
    · rintro ⟨hr, htr, loc, bs, h⟩
      exact ⟨hr, htr, loc, bs, transfer hagree hX h⟩
    · rintro ⟨hr, htr, loc, bs, h⟩
      exact ⟨hr, htr, loc, bs, transfer hsymm hX' h⟩
  refine ⟨Bool.eq_iff_iff.2 hiff, fun hfile => ?_⟩
  obtain ⟨-, -, loc, bs, h⟩ := isFile_eq_true_iff.1 hfile
  exact read_eq_of_locate_eq (h.trans (transfer hagree hX h).symm)

/-- What a write that succeeds did: the path is one the operating system takes and does not end
with a separator, and it names a device, which keeps the tree as it was, or the place of a file
or of a missing entry in the working directory, where the written file now is. -/
theorem write_eq_ok_inv {bs : List UInt8} {t₁ : Tree} (h : t.write p bs = .ok t₁) :
    pathRefusal? p = none ∧ p.isEmpty = false ∧ trailing p = false ∧
      ((t₁ = t ∧ ∃ loc, t.locate p = .found loc .device) ∨
        isAbsolute p = false ∧ ∃ loc, t₁ = t.put loc (.file bs) ∧
          ((∃ par n, t.locate p = .absent par n ∧ par ++ [n] = loc) ∨
            ∃ f, t.locate p = .found loc (.file f))) := by
  unfold write at h
  cases hr : pathRefusal? p with
  | some e =>
    rw [hr] at h
    cases h
  | none =>
    rw [hr] at h
    dsimp only at h
    by_cases hemp : p.isEmpty
    · rw [if_pos hemp] at h
      cases h
    rw [if_neg hemp] at h
    refine ⟨rfl, by simpa using hemp, ?_⟩
    -- every other outcome of the walk is a failed write
    cases hloc : t.locate p with
    | found loc e =>
      rw [hloc] at h
      cases e with
      | dir => cases h
      | device =>
        by_cases htr : trailing p
        · simp [htr] at h
        simp only [htr, Bool.false_eq_true, ↓reduceIte, Except.ok.injEq] at h
        exact ⟨by simpa using htr, .inl ⟨h.symm, loc, rfl⟩⟩
      | file f =>
        by_cases htr : trailing p
        · simp [htr] at h
        by_cases habs : isAbsolute p
        · simp [htr, habs] at h
        simp only [htr, habs, Bool.false_eq_true, ↓reduceIte, Except.ok.injEq] at h
        exact ⟨by simpa using htr, .inr ⟨by simpa using habs, loc, h.symm, .inr ⟨f, rfl⟩⟩⟩
    | absent par n =>
      rw [hloc] at h
      by_cases htr : trailing p
      · simp [htr] at h
      by_cases habs : isAbsolute p
      · simp [htr, habs] at h
      simp only [htr, habs, Bool.false_eq_true, ↓reduceIte, Except.ok.injEq] at h
      exact ⟨by simpa using htr, .inr ⟨by simpa using habs, _, h.symm, .inl ⟨par, n, rfl, rfl⟩⟩⟩
    | outside =>
      rw [hloc] at h
      cases h
    | failed e =>
      rw [hloc] at h
      cases h

/-- A write succeeds on a device, or on a file or a missing entry of the working directory. -/
theorem write_eq_ok_cases {bs : List UInt8} {t₁ : Tree} (h : t.write p bs = .ok t₁) :
    (∃ loc, t.locate p = .found loc .device) ∨
      isAbsolute p = false ∧
        ((∃ loc f, t.locate p = .found loc (.file f)) ∨ ∃ par n, t.locate p = .absent par n) := by
  obtain ⟨-, -, -, ⟨-, hdev⟩ | ⟨habs, loc, -, ⟨par, n, habsent, -⟩ | ⟨f, hfile⟩⟩⟩ :=
    write_eq_ok_inv h
  · exact .inl hdev
  · exact .inr ⟨habs, .inr ⟨par, n, habsent⟩⟩
  · exact .inr ⟨habs, .inl ⟨loc, f, hfile⟩⟩

/-- Making a directory puts one where the tree had nothing. -/
theorem makeDir_eq_ok {t₁ : Tree} (h : t.makeDir p = .ok t₁) :
    ∃ loc, t.get? loc = none ∧ t₁ = t.put loc .dir := by
  unfold makeDir at h
  split at h
  · cases h
  · split at h
    · cases h
    · split at h
      · cases h
      · rename_i par n hloc
        by_cases habs : isAbsolute p
        · simp [habs] at h
        · simp only [habs, Bool.false_eq_true, ↓reduceIte, Except.ok.injEq] at h
          exact ⟨par ++ [n], get?_of_locate_eq_absent hloc (by simpa using habs), h.symm⟩
      · cases h
      · cases h

end Locate

/-- A name below a relative path that does not walk to a directory names no file. -/
theorem isFile_join_of_not_dir {t : Tree} {base n : String} (hrel : isAbsolute base = false)
    (hnot : ∀ dir, t.walk [] (parts base) ≠ .found dir .dir) (hn : IsEntryName n) :
    t.isFile (Path.join base n) = false := by
  unfold isFile locate
  rw [isAbsolute_join base hn, hrel, if_neg Bool.false_ne_true, walk, parts_join base hn]
  by_cases hlong : (Path.join base n).utf8ByteSize > maxPathBytes
  · simp [hlong]
  · rw [if_neg hlong]
    rcases walkWith_append_of_not_dir hnot n [] with ⟨err, h⟩ | h <;> simp [h]

theorem Resolves.congr {t t' : Tree} {p : String} {dir : List String} {X : List String → Prop}
    (hagree : ∀ x, ¬ X x → t.get? x = t'.get? x) (hX : ∀ x, X x → t.get? x ≠ some .dir)
    (h : t.Resolves p dir) : t'.Resolves p dir :=
  ⟨h.1, walkWith_congr_of_found hagree hX h.2 (.inl rfl)⟩

/-- A name can be written below a path only where the path resolves to a directory, provided
the tree holds no devices and the name is not that of the null device. -/
theorem resolves_of_write_join {t t₁ : Tree} {out n : String} {bs : List UInt8}
    (hn : IsEntryName n) (hnull : n ≠ "null") (hplain : t.Plain)
    (h : t.write (Path.join out n) bs = .ok t₁) : ∃ dir, t.Resolves out dir := by
  rcases write_eq_ok_cases h with ⟨loc, hloc⟩ | ⟨hrel, hto⟩
  · -- the only device outside the tree is the null device, whose name is not `n`
    obtain ⟨hlast, hentry⟩ := locate_eq_found hloc (by simp)
    rw [getLast?_parts_join out hn] at hlast
    split at hentry
    · have hnull' : loc = ["dev", "null"] := by
        unfold systemEntry? at hentry
        split at hentry <;> simp_all
      subst hnull'
      exact absurd (Option.some_inj.1 hlast).symm hnull
    · exact absurd hentry (hplain loc)
  · have hrel' : isAbsolute out = false := (isAbsolute_join out hn).symm.trans hrel
    by_contra hno
    have hnot : ∀ dir, t.walk [] (parts out) ≠ .found dir .dir := fun dir hd => hno ⟨dir, hrel', hd⟩
    unfold locate at hto
    by_cases hlong : (Path.join out n).utf8ByteSize > maxPathBytes
    · simp [hlong] at hto
    · rw [if_neg hlong, hrel, if_neg Bool.false_ne_true, walk, parts_join out hn] at hto
      rcases walkWith_append_of_not_dir hnot n [] with ⟨err, herr⟩ | hout
      · rw [herr] at hto
        simp at hto
      · rw [hout] at hto
        simp at hto

end FlasherStub.Tree
