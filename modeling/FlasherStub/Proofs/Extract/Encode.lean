import FlasherStub.Proofs.Source
import Mathlib

/-!
Encoding one description file: its stages, and when it writes.

`encodeFile` chooses the format from the input's extension, reads the file, parses it, decodes
the text and then the data segment, checks the three addresses and then the two segment lengths,
and only then writes the image. All of that before the write is a pure function of the tree the
run starts from (`imageOfFile`), which returns the error of the first stage that fails, and the
write comes last (`encodeFile_run`): a failure before it leaves the tree as it was, and a path
whose extension names no format is refused with no file operation at all. A write that succeeds
leaves its bytes where the path ends, so the output reads back as the image
(`Tree.read_of_write_eq_ok`), with one exception outside the program: a device takes the write
and keeps nothing, and the null device is an output every run can name
(`encodeFile_into_null_device_keeps_nothing`).
-/

namespace FlasherStub.Tree

/-! ### A written file reads back -/

section Walks

variable {look : List String → Option Entry} {rooted : Bool}

/-- A last part that names an entry other than a directory ends the walk there. -/
theorem walkWith_last {cur : List String} {n : String} {e : Entry} (h1 : n ≠ ".")
    (h2 : n ≠ "..") (hlong : ¬ n.utf8ByteSize > maxNameBytes) (hlook : look (cur ++ [n]) = some e)
    (he : e ≠ .dir) : walkWith look rooted cur [n] = .found (cur ++ [n]) e := by
  rw [walkWith_name h1 h2, if_neg hlong, hlook]
  cases e with
  | dir => exact absurd rfl he
  | file bs => rfl
  | device => rfl

/-- A walk that ends at an entry other than a directory, or at a missing entry, ends at the same
place, now found, once that place holds an entry that is not a directory: the walk passes through
directories only, so never through that place. -/
theorem walkWith_update_last {loc : List String} {e' : Entry} (he' : e' ≠ .dir)
    (hloc : look loc ≠ some .dir) {cur ps : List String}
    (h : (∃ par n, walkWith look rooted cur ps = .absent par n ∧ par ++ [n] = loc) ∨
      ∃ e, e ≠ .dir ∧ walkWith look rooted cur ps = .found loc e) :
    walkWith (fun x => if x = loc then some e' else look x) rooted cur ps = .found loc e' := by
  fun_induction walkWith look rooted cur ps with
  | case1 cur => simp at h
  | case2 cur rest ih => exact ih (by simpa [walkWith] using h)
  | case3 cur rest hcur hr ih =>
    rw [walkWith, if_pos hcur, if_pos hr]
    exact ih (by simpa [walkWith, hcur, hr] using h)
  | case4 cur rest hcur hr => simp at h
  | case5 cur rest hcur ih =>
    rw [walkWith, if_neg hcur]
    exact ih (by simpa [walkWith, hcur] using h)
  | case6 cur n rest h1 h2 hlong => simp at h
  | case7 cur n rest h1 h2 hlong _ hnone hrest =>
    obtain ⟨par, m, habs, rfl⟩ | ⟨e, -, hfound⟩ := h
    · obtain ⟨rfl, rfl⟩ := Walk.absent.inj habs
      rw [List.isEmpty_iff.1 hrest]
      exact walkWith_last h1 h2 hlong (if_pos rfl) he'
    · cases hfound
  | case8 cur n rest h1 h2 hlong _ hnone hrest => simp at h
  | case9 cur n rest h1 h2 hlong _ hdir ih =>
    -- the walk goes on through a directory, which is not the place written
    have hne : cur ++ [n] ≠ loc := fun heq => hloc (heq ▸ hdir)
    rw [walkWith_name h1 h2, if_neg hlong, if_neg hne, hdir]
    exact ih h
  | case10 cur n rest h1 h2 hlong _ e he hsome hrest =>
    obtain ⟨par, m, habs, -⟩ | ⟨e₀, -, hfound⟩ := h
    · cases habs
    · obtain ⟨rfl, rfl⟩ := Walk.found.inj hfound
      rw [List.isEmpty_iff.1 hrest]
      exact walkWith_last h1 h2 hlong (if_pos rfl) he'
  | case11 cur n rest h1 h2 hlong _ e he hsome hrest => simp at h

end Walks

/-- An entry that is not a directory, put where a relative path ends (at a file, or at a missing
entry), is what the path then names. -/
theorem locate_put_of_last {t : Tree} {p : String} {loc : List String} {e' : Entry}
    (habs : isAbsolute p = false) (he' : e' ≠ .dir)
    (h : (∃ par n, t.locate p = .absent par n ∧ par ++ [n] = loc) ∨
      ∃ e, e ≠ .dir ∧ t.locate p = .found loc e) :
    (t.put loc e').locate p = .found loc e' := by
  unfold locate at h ⊢
  by_cases hlong : p.utf8ByteSize > maxPathBytes
  · rw [if_pos hlong] at h
    simp at h
  · rw [if_neg hlong, habs, if_neg Bool.false_ne_true] at h ⊢
    -- the place written held no directory
    have hloc : t.get? loc ≠ some .dir := by
      rcases h with ⟨par, n, habsent, rfl⟩ | ⟨e, he, hfound⟩
      · simp [(walkWith_eq_absent habsent).1]
      · rw [(walkWith_eq_found hfound he).1]
        simpa using he
    have hget : (t.put loc e').get? = fun x => if x = loc then some e' else t.get? x :=
      funext (get?_put t loc e')
    unfold walk at h ⊢
    rw [hget]
    exact walkWith_update_last he' hloc h

/-- A write that succeeds leaves its bytes at the path: reading the path gives them back, unless
the path names a device, which takes the write, keeps nothing and leaves the tree as it was. -/
theorem read_of_write_eq_ok {t t' : Tree} {p : String} {bs : List UInt8}
    (h : t.write p bs = .ok t') :
    t'.read p = .ok bs ∨ (t' = t ∧ ∃ loc, t.locate p = .found loc .device) := by
  obtain ⟨hr, hemp, htr, hdev | ⟨habs, loc, rfl, hend⟩⟩ := write_eq_ok_inv h
  · exact .inr hdev
  · -- the file is where the path ends, in the working directory
    have hloc : (t.put loc (.file bs)).locate p = .found loc (.file bs) :=
      locate_put_of_last habs (by simp) (hend.imp_right fun ⟨f, hf⟩ => ⟨.file f, by simp, hf⟩)
    refine .inl ?_
    unfold read
    rw [hr, hemp, hloc]
    simp [htr]

end FlasherStub.Tree

namespace FlasherStub

/-! ### The stages of encoding a file -/

/-- The image that encoding the description file at `input` builds for a chip in the tree `t`,
stage by stage: the format its extension names, the file read whole as UTF-8 and parsed, the
text segment and then the data segment decoded, the three addresses and then the two segment
lengths checked. The outcome is the image, or the error of the first stage that fails. -/
def imageOfFile (t : Tree) (input : String) (c : Chip) : Except Error Image :=
  match Format.ofPath? input with
  | none => .error (.unknownStubFormat input)
  | some fmt => do
    let d ← fmt.readFile t input
    let r ← d.toRecordOrError
    (Image.ofRecord r c.chipType).mapError .encoding

/-- Encoding a description file runs its stages on the tree it starts from and writes the image
only once they have all succeeded. -/
theorem encodeFile_run (input output : String) (c : Chip) (t : Tree) :
    (encodeFile input c output : StateM Tree _).run t =
      match imageOfFile t input c with
      | .error e => (.error e, t)
      | .ok img =>
        match t.write output img.toBytes with
        | .ok t' => (.ok (), t')
        | .error e => (.error (.io output e), t) := by
  unfold encodeFile imageOfFile
  rw [(readOnly_readRecord input).bind_run]
  cases hp : Format.ofPath? input with
  | none =>
    rw [readRecord_run', readDescription_run', hp]
    rfl
  | some fmt =>
    rw [readRecord_run'_of_ofPath?_eq_some hp]
    dsimp only
    cases fmt.readFile t input with
    | error e => rfl
    | ok d =>
      simp only [Except.ok_bind]
      cases d.toRecordOrError with
      | error e => rfl
      | ok r =>
        simp only [Except.ok_bind]
        unfold writeImage
        cases Image.ofRecord r c.chipType with
        | error e => rfl
        | ok img =>
          simp only [Except.mapError_ok]
          rw [write_bind_run]
          cases t.write output img.toBytes <;> rfl

/-- A path without the extension of a format is refused before the file is read, in any
lawful monad: encoding it is no file operation at all. -/
theorem encodeFile_of_ofPath?_eq_none {m : Type → Type} [Monad m] [LawfulMonad m] [Store m]
    {input output : String} {c : Chip} (h : Format.ofPath? input = none) :
    (encodeFile input c output : m _) = pure (.error (.unknownStubFormat input)) := by
  unfold encodeFile readRecord
  rw [readDescription_of_ofPath?_eq_none h]
  simp

/-- Encoding a description file stops at its first failing stage, and writes only after every
stage before the write has succeeded. A path whose extension names no format is refused with no
file operation at all. When a stage before the write fails, its error is returned and the tree is
left as it was. Otherwise the image is written to the output, a failure of the write being an
I/O error about the output; once the write succeeds the output reads back as exactly the bytes of
the image, unless it names a device, which takes them and keeps nothing. -/
theorem encodeFile_writes_only_after_every_stage (input output : String) (c : Chip) (t : Tree) :
    (Format.ofPath? input = none → ∀ (m : Type → Type) [Monad m] [LawfulMonad m] [Store m],
      (encodeFile input c output : m _) = pure (.error (.unknownStubFormat input))) ∧
    (∀ e, imageOfFile t input c = .error e →
      (encodeFile input c output : StateM Tree _).run t = (.error e, t)) ∧
    (∀ img, imageOfFile t input c = .ok img →
      (encodeFile input c output : StateM Tree _).run t =
        match t.write output img.toBytes with
        | .ok t' => (.ok (), t')
        | .error e => (.error (.io output e), t)) ∧
    (∀ t', (encodeFile input c output : StateM Tree _).run t = (.ok (), t') →
      ∃ img, imageOfFile t input c = .ok img ∧
        (t'.read output = .ok img.toBytes ∨
          t' = t ∧ ∃ loc, t.locate output = .found loc .device)) := by
  refine ⟨fun h m _ _ _ => encodeFile_of_ofPath?_eq_none h, fun e he => ?_, fun img himg => ?_,
    fun t' hrun => ?_⟩
  · rw [encodeFile_run, he]
  · rw [encodeFile_run, himg]
  · rw [encodeFile_run] at hrun
    cases himg : imageOfFile t input c with
    | error e =>
      rw [himg] at hrun
      cases hrun
    | ok img =>
      rw [himg] at hrun
      dsimp only at hrun
      -- only a write that succeeds ends the run with success
      cases hw : t.write output img.toBytes with
      | error e =>
        rw [hw] at hrun
        cases hrun
      | ok t₁ =>
        rw [hw] at hrun
        cases hrun
        exact ⟨img, rfl, Tree.read_of_write_eq_ok hw⟩

/-! ### Writing into a device -/

/-- A working directory holding one description, in JSON, of a stub with entry 1, text start 2
and empty segments. -/
def oneStubTree : Tree :=
  ⟨[(["a.json"], .file "[1,\"\",2]".toUTF8.toList)]⟩

/-- Encoding that description into the null device succeeds, and the null device still reads as
empty: the output does not hold the image. -/
theorem encodeFile_into_null_device_keeps_nothing :
    ∃ img, imageOfFile oneStubTree "a.json" .esp32 = .ok img ∧
      (encodeFile "a.json" .esp32 "/dev/null" : StateM Tree _).run oneStubTree =
        (.ok (), oneStubTree) ∧
      oneStubTree.read "/dev/null" ≠ .ok img.toBytes := by
  -- each stage on the one description, in order
  have hfmt : Format.ofPath? "a.json" = some .json := by decide +kernel
  have hread : oneStubTree.read "a.json" = .ok "[1,\"\",2]".toUTF8.toList := by cbv
  have htext : utf8Text? "[1,\"\",2]".toUTF8.toList = some "[1,\"\",2]" := by decide +kernel
  have hparse : Format.parse .json "[1,\"\",2]" = .ok ⟨1, "", 2, none, none⟩ := by
    decide +kernel
  have hrecord : Description.toRecordOrError ⟨1, "", 2, none, none⟩ = .ok ⟨1, 2, [], 0, []⟩ := by
    decide +kernel
  have hchecks : Image.ofRecord ⟨1, 2, [], 0, []⟩ Chip.esp32.chipType =
      .ok ⟨0, 1, 2, [], 0, [], by decide, by decide⟩ := by
    decide +kernel
  have himg : imageOfFile oneStubTree "a.json" .esp32 =
      .ok ⟨0, 1, 2, [], 0, [], by decide, by decide⟩ := by
    unfold imageOfFile Format.readFile
    rw [hfmt, hread]
    dsimp only
    rw [htext]
    dsimp only
    rw [hparse, Except.ok_bind, hrecord, Except.ok_bind, hchecks]
    rfl
  have hwrite : ∀ bs, oneStubTree.write "/dev/null" bs = .ok oneStubTree := by
    intro bs
    cbv
  refine ⟨_, himg, ?_, ?_⟩
  · rw [encodeFile_run, himg]
    dsimp only
    rw [hwrite]
  · have hnull : oneStubTree.read "/dev/null" = .ok [] := by cbv
    rw [hnull]
    decide

end FlasherStub
