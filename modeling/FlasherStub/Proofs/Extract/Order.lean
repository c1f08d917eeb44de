import FlasherStub.Proofs.Extract.Single
import Mathlib

/-!
Extracting chip after chip.

`extract` creates the output directory and then extracts the chips of the run in order, each on
the tree the chips before it left. What one chip does is stated on one fixed tree `s`, the tree
that creating the output directory leaves: `Config.stepOn` loads the chip's stub from `s`,
builds its image and writes it into `s`. The images of a run all go into the one directory the
output path resolves to in `s`, under names no stub description has, so the images written so
far change nothing a later chip reads or writes (`Config.Written`). The run is then the steps on
`s` one after another (`Config.Written.extractChips_run`): it returns the images' paths when every
step succeeds, and otherwise the error of the first step that fails, wrapped in its chip, with
the images before it written and nothing else changed (`extract_runs_steps_in_order`).

This is the order of events on a real file system too, and it differs from reading every stub
from the tree the run started from: a stub directory reached through the output directory
(`new/..` with output `new`) exists only once the output directory does.

The tree holds regular files and directories only. A device at an image path takes the image
and keeps nothing, so a run into it succeeds while the image does not read back
(`extract_into_device_reads_nothing`).
-/

namespace FlasherStub

namespace Config

variable (cfg : Config) (s : Tree)

/-- Extracting the chip `c` with each stage run on the tree `s`: its stub is loaded from `s`, its
image built, and the image written into `s`. The outcome is the bytes of the image, or the error
of the stage that fails. -/
def stepOn (c : Chip) : Except Error (List UInt8) :=
  match (loadStub cfg.stubDir c : StateM Tree _).run' s with
  | .error e => .error e
  | .ok r =>
    match Image.ofRecord r c.chipType with
    | .error e => .error (.encoding e)
    | .ok image =>
      match s.write (Path.join cfg.outputDir c.imageName) image.toBytes with
      | .error e => .error (.io (Path.join cfg.outputDir c.imageName) e)
      | .ok _ => .ok image.toBytes

/-- The outcome of extracting `cs` that the steps on `s` give: the paths of the images when every
step succeeds, else the error of the first step that fails, wrapped in its chip. -/
def outcomeOn : List Chip → Except Error (List String)
  | [] => .ok []
  | c :: cs =>
    match cfg.stepOn s c with
    | .error e => .error (.chip c e)
    | .ok _ => (outcomeOn cs).map (Path.join cfg.outputDir c.imageName :: ·)

/-- The image of each chip of `cs` whose step on `s` succeeds reads back from `t'` as the bytes
the step gave. -/
def ImagesRead (t' : Tree) (cs : List Chip) : Prop :=
  ∀ c ∈ cs, ∀ bs, cfg.stepOn s c = .ok bs → t'.read (Path.join cfg.outputDir c.imageName) = .ok bs

/-- Every entry in which `t'` differs from `t` is a directory added where `t` had nothing, or the
file that the image path of one of `cs` names in `t'`. -/
def ChangedOnly (t t' : Tree) (cs : List Chip) : Prop :=
  ∀ x, t'.get? x ≠ t.get? x →
    (t.get? x = none ∧ t'.get? x = some .dir) ∨
      ∃ c ∈ cs, ∃ bs, t'.locate (Path.join cfg.outputDir c.imageName) = .found x (.file bs)

end Config

/-! ### One step on a fixed tree -/

namespace Config

variable {cfg : Config} {s : Tree} {c : Chip} {bs : List UInt8}

theorem stepOn_eq_ok_write (h : cfg.stepOn s c = .ok bs) :
    ∃ s', s.write (Path.join cfg.outputDir c.imageName) bs = .ok s' := by
  unfold stepOn at h
  split at h
  · cases h
  · split at h
    · cases h
    · split at h
      · cases h
      · rename_i s' hw
        cases h
        exact ⟨s', hw⟩

/-- A step succeeds only where the output path resolves to a directory. -/
theorem resolves_of_stepOn (hplain : s.Plain) (h : cfg.stepOn s c = .ok bs) :
    ∃ dir, s.Resolves cfg.outputDir dir :=
  have ⟨_, hw⟩ := stepOn_eq_ok_write h
  Tree.resolves_of_write_join (Chip.isEntryName_imageName c) (Chip.imageName_ne_null c) hplain hw

/-- A step fails where loading its stub fails, or with an error of its image or of its write. -/
theorem stepOn_eq_error {e : Error} (h : cfg.stepOn s c = .error e) :
    (loadStub cfg.stubDir c : StateM Tree _).run' s = .error e ∨ (∃ e', e = .encoding e') ∨
      ∃ e', e = .io (Path.join cfg.outputDir c.imageName) e' := by
  unfold stepOn at h
  split at h
  · rename_i he
    cases h
    exact .inl he
  · split at h
    · cases h
      exact .inr (.inl ⟨_, rfl⟩)
    · split at h
      · cases h
        exact .inr (.inr ⟨_, rfl⟩)
      · cases h

theorem stepOn_ne_chip (c' : Chip) (e : Error) : cfg.stepOn s c ≠ .error (.chip c' e) := by
  intro h
  rcases stepOn_eq_error h with hload | ⟨_, he⟩ | ⟨_, he⟩
  · exact loadStub_run'_ne_chip s _ c c' e hload
  · cases he
  · cases he

/-- A step whose stub description is found fails with an error of the description, of the
image or of the write, never for want of the stub. -/
theorem stepOn_ne_stubNotFound {p : String}
    (hp : (stubPath cfg.stubDir c : StateM Tree _).run' s = .ok p) (c' : Chip) (d : String) :
    cfg.stepOn s c ≠ .error (.stubNotFound c' d) := by
  intro h
  rcases stepOn_eq_error h with hload | ⟨_, he⟩ | ⟨_, he⟩
  · rw [loadStub_run', hp] at hload
    exact readRecord_run'_eq_error s hload
  · cases he
  · cases he

/-- Where a step succeeds, its image path is short, holds no NUL byte, and names no directory of
`s` below the resolved output path. -/
theorem stepOn_eq_ok_join {dir : List String} (hres : s.Resolves cfg.outputDir dir)
    (h : cfg.stepOn s c = .ok bs) :
    pathRefusal? (Path.join cfg.outputDir c.imageName) = none ∧
      ¬ (Path.join cfg.outputDir c.imageName).utf8ByteSize > Tree.maxPathBytes ∧
      s.get? (dir ++ [c.imageName]) ≠ some .dir := by
  obtain ⟨s', hw⟩ := stepOn_eq_ok_write h
  rw [Tree.write_join hres (Chip.isEntryName_imageName c)] at hw
  split at hw
  · cases hw
  · rename_i hnone
    by_cases hlong : (Path.join cfg.outputDir c.imageName).utf8ByteSize > Tree.maxPathBytes
    · rw [if_pos hlong] at hw
      cases hw
    · rw [if_neg hlong] at hw
      refine ⟨hnone, hlong, fun hdir => ?_⟩
      rw [hdir] at hw
      cases hw

theorem outcomeOn_eq_ok {cs : List Chip} (h : ∀ c ∈ cs, ∃ bs, cfg.stepOn s c = .ok bs) :
    cfg.outcomeOn s cs = .ok (cs.map fun c => Path.join cfg.outputDir c.imageName) := by
  induction cs with
  | nil => rfl
  | cons c cs ih =>
    obtain ⟨bs, hc⟩ := h c List.mem_cons_self
    rw [outcomeOn, hc, ih fun c' hc' => h c' (List.mem_cons_of_mem c hc')]
    rfl

theorem outcomeOn_eq_error {pre post : List Chip} {e : Error}
    (hpre : ∀ c ∈ pre, ∃ bs, cfg.stepOn s c = .ok bs) (hc : cfg.stepOn s c = .error e) :
    cfg.outcomeOn s (pre ++ c :: post) = .error (.chip c e) := by
  induction pre with
  | nil => rw [List.nil_append, outcomeOn, hc]
  | cons c' pre ih =>
    obtain ⟨bs, hc'⟩ := hpre c' List.mem_cons_self
    rw [List.cons_append, outcomeOn, hc', ih fun c'' h => hpre c'' (List.mem_cons_of_mem c' h)]
    rfl

/-- A step succeeds with the bytes of its image when its stub loads, its image is built and the
write succeeds. -/
theorem stepOn_eq_ok {s' : Tree} {r : Record} {img : Image}
    (hload : (loadStub cfg.stubDir c : StateM Tree _).run' s = .ok r)
    (himg : Image.ofRecord r c.chipType = .ok img)
    (hw : s.write (Path.join cfg.outputDir c.imageName) img.toBytes = .ok s') :
    cfg.stepOn s c = .ok img.toBytes := by
  unfold stepOn
  rw [hload]
  dsimp only
  rw [himg]
  dsimp only
  rw [hw]

/-- A step whose stub loads and whose image is built succeeds where its image path, below the
directory the output path resolves to, is short, not refused and no directory. -/
theorem stepOn_eq_ok_of_resolves {dir : List String} {r : Record} {img : Image}
    (hload : (loadStub cfg.stubDir c : StateM Tree _).run' s = .ok r)
    (himg : Image.ofRecord r c.chipType = .ok img) (hres : s.Resolves cfg.outputDir dir)
    (hnone : pathRefusal? (Path.join cfg.outputDir c.imageName) = none)
    (hshort : ¬ (Path.join cfg.outputDir c.imageName).utf8ByteSize > Tree.maxPathBytes)
    (hnd : s.get? (dir ++ [c.imageName]) ≠ some .dir) :
    cfg.stepOn s c = .ok img.toBytes :=
  have ⟨_, hw⟩ := Tree.exists_write_join_eq_ok hres (Chip.isEntryName_imageName c) hnone hshort hnd
    img.toBytes
  stepOn_eq_ok hload himg hw

theorem stepOn_eq_error_of_loadStub {e : Error}
    (h : (loadStub cfg.stubDir c : StateM Tree _).run' s = .error e) : cfg.stepOn s c = .error e := by
  unfold stepOn
  rw [h]

theorem isOk_stepOn_iff : (cfg.stepOn s c).isOk = true ↔ ∃ bs, cfg.stepOn s c = .ok bs := by
  cases cfg.stepOn s c <;> simp [Except.isOk, Except.toBool]

end Config

/-! ### The images written so far -/

namespace Config

/-- `u` is the tree `s` with the images of the chips `ds` written into the directory at `dir`,
each holding the bytes its step on `s` gives. -/
structure Written (cfg : Config) (s : Tree) (dir : List String) (u : Tree) (ds : List Chip) :
    Prop where
  agree : ∀ x, (¬ ∃ c ∈ ds, x = dir ++ [c.imageName]) → u.get? x = s.get? x
  image : ∀ c ∈ ds, ∃ bs, cfg.stepOn s c = .ok bs ∧ u.get? (dir ++ [c.imageName]) = some (.file bs)

theorem imageName_loc_inj {dir : List String} {c c' : Chip}
    (h : dir ++ [c.imageName] = dir ++ [c'.imageName]) : c = c' :=
  Chip.imageName_injective (List.singleton_inj.1 (List.append_cancel_left h))

theorem Written.init (cfg : Config) (s : Tree) (dir : List String) : cfg.Written s dir s [] :=
  ⟨fun _ _ => rfl, fun _ h => absurd h List.not_mem_nil⟩

section Written

variable {cfg : Config} {s u : Tree} {dir : List String} {ds : List Chip}

/-- Writing the image of a new chip whose step succeeds extends the written images by it. -/
theorem Written.put (hw : cfg.Written s dir u ds) {c : Chip} {bs : List UInt8}
    (hs : cfg.stepOn s c = .ok bs) (hc : c ∉ ds) :
    cfg.Written s dir (u.put (dir ++ [c.imageName]) (.file bs)) (ds ++ [c]) where
  agree x hx := by
    rw [Tree.get?_put, if_neg fun h => hx ⟨c, by simp, h⟩]
    exact hw.agree x fun ⟨c', hc', h⟩ => hx ⟨c', List.mem_append_left _ hc', h⟩
  image c' hc' := by
    rcases List.mem_append.1 hc' with hc' | hc'
    · obtain ⟨bs', hs', hget⟩ := hw.image c' hc'
      refine ⟨bs', hs', ?_⟩
      rw [Tree.get?_put, if_neg fun h => hc (by rw [← imageName_loc_inj h]; exact hc')]
      exact hget
    · rw [List.mem_singleton.1 hc']
      exact ⟨bs, hs, by simp [Tree.get?_put]⟩

section Fixed

variable (hplain : s.Plain) (hdir : ∀ D, s.Resolves cfg.outputDir D → D = dir)
include hplain hdir

/-- Once an image is written, the output path resolves to `dir`. -/
theorem Written.resolves (hw : cfg.Written s dir u ds) {c : Chip} (hc : c ∈ ds) :
    s.Resolves cfg.outputDir dir := by
  obtain ⟨_, hs, -⟩ := hw.image c hc
  obtain ⟨D, hD⟩ := resolves_of_stepOn hplain hs
  exact hdir D hD ▸ hD

/-- Neither tree has a directory where an image is written. -/
theorem Written.not_dir (hw : cfg.Written s dir u ds) (x : List String)
    (hx : ∃ c ∈ ds, x = dir ++ [c.imageName]) : s.get? x ≠ some .dir ∧ u.get? x ≠ some .dir := by
  obtain ⟨c, hc, rfl⟩ := hx
  obtain ⟨bs, hs, hget⟩ := hw.image c hc
  exact ⟨(stepOn_eq_ok_join (hw.resolves hplain hdir hc) hs).2.2, by simp [hget]⟩

theorem Written.resolves_of (hw : cfg.Written s dir u ds) (hres : s.Resolves cfg.outputDir dir) :
    u.Resolves cfg.outputDir dir :=
  Tree.Resolves.congr (fun x hx => (hw.agree x hx).symm) (fun x hx => (hw.not_dir hplain hdir x hx).1)
    hres

/-- The images written so far leave every stub as it loads from `s`. -/
theorem Written.loadStub_run' (hw : cfg.Written s dir u ds) (c : Chip) :
    (loadStub cfg.stubDir c : StateM Tree _).run' u =
      (loadStub cfg.stubDir c : StateM Tree _).run' s := by
  have hagree : ∀ x, (¬ ∃ c ∈ ds, x = dir ++ [c.imageName]) → s.get? x = u.get? x :=
    fun x hx => (hw.agree x hx).symm
  have hX := fun x hx => (hw.not_dir hplain hdir x hx).1
  have hX' := fun x hx => (hw.not_dir hplain hdir x hx).2
  -- a stub description is never named like an image, so no image lies on its path
  have hlast : ∀ n, Tree.IsEntryName n → (∀ c' : Chip, n ≠ c'.imageName) → ∀ x,
      (∃ c ∈ ds, x = dir ++ [c.imageName]) →
        x.getLast? ≠ (Tree.parts (Path.join cfg.stubDir n)).getLast? := by
    rintro n hn hne x ⟨c', -, rfl⟩
    rw [Tree.getLast?_parts_join _ hn, List.getLast?_concat]
    exact fun h => hne c' (Option.some_inj.1 h).symm
  refine (loadStub_run'_congr ?_ ?_).symm
  · exact Tree.isFile_congr hagree hX hX' (hlast _ (Chip.isEntryName_jsonStubName c)
      fun c' => (Chip.stubNames_ne_imageName c c').1)
  · exact Tree.isFile_congr hagree hX hX' (hlast _ (Chip.isEntryName_tomlStubName c)
      fun c' => (Chip.stubNames_ne_imageName c c').2)

/-- Writing the image of a new chip does to `u` what it does to `s`. -/
theorem Written.write (hw : cfg.Written s dir u ds) {c : Chip} (hc : c ∉ ds) (bs : List UInt8) :
    u.write (Path.join cfg.outputDir c.imageName) bs =
      (s.write (Path.join cfg.outputDir c.imageName) bs).map
        fun _ => u.put (dir ++ [c.imageName]) (.file bs) := by
  have hn := Chip.isEntryName_imageName c
  by_cases hres : s.Resolves cfg.outputDir dir
  · have hget : u.get? (dir ++ [c.imageName]) = s.get? (dir ++ [c.imageName]) :=
      hw.agree _ fun ⟨c', hc', h⟩ => hc (by rw [imageName_loc_inj h]; exact hc')
    exact Tree.write_join_map hres (hw.resolves_of hplain hdir hres) hn hget (hplain _) bs
  · -- nothing is written yet, and the write fails in both trees alike
    have hds : ds = [] := by
      cases ds with
      | nil => rfl
      | cons c' _ => exact absurd (hw.resolves hplain hdir List.mem_cons_self) hres
    have hsame : ∀ x, s.get? x = u.get? x := fun x => (hw.agree x (by simp [hds])).symm
    cases hs : s.write (Path.join cfg.outputDir c.imageName) bs with
    | error e => exact Tree.write_eq_error_congr (Tree.locate_congr_get? hsame) hs
    | ok s' =>
      obtain ⟨D, hD⟩ := Tree.resolves_of_write_join hn (Chip.imageName_ne_null c) hplain hs
      exact absurd (hdir D hD ▸ hD) hres

/-- The image of a chip written so far is what its image path names in `u`, and reads back. -/
theorem Written.locate_image (hw : cfg.Written s dir u ds) {c : Chip} (hc : c ∈ ds) :
    ∃ bs, cfg.stepOn s c = .ok bs ∧
      u.locate (Path.join cfg.outputDir c.imageName) = .found (dir ++ [c.imageName]) (.file bs) ∧
      u.read (Path.join cfg.outputDir c.imageName) = .ok bs := by
  have hn := Chip.isEntryName_imageName c
  obtain ⟨bs, hs, hget⟩ := hw.image c hc
  have hres := hw.resolves hplain hdir hc
  have hres' := hw.resolves_of hplain hdir hres
  obtain ⟨hnone, hshort, -⟩ := stepOn_eq_ok_join hres hs
  refine ⟨bs, hs, ?_, ?_⟩
  · rw [Tree.locate_join hres' hn, if_neg hshort, hget]
  · rw [Tree.read_join hres' hn, hnone]
    dsimp only
    rw [if_neg hshort, hget]

theorem Written.imagesRead (hw : cfg.Written s dir u ds) : cfg.ImagesRead s u ds := by
  intro c hc bs hs
  obtain ⟨bs', hs', -, hread⟩ := hw.locate_image hplain hdir hc
  obtain rfl : bs' = bs := Except.ok.inj (hs'.symm.trans hs)
  exact hread

theorem Written.changedOnly {t : Tree} (hw : cfg.Written s dir u ds) (hgrow : t.Grows s) :
    cfg.ChangedOnly t u ds := by
  intro x hx
  by_cases hX : ∃ c ∈ ds, x = dir ++ [c.imageName]
  · obtain ⟨c, hc, rfl⟩ := hX
    obtain ⟨bs, -, hloc, -⟩ := hw.locate_image hplain hdir hc
    exact .inr ⟨c, hc, bs, hloc⟩
  · rw [hw.agree x hX] at hx ⊢
    exact .inl (hgrow x hx)

/-- Extracting a new chip from `u` is its step on `s`: on success its image is written into the
directory at `dir`, and on failure the tree is left as it was. -/
theorem Written.extractChip_run (hw : cfg.Written s dir u ds) {c : Chip} (hc : c ∉ ds) :
    (extractChip cfg c : StateM Tree _).run u =
      match cfg.stepOn s c with
      | .ok bs =>
        (.ok (Path.join cfg.outputDir c.imageName), u.put (dir ++ [c.imageName]) (.file bs))
      | .error e => (.error (.chip c e), u) := by
  unfold extractChip
  rw [(readOnly_loadStub _ c).bind_run, hw.loadStub_run' hplain hdir c, stepOn]
  cases (loadStub cfg.stubDir c : StateM Tree _).run' s with
  | error e => rfl
  | ok r =>
    dsimp only
    unfold writeImage
    cases Image.ofRecord r c.chipType with
    | error e => rfl
    | ok image =>
      dsimp only
      rw [bind_run, write_bind_run, hw.write hplain hdir hc]
      cases s.write (Path.join cfg.outputDir c.imageName) image.toBytes <;> rfl

/-- Extracting new, distinct chips from `u` runs their steps on `s` one after another: the
outcome is `outcomeOn`, and the images of the chips before the first failing one are written. -/
theorem Written.extractChips_run (hw : cfg.Written s dir u ds) (cs : List Chip) (acc : List String)
    (hnodup : cs.Nodup) (hnew : ∀ c ∈ cs, c ∉ ds) :
    ∃ u', (extractChips cfg cs acc : StateM Tree _).run u =
        ((cfg.outcomeOn s cs).map (acc.reverse ++ ·), u') ∧
      cfg.Written s dir u' (ds ++ cs.takeWhile fun c => (cfg.stepOn s c).isOk) := by
  induction cs generalizing u ds acc with
  | nil =>
    refine ⟨u, ?_, by simpa using hw⟩
    simp only [extractChips, outcomeOn, Except.map, List.append_nil]
    rfl
  | cons c cs ih =>
    have hc := hnew c List.mem_cons_self
    unfold extractChips
    rw [bind_run, hw.extractChip_run hplain hdir hc]
    cases hs : cfg.stepOn s c with
    | error e =>
      refine ⟨u, by rw [outcomeOn, hs]; rfl, ?_⟩
      rw [List.takeWhile_cons_of_neg (by simp [hs, Except.isOk, Except.toBool]), List.append_nil]
      exact hw
    | ok bs =>
      -- the later chips are new to the images written so far, this one included
      have hnew' : ∀ c' ∈ cs, c' ∉ ds ++ [c] := by
        intro c' hc' hmem
        rcases List.mem_append.1 hmem with h | h
        · exact hnew c' (List.mem_cons_of_mem c hc') h
        · rw [List.mem_singleton.1 h] at hc'
          exact (List.nodup_cons.1 hnodup).1 hc'
      obtain ⟨u', hrun, hw'⟩ := ih (hw.put hs hc) _ (List.nodup_cons.1 hnodup).2 hnew'
      refine ⟨u', ?_, ?_⟩
      · dsimp only
        rw [hrun, outcomeOn, hs]
        cases cfg.outcomeOn s cs <;> simp [Except.map]
      · rw [List.takeWhile_cons_of_pos (by simp [hs, Except.isOk, Except.toBool])]
        simpa using hw'

end Fixed

end Written

end Config

/-! ### The whole run -/

theorem extract_run_of_createDirAll_ok {cfg : Config} {t s : Tree}
    (h : (createDirAll ((Path.components cfg.outputDir).length + 1) cfg.outputDir :
      StateM Tree _).run t = (.ok (), s)) :
    (extract cfg : StateM Tree _).run t = (extractChips cfg cfg.chips [] : StateM Tree _).run s := by
  unfold extract
  rw [bind_run, h]

theorem extract_run_of_createDirAll_error {cfg : Config} {t s : Tree} {e : IoError}
    (h : (createDirAll ((Path.components cfg.outputDir).length + 1) cfg.outputDir :
      StateM Tree _).run t = (.error e, s)) :
    (extract cfg : StateM Tree _).run t = (.error (.io cfg.outputDir e), s) := by
  unfold extract
  rw [bind_run, h]
  rfl

theorem Growing.grows_of_run {α : Type} {x : StateM Tree α} (hx : Growing x) {t s : Tree} {a : α}
    (h : x.run t = (a, s)) : t.Grows s := by
  have hgrow := hx t
  rwa [h] at hgrow

/-- Once the output directory is created, extracting the run is its steps on the tree `s` that
creating the directory left, one after another. -/
theorem extract_run_written {cfg : Config} {t s : Tree} (hplain : t.Plain) (hnodup : cfg.chips.Nodup)
    (hs : (createDirAll ((Path.components cfg.outputDir).length + 1) cfg.outputDir :
      StateM Tree _).run t = (.ok (), s)) :
    ∃ dir u, (∀ D, s.Resolves cfg.outputDir D → D = dir) ∧
      (extract cfg : StateM Tree _).run t = (cfg.outcomeOn s cfg.chips, u) ∧
      cfg.Written s dir u (cfg.chips.takeWhile fun c => (cfg.stepOn s c).isOk) := by
  have hplain' : s.Plain := ((growing_createDirAll _ cfg.outputDir).grows_of_run hs).plain hplain
  -- the directory the output path resolves to in `s`, when it resolves at all
  obtain ⟨dir, hdir⟩ : ∃ dir, ∀ D, s.Resolves cfg.outputDir D → D = dir := by
    by_cases h : ∃ D, s.Resolves cfg.outputDir D
    · obtain ⟨D, hD⟩ := h
      exact ⟨D, fun D' hD' => hD'.unique hD⟩
    · exact ⟨[], fun D hD => absurd ⟨D, hD⟩ h⟩
  obtain ⟨u, hrun, hw⟩ := (Config.Written.init cfg s dir).extractChips_run hplain' hdir cfg.chips []
    hnodup fun _ _ h => absurd h List.not_mem_nil
  refine ⟨dir, u, hdir, ?_, by simpa using hw⟩
  rw [extract_run_of_createDirAll_ok hs, hrun]
  cases cfg.outcomeOn s cfg.chips <;> rfl

/-- Extracting a run creates the output directory and then takes the chips in order, each as its
step on the tree that creating the directory left (`Config.stepOn`). When every step succeeds,
the run returns the paths of the images, and each image reads back as its bytes. Otherwise it
returns the first failing step's own error, which is never a chip error, wrapped in its chip;
the images of the chips before it are written. Either way the only other change is directories
added where there was nothing, and a failure to create the output directory is returned at once.
This holds for a tree of regular files and directories and a run with no chip twice. -/
theorem extract_runs_steps_in_order (cfg : Config) (t : Tree) (hplain : t.Plain)
    (hnodup : cfg.chips.Nodup) :
    (∀ e s, (createDirAll ((Path.components cfg.outputDir).length + 1) cfg.outputDir :
        StateM Tree _).run t = (.error e, s) →
      (extract cfg : StateM Tree _).run t = (.error (.io cfg.outputDir e), s)) ∧
    ∀ s, (createDirAll ((Path.components cfg.outputDir).length + 1) cfg.outputDir :
        StateM Tree _).run t = (.ok (), s) →
      ((∀ c ∈ cfg.chips, ∃ bs, cfg.stepOn s c = .ok bs) →
        ∃ t', (extract cfg : StateM Tree _).run t =
            (.ok (cfg.chips.map fun c => Path.join cfg.outputDir c.imageName), t') ∧
          cfg.ImagesRead s t' cfg.chips ∧ cfg.ChangedOnly t t' cfg.chips) ∧
      ∀ pre c post e, cfg.chips = pre ++ c :: post →
        (∀ c' ∈ pre, ∃ bs, cfg.stepOn s c' = .ok bs) → cfg.stepOn s c = .error e →
        (∀ c' e', e ≠ .chip c' e') ∧
          ∃ t', (extract cfg : StateM Tree _).run t = (.error (.chip c e), t') ∧
            cfg.ImagesRead s t' pre ∧ cfg.ChangedOnly t t' pre := by
  refine ⟨fun e s h => extract_run_of_createDirAll_error h, fun s hs => ?_⟩
  have hgrow := (growing_createDirAll _ cfg.outputDir).grows_of_run hs
  have hplain' : s.Plain := hgrow.plain hplain
  obtain ⟨dir, u, hdir, hrun, hw⟩ := extract_run_written hplain hnodup hs
  rw [hrun]
  refine ⟨fun hall => ?_, fun pre c post e hchips hpre hc => ?_⟩
  · have htake : cfg.chips.takeWhile (fun c => (cfg.stepOn s c).isOk) = cfg.chips :=
      List.takeWhile_eq_self_iff.2 fun c hc => Config.isOk_stepOn_iff.2 (hall c hc)
    rw [htake] at hw
    exact ⟨u, by rw [Config.outcomeOn_eq_ok hall], hw.imagesRead hplain' hdir,
      hw.changedOnly hplain' hdir hgrow⟩
  · have htake : (pre ++ c :: post).takeWhile (fun c => (cfg.stepOn s c).isOk) = pre := by
      rw [List.takeWhile_append_of_pos fun c' hc' => Config.isOk_stepOn_iff.2 (hpre c' hc'),
        List.takeWhile_cons_of_neg (by simp [hc, Except.isOk, Except.toBool]), List.append_nil]
    rw [hchips, htake] at hw
    refine ⟨fun c' e' he => Config.stepOn_ne_chip c' e' (he ▸ hc), u, ?_,
      hw.imagesRead hplain' hdir, hw.changedOnly hplain' hdir hgrow⟩
    rw [hchips, Config.outcomeOn_eq_error hpre hc]

/-- The run in order on the stub directory `stubs` of `stubsTree`, with images into `out`: for the
ESP8266 and the ESP32 every step succeeds and both images are written; adding the ESP32-S2, whose
description is missing, fails at its step with both earlier images written. -/
theorem extract_runs_steps_in_order_on_stub_directory :
    stubsTree.Plain ∧
      (createDirAll ((Path.components "out").length + 1) "out" : StateM Tree _).run stubsTree =
        (.ok (), stubsTree.put ["out"] .dir) ∧
      (∀ c ∈ [Chip.esp8266, .esp32], Config.stepOn ⟨"stubs", "out", [.esp8266, .esp32, .esp32s2]⟩
        (stubsTree.put ["out"] .dir) c = .ok (stubImage c.chipType).toBytes) ∧
      Config.stepOn ⟨"stubs", "out", [.esp8266, .esp32, .esp32s2]⟩ (stubsTree.put ["out"] .dir)
        .esp32s2 = .error (.stubNotFound .esp32s2 "stubs") ∧
      (∃ t', (extract ⟨"stubs", "out", [.esp8266, .esp32]⟩ : StateM Tree _).run stubsTree =
          (.ok ["out/esp8266_stub.bin", "out/esp32_stub.bin"], t') ∧
        Config.ImagesRead ⟨"stubs", "out", [.esp8266, .esp32]⟩ (stubsTree.put ["out"] .dir) t'
          [.esp8266, .esp32] ∧
        Config.ChangedOnly ⟨"stubs", "out", [.esp8266, .esp32]⟩ stubsTree t' [.esp8266, .esp32]) ∧
      ∃ t', (extract ⟨"stubs", "out", [.esp8266, .esp32, .esp32s2]⟩ : StateM Tree _).run stubsTree =
          (.error (.chip .esp32s2 (.stubNotFound .esp32s2 "stubs")), t') ∧
        Config.ImagesRead ⟨"stubs", "out", [.esp8266, .esp32, .esp32s2]⟩ (stubsTree.put ["out"] .dir)
          t' [.esp8266, .esp32] ∧
        Config.ChangedOnly ⟨"stubs", "out", [.esp8266, .esp32, .esp32s2]⟩ stubsTree t'
          [.esp8266, .esp32] := by
  have hplain : stubsTree.Plain := by
    intro loc h
    simp [stubsTree, Tree.get?] at h
  -- creating `out` adds it, and the stub directory and `out` resolve to themselves
  have hs : (createDirAll ((Path.components "out").length + 1) "out" : StateM Tree _).run
      stubsTree = (.ok (), stubsTree.put ["out"] .dir) :=
    createDirAll_run_of_makeDir (by decide)
      (Tree.makeDir_name ⟨by decide, by decide, by decide, by decide, by decide⟩ (by decide) rfl) _
  have hout : (stubsTree.put ["out"] .dir).Resolves "out" ["out"] :=
    Tree.resolves_name ⟨by decide, by decide, by decide, by decide, by decide⟩ rfl
  have hres : (stubsTree.put ["out"] .dir).Resolves "stubs" ["stubs"] :=
    Tree.resolves_name ⟨by decide, by decide, by decide, by decide, by decide⟩ rfl
  -- the two chips with a description: each image goes where nothing was
  have hsteps : ∀ c ∈ [Chip.esp8266, .esp32],
      Config.stepOn ⟨"stubs", "out", [.esp8266, .esp32, .esp32s2]⟩ (stubsTree.put ["out"] .dir) c =
        .ok (stubImage c.chipType).toBytes := by
    intro c hc
    have hfile : (stubsTree.put ["out"] .dir).get? ["stubs", c.jsonStubName] =
        some (.file stubJson) := by
      rcases List.mem_pair.1 hc with rfl | rfl <;> rfl
    have hfree : '\x00' ∉ (Path.join "out" c.imageName).toList ∧
        ¬ (Path.join "out" c.imageName).utf8ByteSize > Tree.maxPathBytes ∧
        (stubsTree.put ["out"] .dir).get? (["out"] ++ [c.imageName]) = none := by
      rcases List.mem_pair.1 hc with rfl | rfl <;> exact ⟨by decide +kernel, by decide +kernel, rfl⟩
    obtain ⟨hp, hread⟩ := stubPath_run'_of_stubs rfl hfile
    obtain ⟨hnul, hshort, hget⟩ := hfree
    exact Config.stepOn_eq_ok_of_resolves (by rw [loadStub_run'_of_stubPath hp, hread])
      (ofRecord_stubRecord _) hout (Tree.pathRefusal?_eq_none hnul) hshort (by rw [hget]; simp)
  -- the third has no description
  have hstep : Config.stepOn ⟨"stubs", "out", [.esp8266, .esp32, .esp32s2]⟩
      (stubsTree.put ["out"] .dir) .esp32s2 = .error (.stubNotFound .esp32s2 "stubs") :=
    Config.stepOn_eq_error_of_loadStub (by rw [loadStub_run', stubPath_run'_of_absent hres rfl rfl])
  have hpaths : [Chip.esp8266, .esp32].map (fun c => Path.join "out" c.imageName) =
      ["out/esp8266_stub.bin", "out/esp32_stub.bin"] := by
    decide +kernel
  obtain ⟨hall, -⟩ := (extract_runs_steps_in_order ⟨"stubs", "out", [.esp8266, .esp32]⟩ stubsTree
    hplain (by decide)).2 _ hs
  obtain ⟨t', hrun, hread, hchanged⟩ := hall fun c hc => ⟨_, hsteps c hc⟩
  obtain ⟨-, hfail⟩ := (extract_runs_steps_in_order ⟨"stubs", "out", [.esp8266, .esp32, .esp32s2]⟩
    stubsTree hplain (by decide)).2 _ hs
  obtain ⟨-, t'', hrun', hread', hchanged'⟩ := hfail [.esp8266, .esp32] .esp32s2 [] _ rfl
    (fun c hc => ⟨_, hsteps c hc⟩) hstep
  rw [hpaths] at hrun
  exact ⟨hplain, hs, hsteps, hstep, ⟨t', hrun, hread, hchanged⟩, t'', hrun', hread', hchanged'⟩

/-! ### A device at an image path -/

/-- The stub directory and the output directory `out`, with a device where the ESP8266's image
goes. -/
def deviceAtImageTree : Tree :=
  (stubsTree.put ["out"] .dir).put ["out", "esp8266_stub.bin"] .device

/-- Without the premise that the tree holds only regular files and directories, the read-back
fails: a device at an image path takes the write and keeps nothing, so the run succeeds while the
image does not read back as its bytes. -/
theorem extract_into_device_reads_nothing :
    ¬ deviceAtImageTree.Plain ∧
      (extract ⟨"stubs", "out", [.esp8266]⟩ : StateM Tree _).run deviceAtImageTree =
        (.ok ["out/esp8266_stub.bin"], deviceAtImageTree) ∧
      ¬ Config.ImagesRead ⟨"stubs", "out", [.esp8266]⟩ deviceAtImageTree deviceAtImageTree
        [.esp8266] := by
  have hpath : Path.join "out" Chip.esp8266.imageName = "out/esp8266_stub.bin" := by decide +kernel
  have hout : deviceAtImageTree.Resolves "out" ["out"] :=
    Tree.resolves_name ⟨by decide, by decide, by decide, by decide, by decide⟩ rfl
  obtain ⟨hp, hread⟩ := stubPath_run'_of_stubs (t := deviceAtImageTree) (c := .esp8266) rfl rfl
  have hnul : '\x00' ∉ (Path.join "out" Chip.esp8266.imageName).toList := by
    rw [hpath]
    decide
  have hshort : ¬ (Path.join "out" Chip.esp8266.imageName).utf8ByteSize > Tree.maxPathBytes := by
    rw [hpath]
    decide
  -- the write goes to the device and leaves the tree as it was, and the device reads as empty
  have hw : deviceAtImageTree.write (Path.join "out" Chip.esp8266.imageName)
      (stubImage Chip.esp8266.chipType).toBytes = .ok deviceAtImageTree := by
    rw [Tree.write_join hout (Chip.isEntryName_imageName _), Tree.pathRefusal?_eq_none hnul]
    dsimp only
    rw [if_neg hshort]
    rfl
  have hdev : deviceAtImageTree.read (Path.join "out" Chip.esp8266.imageName) = .ok [] := by
    rw [Tree.read_join hout (Chip.isEntryName_imageName _), Tree.pathRefusal?_eq_none hnul]
    dsimp only
    rw [if_neg hshort]
    rfl
  have hstep : Config.stepOn ⟨"stubs", "out", [.esp8266]⟩ deviceAtImageTree .esp8266 =
      .ok (stubImage Chip.esp8266.chipType).toBytes :=
    Config.stepOn_eq_ok (by rw [loadStub_run'_of_stubPath hp, hread]) (ofRecord_stubRecord _) hw
  have hdir : deviceAtImageTree.isDir "out" = true :=
    Tree.isDir_of_resolves hout (by decide) (by decide) (by decide)
  refine ⟨fun hplain => hplain ["out", "esp8266_stub.bin"] rfl, ?_, fun himages => ?_⟩
  · rw [extract_singleton_run hdir hp, encodeFile_run_of_readRecord hread,
      writeImage_run_of_ofRecord (ofRecord_stubRecord _), hw, hpath]
  · have h := himages .esp8266 List.mem_cons_self _ hstep
    rw [hdev] at h
    exact absurd (Except.ok.inj h) (by decide)

/-! ### Stubs found through the output directory -/

/-- A working directory holding the ESP8266 stub description and nothing else. -/
def esp8266StubTree : Tree :=
  ⟨[(["stub_flasher_8266.json"],
    .file "\x7b\"entry\": 1074790404, \"text\": \"AQID\", \"text_start\": 1074790400\x7d".toUTF8.toList)]⟩

/-- With the stub directory `new/..` and the output directory `new`, the stub is found only once
`new` exists: loading it from the tree the run starts from fails, yet the run does not fail for
want of it. -/
theorem extract_finds_stub_through_created_output :
    (loadStub "new/.." .esp8266 : StateM Tree _).run' esp8266StubTree =
        .error (.stubNotFound .esp8266 "new/..") ∧
      (extract ⟨"new/..", "new", [.esp8266]⟩ : StateM Tree _).run' esp8266StubTree ≠
        .error (.chip .esp8266 (.stubNotFound .esp8266 "new/..")) := by
  have hrel : Tree.isAbsolute "new/.." = false := by
    have h : "new/.." = "new" ++ "/.." := by decide
    have hnew : Tree.isAbsolute "new" = false := Path.isAbsolute_of_no_sep (by decide)
    rw [h, Tree.isAbsolute_append (by decide), hnew]
  have hparts : Tree.parts "new/.." = ["new", ".."] := by decide
  have hjson := Chip.isEntryName_jsonStubName .esp8266
  refine ⟨?_, ?_⟩
  · -- before `new` exists, `new/..` leads nowhere
    have hwalk : esp8266StubTree.walk [] ["new", ".."] = .failed .notFound := rfl
    have hnot : ∀ dir, esp8266StubTree.walk [] (Tree.parts "new/..") ≠ .found dir .dir := by
      intro dir h
      rw [hparts, hwalk] at h
      cases h
    rw [loadStub_run', stubPath_run', Tree.isFile_join_of_not_dir hrel hnot hjson,
      Tree.isFile_join_of_not_dir hrel hnot (Chip.isEntryName_tomlStubName _)]
    rfl
  · -- creating `new` makes `new/..` the working directory, where the stub is
    have hs : (createDirAll ((Path.components "new").length + 1) "new" : StateM Tree _).run
        esp8266StubTree = (.ok (), esp8266StubTree.put ["new"] .dir) :=
      createDirAll_run_of_makeDir (by decide)
        (Tree.makeDir_name ⟨by decide, by decide, by decide, by decide, by decide⟩ (by decide) rfl) _
    have hres : (esp8266StubTree.put ["new"] .dir).Resolves "new/.." [] := ⟨hrel, by rw [hparts]; rfl⟩
    have hpath : Path.join "new/.." Chip.esp8266.jsonStubName = "new/../stub_flasher_8266.json" := by
      have hend : ¬ "new/..".endsWith "/" = true := by
        rw [Tree.endsWith_sep_iff]
        decide
      rw [Path.join_of_no_sep _ hjson.no_sep, if_neg (by decide), if_neg hend]
      decide
    have hfile : (esp8266StubTree.put ["new"] .dir).isFile
        (Path.join "new/.." Chip.esp8266.jsonStubName) = true := by
      rw [Tree.isFile_join hres hjson, hpath, Tree.pathRefusal?_eq_none (by decide)]
      rfl
    have hp : (stubPath "new/.." .esp8266 : StateM Tree _).run' (esp8266StubTree.put ["new"] .dir) =
        .ok (Path.join "new/.." Chip.esp8266.jsonStubName) := by
      rw [stubPath_run', if_pos hfile]
    have hplain : esp8266StubTree.Plain := by
      intro loc h
      simp [esp8266StubTree, Tree.get?] at h
    obtain ⟨dir, u, -, hrun, -⟩ :=
      @extract_run_written ⟨"new/..", "new", [.esp8266]⟩ _ _ hplain (by decide) hs
    show ((extract _ : StateM Tree _).run _).1 ≠ _
    rw [hrun, Config.outcomeOn]
    have hne := @Config.stepOn_ne_stubNotFound ⟨"new/..", "new", [.esp8266]⟩ _ _ _ hp .esp8266 "new/.."
    generalize Config.stepOn ⟨"new/..", "new", [.esp8266]⟩ (esp8266StubTree.put ["new"] .dir)
      .esp8266 = r at hne ⊢
    rcases r with e | bs
    · exact fun h => hne (by injection h with h; injection h with _ h; rw [h])
    · exact fun h => by injection h

end FlasherStub
