import FlasherStub.Proofs.Tree.Store
import FlasherStub.Cli.Run
import Mathlib

/-!
Extracting one chip is encoding its description file.

`extractChip` looks for the chip's description with `stubPath` and then does what `encodeFile`
does with the path found, writing into `<chip>_stub.bin` in the output directory; a failure comes
back wrapped in the chip (`extractChip_run`). When the output directory exists, creating it
changes nothing, so extracting a run of one chip leaves the tree that encoding leaves
(`extract_singleton_run`). Both commands of the program reach this: `encode` writes
`<chip>_stub.bin` in the working directory when it is given no output, and `extract` writes it in
its default output directory `.`, which is the same file (`Tree.write_join_current`).

The last section builds a working directory whose directory `stubs` holds two descriptions
(`stubsTree`), on which both runs of the ESP32 succeed and agree.
-/

namespace FlasherStub

/-! ### The names of a chip's files -/

namespace Chip

theorem isEntryName_imageName (c : Chip) : Tree.IsEntryName c.imageName := by
  cases c <;> exact ⟨by decide, by decide, by decide, by decide, by decide⟩

theorem isEntryName_jsonStubName (c : Chip) : Tree.IsEntryName c.jsonStubName := by
  cases c <;> exact ⟨by decide, by decide, by decide, by decide, by decide⟩

theorem isEntryName_tomlStubName (c : Chip) : Tree.IsEntryName c.tomlStubName := by
  cases c <;> exact ⟨by decide, by decide, by decide, by decide, by decide⟩

theorem nul_not_mem_imageName (c : Chip) : '\x00' ∉ c.imageName.toList := by
  cases c <;> decide

theorem imageName_ne_null (c : Chip) : c.imageName ≠ "null" := by
  cases c <;> decide

theorem imageName_injective : Function.Injective imageName := by
  intro c c' h
  cases c <;> cases c' <;> first | rfl | exact absurd h (by decide)

/-- No description file of a chip has the name of an image. -/
theorem stubNames_ne_imageName (c c' : Chip) :
    c.jsonStubName ≠ c'.imageName ∧ c.tomlStubName ≠ c'.imageName := by
  cases c <;> cases c' <;> decide

theorem select_singleton (c : Chip) : select [c] = [c] := by
  cases c <;> rfl

end Chip

/-! ### The working directory -/

namespace Tree

theorem resolves_current (t : Tree) : t.Resolves "." [] :=
  ⟨Path.isAbsolute_of_no_sep (by decide), rfl⟩

theorem resolves_empty (t : Tree) : t.Resolves "" [] :=
  ⟨Path.isAbsolute_of_no_sep (by decide), rfl⟩

theorem pathRefusal?_eq_none {p : String} (h : '\x00' ∉ p.toList) : pathRefusal? p = none := by
  simp [pathRefusal?, String.contains_char_eq, h]

/-- A name the working directory does not hold is made a directory there. -/
theorem makeDir_name {t : Tree} {n : String} (hn : IsEntryName n) (hnul : '\x00' ∉ n.toList)
    (hnone : t.get? [n] = none) : t.makeDir n = .ok (t.put [n] .dir) := by
  have hrel : isAbsolute n = false := Path.isAbsolute_of_no_sep hn.no_sep
  have hne : n.isEmpty = false := by
    rw [Bool.eq_false_iff, ne_eq, String.isEmpty_iff]
    exact hn.ne_empty
  have hshort : ¬ n.utf8ByteSize > maxPathBytes := by
    have h := hn.short
    unfold maxNameBytes at h
    unfold maxPathBytes
    omega
  have hloc : t.locate n = .absent [] n := by
    rw [locate, if_neg hshort, hrel, if_neg Bool.false_ne_true, walk, parts_name hn,
      walkWith_single hn, List.nil_append, hnone]
  unfold makeDir
  rw [pathRefusal?_eq_none hnul, hne, hloc]
  dsimp only
  rw [if_neg Bool.false_ne_true, hrel, if_neg Bool.false_ne_true, List.nil_append]

theorem isDir_of_resolves {t : Tree} {p : String} {dir : List String} (hres : t.Resolves p dir)
    (hne : p.isEmpty = false) (hnul : '\x00' ∉ p.toList) (hshort : ¬ p.utf8ByteSize > maxPathBytes) :
    t.isDir p = true := by
  have hloc : t.locate p = .found dir .dir := by
    rw [locate, if_neg hshort, hres.1, if_neg Bool.false_ne_true]
    exact hres.2
  rw [isDir, hloc, pathRefusal?_eq_none hnul, hne]
  rfl

theorem isDir_current (t : Tree) : t.isDir "." = true :=
  isDir_of_resolves (resolves_current t) (by decide) (by decide) (by decide)

/-- Writing a name below `.` is writing the bare name. -/
theorem write_join_current (t : Tree) {n : String} (hn : IsEntryName n) (hnul : '\x00' ∉ n.toList)
    (bs : List UInt8) : t.write (Path.join "." n) bs = t.write n bs := by
  have hdot : ".".endsWith "/" = false := by
    rw [Bool.eq_false_iff, ne_eq, endsWith_sep_iff]
    decide
  have hjoin : Path.join "." n = "./" ++ n := by
    rw [Path.join_of_no_sep "." hn.no_sep, if_neg (by decide), hdot, if_neg Bool.false_ne_true]
    rfl
  have hbare : Path.join "" n = n := by
    rw [Path.join_of_no_sep "" hn.no_sep, if_pos (by decide)]
  -- both paths are short, and neither holds a NUL byte
  have hshort := hn.short
  unfold maxNameBytes at hshort
  have hlen : ¬ ("./" ++ n).utf8ByteSize > maxPathBytes := by
    rw [String.utf8ByteSize_append]
    unfold maxPathBytes
    change ¬ 2 + n.utf8ByteSize > 4095
    omega
  have hlen' : ¬ n.utf8ByteSize > maxPathBytes := by
    unfold maxPathBytes
    omega
  have hnul' : '\x00' ∉ ("./" ++ n).toList := by
    rw [String.toList_append]
    exact List.not_mem_append (by decide) hnul
  have hcur := write_join (resolves_current t) hn bs
  have hempty := write_join (resolves_empty t) hn bs
  rw [hbare] at hempty
  rw [hcur, hempty, hjoin, pathRefusal?_eq_none hnul', pathRefusal?_eq_none hnul]
  dsimp only
  rw [if_neg hlen, if_neg hlen']

end Tree

/-! ### One chip -/

section Single

variable {t : Tree}

theorem loadStub_run'_of_stubPath {dir p : String} {c : Chip}
    (hp : (stubPath dir c : StateM Tree _).run' t = .ok p) :
    (loadStub dir c : StateM Tree _).run' t = (readRecord p : StateM Tree _).run' t := by
  rw [loadStub_run', hp]

/-- Extracting one chip is encoding its stub description into its image path, with a failure
wrapped in the chip. -/
theorem extractChip_run {cfg : Config} {c : Chip} {p : String}
    (hp : (stubPath cfg.stubDir c : StateM Tree _).run' t = .ok p) :
    (extractChip cfg c : StateM Tree _).run t =
      match (encodeFile p c (Path.join cfg.outputDir c.imageName) : StateM Tree _).run t with
      | (.ok (), s) => (.ok (Path.join cfg.outputDir c.imageName), s)
      | (.error e, s) => (.error (.chip c e), s) := by
  unfold extractChip encodeFile
  rw [(readOnly_loadStub _ c).bind_run, (readOnly_readRecord p).bind_run,
    loadStub_run'_of_stubPath hp]
  cases (readRecord p : StateM Tree _).run' t with
  | error e => rfl
  | ok r =>
    dsimp only
    rw [bind_run]
    rcases (writeImage r c (Path.join cfg.outputDir c.imageName) : StateM Tree _).run t with
      ⟨_ | _, s⟩ <;> rfl

/-- A chip without a description file is reported at once, and nothing is written. -/
theorem extractChip_run_of_stubPath_error {cfg : Config} {c : Chip} {e : Error}
    (hp : (stubPath cfg.stubDir c : StateM Tree _).run' t = .error e) :
    (extractChip cfg c : StateM Tree _).run t = (.error (.chip c e), t) := by
  unfold extractChip
  rw [(readOnly_loadStub _ c).bind_run, loadStub_run', hp]
  rfl

theorem stubPath_run'_eq_error {dir : String} {c : Chip}
    (h : ∀ p, (stubPath dir c : StateM Tree _).run' t ≠ .ok p) :
    (stubPath dir c : StateM Tree _).run' t = .error (.stubNotFound c dir) := by
  rw [stubPath_run'] at h ⊢
  by_cases hj : t.isFile (Path.join dir c.jsonStubName)
  · exact absurd (if_pos hj) (h _)
  · rw [if_neg hj] at h ⊢
    by_cases ht : t.isFile (Path.join dir c.tomlStubName)
    · exact absurd (if_pos ht) (h _)
    · rw [if_neg ht]

/-- A chip with no description in the directory a path resolves to is not found there. -/
theorem stubPath_run'_of_absent {t : Tree} {d : String} {D : List String} {c : Chip}
    (hres : t.Resolves d D) (hjson : t.get? (D ++ [c.jsonStubName]) = none)
    (htoml : t.get? (D ++ [c.tomlStubName]) = none) :
    (stubPath d c : StateM Tree _).run' t = .error (.stubNotFound c d) := by
  rw [stubPath_run', Tree.isFile_join hres (Chip.isEntryName_jsonStubName c), hjson,
    Tree.isFile_join hres (Chip.isEntryName_tomlStubName c), htoml]
  simp

/-- An existing output directory is left as it is, and the chips are extracted in it. -/
theorem extract_run_of_isDir {cfg : Config} (h : t.isDir cfg.outputDir = true) :
    (extract cfg : StateM Tree _).run t = (extractChips cfg cfg.chips [] : StateM Tree _).run t := by
  unfold extract
  rw [bind_run, createDirAll_run_of_isDir h]

theorem extractChips_singleton_run (cfg : Config) (c : Chip) :
    (extractChips cfg [c] [] : StateM Tree _).run t =
      match (extractChip cfg c : StateM Tree _).run t with
      | (.ok p, s) => (.ok [p], s)
      | (.error e, s) => (.error e, s) := by
  unfold extractChips
  rw [bind_run]
  rcases (extractChip cfg c : StateM Tree _).run t with ⟨_ | _, s⟩ <;> rfl

/-- Extracting one chip into an existing directory is encoding its stub description. -/
theorem extract_singleton_run {dir out p : String} {c : Chip}
    (hout : t.isDir out = true) (hp : (stubPath dir c : StateM Tree _).run' t = .ok p) :
    (extract ⟨dir, out, [c]⟩ : StateM Tree _).run t =
      match (encodeFile p c (Path.join out c.imageName) : StateM Tree _).run t with
      | (.ok (), s) => (.ok [Path.join out c.imageName], s)
      | (.error e, s) => (.error (.chip c e), s) := by
  rw [@extract_run_of_isDir t ⟨dir, out, [c]⟩ hout, extractChips_singleton_run,
    @extractChip_run t ⟨dir, out, [c]⟩ c p hp]
  generalize (encodeFile p c (Path.join out c.imageName) : StateM Tree _).run t = x
  rcases x with ⟨_ | _, s⟩ <;> rfl

theorem encodeFile_run_of_readRecord {p out : String} {c : Chip} {r : Record}
    (hr : (readRecord p : StateM Tree _).run' t = .ok r) :
    (encodeFile p c out : StateM Tree _).run t = (writeImage r c out : StateM Tree _).run t := by
  unfold encodeFile
  rw [(readOnly_readRecord p).bind_run, hr]

theorem writeImage_run_of_ofRecord {r : Record} {c : Chip} {out : String} {img : Image}
    (h : Image.ofRecord r c.chipType = .ok img) :
    (writeImage r c out : StateM Tree _).run t =
      match t.write out img.toBytes with
      | .ok t' => (.ok (), t')
      | .error e => (.error (.io out e), t) := by
  unfold writeImage
  rw [h]
  dsimp only
  rw [write_bind_run]
  cases t.write out img.toBytes <;> rfl

/-- Encoding into `./<chip>_stub.bin` and into `<chip>_stub.bin` leave the same tree. -/
theorem encodeFile_join_current (p : String) (c : Chip) :
    ((encodeFile p c (Path.join "." c.imageName) : StateM Tree _).run t).2 =
      ((encodeFile p c c.imageName : StateM Tree _).run t).2 := by
  unfold encodeFile
  rw [(readOnly_readRecord p).bind_run, (readOnly_readRecord p).bind_run]
  cases (readRecord p : StateM Tree _).run' t with
  | error e => rfl
  | ok r =>
    dsimp only
    unfold writeImage
    cases Image.ofRecord r c.chipType with
    | error e => rfl
    | ok image =>
      dsimp only
      rw [write_bind_run, write_bind_run, Tree.write_join_current t (Chip.isEntryName_imageName c)
        (Chip.nul_not_mem_imageName c)]
      cases t.write c.imageName image.toBytes <;> rfl

/-- The run a command line asks for, with its stub directory given and its output directory `.`,
is the run of the chips selected in `.`. -/
theorem Config.make_stubDir_current (dir : String) (e i : Option String) (c : Chip) :
    Config.make ⟨some dir, e, i⟩ "." [c] = .ok ⟨dir, ".", [c]⟩ := by
  simp [Config.make, Location.resolve, Chip.select_singleton]

/-- Extracting one chip agrees with encoding its description file: into an existing output
directory the two leave the same tree, extracting succeeds exactly when encoding does, and a
failure of encoding is the failure of extracting, wrapped in the chip. A chip without a
description file fails at once and writes nothing. On the command line, `encode` of the
description found and `extract` of that chip from its stub directory, both with their default
outputs, leave the same tree. -/
theorem extract_one_chip_agrees_with_encodeFile (dir out : String) (c : Chip) (t : Tree)
    (hout : t.isDir out = true) :
    (∀ p, (stubPath dir c : StateM Tree _).run' t = .ok p →
      ((extract ⟨dir, out, [c]⟩ : StateM Tree _).run t).2 =
          ((encodeFile p c (Path.join out c.imageName) : StateM Tree _).run t).2 ∧
        ((extract ⟨dir, out, [c]⟩ : StateM Tree _).run' t = .ok [Path.join out c.imageName] ↔
          (encodeFile p c (Path.join out c.imageName) : StateM Tree _).run' t = .ok ()) ∧
        ∀ e, (encodeFile p c (Path.join out c.imageName) : StateM Tree _).run' t = .error e →
          (extract ⟨dir, out, [c]⟩ : StateM Tree _).run' t = .error (.chip c e)) ∧
    ((∀ p, (stubPath dir c : StateM Tree _).run' t ≠ .ok p) →
      (extract ⟨dir, out, [c]⟩ : StateM Tree _).run t =
        (.error (.chip c (.stubNotFound c dir)), t)) ∧
    (∀ (env env' : Cli.Environment) (args args' : List String) (v v' : Bool) (p : String)
        (e i : Option String),
      Cli.parse env args = .encode ⟨v, p, c, none⟩ →
      Cli.parse env' args' = .extract ⟨v', ⟨some dir, e, i⟩, ".", [c]⟩ →
      (stubPath dir c : StateM Tree _).run' t = .ok p →
      ((Cli.run env args : StateM Tree _).run t).2 = ((Cli.run env' args' : StateM Tree _).run t).2) := by
  refine ⟨fun p hp => ?_, fun hno => ?_, fun env env' args args' v v' p e i henc hext hp => ?_⟩
  · -- the two runs differ only in how they report the outcome
    show ((extract ⟨dir, out, [c]⟩ : StateM Tree _).run t).2 = _ ∧
      (((extract ⟨dir, out, [c]⟩ : StateM Tree _).run t).1 = _ ↔
        ((encodeFile p c (Path.join out c.imageName) : StateM Tree _).run t).1 = _) ∧
      ∀ e, ((encodeFile p c (Path.join out c.imageName) : StateM Tree _).run t).1 = .error e →
        ((extract ⟨dir, out, [c]⟩ : StateM Tree _).run t).1 = _
    rw [extract_singleton_run hout hp]
    generalize (encodeFile p c (Path.join out c.imageName) : StateM Tree _).run t = x
    rcases x with ⟨_ | _, s⟩ <;> simp
  · rw [@extract_run_of_isDir t ⟨dir, out, [c]⟩ hout, extractChips_singleton_run,
      @extractChip_run_of_stubPath_error t ⟨dir, out, [c]⟩ c _ (stubPath_run'_eq_error hno)]
  · -- both commands write the image of the description found into `<chip>_stub.bin`
    unfold Cli.run
    rw [henc, hext]
    dsimp only
    rw [Config.make_stubDir_current]
    dsimp only
    rw [bind_run, bind_run]
    show ((encodeFile p c c.imageName : StateM Tree _).run t).2 =
      ((extract ⟨dir, ".", [c]⟩ : StateM Tree _).run t).2
    rw [extract_singleton_run (Tree.isDir_current t) hp, ← encodeFile_join_current]
    generalize (encodeFile p c (Path.join "." c.imageName) : StateM Tree _).run t = x
    rcases x with ⟨_ | _, s⟩ <;> rfl

end Single

/-! ### A stub directory -/

/-- A stub description in JSON: entry `0x40100004`, text start `0x40100000` and the text
`01 02 03`. -/
def stubJson : List UInt8 :=
  "\x7b\"entry\": 1074790404, \"text\": \"AQID\", \"text_start\": 1074790400\x7d".toUTF8.toList

/-- The record `stubJson` describes. -/
def stubRecord : Record := ⟨1074790404, 1074790400, [1, 2, 3], 0, []⟩

/-- The image of `stubRecord` tagged with a chip type. -/
def stubImage (ct : UInt32) : Image :=
  ⟨ct, 1074790404, 1074790400, [1, 2, 3], 0, [], by decide, by decide⟩

/-- A working directory with a directory `stubs` holding the ESP8266 and ESP32 descriptions. -/
def stubsTree : Tree :=
  ⟨[(["stubs"], .dir), (["stubs", "stub_flasher_8266.json"], .file stubJson),
    (["stubs", "stub_flasher_32.json"], .file stubJson)]⟩

theorem ofRecord_stubRecord (ct : UInt32) : Image.ofRecord stubRecord ct = .ok (stubImage ct) :=
  rfl

theorem Chip.jsonStubName_in_stubs (c : Chip) :
    '\x00' ∉ (Path.join "stubs" c.jsonStubName).toList ∧
      ¬ (Path.join "stubs" c.jsonStubName).utf8ByteSize > Tree.maxPathBytes ∧
      Format.ofPath? (Path.join "stubs" c.jsonStubName) = some .json := by
  cases c <;> decide +kernel

theorem readRecord_run'_of_read_stubJson {t : Tree} {p : String}
    (hfmt : Format.ofPath? p = some .json) (hread : t.read p = .ok stubJson) :
    (readRecord p : StateM Tree _).run' t = .ok stubRecord := by
  -- the stages of reading the description, each evaluated on its own
  have htext : utf8Text? stubJson =
      some "\x7b\"entry\": 1074790404, \"text\": \"AQID\", \"text_start\": 1074790400\x7d" := by
    decide +kernel
  have hparse : Format.parse .json
      "\x7b\"entry\": 1074790404, \"text\": \"AQID\", \"text_start\": 1074790400\x7d" =
        .ok ⟨1074790404, "AQID", 1074790400, none, none⟩ := by
    decide +kernel
  have hrecord : Description.toRecordOrError ⟨1074790404, "AQID", 1074790400, none, none⟩ =
      .ok stubRecord := by
    decide +kernel
  rw [readRecord_run'_of_ofPath?_eq_some hfmt, Format.readFile, hread]
  dsimp only
  rw [htext]
  dsimp only
  rw [hparse, Except.ok_bind, hrecord]

/-- A chip's description in the directory `stubs` is found there and read as `stubRecord`. -/
theorem stubPath_run'_of_stubs {t : Tree} {c : Chip} (hdir : t.get? ["stubs"] = some .dir)
    (hfile : t.get? ["stubs", c.jsonStubName] = some (.file stubJson)) :
    (stubPath "stubs" c : StateM Tree _).run' t = .ok (Path.join "stubs" c.jsonStubName) ∧
      (readRecord (Path.join "stubs" c.jsonStubName) : StateM Tree _).run' t = .ok stubRecord := by
  have hres : t.Resolves "stubs" ["stubs"] :=
    Tree.resolves_name ⟨by decide, by decide, by decide, by decide, by decide⟩ hdir
  have hjson := Chip.isEntryName_jsonStubName c
  obtain ⟨hnul, hshort, hfmt⟩ := Chip.jsonStubName_in_stubs c
  have hfound : t.isFile (Path.join "stubs" c.jsonStubName) = true := by
    rw [Tree.isFile_join hres hjson, Tree.pathRefusal?_eq_none hnul, decide_eq_false hshort]
    simp [hfile]
  refine ⟨by rw [stubPath_run', if_pos hfound], readRecord_run'_of_read_stubJson hfmt ?_⟩
  rw [Tree.read_join hres hjson, Tree.pathRefusal?_eq_none hnul]
  dsimp only
  rw [if_neg hshort]
  simp [hfile]

/-- The agreement for the ESP32, whose description `stubs` holds, with the working directory as
output directory: encoding and extracting both succeed, and they leave the same tree. -/
theorem extract_one_chip_agrees_on_stub_directory :
    stubsTree.isDir "." = true ∧
      (stubPath "stubs" .esp32 : StateM Tree _).run' stubsTree = .ok "stubs/stub_flasher_32.json" ∧
      (encodeFile "stubs/stub_flasher_32.json" .esp32 "./esp32_stub.bin" : StateM Tree _).run'
        stubsTree = .ok () ∧
      ((extract ⟨"stubs", ".", [.esp32]⟩ : StateM Tree _).run stubsTree).2 =
        ((encodeFile "stubs/stub_flasher_32.json" .esp32 "./esp32_stub.bin" : StateM Tree _).run
          stubsTree).2 ∧
      (extract ⟨"stubs", ".", [.esp32]⟩ : StateM Tree _).run' stubsTree =
        .ok ["./esp32_stub.bin"] := by
  have hstub : Path.join "stubs" Chip.esp32.jsonStubName = "stubs/stub_flasher_32.json" := by
    decide +kernel
  have hout : Path.join "." Chip.esp32.imageName = "./esp32_stub.bin" := by decide +kernel
  obtain ⟨hp, hread⟩ := stubPath_run'_of_stubs (t := stubsTree) (c := .esp32) rfl rfl
  rw [hstub] at hp hread
  -- the image goes where nothing was
  obtain ⟨t', hwrite⟩ : ∃ t', stubsTree.write "./esp32_stub.bin"
      (stubImage Chip.esp32.chipType).toBytes = .ok t' := by
    rw [← hout, Tree.write_join (Tree.resolves_current stubsTree) (Chip.isEntryName_imageName _),
      Tree.pathRefusal?_eq_none (by rw [hout]; decide), hout]
    exact ⟨_, rfl⟩
  have henc : (encodeFile "stubs/stub_flasher_32.json" .esp32 "./esp32_stub.bin" :
      StateM Tree _).run' stubsTree = .ok () := by
    show ((encodeFile _ _ _ : StateM Tree _).run _).1 = _
    rw [encodeFile_run_of_readRecord hread, writeImage_run_of_ofRecord (ofRecord_stubRecord _),
      hwrite]
  obtain ⟨hagree, -⟩ := extract_one_chip_agrees_with_encodeFile "stubs" "." .esp32 stubsTree
    (Tree.isDir_current _)
  obtain ⟨hsame, hok, -⟩ := hagree _ hp
  rw [hout] at hsame hok
  exact ⟨Tree.isDir_current _, hp, henc, hsame, hok.2 henc⟩

end FlasherStub
