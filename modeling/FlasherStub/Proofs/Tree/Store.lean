import FlasherStub.Extract
import FlasherStub.Proofs.Except
import FlasherStub.Proofs.Tree.Walk
import Mathlib

/-!
The file operations of the program run on a `Tree`, one step at a time.

Each operation of the `Store` instance of `StateM Tree` is the pure function of the tree of the
same name, and the lemmas `*_bind_run` take one step of a program with it. Two kinds of program
matter for extraction. A read-only program leaves the tree as it is (`ReadOnly`): finding,
reading and decoding a stub description are such programs, and each has a closed form in the
tree's `isFile` and `read` (`stubPath_run'`, `readDescription_run'`, `loadStub_run'`); a file
read in a known format is `Format.readFile`, and fails only with an error of reading it
(`Error.OfReading`). A growing program only adds directories where there was nothing
(`Growing`): creating the output directory is one (`growing_createDirAll`), and on a directory
that exists it does nothing at all (`createDirAll_run_of_isDir`).
-/

namespace FlasherStub

/-! ### One operation at a time -/

section Steps

variable {β : Type} (t : Tree)

@[simp] theorem pure_run {α : Type} (a : α) : (pure a : StateM Tree α).run t = (a, t) := rfl

theorem bind_run {α : Type} (x : StateM Tree α) (f : α → StateM Tree β) :
    (x >>= f).run t = (f (x.run t).1).run (x.run t).2 := rfl

@[simp] theorem read_bind_run (p : String) (f : Except IoError (List UInt8) → StateM Tree β) :
    (Store.read p >>= f).run t = (f (t.read p)).run t := rfl

@[simp] theorem isFile_bind_run (p : String) (f : Bool → StateM Tree β) :
    (Store.isFile p >>= f).run t = (f (t.isFile p)).run t := rfl

@[simp] theorem isDir_bind_run (p : String) (f : Bool → StateM Tree β) :
    (Store.isDir p >>= f).run t = (f (t.isDir p)).run t := rfl

theorem write_bind_run (p : String) (bs : List UInt8) (f : Except IoError Unit → StateM Tree β) :
    (Store.write p bs >>= f).run t = match t.write p bs with
      | .ok t' => (f (.ok ())).run t'
      | .error e => (f (.error e)).run t := by
  cases h : t.write p bs <;> simp [Store.write, h]

theorem makeDir_bind_run (p : String) (f : Except IoError Unit → StateM Tree β) :
    (Store.makeDir p >>= f).run t = match t.makeDir p with
      | .ok t' => (f (.ok ())).run t'
      | .error e => (f (.error e)).run t := by
  cases h : t.makeDir p <;> simp [Store.makeDir, h]

end Steps

/-! ### Programs that only look -/

/-- A program that leaves every tree as it was. -/
def ReadOnly {α : Type} (x : StateM Tree α) : Prop := ∀ t, (x.run t).2 = t

namespace ReadOnly

variable {α β : Type}

theorem pure (a : α) : ReadOnly (pure a : StateM Tree α) := fun _ => rfl

theorem read (p : String) : ReadOnly (Store.read p : StateM Tree _) := fun _ => rfl

theorem isFile (p : String) : ReadOnly (Store.isFile p : StateM Tree _) := fun _ => rfl

theorem isDir (p : String) : ReadOnly (Store.isDir p : StateM Tree _) := fun _ => rfl

theorem run_eq {x : StateM Tree α} (hx : ReadOnly x) (t : Tree) : x.run t = (x.run' t, t) :=
  Prod.ext rfl (hx t)

/-- A read-only first step hands the same tree to the rest. -/
theorem bind_run {x : StateM Tree α} (hx : ReadOnly x) (f : α → StateM Tree β) (t : Tree) :
    (x >>= f).run t = (f (x.run' t)).run t := by
  rw [FlasherStub.bind_run, hx.run_eq]

theorem bind {x : StateM Tree α} {f : α → StateM Tree β} (hx : ReadOnly x)
    (hf : ∀ a, ReadOnly (f a)) : ReadOnly (x >>= f) := by
  intro t
  rw [hx.bind_run]
  exact hf _ t

end ReadOnly

section Source

variable (t : Tree)

theorem readOnly_stubPath (dir : String) (c : Chip) : ReadOnly (stubPath dir c : StateM Tree _) := by
  unfold stubPath
  refine (ReadOnly.isFile _).bind fun _ => ?_
  split
  · exact ReadOnly.pure _
  · refine (ReadOnly.isFile _).bind fun _ => ?_
    split <;> exact ReadOnly.pure _

theorem readOnly_readDescription (p : String) :
    ReadOnly (readDescription p : StateM Tree _) := by
  unfold readDescription
  split
  · exact ReadOnly.pure _
  · refine (ReadOnly.read _).bind fun _ => ?_
    split
    · exact ReadOnly.pure _
    · split <;> exact ReadOnly.pure _

theorem readOnly_readRecord (p : String) : ReadOnly (readRecord p : StateM Tree _) := by
  unfold readRecord
  refine (readOnly_readDescription p).bind fun _ => ?_
  split <;> exact ReadOnly.pure _

theorem readOnly_loadStub (dir : String) (c : Chip) : ReadOnly (loadStub dir c : StateM Tree _) := by
  unfold loadStub
  refine (readOnly_stubPath dir c).bind fun _ => ?_
  split
  · exact readOnly_readRecord _
  · exact ReadOnly.pure _

/-- The description file of a chip: the JSON one when it is a file, else the TOML one. -/
theorem stubPath_run' (dir : String) (c : Chip) :
    (stubPath dir c : StateM Tree _).run' t =
      if t.isFile (Path.join dir c.jsonStubName) then .ok (Path.join dir c.jsonStubName)
      else if t.isFile (Path.join dir c.tomlStubName) then .ok (Path.join dir c.tomlStubName)
      else .error (.stubNotFound c dir) := by
  show ((stubPath dir c : StateM Tree _).run t).1 = _
  unfold stubPath
  rw [isFile_bind_run]
  split
  · rfl
  · rw [isFile_bind_run]
    split <;> rfl

theorem readDescription_run' (p : String) :
    (readDescription p : StateM Tree _).run' t =
      match Format.ofPath? p with
      | none => .error (.unknownStubFormat p)
      | some fmt =>
        match t.read p with
        | .error e => .error (.io p e)
        | .ok bs =>
          match utf8Text? bs with
          | none => .error (.io p .invalidUtf8)
          | some text => fmt.parse text := by
  show ((readDescription p : StateM Tree _).run t).1 = _
  unfold readDescription
  cases Format.ofPath? p with
  | none => rfl
  | some fmt =>
    dsimp only
    rw [read_bind_run]
    cases t.read p with
    | error e => rfl
    | ok bs =>
      dsimp only
      cases utf8Text? bs <;> rfl

theorem readRecord_run' (p : String) :
    (readRecord p : StateM Tree _).run' t =
      match (readDescription p : StateM Tree _).run' t with
      | .ok d => d.toRecordOrError
      | .error e => .error e := by
  show ((readRecord p : StateM Tree _).run t).1 = _
  unfold readRecord
  rw [(readOnly_readDescription p).bind_run]
  cases (readDescription p : StateM Tree _).run' t <;> rfl

/-- Loading a stub reads the description file that `stubPath` finds. -/
theorem loadStub_run' (dir : String) (c : Chip) :
    (loadStub dir c : StateM Tree _).run' t =
      match (stubPath dir c : StateM Tree _).run' t with
      | .ok p => (readRecord p : StateM Tree _).run' t
      | .error e => .error e := by
  show ((loadStub dir c : StateM Tree _).run t).1 = _
  unfold loadStub
  rw [(readOnly_stubPath dir c).bind_run]
  cases (stubPath dir c : StateM Tree _).run' t <;> rfl

/-- Two trees that agree on which stub description files exist and on the bytes of those that do
load the same stubs. -/
theorem loadStub_run'_congr {t t' : Tree} {dir : String} {c : Chip}
    (hjson : t.isFile (Path.join dir c.jsonStubName) = t'.isFile (Path.join dir c.jsonStubName) ∧
      (t.isFile (Path.join dir c.jsonStubName) = true →
        t.read (Path.join dir c.jsonStubName) = t'.read (Path.join dir c.jsonStubName)))
    (htoml : t.isFile (Path.join dir c.tomlStubName) = t'.isFile (Path.join dir c.tomlStubName) ∧
      (t.isFile (Path.join dir c.tomlStubName) = true →
        t.read (Path.join dir c.tomlStubName) = t'.read (Path.join dir c.tomlStubName))) :
    (loadStub dir c : StateM Tree _).run' t = (loadStub dir c : StateM Tree _).run' t' := by
  obtain ⟨hjf, hjr⟩ := hjson
  obtain ⟨htf, htr⟩ := htoml
  -- the file chosen is a file in both trees, and it reads the same
  have hread : ∀ p, t.isFile p = true → t.read p = t'.read p →
      (readRecord p : StateM Tree _).run' t = (readRecord p : StateM Tree _).run' t' := by
    intro p _ hr
    rw [readRecord_run', readRecord_run', readDescription_run', readDescription_run', hr]
  rw [loadStub_run', loadStub_run', stubPath_run', stubPath_run', ← hjf, ← htf]
  by_cases hj : t.isFile (Path.join dir c.jsonStubName)
  · simp only [hj, ↓reduceIte]
    exact hread _ hj (hjr hj)
  · by_cases ht : t.isFile (Path.join dir c.tomlStubName)
    · simp only [hj, ht, Bool.false_eq_true, ↓reduceIte]
      exact hread _ ht (htr ht)
    · simp [hj, ht]

/-- Reading the file at a path of a tree whole, as UTF-8 text, and parsing it in a format: a file
that cannot be read, or whose bytes are not UTF-8, is an I/O error about the path. -/
def Format.readFile (fmt : Format) (t : Tree) (p : String) : Except Error Description :=
  match t.read p with
  | .error e => .error (.io p e)
  | .ok bs =>
    match utf8Text? bs with
    | none => .error (.io p .invalidUtf8)
    | some text => fmt.parse text

theorem Format.readFile_congr {fmt : Format} {t t' : Tree} {p : String}
    (h : t.read p = t'.read p) : fmt.readFile t p = fmt.readFile t' p := by
  unfold Format.readFile
  rw [h]

theorem readDescription_run_of_ofPath?_eq_some {p : String} {fmt : Format}
    (h : Format.ofPath? p = some fmt) (t : Tree) :
    (readDescription p : StateM Tree _).run t = (fmt.readFile t p, t) := by
  rw [(readOnly_readDescription p).run_eq, readDescription_run', h]
  rfl

/-- The errors of reading a description in a format: the file, the syntax of the format, or the
segments. -/
def Error.OfReading (fmt : Format) : Error → Prop
  | .io _ _ | .invalidBase64 _ _ => True
  | .json _ => fmt = .json
  | .toml _ => fmt = .toml
  | .encoding _ | .chip _ _ | .missingStubDir | .stubNotFound _ _ | .unknownStubFormat _ => False

theorem Format.parse_eq_error {fmt : Format} {text : String} {e : Error}
    (h : fmt.parse text = .error e) : e.OfReading fmt := by
  cases fmt with
  | json =>
    cases hj : Description.ofJson text with
    | error x =>
      simp only [Format.parse, hj, Except.mapError, Except.error.injEq] at h
      subst h
      trivial
    | ok d => simp [Format.parse, hj, Except.mapError] at h
  | toml =>
    cases ht : Description.ofToml text with
    | error x =>
      simp only [Format.parse, ht, Except.mapError, Except.error.injEq] at h
      subst h
      trivial
    | ok d => simp [Format.parse, ht, Except.mapError] at h

theorem Format.readFile_eq_error {fmt : Format} {t : Tree} {p : String} {e : Error}
    (h : fmt.readFile t p = .error e) : e.OfReading fmt := by
  unfold Format.readFile at h
  cases hr : t.read p with
  | error e' =>
    rw [hr] at h
    cases h
    trivial
  | ok bs =>
    rw [hr] at h
    dsimp only at h
    cases hu : utf8Text? bs with
    | none =>
      rw [hu] at h
      cases h
      trivial
    | some text =>
      rw [hu] at h
      exact Format.parse_eq_error h

theorem Description.toRecordOrError_eq_error {d : Description} {e : Error} (fmt : Format)
    (h : d.toRecordOrError = .error e) : e.OfReading fmt := by
  unfold Description.toRecordOrError at h
  cases hd : d.toRecord with
  | error x =>
    simp only [hd, Except.mapError, Except.error.injEq] at h
    subst h
    trivial
  | ok r => simp [hd, Except.mapError] at h

/-- A file read in the format its extension names: its description, its segments decoded. -/
theorem readRecord_run'_of_ofPath?_eq_some {p : String} {fmt : Format}
    (h : Format.ofPath? p = some fmt) (t : Tree) :
    (readRecord p : StateM Tree _).run' t = (fmt.readFile t p >>= Description.toRecordOrError) := by
  have hdesc : (readDescription p : StateM Tree _).run' t = fmt.readFile t p := by
    show ((readDescription p : StateM Tree _).run t).1 = _
    rw [readDescription_run_of_ofPath?_eq_some h]
  rw [readRecord_run', hdesc]
  cases fmt.readFile t p <;> rfl

theorem readRecord_run'_eq_error_of_ofPath?_eq_some {p : String} {fmt : Format}
    (h : Format.ofPath? p = some fmt) {t : Tree} {e : Error}
    (he : (readRecord p : StateM Tree _).run' t = .error e) : e.OfReading fmt := by
  rw [readRecord_run'_of_ofPath?_eq_some h, Except.bind_eq_error_iff] at he
  rcases he with hr | ⟨d, -, hd⟩
  · exact Format.readFile_eq_error hr
  · exact Description.toRecordOrError_eq_error fmt hd

/-- The errors with which reading a stub description can fail: its format, the file, its syntax,
or its segments. -/
def Error.OfDescription : Error → Prop
  | .unknownStubFormat _ | .io _ _ | .json _ | .toml _ | .invalidBase64 _ _ => True
  | .encoding _ | .chip _ _ | .missingStubDir | .stubNotFound _ _ => False

theorem Error.OfReading.ofDescription {fmt : Format} {e : Error} (h : e.OfReading fmt) :
    e.OfDescription := by
  cases e <;> simp_all [Error.OfReading, Error.OfDescription]

/-- Reading a stub description fails only with an error of the description. -/
theorem readRecord_run'_eq_error {p : String} {e : Error}
    (h : (readRecord p : StateM Tree _).run' t = .error e) : e.OfDescription := by
  cases hp : Format.ofPath? p with
  | none =>
    rw [readRecord_run', readDescription_run', hp] at h
    cases h
    trivial
  | some fmt => exact (readRecord_run'_eq_error_of_ofPath?_eq_some hp h).ofDescription

/-- No stage of loading a stub fails with an error about a chip. -/
theorem readRecord_run'_ne_chip (p : String) (c : Chip) (e : Error) :
    (readRecord p : StateM Tree _).run' t ≠ .error (.chip c e) :=
  fun h => readRecord_run'_eq_error t h

theorem loadStub_run'_ne_chip (dir : String) (c c' : Chip) (e : Error) :
    (loadStub dir c : StateM Tree _).run' t ≠ .error (.chip c' e) := by
  rw [loadStub_run', stubPath_run']
  by_cases hj : t.isFile (Path.join dir c.jsonStubName)
  · rw [if_pos hj]
    exact readRecord_run'_ne_chip t _ c' e
  · by_cases ht : t.isFile (Path.join dir c.tomlStubName)
    · rw [if_neg hj, if_pos ht]
      exact readRecord_run'_ne_chip t _ c' e
    · rw [if_neg hj, if_neg ht]
      exact fun h => by cases h

end Source

/-! ### Programs that only add directories -/

/-- `t'` is `t` with directories added where `t` had nothing. -/
def Tree.Grows (t t' : Tree) : Prop :=
  ∀ x, t'.get? x ≠ t.get? x → t.get? x = none ∧ t'.get? x = some .dir

theorem Tree.Grows.refl (t : Tree) : t.Grows t := fun _ h => absurd rfl h

theorem Tree.Grows.trans {t₁ t₂ t₃ : Tree} (h₁ : t₁.Grows t₂) (h₂ : t₂.Grows t₃) : t₁.Grows t₃ := by
  intro x hx
  by_cases h12 : t₂.get? x = t₁.get? x
  · obtain ⟨hnone, hdir⟩ := h₂ x (h12 ▸ hx)
    exact ⟨h12 ▸ hnone, hdir⟩
  · obtain ⟨hnone, hdir⟩ := h₁ x h12
    by_cases h23 : t₃.get? x = t₂.get? x
    · exact ⟨hnone, h23.trans hdir⟩
    · exact absurd (h₂ x h23).1 (by simp [hdir])

theorem Tree.Grows.plain {t t' : Tree} (h : t.Grows t') (hp : t.Plain) : t'.Plain := by
  intro x hx
  by_cases hsame : t'.get? x = t.get? x
  · exact hp x (hsame ▸ hx)
  · simp [(h x hsame).2] at hx

/-- A program that only adds directories where there was nothing. -/
def Growing {α : Type} (x : StateM Tree α) : Prop := ∀ t : Tree, t.Grows (x.run t).2

namespace Growing

variable {α β : Type}

theorem of_readOnly {x : StateM Tree α} (hx : ReadOnly x) : Growing x := fun t => by
  rw [hx t]
  exact Tree.Grows.refl t

theorem bind {x : StateM Tree α} {f : α → StateM Tree β} (hx : Growing x)
    (hf : ∀ a, Growing (f a)) : Growing (x >>= f) := fun t => by
  rw [FlasherStub.bind_run]
  exact (hx t).trans (hf _ _)

theorem makeDir (p : String) : Growing (Store.makeDir p : StateM Tree _) := fun t => by
  show t.Grows ((Store.makeDir p >>= pure : StateM Tree _).run t).2
  rw [makeDir_bind_run]
  cases h : t.makeDir p with
  | error e => exact Tree.Grows.refl t
  | ok t' =>
    obtain ⟨loc, hnone, rfl⟩ := Tree.makeDir_eq_ok h
    show t.Grows (t.put loc .dir)
    intro x hx
    rw [Tree.get?_put] at hx ⊢
    by_cases hxl : x = loc
    · subst hxl
      exact ⟨hnone, by simp⟩
    · simp [hxl] at hx

end Growing

/-- Creating a directory and its parents only adds directories where there was nothing. -/
theorem growing_createDirAll : ∀ (fuel : Nat) (p : String),
    Growing (createDirAll fuel p : StateM Tree _)
  | 0, _ => Growing.of_readOnly (ReadOnly.pure _)
  | fuel + 1, p => by
    unfold createDirAll
    split
    · exact Growing.of_readOnly (ReadOnly.pure _)
    · refine (Growing.makeDir p).bind fun r => ?_
      split
      · exact Growing.of_readOnly (ReadOnly.pure _)
      · split
        · exact Growing.of_readOnly (ReadOnly.pure _)
        · refine (growing_createDirAll fuel _).bind fun r => ?_
          split
          · exact Growing.of_readOnly (ReadOnly.pure _)
          · refine (Growing.makeDir p).bind fun r => ?_
            split
            · exact Growing.of_readOnly (ReadOnly.pure _)
            · refine Growing.of_readOnly ((ReadOnly.isDir p).bind fun b => ?_)
              split <;> exact ReadOnly.pure _
      · refine Growing.of_readOnly ((ReadOnly.isDir p).bind fun b => ?_)
        split <;> exact ReadOnly.pure _

theorem Tree.makeDir_of_isDir {t : Tree} {p : String} (h : t.isDir p = true) :
    t.makeDir p = .error .alreadyExists := by
  unfold Tree.isDir at h
  unfold Tree.makeDir
  split at h <;> simp_all

/-- Creating a directory that can be made at once is making it. -/
theorem createDirAll_run_of_makeDir {t t' : Tree} {p : String} (hne : p.isEmpty = false)
    (h : t.makeDir p = .ok t') (fuel : Nat) :
    (createDirAll (fuel + 1) p : StateM Tree _).run t = (.ok (), t') := by
  simp only [createDirAll, hne, Bool.false_eq_true, ↓reduceIte]
  rw [makeDir_bind_run, h]
  rfl

/-- Creating a directory that exists changes nothing. -/
theorem createDirAll_run_of_isDir {t : Tree} {p : String} (h : t.isDir p = true) (fuel : Nat) :
    (createDirAll (fuel + 1) p : StateM Tree _).run t = (.ok (), t) := by
  have hne : p.isEmpty = false := by
    unfold Tree.isDir at h
    simp_all
  simp only [createDirAll, hne, Bool.false_eq_true, ↓reduceIte]
  rw [makeDir_bind_run, Tree.makeDir_of_isDir h]
  dsimp only
  rw [isDir_bind_run, h]
  rfl

end FlasherStub
