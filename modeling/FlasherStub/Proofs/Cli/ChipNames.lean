import FlasherStub.Cli.Parse
import Mathlib

/-!
Chip names, as the library reads them and as the command line takes them.

Reading a chip name is exact: a text names a chip exactly when it is that chip's name, with the
same case and nothing around it (`Chip.ofName?_eq_some_iff`). The names are distinct, so any file
name made by appending one fixed text to a chip's name, as the image and TOML description names
are, belongs to one chip only (`Chip.name_append_injective`).

The chip names are the variant identifiers lowercased (`Chip.lowercase_ident`). The command line
derives its chip values from the same identifiers by its own rule, kebab case, and these are the
chip names again (`Chip.kebabCase_ident`). Reading a subcommand's words is
stated one word at a time (`readWords_pending`, `readWords_positional`, `readWords_long_chip`),
and filling options from the environment leaves alone the options given on the command line that
have no environment variable (`fillFromEnvironment_cons`). From these, `encode` with a chip value
asks for that chip exactly when the value is a chip's name, and refuses every other value
(`parse_encode_chip`); `extract` with one chip value refuses it unless it names a chip, and
otherwise asks for the run it asks for without one, restricted to that chip
(`parse_extract_chip`).
-/

namespace FlasherStub

namespace Chip

/-- Reading a chip name back is exact. -/
theorem ofName?_eq_some_iff {s : String} {c : Chip} : ofName? s = some c ↔ s = c.name := by
  constructor
  · intro h
    unfold ofName? at h
    have hname := List.find?_some h
    simp only [beq_iff_eq] at hname
    exact hname.symm
  · rintro rfl
    exact ofName?_name c

theorem name_injective : Function.Injective name := by
  intro c c' h
  have hc : ofName? c.name = some c' := by
    rw [h]
    exact ofName?_name c'
  rw [ofName?_name] at hc
  exact Option.some_inj.1 hc

/-- The chip names are the variant identifiers lowercased. -/
theorem lowercase_ident (c : Chip) : Text.lowercase c.ident = c.name := by
  cases c <;> decide +kernel

/-- The identifiers in kebab case, the values the command line takes, are the chip names too. -/
@[simp] theorem kebabCase_ident (c : Chip) : Text.kebabCase c.ident = c.name := by
  cases c <;> decide +kernel

/-- Appending the same text to two chips' names keeps them apart. -/
theorem name_append_injective (suffix : String) :
    Function.Injective (fun c : Chip => c.name ++ suffix) :=
  fun _ _ h => name_injective ((String.append_left_inj suffix).1 h)

end Chip

namespace Cli

/-! ### Reading a subcommand's words one at a time -/

section Words

variable (env : Environment) {l : Level}

theorem Level.child?_eq_none (hl : l ≠ .root) (t : String) : l.child? t = none := by
  cases l with
  | root => exact absurd rfl hl
  | extract | encode | help => rfl

theorem looksLikeOption_of_startsWith_dashes {t : String} (h : t.startsWith "--" = true) :
    looksLikeOption t = true := by
  rw [String.startsWith_string_iff] at h
  have hdash : "-".toList <+: t.toList := List.IsPrefix.trans (by decide) h
  have hne : t ≠ "-" := by
    rintro rfl
    exact absurd h (by decide)
  unfold looksLikeOption
  rw [Bool.and_eq_true, String.startsWith_string_iff, bne_iff_ne]
  exact ⟨hdash, hne⟩

/-- The word after an option that waits for its value is that value. -/
theorem readWords_pending (hl : l ≠ .root) (t : String) (ts : List String) (m : Matches)
    (a : Arg) :
    readWords env l (t :: ts) m (some a) false =
      if looksLikeOption t then .stopped .refuse
      else match react env l a (some t) false m with
        | .ok m => readWords env l ts m none false
        | .error s => .stopped s := by
  rw [readWords, Level.child?_eq_none hl]
  rfl

/-- A word that does not look like an option, met with no option waiting, is a positional
value. -/
theorem readWords_positional (hl : l ≠ .root) {t : String} (ts : List String) (m : Matches)
    (ht : looksLikeOption t = false) :
    readWords env l (t :: ts) m none false =
      match readPositional env l t m with
      | .ok m => readWords env l ts m none false
      | .error s => .stopped s := by
  have hdd : (t == "--") = false := by
    rw [beq_eq_false_iff_ne]
    rintro rfl
    exact absurd ht (by decide +kernel)
  have hds : t.startsWith "--" = false := by
    cases h : t.startsWith "--" with
    | false => rfl
    | true => rw [looksLikeOption_of_startsWith_dashes h] at ht; exact ht
  rw [readWords, Level.child?_eq_none hl, hdd, hds, ht]
  rfl

theorem readWords_long_chip (hl : l ≠ .root) (ts : List String) (m : Matches) :
    readWords env l ("--chip" :: ts) m none false =
      match readLong env l "chip" m with
      | .ok (m, next) => readWords env l ts m next false
      | .error s => .stopped s := by
  have hdd : ("--chip" == "--") = false := by decide +kernel
  have hds : "--chip".startsWith "--" = true := by decide +kernel
  have hbody : ("--chip".drop 2).toString = "chip" := by decide +kernel
  rw [readWords, Level.child?_eq_none hl, hdd, hds, hbody]
  rfl

end Words

/-! ### Values of options -/

/-- An option that takes a value records it when it accepts it and refuses it otherwise; an
option given once refuses a second value. -/
theorem react_value (env : Environment) (l : Level) {a : Arg} {m : Matches} (v : String)
    (long : Bool) (ha : a.action = .single ∧ m.has a.id = false ∨ a.action = .repeated) :
    react env l a (some v) long m =
      if a.accepts? v then .ok (m.add a.id (some v)) else .error .refuse := by
  rcases ha with ⟨hs, hm⟩ | hr
  · simp only [react, hs, hm, Bool.false_eq_true, if_false]
  · simp only [react, hr]

/-- The chip options accept exactly the chip names. -/
theorem accepts?_of_chipChoices {a : Arg} (ha : a.accepts = chipChoices) (s : String) :
    a.accepts? s = (Chip.ofName? s).isSome := by
  simp only [Arg.accepts?, ha, chipChoices, Chip.ofName?, List.any_map, Function.comp_def,
    Chip.kebabCase_ident]
  rw [Bool.eq_iff_iff, List.any_eq_true, List.find?_isSome]

/-! ### Filling options from the environment -/

namespace Matches

@[simp] theorem has_nil (id : String) : Matches.has [] id = false := rfl

theorem has_cons (p : String × List String) (m : Matches) (id : String) :
    Matches.has (p :: m) id = (p.1 == id || m.has id) := rfl

theorem values_cons (p : String × List String) (m : Matches) (id : String) :
    Matches.values (p :: m) id = if p.1 == id then p.2 else m.values id := by
  by_cases h : p.1 == id <;> simp [values, h]

theorem add_cons {p : String × List String} {m : Matches} {id : String} (hp : (p.1 == id) = false)
    (v : Option String) : Matches.add (p :: m) id v = p :: m.add id v := by
  have hne : p.1 ≠ id := beq_eq_false_iff_ne.1 hp
  unfold add
  rw [has_cons, hp, Bool.false_or]
  split
  · simp [hne]
  · rfl

end Matches

/-- Filling from the environment passes over an option given on the command line that no
argument with an environment variable is called by. -/
theorem fillFromEnvironment_cons (env : Environment) (l : Level) (p : String × List String)
    (hp : ∀ a ∈ l.args, a.env.isSome → (p.1 == a.id) = false) (m : Matches) :
    fillFromEnvironment env l (p :: m) = (fillFromEnvironment env l m).map (p :: ·) := by
  unfold fillFromEnvironment
  revert hp
  generalize l.args = as
  intro hp
  induction as generalizing m with
  | nil => rfl
  | cons a as ih =>
    have hrest : ∀ a' ∈ as, a'.env.isSome → (p.1 == a'.id) = false :=
      fun a' h => hp a' (List.mem_cons_of_mem a h)
    rw [List.foldlM_cons, List.foldlM_cons]
    cases he : a.env with
    | none => exact ih m hrest
    | some name =>
      -- `a` has an environment variable, so it is not the option given
      have hpa : (p.1 == a.id) = false := hp a List.mem_cons_self (by rw [he]; rfl)
      simp only [Matches.has_cons, hpa, Bool.false_or]
      by_cases hm : m.has a.id
      · simp only [hm, if_true]
        exact ih m hrest
      · simp only [hm, Bool.false_eq_true, if_false]
        cases env.get? name with
        | none => exact ih m hrest
        | some v =>
          by_cases hv : a.accepts? v
          · simp only [hv, if_true, Matches.add_cons hpa]
            exact ih _ hrest
          · simp only [hv, Bool.false_eq_true, if_false]
            rfl

/-- Filling from the environment does nothing for a command whose arguments have no
environment variable. -/
theorem fillFromEnvironment_of_env_none (env : Environment) {l : Level}
    (hl : ∀ a ∈ l.args, a.env = none) (m : Matches) : fillFromEnvironment env l m = .ok m := by
  unfold fillFromEnvironment
  revert hl
  generalize l.args = as
  intro hl
  induction as with
  | nil => rfl
  | cons a as ih =>
    rw [List.foldlM_cons, hl a List.mem_cons_self]
    exact ih fun a' h => hl a' (List.mem_cons_of_mem a h)

/-! ### The chip option of each subcommand -/

theorem splitOn_chip : "chip".splitOn "=" = ["chip"] := by cbv

/-- `--chip` names `encode`'s chip option, which takes one chip name. -/
theorem readLong_encode_chip (env : Environment) (m : Matches) :
    ∃ a, readLong env .encode "chip" m = .ok (m, some a) ∧ a.id = "chip" ∧
      a.action = .single ∧ a.accepts = chipChoices := by
  refine ⟨encodeArgs.get ⟨1, by decide⟩, ?_, rfl, rfl, rfl⟩
  simp [readLong, splitOn_chip, Level.args, encodeArgs, Level.ownArgs, Arg.takesValue]

/-- `--chip` names `extract`'s chip option, which takes one chip name each time it is given. -/
theorem readLong_extract_chip (env : Environment) (m : Matches) :
    ∃ a, readLong env .extract "chip" m = .ok (m, some a) ∧ a.id = "chip" ∧
      a.action = .repeated ∧ a.accepts = chipChoices := by
  refine ⟨extractArgs.get ⟨4, by decide⟩, ?_, rfl, rfl, rfl⟩
  simp [readLong, splitOn_chip, Level.args, extractArgs, Level.ownArgs, Arg.takesValue]

/-- The first word of `encode` that is not an option is its input path, which must not be
empty. -/
theorem readPositional_encode (env : Environment) {i : String} (hi : i ≠ "") :
    readPositional env .encode i [] = .ok [("input", [i])] := by
  simp [readPositional, Level.args, encodeArgs, Level.ownArgs, react, Arg.accepts?, hi, Matches.add]

/-- No chip name looks like an option. -/
theorem ofName?_eq_none_of_looksLikeOption {s : String} (h : looksLikeOption s = true) :
    Chip.ofName? s = none := by
  cases hs : Chip.ofName? s with
  | none => rfl
  | some c =>
    rw [Chip.ofName?_eq_some_iff.1 hs] at h
    cases c <;> exact absurd h (by decide +kernel)

/-- The value given to a chip option ends the words read when it names a chip, and is refused
otherwise. -/
theorem readWords_chip_value (env : Environment) {l : Level} (hl : l ≠ .root) {a : Arg}
    {m : Matches} (hacc : a.accepts = chipChoices)
    (hact : a.action = .single ∧ m.has a.id = false ∨ a.action = .repeated) (s : String) :
    readWords env l [s] m (some a) false =
      if (Chip.ofName? s).isSome then .finished (m.add a.id (some s)) else .stopped .refuse := by
  rw [readWords_pending env hl]
  by_cases hs : looksLikeOption s
  · -- a value that looks like an option is refused, and it names no chip either
    rw [if_pos hs, ofName?_eq_none_of_looksLikeOption hs]
    rfl
  · rw [if_neg hs, react_value env l s false hact, accepts?_of_chipChoices hacc]
    cases (Chip.ofName? s).isSome <;> rfl

theorem readWords_encode_chip (env : Environment) {i : String} (s : String)
    (hi : looksLikeOption i = false) (hne : i ≠ "") :
    readWords env .encode [i, "--chip", s] [] none false =
      if (Chip.ofName? s).isSome then .finished [("input", [i]), ("chip", [s])]
      else .stopped .refuse := by
  have henc : Level.encode ≠ .root := by decide
  obtain ⟨a, hlong, hid, hact, hacc⟩ := readLong_encode_chip env [("input", [i])]
  have hfirst : Matches.has [("input", [i])] a.id = false := by rw [hid]; rfl
  -- the input path, then the chip option, then its value
  rw [readWords_positional env henc _ _ hi, readPositional_encode env hne]
  dsimp only
  rw [readWords_long_chip env henc, hlong]
  dsimp only
  rw [readWords_chip_value env henc hacc (.inl ⟨hact, hfirst⟩), hid]
  rfl

theorem readWords_extract_chip (env : Environment) (s : String) :
    readWords env .extract ["--chip", s] [] none false =
      if (Chip.ofName? s).isSome then .finished [("chip", [s])] else .stopped .refuse := by
  have hext : Level.extract ≠ .root := by decide
  obtain ⟨a, hlong, hid, hact, hacc⟩ := readLong_extract_chip env []
  rw [readWords_long_chip env hext, hlong]
  dsimp only
  rw [readWords_chip_value env hext hacc (.inr hact), hid]
  rfl

/-! ### Requests -/

/-- The help switch, in both its forms, is never required. -/
@[simp] theorem required_helpSwitch (longer : Bool) : (helpSwitch longer).required = false := by
  cases longer <;> rfl

/-- No argument of `encode` is read from the environment. -/
theorem env_none_encode : ∀ a ∈ Level.encode.args, a.env = none := by
  decide

/-- The arguments of `extract` read from the environment are not its chip option. -/
theorem env_chip_extract : ∀ a ∈ Level.extract.args, a.env.isSome → ("chip" == a.id) = false := by
  decide

/-- The request of `encode` given its input path and a chip value: the chip named, and no output
path. -/
theorem requestOf_encode (env : Environment) (i s : String) :
    requestOf env .encode false [("input", [i]), ("chip", [s])] =
      match Chip.ofName? s with
      | some c => .encode ⟨false, i, c, none⟩
      | none => .refuse := by
  unfold requestOf
  rw [fillFromEnvironment_of_env_none env env_none_encode]
  simp [Level.args, encodeArgs, Level.ownArgs, Level.value?, valueOf, Matches.values, Matches.has,
    verbose, versionSwitch]
  cases Chip.ofName? s <;> rfl

/-- The request of `extract` given one chip value that names `c` is the request it makes with no
chip value, restricted to `c`. -/
theorem requestOf_extract_chip (env : Environment) {s : String} {c : Chip}
    (hs : Chip.ofName? s = some c) :
    requestOf env .extract false [("chip", [s])] =
      match requestOf env .extract false [] with
      | .extract r => .extract { r with chips := [c] }
      | q => q := by
  unfold requestOf
  rw [fillFromEnvironment_cons env .extract ("chip", [s]) env_chip_extract []]
  cases fillFromEnvironment env .extract [] with
  | error e => cases e <;> rfl
  | ok m =>
    simp [Except.map, Level.args, extractArgs, Level.ownArgs, Level.value?, valueOf,
      Matches.values_cons, Matches.has_cons, hs, verbose, versionSwitch]

/-! ### Command lines -/

/-- A word naming a subcommand other than `help` hands the rest of the line to it, with the
top-level debug switch not given. -/
theorem parse_subcommand (env : Environment) {t : String} {c : Level}
    (hc : Level.root.child? t = some c) (hhelp : c ≠ .help) (rest : List String) :
    parse env (t :: rest) =
      match readWords env c rest [] none false with
      | .stopped (.print text) => .print text
      | .stopped .refuse => .refuse
      | .subcommand .. => .refuse
      | .finished m => requestOf env c false m := by
  have hroot : readWords env .root (t :: rest) [] none false = .subcommand c rest [] := by
    simp only [readWords, hc, Bool.false_eq_true, if_false]
  unfold parse
  rw [hroot]
  cases c with
  | help => exact absurd rfl hhelp
  | root | extract | encode => rfl

theorem child?_encode : Level.root.child? "encode" = some .encode := by decide +kernel

theorem child?_extract : Level.root.child? "extract" = some .extract := by decide +kernel

/-- `encode` given its input path and a chip value asks for the chip the value names, and
refuses a value that names none. -/
theorem parse_encode_chip (env : Environment) {i : String} (s : String)
    (hi : looksLikeOption i = false) (hne : i ≠ "") :
    parse env ["encode", i, "--chip", s] =
      match Chip.ofName? s with
      | some c => .encode ⟨false, i, c, none⟩
      | none => .refuse := by
  rw [parse_subcommand env child?_encode (by decide), readWords_encode_chip env s hi hne]
  cases h : Chip.ofName? s with
  | none => rfl
  | some c =>
    simp only [Option.isSome_some, if_true]
    rw [requestOf_encode, h]

/-- `extract` given one chip value refuses it unless it names a chip, and otherwise asks for
what it asks for without a chip value, restricted to the chip named. -/
theorem parse_extract_chip (env : Environment) (s : String) :
    parse env ["extract", "--chip", s] =
      match Chip.ofName? s with
      | none => .refuse
      | some c =>
        match parse env ["extract"] with
        | .extract r => .extract { r with chips := [c] }
        | q => q := by
  have hnil : readWords env .extract [] [] none false = .finished [] := rfl
  rw [parse_subcommand env child?_extract (by decide), parse_subcommand env child?_extract
    (by decide), readWords_extract_chip, hnil]
  cases h : Chip.ofName? s with
  | none => rfl
  | some c =>
    simp only [Option.isSome_some, if_true]
    exact requestOf_extract_chip env h

end Cli

/-- Chip names are read exactly: a text names a chip exactly when it is that chip's name, so
reading and naming are inverse on the names and every other text, in another case or with
anything around it, names no chip. The command line's chip option reads the same names: `encode`
asks for the chip its value names and refuses any other value, and `extract` with one chip value
refuses a value that names no chip and otherwise restricts its run to the chip named. The image
and TOML file names of two chips differ. -/
theorem chip_names_read_exactly :
    (∀ (s : String) (c : Chip), Chip.ofName? s = some c ↔ s = c.name) ∧
    (∀ (env : Cli.Environment) (i s : String), Cli.looksLikeOption i = false → i ≠ "" →
      Cli.parse env ["encode", i, "--chip", s] =
        match Chip.ofName? s with
        | some c => .encode ⟨false, i, c, none⟩
        | none => .refuse) ∧
    (∀ (env : Cli.Environment) (s : String),
      Cli.parse env ["extract", "--chip", s] =
        match Chip.ofName? s with
        | none => .refuse
        | some c =>
          match Cli.parse env ["extract"] with
          | .extract r => .extract { r with chips := [c] }
          | q => q) ∧
    Function.Injective Chip.imageName ∧ Function.Injective Chip.tomlStubName :=
  ⟨fun _ _ => Chip.ofName?_eq_some_iff,
    fun env _ s hi hne => Cli.parse_encode_chip env s hi hne,
    Cli.parse_extract_chip,
    Chip.name_append_injective "_stub.bin", Chip.name_append_injective ".toml"⟩

/-- The ESP32 named on the command line of `encode`, for the input `stub.json`. -/
theorem chip_names_read_exactly_encode_esp32 :
    Cli.looksLikeOption "stub.json" = false ∧ "stub.json" ≠ "" ∧
      Cli.parse [] ["encode", "stub.json", "--chip", "esp32"] =
        .encode ⟨false, "stub.json", .esp32, none⟩ := by
  have hi : Cli.looksLikeOption "stub.json" = false := by decide +kernel
  have hne : "stub.json" ≠ "" := by decide
  refine ⟨hi, hne, ?_⟩
  rw [chip_names_read_exactly.2.1 [] "stub.json" "esp32" hi hne]
  rfl

end FlasherStub
