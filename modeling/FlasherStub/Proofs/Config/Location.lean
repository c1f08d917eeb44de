import FlasherStub.Config
import FlasherStub.Proofs.Tree.Walk

/-!
Where a run finds its stub descriptions.

A relative suffix is joined after the base's *lead*: nothing after an empty base, the base itself
when it ends with a separator, and otherwise the base and one separator (`Path.join_of_relative`);
an absolute suffix replaces the base. The lead of a text that ends with a non-empty relative path
is the text up to that path followed by the path's own lead (`Path.lead_append`), and from this
joining is associative (`Path.join_assoc`): two joins in turn are one join of the two suffixes
joined, whatever the base is, empty, ending in a separator or the root.

A location is resolved by precedence: a stub directory given directly wins, even an empty one,
then an esptool checkout, then an ESP-IDF tree, whose two relative joins are the one join of the
documented suffix (`Location.resolve_first_given`).
-/

namespace FlasherStub

namespace Path

/-- The text a relative suffix follows when it is joined to `base`. -/
def lead (base : String) : String :=
  if base.isEmpty then "" else if base.endsWith "/" then base else base ++ "/"

@[simp] theorem lead_empty : lead "" = "" := rfl

theorem join_of_relative (base : String) {s : String} (hs : isAbsolute s = false) :
    join base s = lead base ++ s := by
  unfold join lead
  rw [if_neg (by simp [hs])]
  by_cases he : base.isEmpty
  · simp [he]
  · by_cases hsep : base.endsWith "/"
    · simp [he, hsep]
    · simp [he, hsep, String.append_assoc]

theorem join_of_absolute (base : String) {s : String} (hs : isAbsolute s = true) :
    join base s = s := by
  simp [join, hs]

/-- A text that ends with a non-empty text ends with a separator exactly when that text does. -/
theorem endsWith_sep_append (x : String) {a : String} (ha : a ≠ "") :
    (x ++ a).endsWith "/" = a.endsWith "/" := by
  obtain ⟨c, hc⟩ : ∃ c, a.toList.getLast? = some c := by
    cases h : a.toList.getLast? with
    | none => exact absurd (String.toList_eq_nil_iff.1 (List.getLast?_eq_none_iff.1 h)) ha
    | some c => exact ⟨c, rfl⟩
  have hlast : (x ++ a).toList.getLast? = some c := by
    rw [String.toList_append, List.getLast?_append, hc, Option.some_or]
  rw [Bool.eq_iff_iff, Tree.endsWith_sep_iff, Tree.endsWith_sep_iff, hlast, hc]

theorem lead_append (x : String) {a : String} (ha : a ≠ "") : lead (x ++ a) = x ++ lead a := by
  have hxa : (x ++ a).isEmpty = false := by
    rw [Bool.eq_false_iff, ne_eq, String.isEmpty_iff]
    exact fun h => ha (String.append_eq_empty_iff.1 h).2
  have hne : a.isEmpty = false := by
    rwa [Bool.eq_false_iff, ne_eq, String.isEmpty_iff]
  unfold lead
  rw [hxa, hne, endsWith_sep_append x ha]
  by_cases hsep : a.endsWith "/"
  · simp [hsep]
  · simp [hsep, String.append_assoc]

/-- A lead is empty or ends with a separator, so it is its own lead. -/
theorem lead_lead (base : String) : lead (lead base) = lead base := by
  by_cases he : base.isEmpty
  · simp [lead, he]
  · by_cases hsep : base.endsWith "/"
    · simp [lead, he, hsep]
    · have hne : base ≠ "" := fun h => he (String.isEmpty_iff.2 h)
      have hsep' : (base ++ "/").endsWith "/" = true := by
        rw [endsWith_sep_append base (by decide)]
        decide +kernel
      have he' : (base ++ "/").isEmpty = false := by
        rw [Bool.eq_false_iff, ne_eq, String.isEmpty_iff]
        exact fun h => hne (String.append_eq_empty_iff.1 h).1
      simp [lead, he, hsep, hsep', he']

/-- Text after a non-empty text does not change whether it starts from the root. -/
theorem isAbsolute_append {a : String} (ha : a ≠ "") (b : String) :
    isAbsolute (a ++ b) = isAbsolute a :=
  Tree.isAbsolute_append ha b

theorem isAbsolute_lead (a : String) : isAbsolute (lead a) = isAbsolute a := by
  by_cases he : a.isEmpty
  · rw [String.isEmpty_iff.1 he, lead_empty]
  · have hne : a ≠ "" := fun h => he (String.isEmpty_iff.2 h)
    unfold lead
    rw [if_neg he]
    split
    · rfl
    · exact isAbsolute_append hne "/"

theorem lead_ne_empty {a : String} (ha : a ≠ "") : lead a ≠ "" := by
  have he : a.isEmpty = false := by
    rwa [Bool.eq_false_iff, ne_eq, String.isEmpty_iff]
  unfold lead
  rw [if_neg (Bool.eq_false_iff.1 he)]
  split
  · exact ha
  · exact fun h => ha (String.append_eq_empty_iff.1 h).1

/-- Joining is associative: a path joined to `a` and then to `b` is the path joined to `a`
joined to `b`. -/
theorem join_assoc (p a b : String) : join (join p a) b = join p (join a b) := by
  cases hb : isAbsolute b with
  | true => rw [join_of_absolute _ hb, join_of_absolute a hb, join_of_absolute p hb]
  | false =>
    cases ha : isAbsolute a with
    | true =>
      -- an absolute `a` replaces `p`, and `a` joined to anything stays absolute
      have ha0 : a ≠ "" := by
        rintro rfl
        exact absurd ha (by decide)
      have hab : isAbsolute (join a b) = true := by
        rw [join_of_relative a hb, isAbsolute_append (lead_ne_empty ha0), isAbsolute_lead,
          ha]
      rw [join_of_absolute p ha, join_of_absolute p hab]
    | false =>
      rw [join_of_relative p ha, join_of_relative a hb, join_of_relative _ hb]
      by_cases ha0 : a = ""
      · -- an empty `a` only adds the lead of `p`, which is its own lead
        subst ha0
        rw [String.append_empty, lead_lead, lead_empty, String.empty_append,
          join_of_relative p hb]
      · have hrel : isAbsolute (lead a ++ b) = false := by
          rw [isAbsolute_append (lead_ne_empty ha0), isAbsolute_lead, ha]
        rw [lead_append _ ha0, join_of_relative p hrel, String.append_assoc]

/-- The esptool component's stub directory inside an ESP-IDF tree, as one relative path. -/
theorem join_idfEsptoolDir :
    join idfEsptoolDir esptoolStubDir =
      "components/esptool_py/esptool/esptool/targets/stub_flasher" := by
  decide +kernel

end Path

namespace Location

/-- A location resolves to the first directory it gives, an empty path included: the stub
directory itself, or the stub directory of an esptool checkout, or that of the esptool inside an
ESP-IDF tree; with none given, resolving fails. For every base path, the ESP-IDF tree's two
joins are one join of the whole suffix. -/
theorem resolve_first_given :
    (∀ l : Location, l.resolve =
      match l.stubDir, l.esptoolPath, l.idfPath with
      | some d, _, _ => .ok d
      | none, some e, _ => .ok (Path.join e "esptool/targets/stub_flasher")
      | none, none, some i =>
        .ok (Path.join i "components/esptool_py/esptool/esptool/targets/stub_flasher")
      | none, none, none => .error .missingStubDir) ∧
    ∀ p, Path.join (Path.join p idfEsptoolDir) esptoolStubDir =
      Path.join p "components/esptool_py/esptool/esptool/targets/stub_flasher" := by
  have hjoin : ∀ p, Path.join (Path.join p idfEsptoolDir) esptoolStubDir =
      Path.join p "components/esptool_py/esptool/esptool/targets/stub_flasher" := fun p => by
    rw [Path.join_assoc, Path.join_idfEsptoolDir]
  refine ⟨fun l => ?_, hjoin⟩
  rcases l with ⟨stubDir, esptoolPath, idfPath⟩
  cases stubDir with
  | some d => rfl
  | none =>
    cases esptoolPath with
    | some e => rfl
    | none =>
      cases idfPath with
      | some i => exact congrArg Except.ok (hjoin i)
      | none => rfl

end Location

end FlasherStub
