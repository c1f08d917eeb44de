import FlasherStub.Config
import Mathlib

/-!
Which chips a run takes, and in which order.

A selection of chips, in any order and with repetitions, is read as the set of chips it names:
the run takes those chips in table order, each once, and all of them when the selection is
empty (`Chip.select_sublist`, `Chip.mem_select`). So the chips of a run are strictly increasing
in declaration order and never repeat, and two selections naming the same chips give the same
run (`Chip.select_congr`). Building a run fails only when its stub directory cannot be found:
the selection plays no part in that (`Config.make_eq_error_iff`).
-/

namespace FlasherStub

namespace Chip

/-- The position of a chip in its declaration. -/
def index : Chip → Nat
  | .esp8266 => 0
  | .esp32 => 1
  | .esp32s2 => 2
  | .esp32s3 => 3
  | .esp32c3 => 4

/-- The table lists the chips in declaration order. -/
theorem pairwise_index_all : all.Pairwise (fun a b => a.index < b.index) := by
  decide

theorem nodup_all : all.Nodup := by
  decide

theorem all_ne_nil : all ≠ [] := by
  decide

variable {chips chips' : List Chip}

/-- A selection is taken from the table, in its order. -/
theorem select_sublist (chips : List Chip) : (select chips).Sublist all := by
  unfold select
  split
  · exact List.Sublist.refl _
  · exact List.filter_sublist

/-- A chip is selected when the selection names it, or when the selection is empty. -/
theorem mem_select {c : Chip} : c ∈ select chips ↔ chips = [] ∨ c ∈ chips := by
  unfold select
  by_cases h : chips = []
  · simp [h, mem_all]
  · simp [h, mem_all]

theorem nodup_select (chips : List Chip) : (select chips).Nodup :=
  nodup_all.sublist (select_sublist chips)

theorem pairwise_index_select (chips : List Chip) :
    (select chips).Pairwise (fun a b => a.index < b.index) :=
  pairwise_index_all.sublist (select_sublist chips)

/-- Every selection takes at least one chip: an empty one takes them all, and any other names
one. -/
theorem select_ne_nil (chips : List Chip) : select chips ≠ [] := by
  by_cases h : chips = []
  · obtain ⟨c, hc⟩ := List.exists_mem_of_ne_nil _ all_ne_nil
    exact List.ne_nil_of_mem (mem_select.2 (.inl h) : c ∈ select chips)
  · obtain ⟨c, hc⟩ := List.exists_mem_of_ne_nil _ h
    exact List.ne_nil_of_mem (mem_select.2 (.inr hc))

/-- A selection keeps the chips of the table that it names, or all of them when it is empty. -/
theorem select_eq_filter (chips : List Chip) :
    select chips = all.filter (fun c => decide (chips = [] ∨ c ∈ chips)) := by
  unfold select
  by_cases h : chips = []
  · simp [h]
  · simp [h]

/-- Two selections that name the same chips, whatever their order and repetitions, select the
same chips in the same order. -/
theorem select_congr (h : ∀ c, c ∈ chips ↔ c ∈ chips') : select chips = select chips' := by
  have hnil : chips = [] ↔ chips' = [] := by
    simp only [List.eq_nil_iff_forall_not_mem, h]
  rw [select_eq_filter, select_eq_filter]
  exact List.filter_congr fun c _ => by simp only [hnil, h]

example : select [.esp32c3, .esp8266, .esp32c3] = [.esp8266, .esp32c3] := by decide

end Chip

namespace Config

variable {l : Location} {out : String} {chips : List Chip}

/-- A run is built exactly when its stub directory is found, and it takes the selected chips. -/
theorem make_eq_ok_iff {cfg : Config} :
    Config.make l out chips = .ok cfg ↔
      ∃ d, l.resolve = .ok d ∧ cfg = ⟨d, out, Chip.select chips⟩ := by
  unfold Config.make
  cases l.resolve with
  | error e => simp [bind, Except.bind]
  | ok d =>
    simp only [bind, Except.bind, pure, Except.pure, Except.ok.injEq, exists_eq_left']
    exact eq_comm

/-- Building a run fails exactly as finding its stub directory does. -/
theorem make_eq_error_iff {e : Error} :
    Config.make l out chips = .error e ↔ l.resolve = .error e := by
  unfold Config.make
  cases l.resolve <;> simp [bind, Except.bind, pure, Except.pure]

/-- The selection of a run is a function of the chips it names. -/
theorem make_congr {chips' : List Chip} (h : ∀ c, c ∈ chips ↔ c ∈ chips') :
    Config.make l out chips = Config.make l out chips' := by
  unfold Config.make
  rw [Chip.select_congr h]

/-- Building a run depends on the chips asked for only through the set of them: it succeeds
exactly when the stub directory is found, failing with the same error otherwise, and it then
takes the sublist of the table made of the chips asked for, or the whole table when none is
asked for. So its chips are strictly increasing in declaration order, never repeated and never
missing, and permuting or repeating the chips asked for changes nothing. -/
theorem make_selects_chips_in_table_order (l : Location) (out : String)
    (chips : List Chip) :
    (Config.make l out chips).isOk = l.resolve.isOk ∧
    (∀ e, Config.make l out chips = .error e ↔ l.resolve = .error e) ∧
    (∀ cfg, Config.make l out chips = .ok cfg →
      cfg.chips.Sublist Chip.all ∧ (∀ c, c ∈ cfg.chips ↔ chips = [] ∨ c ∈ chips) ∧
      cfg.chips.Pairwise (fun a b => a.index < b.index) ∧ cfg.chips.Nodup ∧ cfg.chips ≠ []) ∧
    (∀ chips', (∀ c, c ∈ chips' ↔ c ∈ chips) →
      Config.make l out chips' = Config.make l out chips) := by
  refine ⟨?_, fun e => make_eq_error_iff, fun cfg hcfg => ?_, fun chips' h => make_congr h⟩
  · cases hr : l.resolve with
    | error e =>
      rw [make_eq_error_iff.2 hr]
      rfl
    | ok d =>
      have hok : Config.make l out chips = .ok ⟨d, out, Chip.select chips⟩ :=
        make_eq_ok_iff.2 ⟨d, hr, rfl⟩
      rw [hok]
      rfl
  · obtain ⟨d, -, rfl⟩ := make_eq_ok_iff.1 hcfg
    exact ⟨Chip.select_sublist chips, fun c => Chip.mem_select,
      Chip.pairwise_index_select chips, Chip.nodup_select chips, Chip.select_ne_nil chips⟩

end Config

end FlasherStub
