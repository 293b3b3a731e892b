/-
**Two runs: one, and the same without some of its steps.**

`Unaffected`: whatever is observed after any beginning of a run is also observed after that beginning
without the steps that are not kept.

* `unaffected_iff` — **the two-run rule**: a relation between the states of the two runs under which a
  condition on each step is the same as an equal observation after it makes the condition, at every
  step, the same as `Unaffected`.
-/

import Mathlib.Data.List.Basic
import Mathlib.Data.List.Infix
import Mathlib.Tactic.Common

namespace Xplay.Lib.TwoRuns

variable {State Label Obs : Type*} (step : State → Label → State) (keep : Label → Bool)

/-- The state after a list of labels. -/
def run (s : State) (ls : List Label) : State := ls.foldl step s

@[simp] theorem run_nil (s : State) : run step s [] = s := rfl

@[simp] theorem run_cons (s : State) (l : Label) (ls : List Label) :
    run step s (l :: ls) = run step (step s l) ls := rfl

/-- What a label does to the run that leaves out those that are not kept. -/
def keptStep (s : State) (l : Label) : State := if keep l then step s l else s

/-- **The steps that are not kept do not show**, after any beginning of the run. -/
def Unaffected (see : State → Obs) (s : State) (ls : List Label) : Prop :=
  ∀ pre, pre <+: ls → see (run step s pre) = see (run step s (pre.filter keep))

/-- Every step of the run meets the condition on the state it is taken in. -/
def Always (Meets : State → Label → Prop) (s : State) (ls : List Label) : Prop :=
  ∀ pre l, pre ++ [l] <+: ls → Meets (run step s pre) l

variable {step keep}

theorem always_nil (Meets : State → Label → Prop) (s : State) : Always step Meets s [] :=
  fun pre l begins => by simpa using begins.length_le

theorem always_cons {Meets : State → Label → Prop} {s : State} {l : Label} {ls : List Label} :
    Always step Meets s (l :: ls) ↔ Meets s l ∧ Always step Meets (step s l) ls := by
  constructor
  · intro always
    refine ⟨always [] l ⟨ls, rfl⟩, fun pre k begins => ?_⟩
    exact always (l :: pre) k ((List.prefix_cons_inj l).mpr begins)
  · rintro ⟨first, rest⟩ pre k begins
    cases pre with
    | nil =>
      obtain ⟨tail, same⟩ := begins
      cases same
      exact first
    | cons m pre =>
      obtain ⟨rfl, behind⟩ := List.cons_prefix_cons.mp begins
      exact rest pre k behind

theorem run_filter_cons (s : State) (l : Label) (pre : List Label) :
    run step s ((l :: pre).filter keep) = run step (keptStep step keep s l) (pre.filter keep) := by
  unfold keptStep
  split_ifs with kept
  · rw [List.filter_cons_of_pos kept, run_cons]
  · rw [List.filter_cons_of_neg kept]

/-- **The two-run rule.** -/
theorem unaffected_iff {see : State → Obs} {Meets : State → Label → Prop}
    {R : State → State → Prop} (same : ∀ s s', R s s' → see s = see s')
    (agree : ∀ s s' l, R s s' → (see (step s l) = see (keptStep step keep s' l) ↔ Meets s l))
    (preserved : ∀ s s' l, R s s' → Meets s l → R (step s l) (keptStep step keep s' l))
    {s : State} (start : R s s) (ls : List Label) :
    Unaffected step keep see s ls ↔ Always step Meets s ls := by
  have both : ∀ s s', R s s' →
      ((∀ pre, pre <+: ls → see (run step s pre) = see (run step s' (pre.filter keep))) ↔
        Always step Meets s ls) := by
    induction ls with
    | nil =>
      intro s s' related
      refine ⟨fun _ => always_nil Meets s, fun _ pre begins => ?_⟩
      rw [List.prefix_nil.mp begins]
      exact same s s' related
    | cons l ls ih =>
      intro s s' related
      rw [always_cons]
      constructor
      · intro shows
        have first : Meets s l := by
          rw [← agree s s' l related]
          have after := shows [l] ⟨ls, rfl⟩
          rwa [run_filter_cons] at after
        refine ⟨first, (ih _ _ (preserved s s' l related first)).mp fun pre begins => ?_⟩
        have after := shows (l :: pre) ((List.prefix_cons_inj l).mpr begins)
        rwa [run_filter_cons] at after
      · rintro ⟨first, rest⟩ pre begins
        cases pre with
        | nil => exact same s s' related
        | cons m pre =>
          obtain ⟨rfl, behind⟩ := List.cons_prefix_cons.mp begins
          rw [run_filter_cons]
          exact (ih _ _ (preserved s s' m related first)).mpr rest pre behind
  exact both s s start

end Xplay.Lib.TwoRuns
