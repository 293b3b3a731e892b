/-
**Executable labelled transition systems.**

A system is a partial function `next`: a label taken in a state that does not enable it gives
`none`. Runs are evaluated (`run`), so a concrete schedule is checked by computation, and all
nondeterminism sits in the choice of the labels.

* `Reaches` — some run leads from one state to another; reflexive and transitive.
* `invariant_reaches` — what one step preserves, every run preserves.
* `Guarded` — every step of a run meets a condition on the state before it, and
  `invariant_guarded` — what a step that meets the condition preserves, such a run preserves.
* `Steps` — every step of a run is in a relation, and `steps_iff` — two relations that agree on the
  steps from the states of an invariant hold of the same runs.
* `ReachesBy` — some run of certain labels leads there, and `invariant_reachesBy`.
* `reachesBy_final` — steps that lower a measure lead to a final state, and `length_le_measure` —
  there are no more of them than the measure.
* `run_rel` — two systems that step alike in related states run alike, and `run_erase` — a run and
  the same run without some of its labels.
* `reaches_lift` — where every step of one system is some run of another, so is every run.
-/

import Mathlib.Data.List.Basic
import Mathlib.Tactic.Common

namespace Xplay.Lib

/-- A labelled transition system with an executable step. -/
structure System (State Label : Type*) where
  next : State → Label → Option State

namespace System

variable {State Label : Type*} (sys : System State Label)

/-- The state after a list of labels, `none` when one of them is not enabled. -/
def run : State → List Label → Option State
  | s, [] => some s
  | s, l :: ls => (sys.next s l).bind fun t => run t ls

@[simp] theorem run_nil (s : State) : sys.run s [] = some s := rfl

theorem run_cons (s : State) (l : Label) (ls : List Label) :
    sys.run s (l :: ls) = (sys.next s l).bind fun t => sys.run t ls := rfl

/-- A run that starts with `l` takes the step and then the rest. -/
theorem run_cons_eq_some {s u : State} {l : Label} {ls : List Label} :
    sys.run s (l :: ls) = some u ↔ ∃ t, sys.next s l = some t ∧ sys.run t ls = some u := by
  rw [run_cons, Option.bind_eq_some_iff]

theorem run_append {s : State} {ls ms : List Label} :
    sys.run s (ls ++ ms) = (sys.run s ls).bind fun t => sys.run t ms := by
  induction ls generalizing s with
  | nil => rfl
  | cons l ls ih =>
    rw [List.cons_append, run_cons, run_cons, Option.bind_assoc]
    exact congrArg _ (funext fun t => ih)

/-- **Reachability**: some run leads from `s` to `t`. -/
def Reaches (s t : State) : Prop := ∃ ls, sys.run s ls = some t

variable {sys}

theorem Reaches.refl (s : State) : sys.Reaches s s := ⟨[], rfl⟩

theorem Reaches.trans {s t u : State} (first : sys.Reaches s t) (second : sys.Reaches t u) :
    sys.Reaches s u := by
  obtain ⟨ls, left⟩ := first
  obtain ⟨ms, right⟩ := second
  exact ⟨ls ++ ms, by rw [run_append, left, Option.bind_some, right]⟩

theorem Reaches.single {s t : State} {l : Label} (step : sys.next s l = some t) :
    sys.Reaches s t :=
  ⟨[l], by rw [run_cons, step, Option.bind_some, run_nil]⟩

theorem Reaches.head {s t u : State} {l : Label} (step : sys.next s l = some t)
    (rest : sys.Reaches t u) : sys.Reaches s u :=
  (Reaches.single step).trans rest

/-- **The invariant rule**: what every step preserves, every run preserves. -/
theorem invariant_run {I : State → Prop}
    (preserved : ∀ s l t, I s → sys.next s l = some t → I t) {s t : State} {ls : List Label}
    (run : sys.run s ls = some t) (start : I s) : I t := by
  induction ls generalizing s with
  | nil =>
    cases run
    exact start
  | cons l ls ih =>
    obtain ⟨middle, step, rest⟩ := sys.run_cons_eq_some.mp run
    exact ih rest (preserved s l middle start step)

theorem invariant_reaches {I : State → Prop}
    (preserved : ∀ s l t, I s → sys.next s l = some t → I t) {s t : State}
    (reach : sys.Reaches s t) (start : I s) : I t := by
  obtain ⟨ls, run⟩ := reach
  exact invariant_run preserved run start

variable (sys)

/-- Every step of the run from `s` meets the condition on the state it is taken in. -/
def Guarded (Meets : State → Label → Prop) : State → List Label → Prop
  | _, [] => True
  | s, l :: ls => Meets s l ∧ ∀ t, sys.next s l = some t → Guarded Meets t ls

variable {sys}

theorem Guarded.cons {Meets : State → Label → Prop} {s t : State} {l : Label} {ls : List Label}
    (guarded : sys.Guarded Meets s (l :: ls)) (step : sys.next s l = some t) :
    Meets s l ∧ sys.Guarded Meets t ls :=
  ⟨guarded.1, guarded.2 t step⟩

/-- A run of a system whose condition can be evaluated is checked by evaluation. -/
instance Guarded.decidable {Meets : State → Label → Prop} [∀ s l, Decidable (Meets s l)] :
    ∀ (s : State) (ls : List Label), Decidable (sys.Guarded Meets s ls)
  | _, [] => isTrue trivial
  | s, l :: ls =>
    match step : sys.next s l with
    | none =>
      decidable_of_iff (Meets s l)
        ⟨fun meets => ⟨meets, fun _ enabled => nomatch step.symm.trans enabled⟩, And.left⟩
    | some t =>
      have : Decidable (sys.Guarded Meets t ls) := Guarded.decidable t ls
      decidable_of_iff (Meets s l ∧ sys.Guarded Meets t ls)
        ⟨fun ⟨meets, rest⟩ => ⟨meets, fun _ enabled =>
          Option.some.inj (step.symm.trans enabled) ▸ rest⟩,
        fun guarded => guarded.cons step⟩

/-- A condition on the labels alone. -/
theorem Guarded.of_labels {Meets : Label → Prop} {ls : List Label} (meets : ∀ l ∈ ls, Meets l)
    (s : State) : sys.Guarded (fun _ => Meets) s ls := by
  induction ls generalizing s with
  | nil => trivial
  | cons l ls ih =>
    obtain ⟨first, rest⟩ := List.forall_mem_cons.mp meets
    exact ⟨first, fun t _ => ih rest t⟩

/-- The steps of a guarded run up to any point of it are guarded. -/
theorem Guarded.append_left {Meets : State → Label → Prop} {s : State} {ls ms : List Label}
    (guarded : sys.Guarded Meets s (ls ++ ms)) : sys.Guarded Meets s ls := by
  induction ls generalizing s with
  | nil => trivial
  | cons l ls ih => exact ⟨guarded.1, fun t step => ih (guarded.2 t step)⟩

/-- **The guarded invariant rule**: what a step meeting the condition preserves, a run of such
steps preserves. -/
theorem invariant_guarded {Meets : State → Label → Prop} {I : State → Prop}
    (preserved : ∀ s l t, I s → Meets s l → sys.next s l = some t → I t) {s t : State}
    {ls : List Label} (guarded : sys.Guarded Meets s ls) (run : sys.run s ls = some t)
    (start : I s) : I t := by
  induction ls generalizing s with
  | nil =>
    cases run
    exact start
  | cons l ls ih =>
    obtain ⟨middle, step, rest⟩ := sys.run_cons_eq_some.mp run
    exact ih (guarded.2 middle step) rest (preserved s l middle start guarded.1 step)

/-! ### Relations on every step -/

variable (sys) in
/-- Every step that the run takes is in the relation. -/
def Steps (R : State → Label → State → Prop) (s : State) (ls : List Label) : Prop :=
  sys.Guarded (fun s l => ∀ t, sys.next s l = some t → R s l t) s ls

/-- **The agreement rule**: relations that agree on the steps from the states of an invariant, which
such steps keep, hold of the same runs. -/
theorem steps_iff {R Q : State → Label → State → Prop} {I : State → Prop}
    (agree : ∀ s l t, I s → sys.next s l = some t → (R s l t ↔ Q s l t))
    (preserved : ∀ s l t, I s → sys.next s l = some t → Q s l t → I t) {s : State} (start : I s)
    (ls : List Label) : sys.Steps R s ls ↔ sys.Steps Q s ls := by
  induction ls generalizing s with
  | nil => exact Iff.rfl
  | cons l ls ih =>
    have first : (∀ t, sys.next s l = some t → R s l t) ↔
        ∀ t, sys.next s l = some t → Q s l t :=
      forall_congr' fun t => forall_congr' fun step => agree s l t start step
    refine and_congr_right_iff.mpr (fun holds => ?_) |>.trans (and_congr_left_iff.mpr fun _ => first)
    exact forall_congr' fun t => forall_congr' fun step =>
      ih (preserved s l t start step (first.mp holds t step))

/-! ### Runs of certain labels -/

variable (sys) in
/-- Reachability by runs whose labels meet a condition. -/
def ReachesBy (P : Label → Prop) (s t : State) : Prop :=
  ∃ ls, (∀ l ∈ ls, P l) ∧ sys.run s ls = some t

variable {P : Label → Prop}

theorem ReachesBy.refl (s : State) : sys.ReachesBy P s s := ⟨[], List.forall_mem_nil _, rfl⟩

theorem ReachesBy.reaches {s t : State} (reach : sys.ReachesBy P s t) : sys.Reaches s t := by
  obtain ⟨ls, -, run⟩ := reach
  exact ⟨ls, run⟩

theorem ReachesBy.imp {Q : Label → Prop} {s t : State} (weaker : ∀ l, P l → Q l)
    (reach : sys.ReachesBy P s t) : sys.ReachesBy Q s t := by
  obtain ⟨ls, allowed, run⟩ := reach
  exact ⟨ls, fun l member => weaker l (allowed l member), run⟩

theorem ReachesBy.trans {s t u : State} (first : sys.ReachesBy P s t)
    (second : sys.ReachesBy P t u) : sys.ReachesBy P s u := by
  obtain ⟨ls, allowed, left⟩ := first
  obtain ⟨ms, allowed', right⟩ := second
  refine ⟨ls ++ ms, fun l member => ?_, by rw [run_append, left, Option.bind_some, right]⟩
  exact (List.mem_append.mp member).elim (allowed l) (allowed' l)

theorem ReachesBy.single {s t : State} {l : Label} (allowed : P l) (step : sys.next s l = some t) :
    sys.ReachesBy P s t :=
  ⟨[l], by simpa using allowed, by rw [run_cons, step, Option.bind_some, run_nil]⟩

/-- **The invariant rule** for such runs. -/
theorem invariant_reachesBy {I : State → Prop}
    (preserved : ∀ s l t, I s → P l → sys.next s l = some t → I t) {s t : State}
    (reach : sys.ReachesBy P s t) (start : I s) : I t := by
  obtain ⟨ls, allowed, run⟩ := reach
  exact invariant_guarded preserved (Guarded.of_labels allowed s) run start

/-- **The progress rule**: when a state that is not final leads to one that keeps the invariant and
has a lower measure, a final state is reachable. -/
theorem reachesBy_final {I F : State → Prop} (measure : State → Nat)
    (advances : ∀ s, I s → F s ∨ ∃ t, sys.ReachesBy P s t ∧ I t ∧ measure t < measure s)
    (s : State) (start : I s) : ∃ t, sys.ReachesBy P s t ∧ I t ∧ F t := by
  induction bound : measure s using Nat.strongRecOn generalizing s with
  | _ n ih =>
    rcases advances s start with final | ⟨t, reach, kept, less⟩
    · exact ⟨s, ReachesBy.refl s, start, final⟩
    · obtain ⟨u, rest, final⟩ := ih (measure t) (bound ▸ less) t kept rfl
      exact ⟨u, reach.trans rest, final⟩

/-- **The termination rule**: a run of steps that lower a measure has no more of them than the measure
allows, and keeps the invariant. -/
theorem length_le_measure {I : State → Prop} (measure : State → Nat)
    (lowers : ∀ s l t, I s → P l → sys.next s l = some t → I t ∧ measure t < measure s)
    {s t : State} {ls : List Label} (allowed : ∀ l ∈ ls, P l) (run : sys.run s ls = some t)
    (start : I s) : I t ∧ ls.length + measure t ≤ measure s := by
  induction ls generalizing s with
  | nil =>
    cases run
    exact ⟨start, Nat.le_of_eq (Nat.zero_add _)⟩
  | cons l ls ih =>
    obtain ⟨middle, step, rest⟩ := sys.run_cons_eq_some.mp run
    obtain ⟨first, later⟩ := List.forall_mem_cons.mp allowed
    obtain ⟨kept, less⟩ := lowers s l middle start first step
    obtain ⟨kept', bound⟩ := ih later rest kept
    refine ⟨kept', ?_⟩
    rw [List.length_cons]
    omega

/-! ### Two systems in lockstep -/

/-- Results related by a relation are related by every weaker one. -/
theorem rel_imp {α β : Type*} {R S : α → β → Prop} (weaker : ∀ a b, R a b → S a b)
    {x : Option α} {y : Option β} (related : Option.Rel R x y) : Option.Rel S x y := by
  cases related with
  | none => exact Option.Rel.none
  | some holds => exact Option.Rel.some (weaker _ _ holds)

/-- **The lockstep rule**: when related states enable the same labels and step to related states,
they enable the same runs and reach related states. -/
theorem run_rel {State' : Type*} {sys' : System State' Label} {R : State → State' → Prop}
    (simulates : ∀ s s' l, R s s' → Option.Rel R (sys.next s l) (sys'.next s' l))
    {s : State} {s' : State'} (ls : List Label) (start : R s s') :
    Option.Rel R (sys.run s ls) (sys'.run s' ls) := by
  induction ls generalizing s s' with
  | nil => exact Option.Rel.some start
  | cons l ls ih =>
    rw [run_cons, run_cons]
    have related := simulates s s' l start
    generalize sys.next s l = left, sys'.next s' l = right at related
    cases related with
    | none => exact Option.Rel.none
    | some next => exact ih next

/-- **The erasure rule**: when a label that is kept leads from related states to related states, and
one that is not kept leaves its first state related to the second, a guarded run reaches a state
related to that of the run of the kept labels. -/
theorem run_erase {Meets : State → Label → Prop} {R : State → State → Prop} (keep : Label → Bool)
    (both : ∀ s s' l t, R s s' → Meets s l → keep l = true → sys.next s l = some t →
      ∃ t', sys.next s' l = some t' ∧ R t t')
    (alone : ∀ s s' l t, R s s' → Meets s l → keep l = false → sys.next s l = some t → R t s')
    {s s' t : State} {ls : List Label} (guarded : sys.Guarded Meets s ls)
    (run : sys.run s ls = some t) (start : R s s') :
    ∃ t', sys.run s' (ls.filter keep) = some t' ∧ R t t' := by
  induction ls generalizing s s' with
  | nil =>
    cases run
    exact ⟨s', rfl, start⟩
  | cons l ls ih =>
    obtain ⟨middle, step, rest⟩ := sys.run_cons_eq_some.mp run
    obtain ⟨meets, guarded⟩ := guarded.cons step
    cases kept : keep l with
    | true =>
      obtain ⟨middle', step', related⟩ := both s s' l middle start meets kept step
      obtain ⟨t', run', final⟩ := ih guarded rest related
      refine ⟨t', ?_, final⟩
      rw [List.filter_cons_of_pos kept, run_cons, step', Option.bind_some, run']
    | false =>
      obtain ⟨t', run', final⟩ := ih guarded rest (alone s s' l middle start meets kept step)
      refine ⟨t', ?_, final⟩
      rw [List.filter_cons_of_neg (by simp [kept]), run']

/-- **The lifting rule**: when in related states every step of one system is a run of the other, every
run of it is. -/
theorem reaches_lift {State' Label' : Type*} {sys' : System State' Label'}
    {R : State → State' → Prop}
    (lifts : ∀ s s' l t, R s s' → P l → sys.next s l = some t → ∃ t', sys'.Reaches s' t' ∧ R t t')
    {s t : State} {s' : State'} (reach : sys.ReachesBy P s t) (start : R s s') :
    ∃ t', sys'.Reaches s' t' ∧ R t t' := by
  obtain ⟨ls, allowed, run⟩ := reach
  induction ls generalizing s s' with
  | nil =>
    cases run
    exact ⟨s', .refl s', start⟩
  | cons l ls ih =>
    obtain ⟨middle, step, rest⟩ := sys.run_cons_eq_some.mp run
    obtain ⟨first, later⟩ := List.forall_mem_cons.mp allowed
    obtain ⟨middle', reach, related⟩ := lifts s s' l middle start first step
    obtain ⟨t', reach', last⟩ := ih related later rest
    exact ⟨t', reach.trans reach', last⟩

end System

end Xplay.Lib
