/-
**Endless runs and fair scheduling.**

`Endless` is a run without end. It is `Fair` to a group of labels, the steps of one thread, if the
thread is not kept waiting for ever: again and again one of its steps is taken or none is enabled.

* `Endless.invariant` — what every step preserves holds all along.
* `Endless.settles` — a measure that never grows stops falling.
* `Endless.disabled_of_fair` — a thread that no longer steps cannot, at some point.
* `Endless.comes` — a polling thread comes to its look at the world.
* `Endless.fair_of_turns` — a run is fair to a thread that takes a turn of its own again and again.
* `Endless.scheduled` — a scheduler that always finds an enabled step makes an endless run.
-/

import Xplay.Lib.System
import Mathlib.Order.WellFounded

namespace Xplay.Lib.System

variable {State Label : Type*}

/-- **A run without end.** -/
structure Endless (sys : System State Label) where
  state : Nat → State
  label : Nat → Label
  step : ∀ n, sys.next (state n) (label n) = some (state (n + 1))

namespace Endless

variable {sys : System State Label} (run : Endless sys)

/-- **Weak fairness** to the labels of one thread. -/
def Fair (Own : Label → Prop) : Prop :=
  ∀ n, ∃ m, n ≤ m ∧ (Own (run.label m) ∨ ∀ l, Own l → sys.next (run.state m) l = none)

/-- **The invariant rule** for the states from some point on. -/
theorem invariant {I : State → Prop} {n : Nat}
    (preserved : ∀ m, n ≤ m → I (run.state m) → I (run.state (m + 1))) (start : I (run.state n))
    {m : Nat} (later : n ≤ m) : I (run.state m) := by
  induction m, later using Nat.le_induction with
  | base => exact start
  | succ m later ih => exact preserved m later ih

/-- **A measure that never grows settles.** -/
theorem settles (measure : State → Nat) {n : Nat}
    (falls : ∀ m, n ≤ m → measure (run.state (m + 1)) ≤ measure (run.state m)) :
    ∃ m, n ≤ m ∧ ∀ i, m ≤ i → measure (run.state (i + 1)) = measure (run.state i) := by
  -- the least value from `n` on is reached at some point
  obtain ⟨j, least⟩ : ∃ j, ∀ i, measure (run.state (n + j)) ≤ measure (run.state (n + i)) :=
    ⟨_, fun i => Function.argmin_le (fun i => measure (run.state (n + i))) i⟩
  refine ⟨n + j, Nat.le_add_right n j, fun i later => ?_⟩
  have above : ∀ i, n + j ≤ i → measure (run.state i) = measure (run.state (n + j)) := by
    intro i later
    refine Nat.le_antisymm ?_ ?_
    · exact run.invariant (I := fun s => measure s ≤ measure (run.state (n + j)))
        (fun m later bound => (falls m (by omega)).trans bound) (Nat.le_refl _) later
    · obtain ⟨d, rfl⟩ := Nat.exists_eq_add_of_le (show n ≤ i by omega)
      exact least d
  rw [above i later, above (i + 1) (by omega)]

/-- **A fair run leaves a thread alone only while it cannot step.** -/
theorem disabled_of_fair {Own : Label → Prop} (fair : run.Fair Own) {n : Nat}
    (quiet : ∀ m, n ≤ m → ¬Own (run.label m)) :
    ∃ m, n ≤ m ∧ ∀ l, Own l → sys.next (run.state m) l = none := by
  obtain ⟨m, later, own | none⟩ := fair n
  · exact absurd own (quiet m later)
  · exact ⟨m, later, none⟩

/-- A thread that can always step does. -/
theorem steps_of_fair {Own : Label → Prop} (fair : run.Fair Own) {n : Nat}
    (can : ∀ m, n ≤ m → ∃ l, Own l ∧ sys.next (run.state m) l ≠ none) :
    ∃ m, n ≤ m ∧ Own (run.label m) := by
  obtain ⟨m, later, own | none⟩ := fair n
  · exact ⟨m, later, own⟩
  · obtain ⟨l, own, enabled⟩ := can m later
    exact absurd (none l own) enabled

/-- **A polling thread comes to its look**: it can always step, gets there by a step of its own, and
stays there until its next one. -/
theorem comes {Own : Label → Prop} (fair : run.Fair Own) (Looks : State → Prop) {n : Nat}
    (can : ∀ m, n ≤ m → ∃ l, Own l ∧ sys.next (run.state m) l ≠ none)
    (gets : ∀ m, n ≤ m → Own (run.label m) → ¬Looks (run.state m) → Looks (run.state (m + 1)))
    (stays : ∀ m, n ≤ m → ¬Own (run.label m) → Looks (run.state m) → Looks (run.state (m + 1))) :
    ∃ m, n ≤ m ∧ Own (run.label m) ∧ Looks (run.state m) := by
  obtain ⟨m, later, own⟩ := run.steps_of_fair fair can
  by_cases looks : Looks (run.state m)
  · exact ⟨m, later, own, looks⟩
  by_contra never
  have looking : ∀ i, m + 1 ≤ i → Looks (run.state i) := fun i after =>
    run.invariant (I := Looks) (n := m + 1)
      (fun j after looks => stays j (by omega)
        (fun own => never ⟨j, by omega, own, looks⟩) looks)
      (gets m later own looks) after
  obtain ⟨i, after, own⟩ := run.steps_of_fair fair (n := m + 1) fun i after => can i (by omega)
  exact never ⟨i, by omega, own, looking i after⟩

/-- **A thread that gets a turn again and again is treated fairly**: in its turn it steps if it can. -/
theorem fair_of_turns {Own : Label → Prop}
    (turns : ∀ n, ∃ m, n ≤ m ∧
      ((∃ l, Own l ∧ sys.next (run.state m) l ≠ none) → Own (run.label m))) : run.Fair Own := by
  intro n
  obtain ⟨m, later, steps⟩ := turns n
  refine ⟨m, later, ?_⟩
  by_cases can : ∃ l, Own l ∧ sys.next (run.state m) l ≠ none
  · exact .inl (steps can)
  · exact .inr fun l own => by_contra fun enabled => can ⟨l, own, enabled⟩

end Endless

/-! ### Scheduled runs -/

section Scheduled

variable {sys : System State Label} (sched : Nat → State → Label)

/-- The state after `n` steps of a scheduler; it stays where it is if the step is not enabled. -/
def scheduledState (sys : System State Label) (sched : Nat → State → Label) (s : State) : Nat → State
  | 0 => s
  | n + 1 =>
    let t := scheduledState sys sched s n
    (sys.next t (sched n t)).getD t

/-- **A scheduler that always finds an enabled step makes an endless run.** -/
def Endless.scheduled {I : State → Prop}
    (goes : ∀ n s, I s → ∃ t, sys.next s (sched n s) = some t ∧ I t) (s : State) (start : I s) :
    Endless sys where
  state := scheduledState sys sched s
  label n := sched n (scheduledState sys sched s n)
  step n := by
    have kept : ∀ n, I (scheduledState sys sched s n) := by
      intro n
      induction n with
      | zero => exact start
      | succ n ih =>
        obtain ⟨t, step, kept⟩ := goes n _ ih
        rw [scheduledState, step]
        exact kept
    obtain ⟨t, step, -⟩ := goes n _ (kept n)
    rw [scheduledState, step]
    rfl

end Scheduled

end Xplay.Lib.System
