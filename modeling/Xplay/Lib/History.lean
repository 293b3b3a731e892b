/-
**What a run leaves behind.**

`history` collects what each step of a run emits: a log that the states do not keep.

* `invariant_history` — an invariant of the state and the log so far is preserved step by step.
* `history_length_le` — steps that pay for what they emit with a measure emit no more than the
  measure.
-/

import Xplay.Lib.System

namespace Xplay.Lib.System

variable {State Label α : Type*} (sys : System State Label)

/-- What the steps of a run emit, in order. -/
def history (emit : State → Label → State → List α) : State → List Label → List α
  | _, [] => []
  | s, l :: ls => ((sys.next s l).map fun t => emit s l t ++ history emit t ls).getD []

variable {emit : State → Label → State → List α}

@[simp] theorem history_nil (s : State) : sys.history emit s [] = [] := rfl

variable {sys}

theorem history_cons {s t : State} {l : Label} (step : sys.next s l = some t) (ls : List Label) :
    sys.history emit s (l :: ls) = emit s l t ++ sys.history emit t ls := by
  rw [history, step]
  rfl

/-- **The invariant rule with a log**: what every step with a label of some kind preserves of the
state and the log, every run with such labels preserves. -/
theorem invariant_history_of (emit : State → Label → State → List α) {I : State → List α → Prop}
    {P : Label → Prop}
    (preserved : ∀ s l t log, I s log → P l → sys.next s l = some t → I t (log ++ emit s l t))
    {s t : State} {ls : List Label} (kind : ∀ l ∈ ls, P l) (run : sys.run s ls = some t)
    (log : List α) (start : I s log) : I t (log ++ sys.history emit s ls) := by
  induction ls generalizing s log with
  | nil =>
    cases run
    rwa [history_nil, List.append_nil]
  | cons l ls ih =>
    obtain ⟨middle, step, rest⟩ := sys.run_cons_eq_some.mp run
    obtain ⟨first, later⟩ := List.forall_mem_cons.mp kind
    rw [history_cons step, ← List.append_assoc]
    exact ih later rest _ (preserved s l middle log start first step)

/-- The rule for any labels. -/
theorem invariant_history (emit : State → Label → State → List α) {I : State → List α → Prop}
    (preserved : ∀ s l t log, I s log → sys.next s l = some t → I t (log ++ emit s l t))
    {s t : State} {ls : List Label} (run : sys.run s ls = some t) (log : List α)
    (start : I s log) : I t (log ++ sys.history emit s ls) :=
  invariant_history_of emit (P := fun _ => True) (fun s l t log holds _ => preserved s l t log holds)
    (fun _ _ => trivial) run log start

/-- **The accounting rule**: steps that pay for what they emit with a measure emit no more than the
measure. -/
theorem history_length_le (emit : State → Label → State → List α) {I : State → Prop}
    (measure : State → Nat)
    (pays : ∀ s l t, I s → sys.next s l = some t →
      I t ∧ (emit s l t).length + measure t ≤ measure s)
    {s t : State} {ls : List Label} (run : sys.run s ls = some t) (start : I s) :
    I t ∧ (sys.history emit s ls).length + measure t ≤ measure s := by
  have kept := invariant_history emit
    (I := fun u log => I u ∧ log.length + measure u ≤ measure s)
    (fun u l v log ⟨kept, paid⟩ step => by
      obtain ⟨kept', pays⟩ := pays u l v kept step
      refine ⟨kept', ?_⟩
      rw [List.length_append]
      omega)
    run [] ⟨start, by simp⟩
  rwa [List.nil_append] at kept

end Xplay.Lib.System
