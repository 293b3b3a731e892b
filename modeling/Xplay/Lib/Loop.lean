/-
**`while` loops as runs of their body.**

`Loops test body s n t`: from `s` the loop runs its body `n` times and is left in `t`.

* `Loops.unique` — a loop is left in one state, after one number of rounds.
* `Loops.countdown` — **the countdown rule**: a body that takes one from a measure, which the test
  compares with zero, is run as often as the measure tells.
* `Loops.lift` — a loop follows its image under a map that its test and its body respect, in states
  that its body keeps.
* `endless` — a loop whose test holds in all states that its body keeps is never left.
-/

import Mathlib.Data.Nat.Basic
import Mathlib.Tactic.Common

namespace Xplay.Lib

variable {State State' : Type*}

/-- **The loop `while (test) body`**: the number of its rounds and the state it is left in. -/
inductive Loops (test : State → Bool) (body : State → State) : State → Nat → State → Prop
  | stop {s} (out : test s = false) : Loops test body s 0 s
  | next {s n t} (inside : test s = true) (rest : Loops test body (body s) n t) :
      Loops test body s (n + 1) t

namespace Loops

variable {test : State → Bool} {body : State → State} {s t u : State} {n m : Nat}

/-- The loop is left where its test fails. -/
theorem out (loops : Loops test body s n t) : test t = false := by
  induction loops with
  | stop out => exact out
  | next _ _ ih => exact ih

theorem unique (first : Loops test body s n t) (second : Loops test body s m u) :
    n = m ∧ t = u := by
  induction first generalizing m with
  | stop out =>
    cases second with
    | stop _ => exact ⟨rfl, rfl⟩
    | next inside _ => cases out.symm.trans inside
  | next inside _ ih =>
    cases second with
    | stop out => cases out.symm.trans inside
    | next _ rest =>
      obtain ⟨rfl, rfl⟩ := ih rest
      exact ⟨rfl, rfl⟩

/-- **The countdown rule.** -/
theorem countdown (I : State → Prop) (left : State → Nat)
    (tests : ∀ s, I s → test s = decide (0 < left s))
    (keeps : ∀ s, I s → test s = true → I (body s) ∧ left (body s) + 1 = left s) (start : I s) :
    ∃ t, Loops test body s (left s) t ∧ I t := by
  generalize counted : left s = rounds
  induction rounds generalizing s with
  | zero =>
    refine ⟨s, .stop ?_, start⟩
    rw [tests s start, counted]
    rfl
  | succ rounds ih =>
    have inside : test s = true := by
      rw [tests s start, counted]
      exact decide_eq_true (Nat.succ_pos rounds)
    obtain ⟨kept, less⟩ := keeps s start inside
    obtain ⟨t, rest, last⟩ := ih kept (by omega)
    exact ⟨t, .next inside rest, last⟩

/-- A loop whose test and body respect a map, in states that the body keeps, is left where its image
is. -/
theorem lift {test' : State' → Bool} {body' : State' → State'} {f : State → State'}
    (I : State → Prop) (tests : ∀ s, I s → test' (f s) = test s)
    (bodies : ∀ s, I s → I (body s) ∧ body' (f s) = f (body s)) (start : I s) {t' : State'}
    (loops : Loops test' body' (f s) n t') : ∃ t, Loops test body s n t ∧ f t = t' := by
  generalize image : f s = s' at loops
  induction loops generalizing s with
  | stop out =>
    subst image
    exact ⟨s, .stop ((tests s start).symm.trans out), rfl⟩
  | next inside _ ih =>
    subst image
    obtain ⟨kept, same⟩ := bodies s start
    obtain ⟨t, rest, last⟩ := ih kept same.symm
    exact ⟨t, .next ((tests s start).symm.trans inside) rest, last⟩

/-- **A loop that keeps its test holding is never left.** -/
theorem endless (I : State → Prop) (keeps : ∀ s, I s → test s = true ∧ I (body s)) (start : I s) :
    ¬Loops test body s n t := by
  intro loops
  induction loops with
  | stop out => cases out.symm.trans (keeps _ start).1
  | next _ _ ih => exact ih (keeps _ start).2

end Loops

end Xplay.Lib
