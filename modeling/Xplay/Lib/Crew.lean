/-
**A list of threads of which one moves, or all that wait are woken.**

A thread is known by its place in the list; a step replaces one element, a notification maps them
all.

* `mem_set_of_ne` — the others stay.
* `countP_set_add`, `sum_map_set_add` — what a count, and a sum over the threads, becomes.
* `sum_map_map`, `countP_map_eq` — a notification that changes no summand.
* `sum_map_wake_le`, `sum_map_wake_lt` — one that lowers some.
-/

import Mathlib.Algebra.Order.BigOperators.Group.List
import Mathlib.Algebra.Order.Ring.Nat
import Mathlib.Data.List.Count
import Mathlib.Tactic.Common

namespace Xplay.Lib.Crew

variable {α : Type*} {xs : List α} {i : Nat} {x : α}

/-- An element other than the replaced one stays. -/
theorem mem_set_of_ne {a : α} (member : a ∈ xs) (found : xs[i]? = some x) (other : a ≠ x) (y : α) :
    a ∈ xs.set i y := by
  obtain ⟨j, bound, rfl⟩ := List.mem_iff_getElem.mp member
  have apart : i ≠ j := by
    rintro rfl
    rw [List.getElem?_eq_getElem bound] at found
    exact other (Option.some.inj found)
  exact List.mem_iff_getElem.mpr ⟨j, by simpa using bound, List.getElem_set_ne apart _⟩

/-- One element of a list is replaced. -/
theorem countP_set_add (p : α → Bool) (found : xs[i]? = some x) (y : α) :
    (xs.set i y).countP p + (if p x then 1 else 0) = xs.countP p + if p y then 1 else 0 := by
  obtain ⟨bound, rfl⟩ := List.getElem?_eq_some_iff.mp found
  have at_most := List.boole_getElem_le_countP (p := p) bound
  rw [List.countP_set bound]
  omega

theorem sum_map_set_add (f : α → Nat) (found : xs[i]? = some x) (y : α) :
    ((xs.set i y).map f).sum + f x = (xs.map f).sum + f y := by
  induction xs generalizing i with
  | nil => cases found
  | cons a xs ih =>
    cases i with
    | zero =>
      cases found
      simp only [List.set_cons_zero, List.map_cons, List.sum_cons]
      omega
    | succ i =>
      have rest := ih (i := i) (by simpa using found)
      simp only [List.set_cons_succ, List.map_cons, List.sum_cons]
      omega

theorem sum_map_map {f : α → Nat} {wake : α → α} (same : ∀ a, f (wake a) = f a) :
    ((xs.map wake).map f).sum = (xs.map f).sum := by
  rw [List.map_map]
  exact congrArg List.sum (List.map_congr_left fun a _ => same a)

theorem sum_map_wake_le {f : α → Nat} {wake : α → α} (le : ∀ a, f (wake a) ≤ f a) :
    ((xs.map wake).map f).sum ≤ (xs.map f).sum := by
  rw [List.map_map]
  exact List.sum_le_sum fun a _ => le a

theorem sum_map_wake_lt {f : α → Nat} {wake : α → α} {a : α} (member : a ∈ xs)
    (le : ∀ a, f (wake a) ≤ f a) (less : f (wake a) < f a) :
    ((xs.map wake).map f).sum < (xs.map f).sum := by
  rw [List.map_map]
  exact List.sum_lt_sum _ _ (fun a _ => le a) ⟨a, member, less⟩

theorem countP_map_eq {p : α → Bool} {wake : α → α} (same : ∀ a, p (wake a) = p a) :
    (xs.map wake).countP p = xs.countP p := by
  rw [List.countP_map]
  exact congrArg (xs.countP ·) (funext same)

/-- A thread that is not woken, and that nobody wakes to. -/
theorem mem_map_wake {wake : α → α} {a : α} (fixed : wake a = a) (only : ∀ b, wake b = a → b = a) :
    a ∈ xs.map wake ↔ a ∈ xs := by
  rw [List.mem_map]
  exact ⟨fun ⟨b, member, woken⟩ => only b woken ▸ member, fun member => ⟨a, member, fixed⟩⟩

end Xplay.Lib.Crew
