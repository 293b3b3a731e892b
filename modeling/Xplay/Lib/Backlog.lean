/-
**Backlog of a single server.**

Each event brings `arrive` items and then serves up to `serve` of them; `backlog` is what is left
over. `backlog_eq_zero_iff`: nothing is left at the end exactly when in every tail of the events no
more items arrive than could be served.
-/

import Mathlib.Data.List.Infix
import Mathlib.Algebra.Order.BigOperators.Group.List
import Mathlib.Algebra.Order.Ring.Nat

namespace Xplay.Lib

variable {α : Type*} (arrive serve : α → Nat)

/-- What is left of `b` items after the events. -/
def backlog : Nat → List α → Nat
  | b, [] => b
  | b, x :: xs => backlog (b + arrive x - serve x) xs

theorem backlog_append (b : Nat) (xs ys : List α) :
    backlog arrive serve b (xs ++ ys) = backlog arrive serve (backlog arrive serve b xs) ys := by
  induction xs generalizing b with
  | nil => rfl
  | cons x xs ih => exact ih _

/-- No more items arrive in `t` than could be served there. -/
def Served (t : List α) : Prop := (t.map arrive).sum ≤ (t.map serve).sum

/-- Events that serve what they bring. -/
theorem served_of_each {t : List α} (each : ∀ x ∈ t, arrive x ≤ serve x) :
    Served arrive serve t := List.sum_le_sum each

/-- With `b` items to begin with, they count as arrivals of the whole list. -/
theorem backlog_eq_zero_iff_of_start (b : Nat) (xs : List α) :
    backlog arrive serve b xs = 0 ↔
      b + (xs.map arrive).sum ≤ (xs.map serve).sum ∧
        ∀ t, t <:+ xs → t.length < xs.length → Served arrive serve t := by
  induction xs generalizing b with
  | nil =>
    constructor
    · intro left
      exact ⟨Nat.le_of_eq left, fun t _ shorter => absurd shorter (Nat.not_lt_zero _)⟩
    · intro served
      exact Nat.le_zero.mp served.1
  | cons x xs ih =>
    rw [backlog, ih, List.map_cons, List.map_cons, List.sum_cons, List.sum_cons]
    constructor
    · rintro ⟨rest, tails⟩
      refine ⟨by omega, fun t suffix shorter => ?_⟩
      rcases List.suffix_cons_iff.mp suffix with rfl | inner
      · exact absurd shorter (Nat.lt_irrefl _)
      · rcases Nat.lt_or_eq_of_le inner.length_le with less | same
        · exact tails t inner less
        · rw [inner.eq_of_length same, Served]
          omega
    · rintro ⟨all, tails⟩
      have rest : Served arrive serve xs := tails xs (List.suffix_cons x xs) (Nat.lt_succ_self _)
      unfold Served at rest
      refine ⟨by omega, fun t suffix shorter => ?_⟩
      exact tails t (suffix.trans (List.suffix_cons x xs)) (Nat.lt_succ_of_lt shorter)

/-- **Nothing is left over exactly when every tail of the events is served.** -/
theorem backlog_eq_zero_iff (xs : List α) :
    backlog arrive serve 0 xs = 0 ↔ ∀ t, t <:+ xs → Served arrive serve t := by
  rw [backlog_eq_zero_iff_of_start, Nat.zero_add]
  constructor
  · rintro ⟨all, tails⟩ t suffix
    rcases Nat.lt_or_eq_of_le suffix.length_le with less | same
    · exact tails t suffix less
    · rw [suffix.eq_of_length same]
      exact all
  · intro tails
    exact ⟨tails xs (List.suffix_refl xs), fun t suffix _ => tails t suffix⟩

end Xplay.Lib
