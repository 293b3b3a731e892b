/-
**Windows of a ring.**

A ring of `m` cells is a function on `Nat` read below `m`; `Window cells m lo xs` says that the
cells from `lo` on, wrapping at `m`, hold `xs`. The operations of a ring buffer are one lemma
each: writing behind the window appends (`Window.append`), moving `lo` forward drops the head
(`Window.tail`), and writes outside it change nothing (`Window.update_outside`).

`Outside cells m lo k Free` says that the cells from offset `k` on are `Free`; the same writes
carry it along.
-/

import Mathlib.Data.List.Basic
import Mathlib.Data.Nat.ModEq
import Mathlib.Logic.Function.Basic
import Mathlib.Tactic.Common

namespace Xplay.Lib

variable {α : Type*} {cells : Nat → α} {m lo : Nat} {xs : List α}

/-- Two offsets below `m` name different cells. -/
theorem slot_ne {i j : Nat} (left : i < m) (right : j < m) (differ : i ≠ j) :
    (lo + i) % m ≠ (lo + j) % m := by
  intro same
  have congruent : i ≡ j [MOD m] := Nat.ModEq.add_left_cancel' lo same
  exact differ (congruent.eq_of_lt_of_lt left right)

/-- The wrapped increment of an index is the successor modulo `m`. -/
theorem wrap_succ {i : Nat} (below : i < m) : (if i + 1 = m then 0 else i + 1) = (i + 1) % m := by
  split
  · next last => rw [last, Nat.mod_self]
  · next inner => rw [Nat.mod_eq_of_lt (by omega)]

/-- **The cells from `lo` on, wrapping at `m`, hold `xs`.** -/
structure Window (cells : Nat → α) (m lo : Nat) (xs : List α) : Prop where
  fits : xs.length ≤ m
  holds : ∀ i x, xs[i]? = some x → cells ((lo + i) % m) = x

namespace Window

theorem empty : Window cells m lo [] where
  fits := Nat.zero_le m
  holds i x found := by simp at found

/-- A write outside the window changes nothing in it. -/
theorem update_outside (window : Window cells m lo xs) {k : Nat} (behind : xs.length ≤ k)
    (below : k < m) (x : α) : Window (Function.update cells ((lo + k) % m) x) m lo xs where
  fits := window.fits
  holds i y found := by
    have inside : i < xs.length := (List.getElem?_eq_some_iff.mp found).1
    have apart : (lo + i) % m ≠ (lo + k) % m := slot_ne (by omega) below (by omega)
    rw [Function.update_of_ne apart]
    exact window.holds i y found

/-- **A write just behind the window appends.** -/
theorem append (window : Window cells m lo xs) (room : xs.length < m) (x : α) :
    Window (Function.update cells ((lo + xs.length) % m) x) m lo (xs ++ [x]) where
  fits := by
    rw [List.length_append, List.length_singleton]
    exact room
  holds i y found := by
    rcases Nat.lt_trichotomy i xs.length with inside | here | beyond
    · rw [List.getElem?_append_left inside] at found
      exact (window.update_outside (Nat.le_refl _) room x).holds i y found
    · subst here
      rw [List.getElem?_concat_length] at found
      rw [Function.update_self]
      exact Option.some.inj found
    · have none : (xs ++ [x])[i]? = none := by
        apply List.getElem?_eq_none
        rw [List.length_append, List.length_singleton]
        exact beyond
      rw [none] at found
      cases found

/-- Moving `lo` forward drops the head. -/
theorem tail {x : α} (window : Window cells m lo (x :: xs)) :
    Window cells m ((lo + 1) % m) xs where
  fits := Nat.le_of_succ_le window.fits
  holds i y found := by
    rw [Nat.mod_add_mod, Nat.add_assoc, Nat.add_comm 1 i]
    exact window.holds (i + 1) y (by rw [List.getElem?_cons_succ]; exact found)

/-- The head is the cell at `lo`. -/
theorem head {x : α} (window : Window cells m lo (x :: xs)) (below : lo < m) : cells lo = x := by
  have read := window.holds 0 x rfl
  rwa [Nat.add_zero, Nat.mod_eq_of_lt below] at read

/-- **Clearing the head cell and moving `lo` past it drops the head.** -/
theorem clear_head {x : α} (window : Window cells m lo (x :: xs)) (below : lo < m) (y : α) :
    Window (Function.update cells lo y) m ((lo + 1) % m) xs := by
  have fits : xs.length + 1 ≤ m := window.fits
  have last : ((lo + 1) % m + (m - 1)) % m = lo := by
    rw [Nat.mod_add_mod, Nat.add_assoc, Nat.add_sub_cancel' (by omega), Nat.add_mod_right,
      Nat.mod_eq_of_lt below]
  have outside := window.tail.update_outside (k := m - 1) (by omega) (by omega) y
  rwa [last] at outside

end Window

/-- **The cells of the ring from offset `k` on are free.** -/
def Outside (cells : Nat → α) (m lo k : Nat) (Free : α → Prop) : Prop :=
  ∀ i, k ≤ i → i < m → Free (cells ((lo + i) % m))

namespace Outside

variable {k : Nat} {Free : α → Prop}

/-- A write at the first free cell leaves the later ones free. -/
theorem append (outside : Outside cells m lo k Free) (x : α) :
    Outside (Function.update cells ((lo + k) % m) x) m lo (k + 1) Free := by
  intro i behind below
  have apart : (lo + i) % m ≠ (lo + k) % m := slot_ne below (by omega) (by omega)
  rw [Function.update_of_ne apart]
  exact outside i (by omega) below

/-- Clearing the cell at `lo` and moving past it makes it the last free cell. -/
theorem clear_head (outside : Outside cells m lo (k + 1) Free) (below : lo < m) {y : α}
    (free : Free y) : Outside (Function.update cells lo y) m ((lo + 1) % m) k Free := by
  intro i behind inside
  rw [Nat.mod_add_mod, Nat.add_assoc, Nat.add_comm 1 i]
  rcases Nat.lt_or_ge (i + 1) m with early | last
  · have apart : (lo + (i + 1)) % m ≠ lo := by
      intro same
      rw [← Nat.mod_eq_of_lt below, Nat.mod_add_mod] at same
      exact slot_ne early (Nat.zero_lt_of_lt below) (Nat.succ_ne_zero i)
        (same.trans (by rw [Nat.add_zero]))
    rw [Function.update_of_ne apart]
    exact outside (i + 1) (by omega) early
  · have turn : (lo + (i + 1)) % m = lo := by
      rw [show i + 1 = m by omega, Nat.add_mod_right, Nat.mod_eq_of_lt below]
    rw [turn, Function.update_self]
    exact free

theorem mono (outside : Outside cells m lo k Free) {k' : Nat} (less : k ≤ k') :
    Outside cells m lo k' Free :=
  fun i behind below => outside i (Nat.le_trans less behind) below

/-- Past the cell at `lo` there is every other one. -/
theorem elsewhere (outside : Outside cells m lo 1 Free) (below : lo < m) {j : Nat} (inside : j < m)
    (other : j ≠ lo) : Free (cells j) := by
  rcases Nat.lt_or_gt_of_ne other with early | late
  · have turn : (lo + (j + m - lo)) % m = j := by
      rw [Nat.add_sub_cancel' (by omega), Nat.add_mod_right, Nat.mod_eq_of_lt inside]
    rw [← turn]
    exact outside _ (by omega) (by omega)
  · have straight : (lo + (j - lo)) % m = j := by
      rw [Nat.add_sub_cancel' (by omega), Nat.mod_eq_of_lt inside]
    rw [← straight]
    exact outside _ (by omega) (by omega)

end Outside

end Xplay.Lib
