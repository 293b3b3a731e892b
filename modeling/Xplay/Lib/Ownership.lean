/-
**Cells that are allocated, used and released by several owners.**

A `Heap` numbers its cells in the order of their allocation, counts how often each was released, and
remembers whether a released cell was ever used. `Accounts` says that a list of holdings is the
whole truth about it: every allocated cell is held once and never released, or released once and
held by nobody, and no released cell was used.

* `Later` — what stays true of a heap in use.
* `Accounts.alloc`, `Accounts.use`, `Accounts.release`, `Accounts.perm` — what keeps the account.
* `slotted` — the cells that the slots of an array hold, one at most each.
* `Accounts.not_lost`, `not_accounts_use`, `Accounts.not_release` — what breaks it for good: letting
  go of a cell, using a released one, releasing one that somebody else holds or that was released.
-/

import Mathlib.Data.List.Basic
import Mathlib.Data.List.Count
import Mathlib.Logic.Function.Basic

namespace Xplay.Lib

/-- The cells allocated so far are those below `fresh`. -/
structure Heap where
  fresh : Nat
  released : Nat → Nat
  misused : Bool

namespace Heap

/-- Nothing was allocated. -/
def empty : Heap := ⟨0, fun _ => 0, false⟩

/-- The next cell is allocated. -/
def alloc (h : Heap) : Heap := { h with fresh := h.fresh + 1 }

/-- A call is made on a cell. -/
def use (h : Heap) (p : Nat) : Heap := { h with misused := h.misused || h.released p != 0 }

/-- A call that releases a cell is made on it. -/
def release (h : Heap) (p : Nat) : Heap :=
  { h.use p with released := Function.update h.released p (h.released p + 1) }

@[simp] theorem alloc_fresh (h : Heap) : h.alloc.fresh = h.fresh + 1 := rfl

@[simp] theorem alloc_released (h : Heap) : h.alloc.released = h.released := rfl

@[simp] theorem use_fresh (h : Heap) (p : Nat) : (h.use p).fresh = h.fresh := rfl

@[simp] theorem use_released (h : Heap) (p : Nat) : (h.use p).released = h.released := rfl

@[simp] theorem release_fresh (h : Heap) (p : Nat) : (h.release p).fresh = h.fresh := rfl

theorem release_released (h : Heap) (p : Nat) : (h.release p).released p = h.released p + 1 :=
  Function.update_self ..

theorem release_released_ne (h : Heap) {p q : Nat} (other : q ≠ p) :
    (h.release p).released q = h.released q :=
  Function.update_of_ne other ..

/-- What stays true of a heap in use: cells are not taken back, nor releases. -/
structure Later (h h' : Heap) : Prop where
  fresh : h.fresh ≤ h'.fresh
  released : ∀ p, h.released p ≠ 0 → h'.released p ≠ 0

theorem Later.refl (h : Heap) : h.Later h := ⟨Nat.le_refl _, fun _ gone => gone⟩

theorem later_alloc (h : Heap) : h.Later h.alloc := ⟨Nat.le_succ _, fun _ gone => gone⟩

theorem later_use (h : Heap) (p : Nat) : h.Later (h.use p) := ⟨Nat.le_refl _, fun _ gone => gone⟩

theorem later_release (h : Heap) (p : Nat) : h.Later (h.release p) := by
  refine ⟨Nat.le_refl _, fun q gone => ?_⟩
  rcases eq_or_ne q p with rfl | other
  · rw [release_released]
    exact Nat.succ_ne_zero _
  · rwa [release_released_ne h other]

/-- **The holdings account for every cell.** -/
structure Accounts (h : Heap) (held : List Nat) : Prop where
  clean : h.misused = false
  once : ∀ p, held.count p + h.released p = if p < h.fresh then 1 else 0

variable {h : Heap} {held : List Nat} {p : Nat}

theorem accounts_empty : empty.Accounts [] := ⟨rfl, fun _ => rfl⟩

/-- A cell changes hands. -/
theorem Accounts.perm (accounts : h.Accounts held) {held' : List Nat} (same : held'.Perm held) :
    h.Accounts held' :=
  ⟨accounts.clean, fun q => by rw [same.count_eq, accounts.once]⟩

/-- A cell that is held was allocated and not released. -/
theorem Accounts.live (accounts : h.Accounts held) (holds : p ∈ held) :
    p < h.fresh ∧ h.released p = 0 := by
  have once := accounts.once p
  have counted := List.count_pos_iff.mpr holds
  split at once <;> omega

/-- A cell that was released was allocated. -/
theorem Accounts.known (accounts : h.Accounts held) (gone : h.released p ≠ 0) : p < h.fresh := by
  have once := accounts.once p
  split at once <;> omega

theorem Accounts.alloc (accounts : h.Accounts held) : h.alloc.Accounts (h.fresh :: held) := by
  refine ⟨accounts.clean, fun q => ?_⟩
  have once := accounts.once q
  rw [alloc_fresh, alloc_released]
  rcases eq_or_ne q h.fresh with rfl | other
  · rw [if_neg (Nat.lt_irrefl _)] at once
    rw [List.count_cons_self, if_pos (Nat.lt_succ_self _)]
    omega
  · rw [List.count_cons_of_ne other.symm, once]
    exact if_congr ⟨fun lt => Nat.lt_succ_of_lt lt, fun lt => by omega⟩ rfl rfl

theorem Accounts.use (accounts : h.Accounts held) (holds : p ∈ held) :
    (h.use p).Accounts held := by
  refine ⟨?_, accounts.once⟩
  show (h.misused || h.released p != 0) = false
  rw [accounts.clean, (accounts.live holds).2]
  rfl

/-- The owner releases a cell. -/
theorem Accounts.release (accounts : h.Accounts (p :: held)) : (h.release p).Accounts held := by
  have used := accounts.use List.mem_cons_self
  refine ⟨used.clean, fun q => ?_⟩
  have once := accounts.once q
  rw [release_fresh, ← once]
  rcases eq_or_ne q p with rfl | other
  · rw [release_released, List.count_cons_self]
    omega
  · rw [release_released_ne h other, List.count_cons_of_ne other.symm]

/-- **Two accounts of a heap hold every cell equally often.** -/
theorem Accounts.count_eq (accounts : h.Accounts held) {held' : List Nat}
    (accounts' : h.Accounts held') (p : Nat) : held.count p = held'.count p :=
  Nat.add_right_cancel ((accounts.once p).trans (accounts'.once p).symm)

/-- **A cell that nobody holds any more is lost.** -/
theorem Accounts.not_lost (accounts : h.Accounts (p :: held)) : ¬h.Accounts held := by
  intro without
  have same := accounts.count_eq without p
  rw [List.count_cons_self] at same
  omega

/-- The account of what is held is whole exactly if nothing else was. -/
theorem Accounts.whole_iff {lost : List Nat} (accounts : h.Accounts (lost ++ held)) :
    h.Accounts held ↔ lost = [] := by
  constructor
  · intro without
    refine List.eq_nil_iff_forall_not_mem.mpr fun p member => ?_
    have same := accounts.count_eq without p
    have counted := List.count_pos_iff.mpr member
    rw [List.count_append] at same
    omega
  · rintro rfl
    exact accounts

/-- **Using a released cell is a misuse.** -/
theorem not_accounts_use (gone : h.released p ≠ 0) (held : List Nat) :
    ¬(h.use p).Accounts held := by
  intro accounts
  have clean : (h.misused || h.released p != 0) = false := accounts.clean
  simp [gone] at clean

/-- A misuse stays one. -/
theorem not_accounts_use_use (gone : h.released p ≠ 0) (q : Nat) (held : List Nat) :
    ¬((h.use p).use q).Accounts held := by
  intro accounts
  have clean : ((h.use p).misused || (h.use p).released q != 0) = false := accounts.clean
  exact not_accounts_use gone held ⟨(Bool.or_eq_false_iff.mp clean).1, accounts.once⟩

/-- **Releasing a cell that stays with another owner, or is with none, breaks the account.** -/
theorem Accounts.not_release (accounts : h.Accounts held) (allocated : p < h.fresh) :
    ¬(h.release p).Accounts held := by
  intro twice
  have before := accounts.once p
  have after := twice.once p
  rw [release_released, release_fresh] at after
  rw [if_pos allocated] at before after
  omega

/-! ### Cells held in slots -/

/-- What is behind a pointer is released, if it points at a cell. -/
def releaseAt (h : Heap) (pointer : Option Nat) : Heap := pointer.elim h h.release

theorem Accounts.releaseAt {pointer : Option Nat} (accounts : h.Accounts (pointer.toList ++ held)) :
    (h.releaseAt pointer).Accounts held := by
  cases pointer with
  | none => exact accounts
  | some p => exact Accounts.release accounts

theorem later_releaseAt (h : Heap) (pointer : Option Nat) : h.Later (h.releaseAt pointer) := by
  cases pointer with
  | none => exact .refl h
  | some p => exact later_release h p

end Heap

section Slots

variable {K : Type*} {ks : List K} {k : K} {slot : K → Option Nat}

/-- The cells that the slots hold. -/
def slotted (ks : List K) (slot : K → Option Nat) : List Nat := ks.filterMap slot

@[simp] theorem slotted_nil (slot : K → Option Nat) : slotted [] slot = [] := rfl

theorem slotted_cons (k : K) (ks : List K) (slot : K → Option Nat) :
    slotted (k :: ks) slot = (slot k).toList ++ slotted ks slot := by
  rw [slotted, List.filterMap_cons]
  cases slot k <;> rfl

/-- Everything that the slots hold is released. -/
theorem Heap.Accounts.releaseAll {h : Heap} {rest : List Nat}
    (accounts : h.Accounts (rest ++ slotted ks slot)) :
    (ks.foldl (fun h k => h.releaseAt (slot k)) h).Accounts rest := by
  induction ks generalizing h with
  | nil =>
    rw [slotted_nil, List.append_nil] at accounts
    exact accounts
  | cons k ks ih =>
    rw [slotted_cons] at accounts
    refine ih (Heap.Accounts.releaseAt (accounts.perm ?_))
    rw [← List.append_assoc, ← List.append_assoc]
    exact List.perm_append_comm.append_right _

theorem slotted_eq_nil_iff : slotted ks slot = [] ↔ ∀ k ∈ ks, slot k = none :=
  List.filterMap_eq_nil_iff

theorem mem_slotted (inside : k ∈ ks) (has : slot k = some p) : p ∈ slotted ks slot :=
  List.mem_filterMap.mpr ⟨k, inside, has⟩

variable [DecidableEq K]

/-- The cells that the other slots hold. -/
def slottedBut (ks : List K) (k : K) (slot : K → Option Nat) : List Nat :=
  (ks.erase k).filterMap slot

theorem slotted_perm (inside : k ∈ ks) (slot : K → Option Nat) :
    (slotted ks slot).Perm ((slot k).toList ++ slottedBut ks k slot) := by
  have apart := List.perm_cons_erase inside
  have mapped := apart.filterMap slot
  rw [List.filterMap_cons] at mapped
  cases held : slot k with
  | none =>
    rw [held] at mapped
    exact mapped
  | some p =>
    rw [held] at mapped
    exact mapped

/-- **A slot gets another cell**, and the others keep theirs. -/
theorem slotted_update_perm (nodup : ks.Nodup) (inside : k ∈ ks) (slot : K → Option Nat)
    (cell : Option Nat) : (slotted ks (Function.update slot k cell)).Perm
      (cell.toList ++ slottedBut ks k slot) := by
  have others : slottedBut ks k (Function.update slot k cell) = slottedBut ks k slot := by
    refine List.filterMap_congr fun j member => ?_
    have distinct : k ∉ ks.erase k := nodup.not_mem_erase
    refine Function.update_of_ne (fun same => ?_) ..
    rw [same] at member
    exact distinct member
  have perm := slotted_perm inside (Function.update slot k cell)
  rwa [others, Function.update_self] at perm

/-- The other slots hold nothing. -/
theorem slottedBut_eq_nil (nodup : ks.Nodup) (none : ∀ j ∈ ks, j ≠ k → slot j = none) :
    slottedBut ks k slot = [] := by
  refine List.filterMap_eq_nil_iff.mpr fun j member => ?_
  obtain ⟨other, inside⟩ := nodup.mem_erase_iff.mp member
  exact none j inside other

end Slots

end Xplay.Lib
