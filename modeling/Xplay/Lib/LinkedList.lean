/-
**Singly linked lists in a heap.**

A heap is a finite map from addresses to cells, and a cell holds a value and the address of the next
one, `none` the null pointer.

* `Chain heap first nodes` — from `first` the cells lead through `nodes` to the null pointer.
* `Chain.unique`, `Chain.nodup` — an address starts one list, and no cell stands in it twice.
* `Chain.frame` — a list is what its own cells make it.
* `Chain.snoc` — a new cell behind the last one appends to the list.
* `freeFrom`, `Chain.freeFrom` — freeing cell after cell frees the list and nothing else.
-/

import Mathlib.Data.Finmap

set_option linter.unusedSectionVars false

namespace Xplay.Lib

/-- A cell: what it holds and the address of the next one. -/
structure Cell (Addr α : Type*) where
  value : α
  next : Option Addr
  deriving DecidableEq

/-- The allocated cells. -/
abbrev Cells (Addr α : Type*) := Finmap fun _ : Addr => Cell Addr α

namespace Cells

variable {Addr α : Type*} [DecidableEq Addr]

/-- **The list that starts at an address**, with the addresses of its cells. -/
inductive Chain (heap : Cells Addr α) : Option Addr → List (Addr × α) → Prop
  | nil : Chain heap none []
  | cons {a : Addr} {x : α} {next : Option Addr} {nodes : List (Addr × α)}
      (here : heap.lookup a = some ⟨x, next⟩) (rest : Chain heap next nodes) :
      Chain heap (some a) ((a, x) :: nodes)

/-- The cell at the address can be reached. -/
inductive Reaches (heap : Cells Addr α) : Option Addr → Addr → Prop
  | here {a : Addr} : Reaches heap (some a) a
  | next {a b : Addr} {x : α} {next : Option Addr} (here : heap.lookup a = some ⟨x, next⟩)
      (rest : Reaches heap next b) : Reaches heap (some a) b

/-- Frees the cells from an address on, each after its `next` has been read; `none` when it comes to
a cell that is not allocated. -/
def freeFrom (heap : Cells Addr α) : Option Addr → Option (Cells Addr α)
  | none => some heap
  | some a =>
    match _here : heap.lookup a with
    | none => none
    | some cell => freeFrom (heap.erase a) cell.next
  termination_by heap.keys.card
  decreasing_by
    rw [Finmap.keys_erase]
    exact Finset.card_erase_lt_of_mem (Finmap.mem_keys.mpr (Finmap.mem_of_lookup_eq_some _here))

variable {heap heap' : Cells Addr α} {first : Option Addr} {nodes : List (Addr × α)}

namespace Chain

theorem unique {nodes' : List (Addr × α)} (chain : Chain heap first nodes)
    (other : Chain heap first nodes') : nodes = nodes' := by
  induction chain generalizing nodes' with
  | nil =>
    cases other
    rfl
  | cons here rest ih =>
    cases other with
    | cons there tail =>
      cases here.symm.trans there
      rw [ih tail]

/-- Behind any cell of a list comes the rest of it. -/
theorem suffix {front back : List (Addr × α)} (chain : Chain heap first (front ++ back)) :
    ∃ second, Chain heap second back := by
  induction front generalizing first with
  | nil => exact ⟨first, chain⟩
  | cons node front ih =>
    cases chain with
    | cons here rest => exact ih rest

theorem lookup_of_mem (chain : Chain heap first nodes) {a : Addr} {x : α} (member : (a, x) ∈ nodes) :
    ∃ next, heap.lookup a = some ⟨x, next⟩ := by
  induction chain with
  | nil => cases member
  | cons here rest ih =>
    rcases List.mem_cons.mp member with same | later
    · cases same
      exact ⟨_, here⟩
    · exact ih later

theorem mem_of_address (chain : Chain heap first nodes) {a : Addr}
    (member : a ∈ nodes.map Prod.fst) : a ∈ heap := by
  obtain ⟨node, inside, rfl⟩ := List.mem_map.mp member
  obtain ⟨next, here⟩ := chain.lookup_of_mem inside
  exact Finmap.mem_of_lookup_eq_some here

/-- **No cell stands in a list twice**: it would start two lists of different lengths. -/
theorem nodup (chain : Chain heap first nodes) : (nodes.map Prod.fst).Nodup := by
  induction chain with
  | nil => exact List.nodup_nil
  | @cons a x next nodes here rest ih =>
    refine List.nodup_cons.mpr ⟨fun again => ?_, ih⟩
    obtain ⟨node, inside, same⟩ := List.mem_map.mp again
    obtain ⟨front, back, split⟩ := List.append_of_mem inside
    have whole : Chain heap (some a) ((a, x) :: nodes) := .cons here rest
    rw [split] at rest
    obtain ⟨second, tail⟩ := rest.suffix
    cases tail with
    | cons there deeper =>
      dsimp only at same
      subst same
      have lengths := congrArg List.length (whole.unique (.cons there deeper))
      simp only [split, List.length_cons, List.length_append] at lengths
      omega

/-- **The frame rule**: a list is what its own cells make it. -/
theorem frame (same : ∀ a ∈ nodes.map Prod.fst, heap'.lookup a = heap.lookup a)
    (chain : Chain heap first nodes) : Chain heap' first nodes := by
  induction chain with
  | nil => exact .nil
  | cons here rest ih =>
    obtain ⟨first, others⟩ := List.forall_mem_cons.mp same
    exact .cons (first.trans here) (ih others)

/-- A list is empty exactly when it starts at the null pointer. -/
theorem eq_nil_iff (chain : Chain heap first nodes) : nodes = [] ↔ first = none := by
  cases chain with
  | nil => exact ⟨fun _ => rfl, fun _ => rfl⟩
  | cons here rest => exact ⟨nofun, nofun⟩

/-- The cells that can be reached are those of the list. -/
theorem reaches (chain : Chain heap first nodes) {a : Addr} (member : a ∈ nodes.map Prod.fst) :
    Reaches heap first a := by
  induction chain with
  | nil => cases member
  | cons here rest ih =>
    rcases List.mem_cons.mp member with same | later
    · subst same
      exact .here
    · exact .next here (ih later)

/-- Behind the last cell comes the null pointer. -/
theorem lookup_last {front : List (Addr × α)} {last : Addr} {x : α}
    (chain : Chain heap first (front ++ [(last, x)])) : heap.lookup last = some ⟨x, none⟩ := by
  obtain ⟨second, tail⟩ := chain.suffix
  cases tail with
  | cons here rest =>
    cases rest
    exact here

/-- A new cell alone is a list. -/
theorem singleton (heap : Cells Addr α) (new : Addr) (x : α) :
    Chain (heap.insert new ⟨x, none⟩) (some new) [(new, x)] :=
  .cons (Finmap.lookup_insert heap) .nil

/-- **A new cell behind the last one appends to the list.** -/
theorem snoc {front : List (Addr × α)} {last new : Addr} {x y : α}
    (chain : Chain heap first (front ++ [(last, x)])) (fresh : new ∉ heap) :
    Chain ((heap.insert new ⟨y, none⟩).insert last ⟨x, some new⟩) first
      (front ++ [(last, x), (new, y)]) := by
  have other : new ≠ last := by
    rintro rfl
    exact fresh (chain.mem_of_address (by simp))
  have linked : ((heap.insert new ⟨y, none⟩).insert last ⟨x, some new⟩).lookup last =
      some ⟨x, some new⟩ := Finmap.lookup_insert _
  have added : ((heap.insert new ⟨y, none⟩).insert last ⟨x, some new⟩).lookup new =
      some ⟨y, none⟩ := by
    rw [Finmap.lookup_insert_of_ne _ other, Finmap.lookup_insert]
  have unlike := chain.nodup
  induction front generalizing first with
  | nil =>
    cases chain with
    | cons here rest => exact .cons linked (.cons added .nil)
  | cons node front ih =>
    cases chain with
    | @cons a x next nodes here rest =>
      obtain ⟨apart, unlike⟩ := List.nodup_cons.mp unlike
      have notNew : a ≠ new := by
        rintro rfl
        exact fresh (Finmap.mem_of_lookup_eq_some here)
      have notLast : a ≠ last := by
        rintro rfl
        exact apart (by simp)
      refine .cons ?_ (ih rest unlike)
      rw [Finmap.lookup_insert_of_ne _ notLast, Finmap.lookup_insert_of_ne _ notNew, here]

/-- **Freeing cell after cell frees the list and nothing else.** -/
theorem freeFrom (chain : Chain heap first nodes) :
    ∃ heap', heap.freeFrom first = some heap' ∧
      ∀ a, heap'.lookup a = if a ∈ nodes.map Prod.fst then none else heap.lookup a := by
  induction nodes generalizing heap first with
  | nil =>
    cases chain
    exact ⟨heap, by rw [Cells.freeFrom], fun a => by simp⟩
  | cons node nodes ih =>
    have apart := (List.nodup_cons.mp chain.nodup).1
    cases chain with
    | @cons a x next nodes here rest =>
      have kept : Chain (heap.erase a) next nodes := rest.frame fun b member =>
        Finmap.lookup_erase_ne (ne_of_mem_of_not_mem member apart)
      obtain ⟨heap', freed, lookups⟩ := ih kept
      refine ⟨heap', ?_, fun b => ?_⟩
      · rw [Cells.freeFrom]
        split
        · next missing => cases here.symm.trans missing
        · next found =>
          cases here.symm.trans found
          exact freed
      · rw [lookups b]
        by_cases self : b = a
        · subst self
          simp [Finmap.lookup_erase]
        · simp only [List.map_cons, List.mem_cons, self, false_or, Finmap.lookup_erase_ne self]

end Chain

end Cells

end Xplay.Lib
