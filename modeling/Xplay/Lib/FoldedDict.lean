/-
**Dictionaries that find keys exactly and replace them up to a fold.**

`fold` sends a key to what is left of it when the differences that do not count are gone, for
instance the case of its letters. No two keys of a dictionary have the same fold: `set` puts a new
entry in the place of the one whose key has the same fold, while `get` looks for the key itself.

* `get_set_self`, `get_set_variant`, `get_set_other` — what `set` does to every lookup.
* `setAll`, `get_setAll` — copying a dictionary entry by entry copies its lookups.
-/

import Mathlib.Data.List.Nodup

set_option linter.unusedSectionVars false

namespace Xplay.Lib

/-- A dictionary whose keys differ in their folds. -/
structure FoldedDict {Key Folded : Type*} (fold : Key → Folded) (Value : Type*) where
  elements : List (Key × Value)
  distinct : (elements.map fun entry => fold entry.1).Nodup

namespace FoldedDict

variable {Key Folded Value : Type*} [DecidableEq Key] [DecidableEq Folded] {fold : Key → Folded}

/-- The value stored under exactly this key. -/
def get (d : FoldedDict fold Value) (key : Key) : Option Value :=
  (d.elements.find? fun entry => decide (entry.1 = key)).map Prod.snd

/-- Stores the value, in the place of the key with the same fold. -/
def set (d : FoldedDict fold Value) (key : Key) (value : Value) : FoldedDict fold Value where
  elements := (d.elements.filter fun entry => decide (fold entry.1 ≠ fold key)) ++ [(key, value)]
  distinct := by
    rw [List.map_append, List.nodup_append]
    refine ⟨d.distinct.sublist (List.filter_sublist.map _), List.nodup_singleton _, ?_⟩
    intro folded inside other last
    obtain ⟨entry, member, rfl⟩ := List.mem_map.mp inside
    rw [List.map_singleton, List.mem_singleton] at last
    subst last
    exact of_decide_eq_true (List.mem_filter.mp member).2

/-- The empty dictionary. -/
def empty : FoldedDict fold Value := ⟨[], List.nodup_nil⟩

variable {d : FoldedDict fold Value} {key other : Key} {value : Value}

/-- Entries that a property of their keys rules out are not found. -/
theorem find?_eq_none_of_fold (fold : Key → Folded) {key : Key} {entries : List (Key × Value)}
    (apart : ∀ entry ∈ entries, fold entry.1 ≠ fold key) :
    entries.find? (fun entry => decide (entry.1 = key)) = none := by
  rw [List.find?_eq_none]
  intro entry member same
  exact apart entry member (congrArg fold (of_decide_eq_true same))

theorem get_set_self (d : FoldedDict fold Value) (key : Key) (value : Value) :
    (d.set key value).get key = some value := by
  have gone : (d.elements.filter fun entry => decide (fold entry.1 ≠ fold key)).find?
      (fun entry => decide (entry.1 = key)) = none :=
    find?_eq_none_of_fold fold fun entry member => of_decide_eq_true (List.mem_filter.mp member).2
  rw [get, set, List.find?_append, gone]
  simp

/-- A key that differs from the new one only in what the fold forgets is gone. -/
theorem get_set_variant (d : FoldedDict fold Value) (value : Value) (variant : fold other = fold key)
    (differs : other ≠ key) : (d.set key value).get other = none := by
  have gone : (d.elements.filter fun entry => decide (fold entry.1 ≠ fold key)).find?
      (fun entry => decide (entry.1 = other)) = none := by
    refine find?_eq_none_of_fold fold fun entry member => ?_
    rw [variant]
    exact of_decide_eq_true (List.mem_filter.mp member).2
  rw [get, set, List.find?_append, gone]
  simp [differs.symm]

theorem get_set_other (d : FoldedDict fold Value) (value : Value) (apart : fold other ≠ fold key) :
    (d.set key value).get other = d.get other := by
  have differs : key ≠ other := fun same => apart (congrArg fold same.symm)
  have kept : ((d.elements.filter fun entry => decide (fold entry.1 ≠ fold key)).find?
      fun entry => decide (entry.1 = other)) =
      d.elements.find? fun entry => decide (entry.1 = other) := by
    rw [List.find?_filter]
    congr 1
    funext entry
    by_cases same : entry.1 = other
    · simp [same, apart]
    · simp [same]
  rw [get, set, List.find?_append, kept]
  simp [get, differs]

/-! ### Copies -/

/-- Stores every entry of a list, one after the other. -/
def setAll (d : FoldedDict fold Value) (entries : List (Key × Value)) : FoldedDict fold Value :=
  entries.foldl (fun d entry => d.set entry.1 entry.2) d

theorem get_setAll_of_apart {entries : List (Key × Value)}
    (apart : ∀ entry ∈ entries, fold entry.1 ≠ fold key) (d : FoldedDict fold Value) :
    (d.setAll entries).get key = d.get key := by
  induction entries generalizing d with
  | nil => rfl
  | cons entry entries ih =>
    obtain ⟨first, rest⟩ := List.forall_mem_cons.mp apart
    exact (ih rest _).trans (d.get_set_other entry.2 first.symm)

/-- **What a dictionary holds, its copy into any other holds.** -/
theorem get_setAll {source : FoldedDict fold Value} (found : source.get key = some value)
    (d : FoldedDict fold Value) : (d.setAll source.elements).get key = some value := by
  obtain ⟨⟨key', value'⟩, here, same⟩ := Option.map_eq_some_iff.mp found
  obtain ⟨matching, front, back, split, -⟩ := List.find?_eq_some_iff_append.mp here
  have named : key' = key := of_decide_eq_true matching
  subst named
  subst same
  have distinct := source.distinct
  rw [split, List.map_append, List.map_cons, List.nodup_append] at distinct
  have behind : ∀ entry ∈ back, fold entry.1 ≠ fold key' := by
    intro entry member equal
    refine (List.nodup_cons.mp distinct.2.1).1 ?_
    rw [← equal]
    exact List.mem_map_of_mem (f := fun entry => fold entry.1) member
  rw [setAll, split, List.foldl_append, List.foldl_cons]
  exact (get_setAll_of_apart behind _).trans (get_set_self _ _ _)

end FoldedDict

end Xplay.Lib
