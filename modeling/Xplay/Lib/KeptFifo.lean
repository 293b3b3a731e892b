/-
**A bounded FIFO that keeps the frame it showed last.**

The abstract purpose of a display queue, over any element type: `unshown` are the elements not
shown yet, `kept` is the one shown last (only with `keepLast`), `cleared` the ones given up, in
order. The kept element counts against the capacity.

`run_pushes`: every element pushed is, in order, given up, kept or still unshown, exactly once.
-/

import Xplay.Lib.System

namespace Xplay.Lib

/-- The abstract state. -/
structure KeptFifo (α : Type*) where
  keepLast : Bool
  unshown : List α
  kept : Option α
  cleared : List α

namespace KeptFifo

variable {α : Type*}

/-- A call on the queue. -/
inductive Call (α : Type*)
  | push (x : α)
  | pop

/-- The element a call adds. -/
def Call.added : Call α → List α
  | push x => [x]
  | pop => []

/-- Nothing pushed yet. -/
def new (keepLast : Bool) : KeptFifo α := ⟨keepLast, [], none, []⟩

/-- The elements that occupy a place: the kept one and the unshown ones. -/
def stored (a : KeptFifo α) : List α := a.kept.toList ++ a.unshown

/-- `push` appends. -/
def push (a : KeptFifo α) (x : α) : KeptFifo α := { a with unshown := a.unshown ++ [x] }

/-- `pop` of the head `x`: it becomes the kept element and the former one is given up, or it is
given up itself. -/
def advance (a : KeptFifo α) (x : α) (rest : List α) : KeptFifo α :=
  if a.keepLast then
    { a with unshown := rest, kept := some x, cleared := a.cleared ++ a.kept.toList }
  else { a with unshown := rest, cleared := a.cleared ++ [x] }

/-- The abstract machine: `push` needs a place, `pop` an unshown element. -/
def system (α : Type*) (capacity : Nat) : System (KeptFifo α) (Call α) where
  next a
    | .push x => if a.stored.length < capacity then some (a.push x) else none
    | .pop =>
      match a.unshown with
      | [] => none
      | x :: rest => some (a.advance x rest)

/-- Every element pushed is in one place. -/
theorem next_added {capacity : Nat} {a a' : KeptFifo α} {call : Call α}
    (kept : a.keepLast = false → a.kept = none)
    (step : (system α capacity).next a call = some a') :
    a'.cleared ++ a'.stored = a.cleared ++ a.stored ++ call.added ∧
      (a'.keepLast = false → a'.kept = none) := by
  cases call with
  | push x =>
    simp only [system] at step
    split at step
    · cases step
      exact ⟨by simp [push, stored, Call.added], kept⟩
    · cases step
  | pop =>
    simp only [system] at step
    split at step
    · cases step
    · next x rest front =>
      cases step
      cases keeps : a.keepLast with
      | true => simp [advance, keeps, stored, front, Call.added]
      | false => simp [advance, keeps, stored, front, Call.added, kept keeps]

/-- **Nothing is lost, duplicated or reordered.** -/
theorem run_pushes {capacity : Nat} {keepLast : Bool} {calls : List (Call α)} {a : KeptFifo α}
    (run : (system α capacity).run (new keepLast) calls = some a) :
    a.cleared ++ a.stored = calls.flatMap Call.added := by
  suffices general : ∀ (b : KeptFifo α), (b.keepLast = false → b.kept = none) →
      (system α capacity).run b calls = some a →
      a.cleared ++ a.stored = b.cleared ++ b.stored ++ calls.flatMap Call.added from
    (general (new keepLast) (fun _ => rfl) run).trans rfl
  clear run
  induction calls with
  | nil =>
    intro b kept run
    cases run
    simp
  | cons call calls ih =>
    intro b kept run
    obtain ⟨middle, step, rest⟩ := System.run_cons_eq_some _ |>.mp run
    obtain ⟨same, kept'⟩ := next_added kept step
    rw [ih middle kept' rest, same, List.flatMap_cons, List.append_assoc]

end KeptFifo

end Xplay.Lib
