/-
**A component in place of another, in any program.**

A component is a system some of whose steps show an event, and so is a program that uses it. In the
two together, an event is a step of both, and every other step one of either alone.

* `Simulates` — a relation in which every step of a component is shown by a step of another, or
  changes nothing there.
* `Simulates.inside` — **whatever state a program reaches with the first component, it reaches with
  the second.**
* `Component.only` — a component whose steps are restricted; `Component.family` — one for each
  index.
-/

import Mathlib.Logic.Function.Basic
import Xplay.Lib.System

namespace Xplay.Lib

/-- A system whose steps may show an event. -/
structure Component (State Label Event : Type*) extends System State Label where
  shows : State → Label → Option Event

/-- The component, with those steps alone that `allows` lets through. -/
def Component.only {State Label Event : Type*} (comp : Component State Label Event)
    (allows : Label → Bool) : Component State Label Event where
  next s l := if allows l then comp.next s l else none
  shows := comp.shows

/-- A component for each index. -/
def Component.family {State Label Event : Type*} (K : Type*) [DecidableEq K]
    (comp : Component State Label Event) : Component (K → State) (K × Label) (K × Event) where
  next s l := (comp.next (s l.1) l.2).map fun t => Function.update s l.1 t
  shows s l := (comp.shows (s l.1) l.2).map fun e => (l.1, e)

variable {Client Move State Label State' Label' Event : Type*}

/-- **One step is shown by another**: a step of `low` that shows no event changes nothing in `high`,
or is one there; and a step that shows an event is one that shows it. -/
def Simulates (low : Component State Label Event) (high : Component State' Label' Event)
    (R : State → State' → Prop) : Prop :=
  ∀ s s' l t, R s s' → low.next s l = some t →
    (low.shows s l = none ∧ R t s') ∨
      ∃ l' t', high.next s' l' = some t' ∧ high.shows s' l' = low.shows s l ∧ R t t'

namespace Simulates

variable {low : Component State Label Event} {high : Component State' Label' Event}
  {R : State → State' → Prop} {s t : State} {s' : State'} {c d : Client}

/-- **Components in place of components**, one for each index. -/
theorem family {K : Type*} [DecidableEq K] (simulates : Simulates low high R) :
    Simulates (low.family K) (high.family K) fun s s' => ∀ k, R (s k) (s' k) := by
  rintro s s' ⟨k, l⟩ t related step
  obtain ⟨u, move, rfl⟩ := Option.map_eq_some_iff.mp step
  have others {u : State} {u' : State'} (after : R u u') (j : K) :
      R (Function.update s k u j) (Function.update s' k u' j) := by
    by_cases self : j = k
    · subst self
      rw [Function.update_self, Function.update_self]
      exact after
    · rw [Function.update_of_ne self, Function.update_of_ne self]
      exact related j
  rcases simulates (s k) (s' k) l u (related k) move with
    ⟨hidden, after⟩ | ⟨l', u', move', same, after⟩
  · refine .inl ⟨by simp only [Component.family, hidden, Option.map_none], fun j => ?_⟩
    have stays := others after j
    rwa [Function.update_eq_self] at stays
  · refine .inr ⟨(k, l'), Function.update s' k u', ?_, ?_, others after⟩
    · simp only [Component.family, move', Option.map_some]
    · simp only [Component.family, same]

end Simulates

/-! ### A program with a component -/

/-- A step of a program and a component: of one of them, or of both. -/
inductive Joint (Move Label : Type*)
  | program (m : Move)
  | component (l : Label)
  | both (m : Move) (l : Label)

variable [DecidableEq Event]

/-- **The program with the component.** -/
def Component.inside (program : Component Client Move Event)
    (comp : Component State Label Event) : System (Client × State) (Joint Move Label) where
  next s
    | .program m =>
      if program.shows s.1 m = none then (program.next s.1 m).map fun c => (c, s.2) else none
    | .component l =>
      if comp.shows s.2 l = none then (comp.next s.2 l).map fun t => (s.1, t) else none
    | .both m l =>
      if program.shows s.1 m ≠ none ∧ program.shows s.1 m = comp.shows s.2 l then
        (program.next s.1 m).bind fun c => (comp.next s.2 l).map fun t => (c, t)
      else none

namespace Simulates

variable {low : Component State Label Event} {high : Component State' Label' Event}
  {R : State → State' → Prop} {s t : State} {s' : State'} {c d : Client}

/-- A step of a program with the first component, with the second. -/
theorem inside_step (simulates : Simulates low high R) (program : Component Client Move Event)
    {l : Joint Move Label} (related : R s s')
    (step : (program.inside low).next (c, s) l = some (d, t)) :
    ∃ t', (program.inside high).Reaches (c, s') (d, t') ∧ R t t' := by
  cases l with
  | program m =>
    simp only [Component.inside] at step
    split_ifs at step with hidden
    obtain ⟨d', move, same⟩ := Option.map_eq_some_iff.mp step
    cases same
    refine ⟨s', System.Reaches.single (l := .program m) ?_, related⟩
    simp only [Component.inside, if_pos hidden, move, Option.map_some]
  | component l =>
    simp only [Component.inside] at step
    split_ifs at step with hidden
    obtain ⟨t', move, same⟩ := Option.map_eq_some_iff.mp step
    cases same
    rcases simulates s s' l t related move with ⟨-, still⟩ | ⟨l', t', move', same, after⟩
    · exact ⟨s', System.Reaches.refl _, still⟩
    · refine ⟨t', System.Reaches.single (l := .component l') ?_, after⟩
      simp only [Component.inside, same, if_pos hidden, move', Option.map_some]
  | both m l =>
    simp only [Component.inside] at step
    split_ifs at step with shown
    obtain ⟨d', left, rest⟩ := Option.bind_eq_some_iff.mp step
    obtain ⟨t', right, same⟩ := Option.map_eq_some_iff.mp rest
    cases same
    rcases simulates s s' l t related right with ⟨hidden, -⟩ | ⟨l', t', move', same, after⟩
    · exact absurd (shown.2.trans hidden) shown.1
    · refine ⟨t', System.Reaches.single (l := .both m l') ?_, after⟩
      simp only [Component.inside, same, if_pos shown, left, move', Option.bind_some,
        Option.map_some]

/-- **Whatever a program reaches with the first component, it reaches with the second.** -/
theorem inside (simulates : Simulates low high R) (program : Component Client Move Event)
    (related : R s s') (reach : (program.inside low).Reaches (c, s) (d, t)) :
    ∃ t', (program.inside high).Reaches (c, s') (d, t') ∧ R t t' := by
  obtain ⟨⟨d', t'⟩, reach', same, after⟩ := System.invariant_reaches
    (I := fun x : Client × State => ∃ x' : Client × State',
      (program.inside high).Reaches (c, s') x' ∧ x.1 = x'.1 ∧ R x.2 x'.2)
    (fun x l y ⟨x', reach', same, related⟩ step => by
      obtain ⟨t', more, after⟩ := simulates.inside_step program (l := l) related step
      refine ⟨(y.1, t'), reach'.trans ?_, rfl, after⟩
      rw [same] at more
      exact more)
    reach ⟨(c, s'), System.Reaches.refl _, rfl, related⟩
  cases same
  exact ⟨t', reach', after⟩

end Simulates

end Xplay.Lib
