/-
**Who waits for whom.**

Agents wait for resources, and a resource is released by other agents. A set of agents is deadlocked
(`Deadlocked`) when each of them waits for something that only members of the set can release, apart
from agents that are excused: that could release it, but are held up themselves.

* `Frees` — an agent waits for nothing, or everything it waits for can be released by an agent that
  is not excused and is free in turn.
* `Frees.of_each`, `Frees.of_idle`, `Frees.of_wait` — the links of a chain of free agents.
* `Frees.not_mem` — a free agent is in no deadlocked set.
-/

import Mathlib.Data.Set.Lattice
import Mathlib.Tactic.Common

namespace Xplay.Lib

/-- What every agent waits for, who can release a resource, and who is excused. -/
structure WaitFor (Agent Resource : Type*) where
  Waits : Agent → Resource → Prop
  Releases : Agent → Resource → Prop
  Excused : Agent → Prop

namespace WaitFor

variable {Agent Resource : Type*} (graph : WaitFor Agent Resource)

/-- **A deadlocked set of agents.** -/
def Deadlocked (S : Set Agent) : Prop :=
  ∀ t ∈ S, ∃ r, graph.Waits t r ∧ ∀ u, graph.Releases u r → u ∈ S ∨ graph.Excused u

/-- **A free agent**: each wait of it ends with a free one. -/
inductive Frees : Agent → Prop
  | intro {t : Agent} (helper : Resource → Agent)
      (releases : ∀ r, graph.Waits t r → graph.Releases (helper r) r)
      (able : ∀ r, graph.Waits t r → ¬graph.Excused (helper r))
      (free : ∀ r, graph.Waits t r → Frees (helper r)) : Frees t

variable {graph}

/-- An agent is free when each of its waits has a free agent to end it. -/
theorem Frees.of_each {t : Agent} (each : ∀ r, graph.Waits t r →
    ∃ u, graph.Releases u r ∧ ¬graph.Excused u ∧ graph.Frees u) : graph.Frees t := by
  classical
  have chosen : ∀ r, ∃ u, graph.Waits t r →
      graph.Releases u r ∧ ¬graph.Excused u ∧ graph.Frees u := by
    intro r
    by_cases waits : graph.Waits t r
    · exact (each r waits).imp fun u helps _ => helps
    · exact ⟨t, fun some => absurd some waits⟩
  choose helper helps using chosen
  exact .intro helper (fun r waits => (helps r waits).1) (fun r waits => (helps r waits).2.1)
    fun r waits => (helps r waits).2.2

/-- An agent that waits for nothing is free. -/
theorem Frees.of_idle {t : Agent} (idle : ∀ r, ¬graph.Waits t r) : graph.Frees t :=
  .of_each fun r waits => absurd waits (idle r)

/-- An agent that waits for one thing only, which a free agent can release, is free. -/
theorem Frees.of_wait {t u : Agent} {r : Resource} (only : ∀ r', graph.Waits t r' → r' = r)
    (releases : graph.Releases u r) (able : ¬graph.Excused u) (free : graph.Frees u) :
    graph.Frees t :=
  .of_each fun r' waits => ⟨u, only r' waits ▸ releases, able, free⟩

/-- **A free agent is in no deadlocked set.** -/
theorem Frees.not_mem {t : Agent} (free : graph.Frees t) {S : Set Agent}
    (deadlocked : graph.Deadlocked S) : t ∉ S := by
  induction free with
  | intro helper releases able _ ih =>
    intro member
    obtain ⟨r, waits, only⟩ := deadlocked _ member
    exact (only _ (releases r waits)).elim (ih r waits) (able r waits)

end WaitFor

end Xplay.Lib
