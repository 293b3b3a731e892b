/-
**Monitors: one mutex and its condition variables, shared by any number of threads.**

A program gives, for every control location, the next atomic action of a thread that stands there:
acquire or release the mutex, wait on a condition variable (which releases the mutex and enters
the wait set in one action), notify a condition variable, or access the shared state. Every
action is one step, so a schedule may place any number of other threads' steps between two of
them; an action that needs no mutex (an atomic flag, a notification) is allowed outside it.

* `Program.next` — the executable step; a thread leaves a wait set only by a notification of its
  own condition variable, and then competes for the mutex again.
* `Program.Step`, `Program.step_of_next` — what a step can do, one constructor per action.
* `Step.moves`, `Step.other` — what a step does to the thread that takes it, and to any other.
* `Step.arrival`, `Step.waiting_arrival`, `Step.resumesAt` — how a thread comes to a location or
  into a wait set, and where a waiting thread resumes.
* `Program.exclusive_step` — a lawful program keeps its mutex: the owner is exactly the thread
  whose location is inside a critical section.
-/

import Xplay.Lib.System
import Mathlib.Logic.Function.Basic

set_option linter.unusedSectionVars false

namespace Xplay.Lib.Monitor

variable {Shared Cond Loc Tid : Type*}

/-- The next atomic action of a thread. -/
inductive Instr (Shared Cond Loc : Type*)
  | lock (next : Loc)
  | unlock (next : Loc)
  | wait (cond : Cond) (resume : Loc)
  | notifyAll (cond : Cond) (next : Loc)
  | access (shared : Shared) (next : Loc)
  | halt

/-- Where a thread is: at a location, in a wait set, or notified and acquiring the mutex again. -/
inductive Status (Cond Loc : Type*)
  | running (loc : Loc)
  | waiting (cond : Cond) (resume : Loc)
  | relocking (resume : Loc)
  deriving DecidableEq

/-- Where the thread stands, or comes back to. -/
def Status.loc : Status Cond Loc → Loc
  | .running loc => loc
  | .waiting _ resume => resume
  | .relocking resume => resume

/-- A monitor program: the action at every location, the locations that hold the mutex, and the
calls a thread at rest may make. -/
structure Program (Shared Cond Loc : Type*) where
  instr : Shared → Loc → Instr Shared Cond Loc
  inside : Loc → Bool
  entry : Loc → Loc → Bool

/-- The state of a monitor: the shared data, the owner of the mutex, and every thread. -/
structure State (Shared Cond Loc Tid : Type*) where
  shared : Shared
  owner : Option Tid
  thread : Tid → Status Cond Loc

/-- A thread at rest calls an operation, or a thread takes its next step. -/
inductive Label (Loc Tid : Type*)
  | call (t : Tid) (loc : Loc)
  | step (t : Tid)

/-- The thread a label belongs to. -/
def Label.actor : Label Loc Tid → Tid
  | .call t _ => t
  | .step t => t

/-- A notification moves a waiter of its condition variable out of the wait set. -/
def wake [DecidableEq Cond] (cond : Cond) : Status Cond Loc → Status Cond Loc
  | .waiting c resume => if c = cond then .relocking resume else .waiting c resume
  | status => status

section Wake

variable [DecidableEq Cond] {cond : Cond}

@[simp] theorem wake_running {loc : Loc} :
    wake cond (.running loc : Status Cond Loc) = .running loc := rfl

theorem wake_eq_running {status : Status Cond Loc} {loc : Loc} :
    wake cond status = .running loc ↔ status = .running loc := by
  cases status with
  | running loc' => rfl
  | waiting c resume => simp only [wake]; split_ifs <;> simp
  | relocking resume => rfl

/-- **After a notification the wait set is empty**; the other wait sets are unchanged. -/
theorem wake_eq_waiting {status : Status Cond Loc} {c : Cond} {resume : Loc} :
    wake cond status = .waiting c resume ↔ status = .waiting c resume ∧ c ≠ cond := by
  cases status with
  | running loc' => simp [wake]
  | waiting c' resume' =>
    simp only [wake]
    split_ifs with same
    · subst same
      simp only [Status.waiting.injEq, false_iff, not_and, not_not]
      exact fun both => both.1.symm
    · simp only [Status.waiting.injEq]
      exact ⟨fun both => ⟨both, both.1 ▸ same⟩, fun both => both.1⟩
  | relocking resume' => simp [wake]

/-- A notification leaves everybody's location. -/
@[simp] theorem loc_wake (status : Status Cond Loc) : (wake cond status).loc = status.loc := by
  cases status with
  | waiting c resume => simp only [wake]; split_ifs <;> rfl
  | _ => rfl

end Wake

/-- A thread that waits, or competes for the mutex after a notification, resumes at a location
with the property. -/
def ResumesAt (P : Loc → Prop) : Status Cond Loc → Prop
  | .running _ => True
  | .waiting _ resume => P resume
  | .relocking resume => P resume

theorem resumesAt_wake [DecidableEq Cond] {P : Loc → Prop} {cond : Cond}
    {status : Status Cond Loc} (resumes : ResumesAt P status) : ResumesAt P (wake cond status) := by
  cases status with
  | running loc => trivial
  | waiting c resume => simp only [wake]; split_ifs <;> exact resumes
  | relocking resume => exact resumes

theorem resumesAt_update [DecidableEq Tid] {P : Loc → Prop} {threads : Tid → Status Cond Loc}
    {t : Tid} {status : Status Cond Loc} (others : ∀ u, ResumesAt P (threads u))
    (mine : ResumesAt P status) (u : Tid) : ResumesAt P (Function.update threads t status u) := by
  by_cases self : u = t
  · rw [self, Function.update_self]
    exact mine
  · rw [Function.update_of_ne self]
    exact others u

namespace Program

variable [DecidableEq Cond] [DecidableEq Tid] (prog : Program Shared Cond Loc)

/-- The next state, `none` when the label is not enabled. -/
def next (s : State Shared Cond Loc Tid) : Label Loc Tid → Option (State Shared Cond Loc Tid)
  | .call t loc =>
    match s.thread t with
    | .running rest =>
      if prog.entry rest loc then
        some { s with thread := Function.update s.thread t (.running loc) }
      else none
    | _ => none
  | .step t =>
    match s.thread t with
    | .waiting _ _ => none
    | .relocking resume =>
      match s.owner with
      | none => some { s with owner := some t
                              thread := Function.update s.thread t (.running resume) }
      | some _ => none
    | .running loc =>
      match prog.instr s.shared loc with
      | .lock n =>
        match s.owner with
        | none => some { s with owner := some t
                                thread := Function.update s.thread t (.running n) }
        | some _ => none
      | .unlock n =>
        some { s with owner := none
                      thread := Function.update s.thread t (.running n) }
      | .wait cond resume =>
        some { s with owner := none
                      thread := Function.update s.thread t (.waiting cond resume) }
      | .notifyAll cond n =>
        some { s with thread := Function.update (fun u => wake cond (s.thread u)) t (.running n) }
      | .access shared n =>
        some { s with shared := shared
                      thread := Function.update s.thread t (.running n) }
      | .halt => none

variable {prog} in
/-- A thread that stands before an access makes it. -/
theorem next_access {s : State Shared Cond Loc Tid} {t : Tid} {loc n : Loc} {shared : Shared}
    (here : s.thread t = .running loc) (act : prog.instr s.shared loc = .access shared n) :
    prog.next s (.step t) =
      some { s with shared := shared, thread := Function.update s.thread t (.running n) } := by
  simp only [next, here, act]

/-- The monitor as a transition system. -/
def system (Tid : Type*) [DecidableEq Tid] :
    System (State Shared Cond Loc Tid) (Label Loc Tid) where
  next := prog.next

/-- **What a step can do**, one constructor per action. -/
inductive Step (s : State Shared Cond Loc Tid) :
    Label Loc Tid → State Shared Cond Loc Tid → Prop
  | call {t rest loc} (here : s.thread t = .running rest) (entry : prog.entry rest loc = true) :
      Step s (.call t loc) { s with thread := Function.update s.thread t (.running loc) }
  | relock {t resume} (here : s.thread t = .relocking resume) (free : s.owner = none) :
      Step s (.step t) { s with owner := some t
                                thread := Function.update s.thread t (.running resume) }
  | lock {t loc n} (here : s.thread t = .running loc) (act : prog.instr s.shared loc = .lock n)
      (free : s.owner = none) :
      Step s (.step t) { s with owner := some t
                                thread := Function.update s.thread t (.running n) }
  | unlock {t loc n} (here : s.thread t = .running loc)
      (act : prog.instr s.shared loc = .unlock n) :
      Step s (.step t) { s with owner := none
                                thread := Function.update s.thread t (.running n) }
  | wait {t loc cond resume} (here : s.thread t = .running loc)
      (act : prog.instr s.shared loc = .wait cond resume) :
      Step s (.step t) { s with owner := none
                                thread := Function.update s.thread t (.waiting cond resume) }
  | notifyAll {t loc cond n} (here : s.thread t = .running loc)
      (act : prog.instr s.shared loc = .notifyAll cond n) :
      Step s (.step t)
        { s with thread := Function.update (fun u => wake cond (s.thread u)) t (.running n) }
  | access {t loc shared n} (here : s.thread t = .running loc)
      (act : prog.instr s.shared loc = .access shared n) :
      Step s (.step t) { s with shared := shared
                                thread := Function.update s.thread t (.running n) }

variable {prog}

theorem step_of_next {s s' : State Shared Cond Loc Tid} {l : Label Loc Tid}
    (enabled : prog.next s l = some s') : prog.Step s l s' := by
  cases l with
  | call t loc =>
    simp only [next] at enabled
    split at enabled
    case h_1 rest here =>
      split_ifs at enabled with entry
      cases enabled
      exact .call here entry
    case h_2 => cases enabled
  | step t =>
    simp only [next] at enabled
    split at enabled
    case h_1 => cases enabled
    case h_2 resume here =>
      split at enabled
      case h_1 free => cases enabled; exact .relock here free
      case h_2 => cases enabled
    case h_3 loc here =>
      split at enabled
      case h_1 n act =>
        split at enabled
        case h_1 free => cases enabled; exact .lock here act free
        case h_2 => cases enabled
      case h_2 n act => cases enabled; exact .unlock here act
      case h_3 cond resume act => cases enabled; exact .wait here act
      case h_4 cond n act => cases enabled; exact .notifyAll here act
      case h_5 shared n act => cases enabled; exact .access here act
      case h_6 => cases enabled

/-! ### The thread that steps and the others -/

variable (prog) in
/-- **What a step does to the thread that takes it**: the shared data and its status before, the
label, and both after. -/
inductive Moves (q : Shared) :
    Status Cond Loc → Label Loc Tid → Shared → Status Cond Loc → Prop
  | call {t rest loc} (entry : prog.entry rest loc = true) :
      Moves q (.running rest) (.call t loc) q (.running loc)
  | relock {t resume} : Moves q (.relocking resume) (.step t) q (.running resume)
  | lock {t loc n} (act : prog.instr q loc = .lock n) :
      Moves q (.running loc) (.step t) q (.running n)
  | unlock {t loc n} (act : prog.instr q loc = .unlock n) :
      Moves q (.running loc) (.step t) q (.running n)
  | wait {t loc cond resume} (act : prog.instr q loc = .wait cond resume) :
      Moves q (.running loc) (.step t) q (.waiting cond resume)
  | notifyAll {t loc cond n} (act : prog.instr q loc = .notifyAll cond n) :
      Moves q (.running loc) (.step t) q (.running n)
  | access {t loc shared n} (act : prog.instr q loc = .access shared n) :
      Moves q (.running loc) (.step t) shared (.running n)

theorem Step.moves {s s' : State Shared Cond Loc Tid} {l : Label Loc Tid}
    (step : prog.Step s l s') :
    prog.Moves s.shared (s.thread l.actor) l s'.shared (s'.thread l.actor) := by
  cases step with
  | call here entry =>
    simp only [Label.actor, here, Function.update_self]
    exact .call entry
  | relock here free =>
    simp only [Label.actor, here, Function.update_self]
    exact .relock
  | lock here act free =>
    simp only [Label.actor, here, Function.update_self]
    exact .lock act
  | unlock here act =>
    simp only [Label.actor, here, Function.update_self]
    exact .unlock act
  | wait here act =>
    simp only [Label.actor, here, Function.update_self]
    exact .wait act
  | notifyAll here act =>
    simp only [Label.actor, here, Function.update_self]
    exact .notifyAll act
  | access here act =>
    simp only [Label.actor, here, Function.update_self]
    exact .access act

/-- A thread at a location at which it makes no call takes its step. -/
theorem Step.acts {s s' : State Shared Cond Loc Tid} {l : Label Loc Tid} (step : prog.Step s l s')
    {loc : Loc} (here : s.thread l.actor = .running loc)
    (busy : ∀ next, prog.entry loc next = false) : l = .step l.actor := by
  cases l with
  | call t next =>
    cases step with
    | call there entry =>
      cases here.symm.trans there
      rw [busy] at entry
      cases entry
  | step t => rfl

/-- **What a step does to any other thread**: nothing, unless it notifies. -/
theorem Step.other {s s' : State Shared Cond Loc Tid} {l : Label Loc Tid}
    (step : prog.Step s l s') {u : Tid} (other : u ≠ l.actor) :
    s'.thread u = s.thread u ∨
      ∃ loc cond n, s.thread l.actor = .running loc ∧ prog.instr s.shared loc = .notifyAll cond n ∧
        s'.shared = s.shared ∧ s'.thread u = wake cond (s.thread u) := by
  cases step with
  | notifyAll here act =>
    simp only [Label.actor] at other
    exact Or.inr ⟨_, _, _, here, act, rfl, by simp only [Function.update_of_ne other]⟩
  | _ =>
    simp only [Label.actor] at other
    exact Or.inl (Function.update_of_ne other _ _)

/-- A step moves no other thread. -/
theorem Step.loc_other {s s' : State Shared Cond Loc Tid} {l : Label Loc Tid}
    (step : prog.Step s l s') {u : Tid} (other : u ≠ l.actor) :
    (s'.thread u).loc = (s.thread u).loc := by
  rcases step.other other with same | ⟨_, _, _, -, -, -, woken⟩
  · rw [same]
  · rw [woken, loc_wake]

/-! ### Taking a step -/

theorem reaches_of_wait {s : State Shared Cond Loc Tid} {t : Tid} {loc n : Loc} {cond : Cond}
    (here : s.thread t = .running loc) (act : prog.instr s.shared loc = .wait cond n) :
    (prog.system Tid).Reaches s
      { s with owner := none
               thread := Function.update s.thread t (.waiting cond n) } :=
  System.Reaches.single (l := .step t) (by simp [system, next, here, act])

theorem reaches_of_notifyAll {s : State Shared Cond Loc Tid} {t : Tid} {loc n : Loc} {cond : Cond}
    (here : s.thread t = .running loc) (act : prog.instr s.shared loc = .notifyAll cond n) :
    (prog.system Tid).Reaches s
      { s with thread := Function.update (fun u => wake cond (s.thread u)) t (.running n) } :=
  System.Reaches.single (l := .step t) (by simp [system, next, here, act])

theorem reaches_of_access {s : State Shared Cond Loc Tid} {t : Tid} {loc n : Loc} {shared : Shared}
    (here : s.thread t = .running loc) (act : prog.instr s.shared loc = .access shared n) :
    (prog.system Tid).Reaches s
      { s with shared := shared
               thread := Function.update s.thread t (.running n) } :=
  System.Reaches.single (l := .step t) (by simp [system, next, here, act])

/-! ### Frames: what a step leaves of the other threads -/

/-- Another thread stands at a location after a step exactly when it stood there before it. -/
theorem Step.running_other {s s' : State Shared Cond Loc Tid} {l : Label Loc Tid}
    (step : prog.Step s l s') {u : Tid} (other : u ≠ l.actor) {loc : Loc} :
    s'.thread u = .running loc ↔ s.thread u = .running loc := by
  cases step with
  | notifyAll here act =>
    simp only [Label.actor] at other
    simp only [Function.update_of_ne other, wake_eq_running]
  | _ =>
    simp only [Label.actor] at other
    simp only [Function.update_of_ne other]

/-- A step puts no other thread into a wait set. -/
theorem Step.waiting_other {s s' : State Shared Cond Loc Tid} {l : Label Loc Tid}
    (step : prog.Step s l s') {u : Tid} (other : u ≠ l.actor) {cond : Cond} {resume : Loc}
    (waits : s'.thread u = .waiting cond resume) : s.thread u = .waiting cond resume := by
  cases step with
  | notifyAll here act =>
    simp only [Label.actor] at other
    simp only [Function.update_of_ne other, wake_eq_waiting] at waits
    exact waits.1
  | _ =>
    simp only [Label.actor] at other
    simpa only [Function.update_of_ne other] using waits

/-- **How a thread comes to a location**: it stood there, or it took the step that leads there. -/
inductive Arrival (s : State Shared Cond Loc Tid) (l : Label Loc Tid)
    (s' : State Shared Cond Loc Tid) (t : Tid) (n : Loc) : Prop
  | stays (here : s.thread t = .running n)
  | call {rest} (here : s.thread t = .running rest) (entry : prog.entry rest n = true)
  | relock (here : s.thread t = .relocking n)
  | lock {loc} (here : s.thread t = .running loc) (act : prog.instr s.shared loc = .lock n)
  | unlock {loc} (here : s.thread t = .running loc) (act : prog.instr s.shared loc = .unlock n)
  | notifyAll {loc cond} (here : s.thread t = .running loc)
      (act : prog.instr s.shared loc = .notifyAll cond n) (mine : l = .step t)
      (silent : ∀ u resume, s'.thread u ≠ .waiting cond resume)
  | access {loc} (here : s.thread t = .running loc)
      (act : prog.instr s.shared loc = .access s'.shared n)

theorem Step.arrival {s s' : State Shared Cond Loc Tid} {l : Label Loc Tid}
    (step : prog.Step s l s') {t : Tid} {n : Loc} (arrives : s'.thread t = .running n) :
    prog.Arrival s l s' t n := by
  by_cases self : t = l.actor
  · subst self
    cases step with
    | call here entry =>
      cases (Function.update_self ..).symm.trans arrives
      exact .call here entry
    | relock here free =>
      cases (Function.update_self ..).symm.trans arrives
      exact .relock here
    | lock here act free =>
      cases (Function.update_self ..).symm.trans arrives
      exact .lock here act
    | unlock here act =>
      cases (Function.update_self ..).symm.trans arrives
      exact .unlock here act
    | wait here act => cases (Function.update_self ..).symm.trans arrives
    | @notifyAll t loc cond n here act =>
      simp only [Label.actor, Function.update_self] at arrives
      cases arrives
      refine .notifyAll here act rfl fun u resume waits => ?_
      by_cases self : u = t
      · simp [self] at waits
      · simp only [Function.update_of_ne self, wake_eq_waiting] at waits
        exact waits.2 rfl
    | access here act =>
      cases (Function.update_self ..).symm.trans arrives
      exact .access here act
  · exact .stays ((step.running_other self).mp arrives)

/-- **How a thread comes into a wait set**: it was there, or it took the wait. -/
theorem Step.waiting_arrival {s s' : State Shared Cond Loc Tid} {l : Label Loc Tid}
    (step : prog.Step s l s') {t : Tid} {cond : Cond} {resume : Loc}
    (waits : s'.thread t = .waiting cond resume) :
    s.thread t = .waiting cond resume ∨
      ∃ loc, s.thread t = .running loc ∧ prog.instr s.shared loc = .wait cond resume := by
  by_cases self : t = l.actor
  · subst self
    cases step with
    | wait here act =>
      cases (Function.update_self ..).symm.trans waits
      exact Or.inr ⟨_, here, act⟩
    | notifyAll here act =>
      simp only [Label.actor, Function.update_self] at waits
      cases waits
    | _ => cases (Function.update_self ..).symm.trans waits
  · exact Or.inl (step.waiting_other self waits)

/-- **The resumption rule**: a thread that waits or was notified resumes where the program's waits
resume. -/
theorem Step.resumesAt {P : Loc → Prop}
    (waits : ∀ {shared loc cond n}, prog.instr shared loc = .wait cond n → P n)
    {s s' : State Shared Cond Loc Tid} {l : Label Loc Tid} (step : prog.Step s l s')
    (before : ∀ t, ResumesAt P (s.thread t)) (u : Tid) : ResumesAt P (s'.thread u) := by
  cases step with
  | wait here act =>
    refine resumesAt_update before ?_ u
    exact waits act
  | notifyAll here act =>
    refine resumesAt_update (fun v => resumesAt_wake (before v)) ?_ u
    trivial
  | _ =>
    refine resumesAt_update before ?_ u
    trivial

/-! ### Mutual exclusion -/

section Exclusion

variable (prog)

/-- The critical sections of the program are bracketed by its lock and unlock actions. -/
structure Lawful : Prop where
  lock : ∀ {shared loc n}, prog.instr shared loc = .lock n →
    prog.inside loc = false ∧ prog.inside n = true
  unlock : ∀ {shared loc n}, prog.instr shared loc = .unlock n →
    prog.inside loc = true ∧ prog.inside n = false
  wait : ∀ {shared loc cond n}, prog.instr shared loc = .wait cond n →
    prog.inside loc = true ∧ prog.inside n = true
  notifyAll : ∀ {shared loc cond n}, prog.instr shared loc = .notifyAll cond n →
    prog.inside n = prog.inside loc
  access : ∀ {shared loc shared' n}, prog.instr shared loc = .access shared' n →
    prog.inside n = prog.inside loc
  entry : ∀ {rest loc}, prog.entry rest loc = true →
    prog.inside rest = false ∧ prog.inside loc = false

/-- The status of a thread inside a critical section. -/
def Inside (status : Status Cond Loc) : Prop :=
  ∃ loc, status = .running loc ∧ prog.inside loc = true

/-- **Mutual exclusion**: the owner of the mutex is the thread inside a critical section, and a
thread that was notified resumes inside. -/
structure Exclusive (s : State Shared Cond Loc Tid) : Prop where
  owner : ∀ t, s.owner = some t ↔ prog.Inside (s.thread t)
  resumes : ∀ t, ResumesAt (fun loc => prog.inside loc = true) (s.thread t)

end Exclusion

theorem inside_running {loc : Loc} :
    prog.Inside (.running loc) ↔ prog.inside loc = true := by
  simp [Inside]

theorem not_inside_waiting {cond : Cond} {resume : Loc} :
    ¬ prog.Inside (.waiting cond resume) := by
  simp [Inside]

theorem inside_wake {cond : Cond} {status : Status Cond Loc} :
    prog.Inside (wake cond status) ↔ prog.Inside status := by
  simp only [Inside, wake_eq_running]

/-- Two threads inside critical sections are the same thread. -/
theorem Exclusive.unique {s : State Shared Cond Loc Tid} (exclusive : prog.Exclusive s) {t u : Tid}
    (left : prog.Inside (s.thread t)) (right : prog.Inside (s.thread u)) : u = t := by
  have owned := (exclusive.owner t).mpr left
  rw [(exclusive.owner u).mpr right] at owned
  exact Option.some.inj owned

/-- While the mutex is free no thread is inside a critical section. -/
theorem Exclusive.outside_of_free {s : State Shared Cond Loc Tid} (exclusive : prog.Exclusive s)
    (free : s.owner = none) (t : Tid) : ¬ prog.Inside (s.thread t) := fun inside => by
  have owned := (exclusive.owner t).mpr inside
  rw [free] at owned
  cases owned

/-- A thread that keeps its side of the mutex leaves exclusion as it was. -/
private theorem exclusive_keep {s : State Shared Cond Loc Tid} {threads : Tid → Status Cond Loc}
    {shared : Shared} {t : Tid} {loc n : Loc} (exclusive : prog.Exclusive s)
    (here : s.thread t = .running loc) (same : prog.inside n = prog.inside loc)
    (others : ∀ u, prog.Inside (threads u) ↔ prog.Inside (s.thread u))
    (resumes : ∀ u, ResumesAt (fun loc => prog.inside loc = true) (threads u)) :
    prog.Exclusive { s with shared := shared
                            thread := Function.update threads t (.running n) } where
  owner u := by
    refine (exclusive.owner u).trans ?_
    show prog.Inside (s.thread u) ↔ prog.Inside (Function.update threads t (.running n) u)
    by_cases self : u = t
    · subst self
      rw [Function.update_self, here, inside_running, inside_running, same]
    · rw [Function.update_of_ne self]
      exact (others u).symm
  resumes := resumesAt_update resumes trivial

/-- The thread that takes the free mutex is its owner. -/
private theorem exclusive_acquire {s : State Shared Cond Loc Tid} {t : Tid} {n : Loc}
    (exclusive : prog.Exclusive s) (free : s.owner = none) (enters : prog.inside n = true) :
    prog.Exclusive { s with owner := some t
                            thread := Function.update s.thread t (.running n) } where
  owner u := by
    by_cases self : u = t
    · subst self
      simp [Function.update_self, inside_running, enters]
    · have other : (some t : Option Tid) ≠ some u := fun same =>
        self (Option.some.inj same).symm
      simp only [Function.update_of_ne self]
      exact ⟨fun same => absurd same other,
        fun inside => absurd inside (exclusive.outside_of_free free u)⟩
  resumes := resumesAt_update exclusive.resumes trivial

/-- The thread that gives the mutex up leaves it free. -/
private theorem exclusive_release {s : State Shared Cond Loc Tid} {t : Tid} {loc : Loc}
    {status : Status Cond Loc} (exclusive : prog.Exclusive s) (here : s.thread t = .running loc)
    (held : prog.inside loc = true) (leaves : ¬ prog.Inside status)
    (resumes : ResumesAt (fun loc => prog.inside loc = true) status) :
    prog.Exclusive { s with owner := none
                            thread := Function.update s.thread t status } where
  owner u := by
    have mine : prog.Inside (s.thread t) := ⟨loc, here, held⟩
    by_cases self : u = t
    · subst self
      simp [Function.update_self, leaves]
    · have outside : ¬ prog.Inside (s.thread u) := fun inside =>
        self (exclusive.unique mine inside)
      simp only [Function.update_of_ne self]
      exact ⟨fun same => (by cases same), fun inside => absurd inside outside⟩
  resumes := resumesAt_update exclusive.resumes resumes

/-- **A lawful program keeps mutual exclusion.** -/
theorem exclusive_step (lawful : prog.Lawful) {s s' : State Shared Cond Loc Tid}
    {l : Label Loc Tid} (exclusive : prog.Exclusive s) (step : prog.Step s l s') :
    prog.Exclusive s' := by
  cases step with
  | call here entry =>
    obtain ⟨before, after⟩ := lawful.entry entry
    exact exclusive_keep exclusive here (after.trans before.symm) (fun _ => Iff.rfl)
      exclusive.resumes
  | @relock t resume here free =>
    have resumes := exclusive.resumes t
    rw [here] at resumes
    exact exclusive_acquire exclusive free resumes
  | lock here act free => exact exclusive_acquire exclusive free (lawful.lock act).2
  | unlock here act =>
    obtain ⟨before, after⟩ := lawful.unlock act
    exact exclusive_release exclusive here before (by simp [inside_running, after]) trivial
  | wait here act =>
    obtain ⟨before, after⟩ := lawful.wait act
    exact exclusive_release exclusive here before not_inside_waiting after
  | notifyAll here act =>
    exact exclusive_keep exclusive here (lawful.notifyAll act) (fun _ => inside_wake)
      fun u => resumesAt_wake (exclusive.resumes u)
  | access here act =>
    exact exclusive_keep exclusive here (lawful.access act) (fun _ => Iff.rfl) exclusive.resumes

end Program

end Xplay.Lib.Monitor
