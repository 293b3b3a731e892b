/-
**Threads that share several mutexes and condition variables.**

The threads and their statuses are those of a monitor; here a thread may hold one mutex while it
acquires or waits under another. Each condition variable is used under one mutex (`guard`), which
a wait on it releases and acquires again; any other mutex stays held. What a thread does next may
depend on which thread it is.

* `Program.act` — the next action of a thread: the shared data, its own status, and the effect on
  everybody else (`Effect`: a mutex taken or given up, or the waiters of a condition variable woken).
* `Program.next` — the executable step; `Program.Acts`, `Program.step_of_next` — what it can do.
* `Program.exclusive_step` — a lawful program keeps its mutexes: the owner of each is exactly the
  thread that stands where it is held.
-/

import Xplay.Lib.Monitor

set_option linter.unusedSectionVars false

namespace Xplay.Lib.Locks

open Monitor (Status Label wake ResumesAt resumesAt_wake)

variable {Shared Mutex Cond Loc Tid : Type*}

/-- The next atomic action of a thread. -/
inductive Instr (Shared Mutex Cond Loc : Type*)
  | lock (m : Mutex) (next : Loc)
  | unlock (m : Mutex) (next : Loc)
  | wait (cond : Cond) (resume : Loc)
  | notifyAll (cond : Cond) (next : Loc)
  | access (shared : Shared) (next : Loc)
  | halt

/-- A program: the action of every thread at every location, the mutexes held there, the mutex of
every condition variable, the mutex a wait acquires again where it resumes, and the calls a thread
may make. -/
structure Program (Shared Mutex Cond Loc Tid : Type*) where
  instr : Tid → Shared → Loc → Instr Shared Mutex Cond Loc
  holds : Mutex → Loc → Bool
  guard : Cond → Mutex
  reacquires : Loc → Mutex
  entry : Tid → Loc → Loc → Bool

/-- The shared data, the owner of every mutex, and every thread. -/
structure State (Shared Mutex Cond Loc Tid : Type*) where
  shared : Shared
  owner : Mutex → Option Tid
  thread : Tid → Status Cond Loc

/-- What an action does to the mutexes and to the other threads. -/
inductive Effect (Mutex Cond : Type*)
  | nothing
  | takes (m : Mutex)
  | gives (m : Mutex)
  | wakes (cond : Cond)

/-- The owners after an action of `t`. -/
def Effect.owner [DecidableEq Mutex] (t : Tid) :
    Effect Mutex Cond → (Mutex → Option Tid) → Mutex → Option Tid
  | .takes m, owner => Function.update owner m (some t)
  | .gives m, owner => Function.update owner m none
  | _, owner => owner

/-- The status of another thread after an action. -/
def Effect.status [DecidableEq Cond] :
    Effect Mutex Cond → Status Cond Loc → Status Cond Loc
  | .wakes cond, status => wake cond status
  | _, status => status

/-- Where a thread is, or resumes. -/
def place : Status Cond Loc → Loc
  | .running loc => loc
  | .waiting _ n => n
  | .relocking n => n

@[simp] theorem place_status [DecidableEq Cond] (effect : Effect Mutex Cond)
    (σ : Status Cond Loc) : place (effect.status σ) = place σ := by
  cases effect with
  | wakes cond =>
    cases σ with
    | waiting c n => simp only [Effect.status, wake]; split_ifs <;> rfl
    | _ => rfl
  | _ => rfl

namespace Program

variable [DecidableEq Mutex] [DecidableEq Cond] [DecidableEq Tid]
variable (prog : Program Shared Mutex Cond Loc Tid)

/-- The next action of the thread of the label, `none` when the label is not enabled. -/
def act (owner : Mutex → Option Tid) (q : Shared) :
    Label Loc Tid → Status Cond Loc → Option (Shared × Status Cond Loc × Effect Mutex Cond)
  | .call t loc, .running rest =>
    if prog.entry t rest loc then some (q, .running loc, .nothing) else none
  | .call _ _, _ => none
  | .step _, .waiting _ _ => none
  | .step _, .relocking n =>
    match owner (prog.reacquires n) with
    | none => some (q, .running n, .takes (prog.reacquires n))
    | some _ => none
  | .step t, .running loc =>
    match prog.instr t q loc with
    | .lock m n =>
      match owner m with
      | none => some (q, .running n, .takes m)
      | some _ => none
    | .unlock m n => some (q, .running n, .gives m)
    | .wait cond n => some (q, .waiting cond n, .gives (prog.guard cond))
    | .notifyAll cond n => some (q, .running n, .wakes cond)
    | .access q' n => some (q', .running n, .nothing)
    | .halt => none

/-- The next state, `none` when the label is not enabled. -/
def next (s : State Shared Mutex Cond Loc Tid) (l : Label Loc Tid) :
    Option (State Shared Mutex Cond Loc Tid) :=
  (prog.act s.owner s.shared l (s.thread l.actor)).map fun (q, status, effect) =>
    { shared := q
      owner := effect.owner l.actor s.owner
      thread := Function.update (fun u => effect.status (s.thread u)) l.actor status }

/-- The program as a transition system. -/
def system : System (State Shared Mutex Cond Loc Tid) (Label Loc Tid) where
  next := prog.next

/-- **What an action can do**, one constructor per action. -/
inductive Acts (owner : Mutex → Option Tid) (q : Shared) :
    Label Loc Tid → Status Cond Loc → Shared → Status Cond Loc → Effect Mutex Cond → Prop
  | call {t rest loc} (entry : prog.entry t rest loc = true) :
      Acts owner q (.call t loc) (.running rest) q (.running loc) .nothing
  | relock {t n} (free : owner (prog.reacquires n) = none) :
      Acts owner q (.step t) (.relocking n) q (.running n) (.takes (prog.reacquires n))
  | lock {t loc m n} (act : prog.instr t q loc = .lock m n) (free : owner m = none) :
      Acts owner q (.step t) (.running loc) q (.running n) (.takes m)
  | unlock {t loc m n} (act : prog.instr t q loc = .unlock m n) :
      Acts owner q (.step t) (.running loc) q (.running n) (.gives m)
  | wait {t loc cond n} (act : prog.instr t q loc = .wait cond n) :
      Acts owner q (.step t) (.running loc) q (.waiting cond n) (.gives (prog.guard cond))
  | notifyAll {t loc cond n} (act : prog.instr t q loc = .notifyAll cond n) :
      Acts owner q (.step t) (.running loc) q (.running n) (.wakes cond)
  | access {t loc q' n} (act : prog.instr t q loc = .access q' n) :
      Acts owner q (.step t) (.running loc) q' (.running n) .nothing

variable {prog}

theorem acts_of_act {owner : Mutex → Option Tid} {q q' : Shared} {l : Label Loc Tid}
    {σ σ' : Status Cond Loc} {effect : Effect Mutex Cond}
    (enabled : prog.act owner q l σ = some (q', σ', effect)) :
    prog.Acts owner q l σ q' σ' effect := by
  cases l with
  | call t loc =>
    cases σ with
    | running rest =>
      simp only [act] at enabled
      split_ifs at enabled with entry
      cases enabled
      exact .call entry
    | _ => cases enabled
  | step t =>
    cases σ with
    | waiting cond n => cases enabled
    | relocking n =>
      simp only [act] at enabled
      split at enabled
      case h_1 free => cases enabled; exact .relock free
      case h_2 => cases enabled
    | running loc =>
      simp only [act] at enabled
      split at enabled
      case h_1 m n act =>
        split at enabled
        case h_1 free => cases enabled; exact .lock act free
        case h_2 => cases enabled
      case h_2 m n act => cases enabled; exact .unlock act
      case h_3 cond n act => cases enabled; exact .wait act
      case h_4 cond n act => cases enabled; exact .notifyAll act
      case h_5 q'' n act => cases enabled; exact .access act
      case h_6 => cases enabled

/-- **Only an access changes the shared data.** -/
theorem Acts.shared {owner : Mutex → Option Tid} {q q' : Shared} {l : Label Loc Tid}
    {σ σ' : Status Cond Loc} {effect : Effect Mutex Cond}
    (acts : prog.Acts owner q l σ q' σ' effect) :
    q' = q ∨ ∃ loc n, prog.instr l.actor q loc = .access q' n ∧
      σ = .running loc ∧ σ' = .running n := by
  cases acts with
  | access act => exact Or.inr ⟨_, _, act, rfl, rfl⟩
  | _ => exact Or.inl rfl

variable (prog) in
/-- **A step**: the action of the thread that takes it, and its effect on the rest. -/
structure Step (s : State Shared Mutex Cond Loc Tid) (l : Label Loc Tid)
    (s' : State Shared Mutex Cond Loc Tid) (effect : Effect Mutex Cond) : Prop where
  acts : prog.Acts s.owner s.shared l (s.thread l.actor) s'.shared (s'.thread l.actor) effect
  owner : s'.owner = effect.owner l.actor s.owner
  other : ∀ u, u ≠ l.actor → s'.thread u = effect.status (s.thread u)

theorem step_of_next {s s' : State Shared Mutex Cond Loc Tid} {l : Label Loc Tid}
    (enabled : prog.next s l = some s') : ∃ effect, prog.Step s l s' effect := by
  obtain ⟨⟨q, status, effect⟩, acts, rfl⟩ := Option.map_eq_some_iff.mp enabled
  refine ⟨effect, ?_, rfl, fun u other => by simp only [Function.update_of_ne other]⟩
  simp only [Function.update_self]
  exact acts_of_act acts

/-! ### Threads that can step -/

variable (prog) in
/-- The thread can take its next step. -/
def Enabled (s : State Shared Mutex Cond Loc Tid) (t : Tid) : Prop :=
  ∃ s', prog.next s (.step t) = some s'

/-- An action that acquires no mutex, or a free one, can be taken. -/
def Ready (owner : Mutex → Option Tid) : Instr Shared Mutex Cond Loc → Prop
  | .lock m _ => owner m = none
  | .halt => False
  | _ => True

theorem enabled_running {s : State Shared Mutex Cond Loc Tid} {t : Tid} {loc : Loc}
    (here : s.thread t = .running loc) (ready : Ready s.owner (prog.instr t s.shared loc)) :
    prog.Enabled s t := by
  cases act : prog.instr t s.shared loc with
  | lock m n =>
    rw [act] at ready
    simp [Enabled, next, Label.actor, Program.act, here, act, show s.owner m = none from ready]
  | halt =>
    rw [act] at ready
    cases ready
  | _ => simp [Enabled, next, Label.actor, Program.act, here, act]

theorem enabled_relocking {s : State Shared Mutex Cond Loc Tid} {t : Tid} {n : Loc}
    (here : s.thread t = .relocking n) (free : s.owner (prog.reacquires n) = none) :
    prog.Enabled s t := by
  simp [Enabled, next, Label.actor, Program.act, here, free]

/-- **The resumption rule**: a thread that waits or was notified resumes where the program's waits
resume. -/
theorem Step.resumesAt {P : Loc → Prop}
    (waits : ∀ {t q loc cond n}, prog.instr t q loc = .wait cond n → P n)
    {s s' : State Shared Mutex Cond Loc Tid} {l : Label Loc Tid} {effect : Effect Mutex Cond}
    (step : prog.Step s l s' effect) (before : ∀ t, ResumesAt P (s.thread t)) (u : Tid) :
    ResumesAt P (s'.thread u) := by
  by_cases self : u = l.actor
  · subst self
    have acts := step.acts
    generalize s'.shared = q', s.thread l.actor = σ, s'.thread l.actor = σ' at acts ⊢
    cases acts with
    | wait act => exact waits act
    | _ => trivial
  · rw [step.other u self]
    cases effect with
    | wakes cond => exact resumesAt_wake (before u)
    | _ => exact before u

/-! ### Mutual exclusion -/

variable (prog)

/-- The location has the same mutexes as another. -/
def SameHolds (n loc : Loc) : Prop := ∀ m, prog.holds m n = prog.holds m loc

/-- The mutexes held at the locations are those its actions take and give up. -/
structure Lawful : Prop where
  lock : ∀ {t q loc m n}, prog.instr t q loc = .lock m n →
    prog.holds m loc = false ∧ prog.holds m n = true ∧
      ∀ m', m' ≠ m → prog.holds m' n = prog.holds m' loc
  unlock : ∀ {t q loc m n}, prog.instr t q loc = .unlock m n →
    prog.holds m loc = true ∧ prog.holds m n = false ∧
      ∀ m', m' ≠ m → prog.holds m' n = prog.holds m' loc
  wait : ∀ {t q loc cond n}, prog.instr t q loc = .wait cond n →
    prog.reacquires n = prog.guard cond ∧ prog.holds (prog.guard cond) loc = true ∧
      prog.SameHolds n loc
  notifyAll : ∀ {t q loc cond n}, prog.instr t q loc = .notifyAll cond n → prog.SameHolds n loc
  access : ∀ {t q loc q' n}, prog.instr t q loc = .access q' n → prog.SameHolds n loc
  entry : ∀ {t rest loc}, prog.entry t rest loc = true → prog.SameHolds loc rest

/-- A thread of the status holds the mutex. -/
def Holds (m : Mutex) : Status Cond Loc → Prop
  | .running loc => prog.holds m loc = true
  | .waiting _ n => prog.holds m n = true ∧ m ≠ prog.reacquires n
  | .relocking n => prog.holds m n = true ∧ m ≠ prog.reacquires n

/-- **Mutual exclusion**: the owner of a mutex is the thread that stands where it is held, and a
thread that waits resumes where it holds the mutex it acquires again. -/
structure Exclusive (s : State Shared Mutex Cond Loc Tid) : Prop where
  owner : ∀ m t, s.owner m = some t ↔ prog.Holds m (s.thread t)
  resumes : ∀ t, ResumesAt (fun n => prog.holds (prog.reacquires n) n = true) (s.thread t)

variable {prog}

theorem holds_wake {m : Mutex} {cond : Cond} {σ : Status Cond Loc} :
    prog.Holds m (wake cond σ) ↔ prog.Holds m σ := by
  cases σ with
  | waiting c n => simp only [wake]; split_ifs <;> rfl
  | _ => rfl

theorem holds_status {m : Mutex} {effect : Effect Mutex Cond} {σ : Status Cond Loc} :
    prog.Holds m (effect.status σ) ↔ prog.Holds m σ := by
  cases effect with
  | wakes cond => exact holds_wake
  | _ => rfl

/-- Two threads that hold one mutex are the same thread. -/
theorem Exclusive.unique {s : State Shared Mutex Cond Loc Tid} (exclusive : prog.Exclusive s)
    {m : Mutex} {t u : Tid} (left : prog.Holds m (s.thread t)) (right : prog.Holds m (s.thread u)) :
    t = u := by
  have owned := (exclusive.owner m t).mpr left
  rw [(exclusive.owner m u).mpr right] at owned
  exact (Option.some.inj owned).symm

/-- **What an action does to the mutexes of its thread**, and to their owners. -/
theorem acts_holds (lawful : prog.Lawful) {owner : Mutex → Option Tid} {q q' : Shared}
    {l : Label Loc Tid} {σ σ' : Status Cond Loc} {effect : Effect Mutex Cond}
    (acts : prog.Acts owner q l σ q' σ' effect)
    (resumes : ResumesAt (fun n => prog.holds (prog.reacquires n) n = true) σ) :
    match effect with
    | .takes m => owner m = none ∧ prog.Holds m σ' ∧
        ∀ m', m' ≠ m → (prog.Holds m' σ' ↔ prog.Holds m' σ)
    | .gives m => prog.Holds m σ ∧ ¬ prog.Holds m σ' ∧
        ∀ m', m' ≠ m → (prog.Holds m' σ' ↔ prog.Holds m' σ)
    | _ => ∀ m, prog.Holds m σ' ↔ prog.Holds m σ := by
  cases acts with
  | call entry =>
    intro m
    simp only [Holds, lawful.entry entry m]
  | relock free =>
    refine ⟨free, resumes, fun m' other => ?_⟩
    simp only [Holds, other, ne_eq, not_false_eq_true, and_true]
  | lock act free =>
    obtain ⟨-, after, same⟩ := lawful.lock act
    exact ⟨free, after, fun m' other => by simp only [Holds, same m' other]⟩
  | unlock act =>
    obtain ⟨before, after, same⟩ := lawful.unlock act
    exact ⟨before, by simp [Holds, after], fun m' other => by simp only [Holds, same m' other]⟩
  | wait act =>
    obtain ⟨reacquires, before, same⟩ := lawful.wait act
    refine ⟨before, by simp [Holds, reacquires], fun m' other => ?_⟩
    simp only [Holds, same m', reacquires, other, ne_eq, not_false_eq_true, and_true]
  | notifyAll act =>
    intro m
    simp only [Holds, lawful.notifyAll act m]
  | access act =>
    intro m
    simp only [Holds, lawful.access act m]

/-- A wait of a lawful program resumes where the mutex it acquires again is held. -/
theorem Lawful.resumes (lawful : prog.Lawful) {t : Tid} {q : Shared} {loc n : Loc} {cond : Cond}
    (act : prog.instr t q loc = .wait cond n) : prog.holds (prog.reacquires n) n = true := by
  obtain ⟨reacquires, before, same⟩ := lawful.wait act
  rw [reacquires, same]
  exact before

/-- **A lawful program keeps mutual exclusion.** -/
theorem exclusive_step (lawful : prog.Lawful) {s s' : State Shared Mutex Cond Loc Tid}
    {l : Label Loc Tid} {effect : Effect Mutex Cond} (exclusive : prog.Exclusive s)
    (step : prog.Step s l s' effect) : prog.Exclusive s' where
  owner m u := by
    have held := acts_holds lawful step.acts (exclusive.resumes l.actor)
    have mine : ∀ m', prog.Holds m' (s.thread l.actor) ↔ s.owner m' = some l.actor := fun m' =>
      (exclusive.owner m' l.actor).symm
    rw [step.owner]
    by_cases self : u = l.actor
    · subst self
      cases effect with
      | takes m' =>
        obtain ⟨-, after, same⟩ := held
        by_cases this : m = m'
        · subst this
          simp [Effect.owner, after]
        · simp only [Effect.owner, Function.update_of_ne this, same m this, mine]
      | gives m' =>
        obtain ⟨-, after, same⟩ := held
        by_cases this : m = m'
        · subst this
          simp [Effect.owner, after]
        · simp only [Effect.owner, Function.update_of_ne this, same m this, mine]
      | _ => exact (mine m).symm.trans (held m).symm
    · rw [step.other u self, holds_status, ← exclusive.owner m u]
      have different : ¬ l.actor = u := fun same => self same.symm
      cases effect with
      | takes m' =>
        by_cases this : m = m'
        · subst this
          simp [Effect.owner, held.1, different]
        · simp only [Effect.owner, Function.update_of_ne this]
      | gives m' =>
        by_cases this : m = m'
        · subst this
          simp [Effect.owner, (mine m).mp held.1, different]
        · simp only [Effect.owner, Function.update_of_ne this]
      | _ => rfl
  resumes := step.resumesAt lawful.resumes exclusive.resumes

end Program

end Xplay.Lib.Locks
