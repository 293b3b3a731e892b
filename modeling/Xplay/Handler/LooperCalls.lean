/-
**What the calls of `XLooper` know while they wait.**

`Calls` is the invariant behind the questions of who is waiting for whom:

* while a message is on its way through `push`, `isQuit` is clear: its thread has had the looper's
  mutex since it read the flag, and `quit` needs that mutex;
* a thread waits for room only while the queue is full, or the loop is about to notify it;
* the loop waits for a message only while the queue is empty, or a `push` is about to notify it;
* once `isQuit` is set, so is the queue's `_quit`, or a `quit` is about to store it.
-/

import Xplay.Handler.LooperFifo

set_option linter.unusedSectionVars false

namespace Xplay.XLooper

open Lib Lib.Locks

variable {Tid : Type} [DecidableEq Tid] {looper : Tid}

/-- In `push`, with the looper's mutex. -/
def pushes : Loc → Bool
  | .queue (.pushLock _) | .queue (.pushQuit _) | .queue (.pushFinished _) | .queue (.pushSize _)
  | .queue .pushNotify | .queue (.pushUnlock _) | .queue (.pushDone _) => true
  | _ => false

/-- A `pop` that failed, or the end of the loop. -/
def ended : Loc → Bool
  | .queue (.popUnlock none) | .queue (.popDone none) | .loopDone => true
  | _ => false

/-- In `pop`, past the test that found the queue empty. -/
def sawEmpty : Loc → Bool
  | .queue .popFinished | .queue .popWait => true
  | _ => false

/-- **What the location of a thread says about `isQuit` and the queue.** -/
structure Knows (q : Data Tid) (loc : Loc) : Prop where
  open' : pushes loc = true → q.isQuit = false
  quit : ended loc = true → q.isQuit = true
  empty : sawEmpty loc = true → q.queue.queue = []

/-- **Why a thread waits.** -/
def Awaits (looper : Tid) (s : State Tid) : Monitor.Status Queue.Cond Loc → Prop
  | .waiting .fullQue n =>
    (∃ data, n = .queue (.pushQuit data)) ∧
      (capacity ≤ s.shared.queue.queue.length ∨
        ∃ posted, s.thread looper = .running (.queue (.popNotify posted)))
  | .waiting .empty n =>
    n = .queue .popQuit ∧
      (s.shared.queue.queue = [] ∨ ∃ u, s.thread u = .running (.queue .pushNotify))
  | _ => True

/-- **The invariant of every interleaving.** -/
structure Calls (looper : Tid) (s : State Tid) : Prop where
  delivery : Delivery looper s
  unfinished : s.shared.queue.finished = false
  quit : s.shared.queue.quit = true → s.shared.isQuit = true
  stores : s.shared.isQuit = true →
    s.shared.queue.quit = true ∨ ∃ t, s.thread t = .running (.queue .quitStore)
  knows : ∀ t, Knows s.shared (place (s.thread t))
  awaits : ∀ t, Awaits looper s (s.thread t)

theorem calls_start (objects : Tid → Nat → XMessage) : Calls looper (start looper objects) where
  delivery := delivery_start objects
  unfinished := rfl
  quit set := by cases set
  stores set := by cases set
  knows t := by
    simp only [start]
    split_ifs <;> exact ⟨by rintro ⟨⟩, by rintro ⟨⟩, fun _ => rfl⟩
  awaits t := by
    simp only [start]
    split_ifs <;> trivial

variable {t : Tid} {q q' : Data Tid} {loc n : Loc}

/-! ### The flags -/

theorem unfinished_access (access : Access looper t q loc q' n) (tells : Tells looper q t loc)
    (unfinished : q.queue.finished = false) : q'.queue.finished = false := by
  cases access with
  | queue access =>
    cases access with
    | finished => cases tells
    | _ => exact unfinished
  | _ => exact unfinished

theorem quit_access (access : Access looper t q loc q' n) (tells : Tells looper q t loc)
    (quit : q.queue.quit = true → q.isQuit = true) : q'.queue.quit = true → q'.isQuit = true := by
  cases access with
  | quitFlag => exact fun _ => rfl
  | queue access =>
    cases access with
    | quit => exact fun _ => tells
    | _ => exact quit
  | _ => exact quit

/-- A thread in `push` holds the looper's mutex, whether it waits or not. -/
theorem holds_of_pushes {σ : Monitor.Status Queue.Cond Loc} (inside : pushes (place σ) = true) :
    (program looper : Program (Data Tid) Mutex Queue.Cond Loc Tid).Holds .looper σ := by
  have held : ∀ loc, pushes loc = true → holds .looper loc = true := by
    intro loc inside
    cases loc with
    | queue loc => cases loc <;> first | rfl | cases inside
    | _ => cases inside
  cases σ with
  | running loc => exact held loc inside
  | waiting cond n => exact ⟨held n inside, by rintro ⟨⟩⟩
  | relocking n => exact ⟨held n inside, by rintro ⟨⟩⟩

/-- A thread at `quitFlag` holds the looper's mutex. -/
theorem Calls.noFlag {s : State Tid} (calls : Calls looper s) {t u : Tid}
    (inside : pushes (place (s.thread t)) = true) (flag : s.thread u = .running .quitFlag) :
    t = u := by
  refine calls.delivery.exclusive.unique (holds_of_pushes inside) ?_
  rw [flag]
  rfl

theorem inside_of_sawEmpty {loc : Loc} (saw : sawEmpty loc = true) : holds .queue loc = true := by
  cases loc with
  | queue loc => cases loc <;> first | rfl | cases saw
  | _ => cases saw

theorem notSaw_of_resumes {n : Loc} (resumes : Resumes n) : ¬sawEmpty n = true := by
  cases n with
  | queue loc => cases loc <;> first | exact resumes.elim | exact Bool.false_ne_true
  | _ => cases resumes

/-- The thread that saw the queue empty holds its mutex. -/
theorem Calls.noEnqueue {s : State Tid} (calls : Calls looper s) {t u : Tid} {data : Posted}
    (saw : sawEmpty (place (s.thread t)) = true)
    (size : s.thread u = .running (.queue (.pushSize data))) : t = u := by
  have resumes := calls.delivery.resumes t
  refine calls.delivery.exclusive.unique (m := .queue) ?_ (by rw [size]; rfl)
  cases status : s.thread t with
  | running loc =>
    rw [status] at saw
    exact inside_of_sawEmpty saw
  | waiting cond n =>
    rw [status] at saw resumes
    exact absurd saw (notSaw_of_resumes resumes)
  | relocking n =>
    rw [status] at saw resumes
    exact absurd saw (notSaw_of_resumes resumes)

/-- What a location says about `isQuit` survives another thread's access. -/
theorem Knows.stable {u : Tid} (knows : Knows q n) {loc' n' : Loc}
    (access : Access looper u q loc' q' n') (noFlag : pushes n = true → loc' ≠ .quitFlag)
    (noEnqueue : sawEmpty n = true → ∀ data, loc' ≠ .queue (.pushSize data)) : Knows q' n where
  open' inside := by
    have clear := knows.open' inside
    cases access with
    | quitFlag => exact absurd rfl (noFlag inside)
    | _ => exact clear
  quit done := isQuit_access access (knows.quit done)
  empty saw := by
    have nothing := knows.empty saw
    cases access with
    | queue access =>
      cases access with
      | enqueue room => exact absurd rfl (noEnqueue saw _)
      | dequeue front =>
        rw [nothing] at front
        cases front
      | _ => exact nothing
    | _ => exact nothing

theorem knows_back (q : Data Tid) (looper t : Tid) : Knows q (back looper t) := by
  unfold back
  split_ifs <;> exact ⟨by rintro ⟨⟩, by rintro ⟨⟩, by rintro ⟨⟩⟩

/-- An access keeps what the location of its thread says about `isQuit`. -/
theorem knows_access (access : Access looper t q loc q' n) (knows : Knows q loc)
    (unfinished : q.queue.finished = false) (quit : q.queue.quit = true → q.isQuit = true) :
    Knows q' n := by
  cases access with
  | writing => exact knows_back _ looper t
  | quitDone => exact knows_back _ looper t
  | sendOpen clear => exact ⟨fun _ => clear, by rintro ⟨⟩, by rintro ⟨⟩⟩
  | loopEnds isSet => exact ⟨by rintro ⟨⟩, fun _ => isSet, by rintro ⟨⟩⟩
  | queue access =>
    cases access with
    | pushQuit isSet => exact ⟨knows.open', by rintro ⟨⟩, by rintro ⟨⟩⟩
    | pushOpen clear => exact ⟨knows.open', by rintro ⟨⟩, by rintro ⟨⟩⟩
    | pushFinished isSet => exact ⟨knows.open', by rintro ⟨⟩, by rintro ⟨⟩⟩
    | pushCheck clear => exact ⟨knows.open', by rintro ⟨⟩, by rintro ⟨⟩⟩
    | enqueue room => exact ⟨knows.open', by rintro ⟨⟩, by rintro ⟨⟩⟩
    | popQuit isSet => exact ⟨by rintro ⟨⟩, fun _ => quit isSet, by rintro ⟨⟩⟩
    | popFinished isSet =>
      rw [unfinished] at isSet
      cases isSet
    | popEmpty nothing => exact ⟨by rintro ⟨⟩, by rintro ⟨⟩, fun _ => nothing⟩
    | popCheck clear =>
      exact ⟨by rintro ⟨⟩, by rintro ⟨⟩, fun _ => knows.empty rfl⟩
    | _ => exact ⟨by rintro ⟨⟩, by rintro ⟨⟩, by rintro ⟨⟩⟩
  | _ => exact ⟨by rintro ⟨⟩, by rintro ⟨⟩, by rintro ⟨⟩⟩

/-- So does any other action. -/
theorem knows_acts {owner : Mutex → Option Tid} {l : Label Tid}
    {σ σ' : Monitor.Status Queue.Cond Loc} {effect : Effect Mutex Queue.Cond}
    (acts : (program looper).Acts owner q l σ q' σ' effect) (knows : Knows q (place σ))
    (unfinished : q.queue.finished = false) (quit : q.queue.quit = true → q.isQuit = true) :
    Knows q' (place σ') := by
  have clear : ∀ n, pushes n = false → ended n = false →
      sawEmpty n = false → Knows q n := by
    intro n notPush notEnd notSaw
    exact ⟨by simp [notPush], by simp [notEnd], by simp [notSaw]⟩
  cases acts with
  | @call t rest loc entry =>
    obtain ⟨-, calls⟩ := entry_calling entry
    refine clear loc ?_ ?_ ?_ <;> cases loc <;> first | rfl | cases calls
  | relock free => exact knows
  | lock act free =>
    cases acquires_of_instr act with
    | queue locks =>
      cases locks with
      | push => exact ⟨knows.open', by rintro ⟨⟩, by rintro ⟨⟩⟩
      | _ => exact clear _ rfl rfl rfl
    | _ => exact clear _ rfl rfl rfl
  | unlock act =>
    cases releases_of_instr act with
    | send => exact knows_back _ looper _
    | queue unlocks =>
      cases unlocks with
      | push => exact ⟨knows.open', by rintro ⟨⟩, by rintro ⟨⟩⟩
      | @pop result =>
        cases result with
        | none => exact ⟨by rintro ⟨⟩, knows.quit, by rintro ⟨⟩⟩
        | some posted => exact clear _ rfl rfl rfl
      | length => exact clear _ rfl rfl rfl
    | quit => exact clear _ rfl rfl rfl
  | wait act =>
    obtain ⟨_, _, rfl, rfl, waits⟩ := waits_of_instr act
    cases waits with
    | push full => exact ⟨knows.open', by rintro ⟨⟩, by rintro ⟨⟩⟩
    | pop => exact clear _ rfl rfl rfl
  | notifyAll act =>
    obtain ⟨_, _, rfl, rfl, notifies⟩ := notifies_of_instr act
    cases notifies with
    | push => exact ⟨knows.open', by rintro ⟨⟩, by rintro ⟨⟩⟩
    | _ => exact clear _ rfl rfl rfl
  | access act => exact knows_access (access_of_instr act) knows unfinished quit

/-! ### Who waits for whom -/

/-- A thread that stands at a location is still there after another thread's step. -/
theorem running_other {s s' : State Tid} {l : Label Tid} {effect : Effect Mutex Queue.Cond}
    (step : (program looper).Step s l s' effect) {u : Tid} (other : u ≠ l.actor)
    (here : s.thread u = .running loc) : s'.thread u = .running loc := by
  rw [step.other u other, here]
  cases effect <;> rfl

/-- A thread that waits after another thread's step waited before, and was not notified. -/
theorem waiting_other {s s' : State Tid} {l : Label Tid} {effect : Effect Mutex Queue.Cond}
    (step : (program looper).Step s l s' effect) {u : Tid} (other : u ≠ l.actor)
    {cond : Queue.Cond} (waits : s'.thread u = .waiting cond n) :
    s.thread u = .waiting cond n ∧ effect ≠ .wakes cond := by
  rw [step.other u other] at waits
  cases effect with
  | wakes c =>
    obtain ⟨before, differ⟩ := Monitor.wake_eq_waiting.mp waits
    exact ⟨before, fun same => differ (by injection same with same; exact same.symm)⟩
  | _ => exact ⟨waits, by rintro ⟨⟩⟩

/-- The queue gets shorter only by the loop, which notifies next. -/
theorem length_step {s s' : State Tid} {l : Label Tid} {effect : Effect Mutex Queue.Cond}
    (step : (program looper).Step s l s' effect) (calls : Calls looper s)
    (full : capacity ≤ s.shared.queue.queue.length) :
    capacity ≤ s'.shared.queue.queue.length ∨
      ∃ posted, s'.thread looper = .running (.queue (.popNotify posted)) := by
  rcases step.acts.shared with same | ⟨loc, n, act, here, there⟩
  · exact Or.inl (same ▸ full)
  · have access := access_of_instr act
    have tells := calls.delivery.tells l.actor
    rw [here] at tells
    generalize s'.shared = q' at access
    cases access with
    | queue access =>
      cases access with
      | enqueue room =>
        refine Or.inl ?_
        simp only [List.length_append]
        exact Nat.le_add_right_of_le full
      | dequeue front =>
        have mine : l.actor = looper := tells
        exact Or.inr ⟨_, mine ▸ there⟩
      | _ => exact Or.inl full
    | _ => exact Or.inl full

/-- The queue gets longer only by a `push`, which notifies next. -/
theorem empty_step {s s' : State Tid} {l : Label Tid} {effect : Effect Mutex Queue.Cond}
    (step : (program looper).Step s l s' effect) (nothing : s.shared.queue.queue = []) :
    s'.shared.queue.queue = [] ∨ ∃ u, s'.thread u = .running (.queue .pushNotify) := by
  rcases step.acts.shared with same | ⟨loc, n, act, here, there⟩
  · exact Or.inl (same ▸ nothing)
  · have access := access_of_instr act
    generalize s'.shared = q' at access
    cases access with
    | queue access =>
      cases access with
      | enqueue room => exact Or.inr ⟨_, there⟩
      | dequeue front =>
        rw [nothing] at front
        cases front
      | _ => exact Or.inl nothing
    | _ => exact Or.inl nothing

/-- A thread that is about to notify makes the notification next. -/
theorem notifies_next {s s' : State Tid} {l : Label Tid} {effect : Effect Mutex Queue.Cond}
    (step : (program looper).Step s l s' effect) {at' next : Queue.Loc Posted} {cond : Queue.Cond}
    (here : s.thread l.actor = .running (.queue at')) (notifies : Queue.Notifies at' cond next) :
    effect = .wakes cond := by
  have instr : (program looper).instr l.actor s.shared (.queue at') =
      .notifyAll cond (.queue next) := by
    cases notifies <;> rfl
  have acts := step.acts
  rw [here] at acts
  generalize s'.shared = q', s'.thread l.actor = σ' at acts
  cases acts with
  | call entry =>
    obtain ⟨⟨rest, -⟩ | ⟨rest, -⟩, -⟩ := entry_calling entry
    · cases rest
    · cases rest
  | notifyAll act =>
    cases instr.symm.trans act
    rfl
  | lock act free => cases instr.symm.trans act
  | unlock act => cases instr.symm.trans act
  | wait act => cases instr.symm.trans act
  | access act => cases instr.symm.trans act

/-- The thread that begins to wait has its reason. -/
theorem awaits_own {s s' : State Tid} {l : Label Tid} {effect : Effect Mutex Queue.Cond}
    (step : (program looper).Step s l s' effect) (calls : Calls looper s) :
    Awaits looper s' (s'.thread l.actor) := by
  have acts := step.acts
  have knows := calls.knows l.actor
  generalize status : s.thread l.actor = σ, after : s'.thread l.actor = σ',
    data : s'.shared = q' at acts knows
  cases acts with
  | wait act =>
    obtain ⟨_, _, rfl, rfl, waits⟩ := waits_of_instr act
    cases waits with
    | push full => exact ⟨⟨_, rfl⟩, Or.inl (data ▸ full)⟩
    | pop => exact ⟨rfl, Or.inl (data ▸ knows.empty rfl)⟩
  | _ => trivial

/-- A thread that goes on waiting keeps its reason. -/
theorem awaits_other {s s' : State Tid} {l : Label Tid} {effect : Effect Mutex Queue.Cond}
    (step : (program looper).Step s l s' effect) (calls : Calls looper s) {t : Tid}
    (other : t ≠ l.actor) : Awaits looper s' (s'.thread t) := by
  cases status : s'.thread t with
  | waiting cond n =>
    obtain ⟨before, unnotified⟩ := waiting_other step other status
    have awaits := calls.awaits t
    rw [before] at awaits
    cases cond with
    | fullQue =>
      refine ⟨awaits.1, ?_⟩
      rcases awaits.2 with full | ⟨posted, notifying⟩
      · exact length_step step calls full
      · by_cases mine : looper = l.actor
        · exact absurd (notifies_next step (mine ▸ notifying) .pop) unnotified
        · exact Or.inr ⟨posted, running_other step mine notifying⟩
    | empty =>
      refine ⟨awaits.1, ?_⟩
      rcases awaits.2 with nothing | ⟨u, notifying⟩
      · exact empty_step step nothing
      · by_cases mine : u = l.actor
        · exact absurd (notifies_next step (mine ▸ notifying) .push) unnotified
        · exact Or.inr ⟨u, running_other step mine notifying⟩
  | _ => trivial

/-! ### The invariant -/

/-- The queue's `_quit` is never cleared. -/
theorem queueQuit_access (access : Access looper t q loc q' n) (isSet : q.queue.quit = true) :
    q'.queue.quit = true := by
  cases access with
  | queue access =>
    cases access with
    | quit => rfl
    | _ => exact isSet
  | _ => exact isSet

/-- `isQuit` is set by a `quit` that stores `_quit` next. -/
theorem stores_step {s s' : State Tid} {l : Label Tid} {effect : Effect Mutex Queue.Cond}
    (step : (program looper).Step s l s' effect) (calls : Calls looper s)
    (isQuit : s'.shared.isQuit = true) :
    s'.shared.queue.quit = true ∨ ∃ t, s'.thread t = .running (.queue .quitStore) := by
  have stays : ∀ t, t ≠ l.actor → s.thread t = .running (.queue .quitStore) →
      ∃ t, s'.thread t = .running (.queue .quitStore) := fun t other storing =>
    ⟨t, running_other step other storing⟩
  by_cases before : s.shared.isQuit = true
  · rcases calls.stores before with quit | ⟨t, storing⟩
    · refine Or.inl ?_
      rcases step.acts.shared with same | ⟨loc, n, act, here, there⟩
      · exact same ▸ quit
      · exact queueQuit_access (access_of_instr act) quit
    · by_cases mine : t = l.actor
      · -- the thread at the store takes it
        subst mine
        have acts := step.acts
        rw [storing] at acts
        generalize s'.shared = q', s'.thread l.actor = σ' at acts
        cases acts with
        | call entry =>
          obtain ⟨⟨rest, -⟩ | ⟨rest, -⟩, -⟩ := entry_calling entry
          · cases rest
          · cases rest
        | access act =>
          have access := access_of_instr act
          cases access with
          | queue access => cases access; exact Or.inl rfl
        | lock act free => cases acquires_of_instr act with | queue locks => cases locks
        | unlock act => cases releases_of_instr act with | queue unlocks => cases unlocks
        | wait act =>
          obtain ⟨_, _, here, rfl, waits⟩ := waits_of_instr act
          cases here
          cases waits
        | notifyAll act =>
          obtain ⟨_, _, here, rfl, notifies⟩ := notifies_of_instr act
          cases here
          cases notifies
      · exact Or.inr (stays t mine storing)
  · rcases step.acts.shared with same | ⟨loc, n, act, here, there⟩
    · exact absurd (same ▸ isQuit) before
    · have access := access_of_instr act
      generalize s'.shared = q' at access isQuit
      cases access with
      | quitFlag => exact Or.inr ⟨_, there⟩
      | _ => exact absurd isQuit before

/-- **The step lemma.** -/
theorem calls_step {s s' : State Tid} {l : Label Tid} {effect : Effect Mutex Queue.Cond}
    (step : (program looper).Step s l s' effect) (calls : Calls looper s) : Calls looper s' where
  delivery := delivery_step step calls.delivery
  unfinished := by
    rcases step.acts.shared with same | ⟨loc, n, act, here, there⟩
    · rw [same]
      exact calls.unfinished
    · have tells := calls.delivery.tells l.actor
      rw [here] at tells
      exact unfinished_access (access_of_instr act) tells calls.unfinished
  quit := by
    rcases step.acts.shared with same | ⟨loc, n, act, here, there⟩
    · rw [same]
      exact calls.quit
    · have tells := calls.delivery.tells l.actor
      rw [here] at tells
      exact quit_access (access_of_instr act) tells calls.quit
  stores := stores_step step calls
  knows t := by
    by_cases mine : t = l.actor
    · subst mine
      exact knows_acts step.acts (calls.knows _) calls.unfinished calls.quit
    · rw [step.other t mine, place_status]
      rcases step.acts.shared with same | ⟨loc, n, act, here, there⟩
      · rw [same]
        exact calls.knows t
      · refine (calls.knows t).stable (access_of_instr act) ?_ ?_
        · rintro inside rfl
          exact mine (calls.noFlag inside here)
        · rintro saw data rfl
          exact mine (calls.noEnqueue saw here)
  awaits t := by
    by_cases mine : t = l.actor
    · subst mine
      exact awaits_own step calls
    · exact awaits_other step calls mine

/-- **The run lemma.** -/
theorem calls_run {objects : Tid → Nat → XMessage} {s : State Tid} {labels : List (Label Tid)}
    (run : (system looper).run (start looper objects) labels = some s) : Calls looper s :=
  System.invariant_run (I := Calls looper)
    (fun _ _ _ calls enabled => by
      obtain ⟨effect, step⟩ := Program.step_of_next enabled
      exact calls_step step calls)
    run (calls_start objects)

end Xplay.XLooper
