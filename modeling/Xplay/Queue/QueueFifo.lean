/-
**`Queue<T>` is a bounded FIFO that drains after `finished`.**

`Fifo` is the invariant of every interleaving: the accepted values are the taken ones followed by
the stored ones, the capacity is respected, a `pop` that saw no value stands at an empty queue, and
a `pop` that returns false has seen `_quit` or leaves the queue `Closed`.

`Closed` is what the drain argument rests on. The `pop` that reads `_finished` holds the mutex, so
no `push` stands between its flag check and its enqueue (`pushSize`); from then on every `push`
reads the flag and returns false, although `finished` stored it without the mutex.

`Pushing` and `Popping` tie the two histories to the calls: what a call returns is what its own steps
have recorded (`pushing_run`, `popping_run`).
-/

import Xplay.Lib.History
import Xplay.Queue.Queue
import Mathlib.Tactic.Common

set_option linter.unusedSectionVars false

namespace Xplay.Queue

open Lib Lib.Monitor

variable {T Tid : Type} [DecidableEq Tid] {sizeMax : Nat}

/-- A `pop` that saw no value and still holds the mutex. -/
def SawEmpty (status : Status Cond (Loc T)) : Prop :=
  status = .running .popFinished ∨ status = .running .popWait

/-- A `pop` that returns, or has returned, false. -/
def Failed (status : Status Cond (Loc T)) : Prop :=
  status = .running (.popUnlock none) ∨ status = .running (.popDone none)

/-- No value is stored, and no `push` can store one any more. -/
structure Closed (s : State T Tid) : Prop where
  finished : s.shared.finished = true
  drained : s.shared.queue = []
  noPush : ∀ t data, s.thread t ≠ .running (.pushSize data)

/-- **The invariant of every interleaving.** -/
structure Fifo (sizeMax : Nat) (s : State T Tid) : Prop where
  exclusive : (program T sizeMax).Exclusive s
  resumes : ∀ t, ResumesAt LoopHead (s.thread t)
  order : s.shared.accepted = s.shared.taken ++ s.shared.queue
  bounded : s.shared.queue.length ≤ sizeMax
  sawEmpty : ∀ t, SawEmpty (s.thread t) → s.shared.queue = []
  closed : ∀ t, Failed (s.thread t) → s.shared.quit = true ∨ Closed s

theorem fifo_start : Fifo sizeMax (start T Tid) where
  exclusive := exclusive_start
  resumes _ := trivial
  order := rfl
  bounded := Nat.zero_le _
  sawEmpty _ saw := by simp [SawEmpty, start] at saw
  closed _ failed := by simp [Failed, start] at failed

/-! ### The data under one step -/

theorem order_step {s s' : State T Tid} {l : Label T Tid} (step : (program T sizeMax).Step s l s')
    (order : s.shared.accepted = s.shared.taken ++ s.shared.queue) :
    s'.shared.accepted = s'.shared.taken ++ s'.shared.queue := by
  cases step with
  | access here act =>
    cases access_of_instr act with
    | enqueue room => simp only [order, List.append_assoc]
    | dequeue front => simp only [order, front, List.append_assoc, List.singleton_append]
    | _ => exact order
  | _ => exact order

theorem bounded_step {s s' : State T Tid} {l : Label T Tid}
    (step : (program T sizeMax).Step s l s') (bounded : s.shared.queue.length ≤ sizeMax) :
    s'.shared.queue.length ≤ sizeMax := by
  cases step with
  | access here act =>
    cases access_of_instr act with
    | enqueue room =>
      rw [List.length_append, List.length_singleton]
      exact room
    | dequeue front =>
      rw [front, List.length_cons] at bounded
      exact Nat.le_of_succ_le bounded
    | _ => exact bounded
  | _ => exact bounded

/-- `_quit` is never cleared. -/
theorem quit_step {s s' : State T Tid} {l : Label T Tid} (step : (program T sizeMax).Step s l s')
    (quit : s.shared.quit = true) : s'.shared.quit = true := by
  cases step with
  | access here act =>
    cases access_of_instr act with
    | quit => rfl
    | _ => exact quit
  | _ => exact quit

/-- `_finished` is never cleared. -/
theorem finished_step {s s' : State T Tid} {l : Label T Tid}
    (step : (program T sizeMax).Step s l s') (finished : s.shared.finished = true) :
    s'.shared.finished = true := by
  cases step with
  | access here act =>
    cases access_of_instr act with
    | finished => rfl
    | _ => exact finished
  | _ => exact finished

/-- **Only a `push` past its flag checks stores a value**: without one an empty queue stays empty
and nothing is accepted. -/
theorem drained_step {s s' : State T Tid} {l : Label T Tid}
    (step : (program T sizeMax).Step s l s') (drained : s.shared.queue = [])
    (noPush : ∀ t data, s.thread t ≠ .running (.pushSize data)) :
    s'.shared.queue = [] ∧ s'.shared.accepted = s.shared.accepted := by
  cases step with
  | access here act =>
    cases access_of_instr act with
    | enqueue room => exact absurd here (noPush _ _)
    | dequeue front =>
      rw [drained] at front
      cases front
    | _ => exact ⟨drained, rfl⟩
  | _ => exact ⟨drained, rfl⟩

/-! ### Where the threads come from -/

/-- The locations a thread reaches only by an access: the tests between a loop head and the
queue operation or the wait. -/
def Inner : Loc T → Bool
  | .pushFinished _ | .pushSize _ | .popEmpty | .popFinished | .popWait => true
  | _ => false

theorem inner_arrival {s s' : State T Tid} {l : Label T Tid} {t : Tid} {loc : Loc T}
    (inner : Inner loc = true)
    (arrival : (program T sizeMax).Arrival s l s' t loc) (resumes : ResumesAt LoopHead (s.thread t)) :
    s.thread t = .running loc ∨
      ∃ origin, s.thread t = .running origin ∧ Access sizeMax s.shared origin s'.shared loc := by
  cases arrival with
  | stays here => exact Or.inl here
  | call here entry => cases loc <;> simp [program, calling, Inner] at entry inner
  | relock here =>
    rw [here] at resumes
    cases loc <;> simp [ResumesAt, LoopHead, Inner] at resumes inner
  | lock here act => cases locks_of_instr act <;> cases inner
  | unlock here act => cases unlocks_of_instr act <;> cases inner
  | notifyAll here act mine silent => cases notifies_of_instr act <;> cases inner
  | access here act => exact Or.inr ⟨_, here, access_of_instr act⟩

/-- A thread reaches `pushSize` only past a clear `_finished`. -/
theorem pushSize_arrival {s s' : State T Tid} {l : Label T Tid} {t : Tid} {data : T}
    (arrival : (program T sizeMax).Arrival s l s' t (.pushSize data))
    (resumes : ResumesAt LoopHead (s.thread t)) :
    s.thread t = .running (.pushSize data) ∨ s.shared.finished = false := by
  rcases inner_arrival rfl arrival resumes with here | ⟨origin, here, access⟩
  · exact Or.inl here
  · generalize s'.shared = q' at access
    cases access with
    | pushCheck clear => exact Or.inr clear

/-- A `pop` that saw no value saw it in this step, or stood there before. -/
theorem sawEmpty_arrival {s s' : State T Tid} {l : Label T Tid} {t : Tid} {loc : Loc T}
    (saw : SawEmpty (.running loc : Status Cond (Loc T)))
    (arrival : (program T sizeMax).Arrival s l s' t loc)
    (resumes : ResumesAt LoopHead (s.thread t)) :
    SawEmpty (s.thread t) ∨ s'.shared.queue = [] := by
  have atLoc : loc = .popFinished ∨ loc = .popWait := by simpa [SawEmpty] using saw
  have inner : Inner loc = true := by rcases atLoc with rfl | rfl <;> rfl
  rcases inner_arrival inner arrival resumes with here | ⟨origin, here, access⟩
  · exact Or.inl (here ▸ saw)
  · generalize s'.shared = q' at access
    rcases atLoc with rfl | rfl
    · cases access with
      | popEmpty nothing => exact Or.inr nothing
    · cases access with
      | popCheck clear => exact Or.inl (Or.inl here)

/-- A `pop` that fails read `_quit`, or read `_finished` at an empty queue, or had failed before. -/
theorem failed_arrival {s s' : State T Tid} {l : Label T Tid} {t : Tid} {loc : Loc T}
    (failed : Failed (.running loc : Status Cond (Loc T)))
    (arrival : (program T sizeMax).Arrival s l s' t loc)
    (resumes : ResumesAt LoopHead (s.thread t)) :
    Failed (s.thread t) ∨ s.shared.quit = true ∨
      s.thread t = .running .popFinished ∧ s.shared.finished = true := by
  have atLoc : loc = .popUnlock none ∨ loc = .popDone none := by simpa [Failed] using failed
  cases arrival with
  | stays here => exact Or.inl (here ▸ failed)
  | call here entry => rcases atLoc with rfl | rfl <;> simp [program, calling] at entry
  | relock here =>
    rw [here] at resumes
    rcases atLoc with rfl | rfl <;> cases resumes
  | lock here act => rcases atLoc with rfl | rfl <;> cases locks_of_instr act
  | unlock here act =>
    rcases atLoc with rfl | rfl
    · cases unlocks_of_instr act
    · cases unlocks_of_instr act with
      | pop => exact Or.inl (Or.inl here)
  | notifyAll here act mine silent => rcases atLoc with rfl | rfl <;> cases notifies_of_instr act
  | access here act =>
    have access := access_of_instr act
    generalize s'.shared = q' at access
    rcases atLoc with rfl | rfl
    · cases access with
      | popQuit isSet => exact Or.inr (Or.inl isSet)
      | popFinished isSet => exact Or.inr (Or.inr ⟨here, isSet⟩)
    · cases access

/-! ### The invariant -/

/-- **A closed queue stays closed**, and accepts nothing. -/
theorem closed_step {s s' : State T Tid} {l : Label T Tid}
    (step : (program T sizeMax).Step s l s') (resumes : ∀ t, ResumesAt LoopHead (s.thread t))
    (closed : Closed s) : Closed s' ∧ s'.shared.accepted = s.shared.accepted := by
  obtain ⟨drained, accepted⟩ := drained_step step closed.drained closed.noPush
  refine ⟨⟨finished_step step closed.finished, drained, fun t data arrives => ?_⟩, accepted⟩
  rcases pushSize_arrival (step.arrival arrives) (resumes t) with before | clear
  · exact closed.noPush t data before
  · rw [closed.finished] at clear
    cases clear

/-- While a `pop` that saw no value holds the mutex, no `push` is past its flag checks. -/
theorem Fifo.noPush {s : State T Tid} (fifo : Fifo sizeMax s) {t : Tid}
    (saw : SawEmpty (s.thread t)) (u : Tid) (data : T) :
    s.thread u ≠ .running (.pushSize data) := by
  intro there
  have held : (program T sizeMax).Inside (s.thread t) := by
    rcases saw with here | here <;> exact ⟨_, here, rfl⟩
  have same : u = t := fifo.exclusive.unique held ⟨_, there, rfl⟩
  rw [← same, there] at saw
  simp [SawEmpty] at saw

/-- **The step lemma**: one step of any thread keeps the invariant. -/
theorem fifo_step {s s' : State T Tid} {l : Label T Tid} (step : (program T sizeMax).Step s l s')
    (fifo : Fifo sizeMax s) : Fifo sizeMax s' where
  exclusive := Program.exclusive_step lawful fifo.exclusive step
  resumes := step.resumesAt loopHead_of_wait fifo.resumes
  order := order_step step fifo.order
  bounded := bounded_step step fifo.bounded
  sawEmpty t saw := by
    obtain ⟨loc, arrives⟩ : ∃ loc, s'.thread t = .running loc := by
      rcases saw with arrives | arrives <;> exact ⟨_, arrives⟩
    rw [arrives] at saw
    rcases sawEmpty_arrival saw (step.arrival arrives) (fifo.resumes t) with before | nothing
    · exact (drained_step step (fifo.sawEmpty t before) (fifo.noPush before)).1
    · exact nothing
  closed t failed := by
    obtain ⟨loc, arrives⟩ : ∃ loc, s'.thread t = .running loc := by
      rcases failed with arrives | arrives <;> exact ⟨_, arrives⟩
    rw [arrives] at failed
    have keep : Closed s → Closed s' := fun closed => (closed_step step fifo.resumes closed).1
    rcases failed_arrival failed (step.arrival arrives) (fifo.resumes t) with
      before | quit | ⟨here, isSet⟩
    · exact (fifo.closed t before).imp (quit_step step) keep
    · exact Or.inl (quit_step step quit)
    · exact Or.inr (keep ⟨isSet, fifo.sawEmpty t (Or.inl here), fifo.noPush (Or.inl here)⟩)

/-- **The run lemma**: the invariant holds in every reachable state. -/
theorem fifo_run {s : State T Tid} {labels : List (Label T Tid)}
    (run : (system T Tid sizeMax).run (start T Tid) labels = some s) : Fifo sizeMax s :=
  System.invariant_run (I := Fifo sizeMax)
    (fun _ _ _ fifo enabled => fifo_step (Program.step_of_next enabled) fifo) run fifo_start

/-- A closed queue accepts nothing in any continuation. -/
theorem closed_run {s u : State T Tid} {more : List (Label T Tid)} (fifo : Fifo sizeMax s)
    (closed : Closed s) (run : (system T Tid sizeMax).run s more = some u) :
    u.shared.accepted = s.shared.accepted := by
  have kept : Fifo sizeMax u ∧ Closed u ∧ u.shared.accepted = s.shared.accepted :=
    System.invariant_run
      (I := fun v => Fifo sizeMax v ∧ Closed v ∧ v.shared.accepted = s.shared.accepted)
      (fun v l w inv enabled => by
        have step := Program.step_of_next enabled
        obtain ⟨still, same⟩ := closed_step step inv.1.resumes inv.2.1
        exact ⟨fifo_step step inv.1, still, same.trans inv.2.2⟩)
      run ⟨fifo, closed, rfl⟩
  exact kept.2.2

/-! ### What a call records -/

/-- The values that the steps of a thread add to `accepted`. -/
def accepts (t : Tid) (s : State T Tid) (l : Label T Tid) (s' : State T Tid) : List T :=
  if l.actor = t then s'.shared.accepted.drop s.shared.accepted.length else []

/-- The values that the steps of a thread add to `taken`. -/
def takes (t : Tid) (s : State T Tid) (l : Label T Tid) (s' : State T Tid) : List T :=
  if l.actor = t then s'.shared.taken.drop s.shared.taken.length else []

/-- What a `push` of `data` has recorded, by where it stands. -/
def Pushing (data : T) (log : List T) : Loc T → Prop
  | .pushLock d | .pushQuit d | .pushFinished d | .pushSize d => d = data ∧ log = []
  | .pushNotify => log = [data]
  | .pushUnlock ok | .pushDone ok => log = if ok then [data] else []
  | _ => False

/-- What a `pop` has recorded, by where it stands. -/
def Popping (log : List T) : Loc T → Prop
  | .popLock | .popQuit | .popEmpty | .popFinished | .popWait => log = []
  | .popNotify data => log = [data]
  | .popUnlock result | .popDone result => log = result.toList
  | _ => False

theorem pushing_moves {q q' : Data T} {status status' : Status Cond (Loc T)} {t : Tid} {data : T}
    {log : List T} (pushing : Pushing data log status.loc)
    (moves : (program T sizeMax).Moves q status (.step t) q' status') :
    Pushing data (log ++ q'.accepted.drop q.accepted.length) status'.loc := by
  cases moves with
  | relock =>
    rw [List.drop_length, List.append_nil]
    exact pushing
  | lock act => cases locks_of_instr act <;> simp_all [Status.loc, Pushing]
  | unlock act => cases unlocks_of_instr act <;> simp_all [Status.loc, Pushing]
  | wait act => cases waits_of_instr act <;> simp_all [Status.loc, Pushing]
  | notifyAll act => cases notifies_of_instr act <;> simp_all [Status.loc, Pushing]
  | access act => cases access_of_instr act <;> simp_all [Status.loc, Pushing]

theorem popping_moves {q q' : Data T} {status status' : Status Cond (Loc T)} {t : Tid}
    {log : List T} (popping : Popping log status.loc)
    (moves : (program T sizeMax).Moves q status (.step t) q' status') :
    Popping (log ++ q'.taken.drop q.taken.length) status'.loc := by
  cases moves with
  | relock =>
    rw [List.drop_length, List.append_nil]
    exact popping
  | lock act => cases locks_of_instr act <;> simp_all [Status.loc, Popping]
  | unlock act => cases unlocks_of_instr act <;> simp_all [Status.loc, Popping]
  | wait act => cases waits_of_instr act <;> simp_all [Status.loc, Popping]
  | notifyAll act => cases notifies_of_instr act <;> simp_all [Status.loc, Popping]
  | access act => cases access_of_instr act <;> simp_all [Status.loc, Popping]

/-- **A log of one call**: what every step of the thread keeps between its location and what it has
recorded, the run of the call keeps. -/
theorem call_run {t : Tid} {P : List T → Loc T → Prop} (recorded : Data T → List T)
    (moves : ∀ {q q' : Data T} {status status' : Status Cond (Loc T)} {log : List T},
      P log status.loc → (program T sizeMax).Moves q status (.step t) q' status' →
        P (log ++ (recorded q').drop (recorded q).length) status'.loc)
    {s u : State T Tid} {loc : Loc T} {more : List (Label T Tid)} (first : P [] loc)
    (own : ∀ l ∈ more, l.actor = t → l = .step t)
    (run : (system T Tid sizeMax).run s (.call t loc :: more) = some u) :
    P ((system T Tid sizeMax).history (fun s l s' =>
        if l.actor = t then (recorded s'.shared).drop (recorded s.shared).length else [])
      s (.call t loc :: more)) (u.thread t).loc := by
  obtain ⟨middle, calls, rest⟩ := System.run_cons_eq_some _ |>.mp run
  have entered : middle.shared = s.shared ∧ middle.thread t = .running loc := by
    have step : (program T sizeMax).Step s (.call t loc) middle := Program.step_of_next calls
    cases step with
    | call here entry => exact ⟨rfl, Function.update_self ..⟩
  rw [System.history_cons calls, entered.1]
  have nothing : (if (Label.call t loc).actor = t then
      (recorded s.shared).drop (recorded s.shared).length else []) = [] := by simp
  rw [nothing]
  refine System.invariant_history_of _ (I := fun v log => P log (v.thread t).loc)
    (fun v l w log holds own enabled => ?_) own rest [] ?_
  · have step := Program.step_of_next enabled
    by_cases mine : l.actor = t
    · have moved := step.moves
      rw [mine, own mine] at moved
      rw [if_pos mine]
      exact moves holds moved
    · rw [if_neg mine, List.append_nil, step.loc_other fun same => mine same.symm]
      exact holds
  · rw [entered.2]
    exact first

/-- **A `push` that returns true has recorded its value, and no other**; one that returns false has
recorded none. -/
theorem pushing_run {t : Tid} {s u : State T Tid} {data : T} {more : List (Label T Tid)} {ok : Bool}
    (own : ∀ l ∈ more, l.actor = t → l = .step t)
    (run : (system T Tid sizeMax).run s (.call t (.pushLock data) :: more) = some u)
    (returned : u.thread t = .running (.pushDone ok)) :
    (system T Tid sizeMax).history (accepts t) s (.call t (.pushLock data) :: more) =
      if ok then [data] else [] := by
  have first : Pushing data [] (.pushLock data) := ⟨rfl, rfl⟩
  have pushing := call_run Data.accepted pushing_moves first own run
  rwa [returned] at pushing

/-- **A `pop` has recorded the value it returns, and no other.** -/
theorem popping_run {t : Tid} {s u : State T Tid} {more : List (Label T Tid)} {result : Option T}
    (own : ∀ l ∈ more, l.actor = t → l = .step t)
    (run : (system T Tid sizeMax).run s (.call t .popLock :: more) = some u)
    (returned : u.thread t = .running (.popDone result)) :
    (system T Tid sizeMax).history (takes t) s (.call t .popLock :: more) = result.toList := by
  have first : Popping [] (.popLock : Loc T) := rfl
  have popping := call_run Data.taken popping_moves first own run
  rwa [returned] at popping

/-! ### The main result -/

/-- A queue program that is a bounded FIFO and drains: in every interleaving of any threads,

* at most `sizeMax` values are stored;
* the values handed out are a prefix of the accepted ones, in the order of the critical sections;
* between its call and its return, a `push` that returns true has recorded its value as accepted,
  one that returns false none, and a `pop` has recorded as taken what it returns;
* once a `pop` has returned false with `_quit` still clear, every accepted value was handed out
  and no later `push` is accepted. -/
structure DrainingFifo (prog : Program (Data T) Cond (Loc T)) (sizeMax : Nat) (Tid : Type)
    [DecidableEq Tid] : Prop where
  bounded : ∀ labels s, (prog.system Tid).run (start T Tid) labels = some s →
    s.shared.queue.length ≤ sizeMax
  fifo : ∀ labels s, (prog.system Tid).run (start T Tid) labels = some s →
    s.shared.taken <+: s.shared.accepted
  pushes : ∀ s t data more u ok, (∀ l ∈ more, l.actor = t → l = .step t) →
    (prog.system Tid).run s (.call t (.pushLock data) :: more) = some u →
    u.thread t = .running (.pushDone ok) →
      (prog.system Tid).history (accepts t) s (.call t (.pushLock data) :: more) =
        if ok then [data] else []
  pops : ∀ s t more u result, (∀ l ∈ more, l.actor = t → l = .step t) →
    (prog.system Tid).run s (.call t .popLock :: more) = some u →
    u.thread t = .running (.popDone result) →
      (prog.system Tid).history (takes t) s (.call t .popLock :: more) = result.toList
  drains : ∀ labels s t, (prog.system Tid).run (start T Tid) labels = some s →
    s.thread t = .running (.popDone none) → s.shared.quit = false →
    s.shared.taken = s.shared.accepted ∧
      ∀ more u, (prog.system Tid).run s more = some u → u.shared.accepted = s.shared.accepted

theorem drainingFifo (T Tid : Type) [DecidableEq Tid] (sizeMax : Nat) :
    DrainingFifo (program T sizeMax) sizeMax Tid where
  bounded _ _ run := (fifo_run run).bounded
  fifo _ s run := by
    rw [(fifo_run run).order]
    exact List.prefix_append _ _
  pushes _ _ _ _ _ _ own run returned := pushing_run own run returned
  pops _ _ _ _ _ own run returned := popping_run own run returned
  drains labels s t run failed clear := by
    have fifo := fifo_run run
    have closed : Closed s := by
      rcases fifo.closed t (Or.inr failed) with quit | closed
      · rw [clear] at quit
        cases quit
      · exact closed
    refine ⟨?_, fun more u rest => closed_run fifo closed rest⟩
    rw [fifo.order, closed.drained, List.append_nil]

/-- **`Queue<T>` and `XMessageQueue` are bounded FIFOs that drain after `finished`**, whatever the
capacity, the threads and the interleaving. -/
theorem queues_drainingFifo (Tid : Type) [DecidableEq Tid] (sizeMax : Nat) :
    (∀ T, DrainingFifo (program T sizeMax) sizeMax Tid) ∧
      DrainingFifo (XMessageQueue.program sizeMax) sizeMax Tid :=
  ⟨fun T => drainingFifo T Tid sizeMax, drainingFifo XMessage Tid sizeMax⟩

end Xplay.Queue
