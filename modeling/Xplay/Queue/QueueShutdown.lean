/-
**Which shutdowns of `Queue<T>` wake every waiter, and which lose one.**

`quit` and `finished` store their flag and notify without `_mutex`, so a thread that read the flags
before the store and has not entered its wait set yet is `Committed`: the notification misses it and
it waits forever. `finished` moreover never notifies `_fullQue`.

* `sealed_step` — once a flag is set, a wait set that is empty with no thread committed to it stays
  so: the flags stop every later arrival.
* `Calm` — the condition on the notifying steps under which they find nobody committed.
* `queues_release_iff_calm` — in a run of calm steps every blocked call is released, and every
  reachable step that is not calm can be continued to a lost wake-up.
-/

import Xplay.Queue.QueueFifo

set_option linter.unusedSectionVars false

namespace Xplay.Queue

open Lib Lib.Monitor

variable {T Tid : Type} [DecidableEq Tid] {sizeMax : Nat}

/-- The thread is in the wait set of the condition variable. -/
def WaitsOn (s : State T Tid) (cond : Cond) (t : Tid) : Prop :=
  ∃ resume, s.thread t = .waiting cond resume

/-- The thread is past the flag checks that would stop it, and its remaining tests send it into the
wait set: a `push` at a full queue, a `pop` at an empty one. -/
def Committed (sizeMax : Nat) (s : State T Tid) : Cond → Tid → Prop
  | .fullQue, t => sizeMax ≤ s.shared.queue.length ∧ ∃ data,
      s.thread t = .running (.pushSize data) ∨
        s.thread t = .running (.pushFinished data) ∧ s.shared.finished = false
  | .empty, t => s.thread t = .running .popWait ∨
      s.shared.finished = false ∧ (s.thread t = .running .popFinished ∨
        s.thread t = .running .popEmpty ∧ s.shared.queue = [])

/-- A flag is set, the wait set is empty, and no thread is committed to it. -/
structure Sealed (sizeMax : Nat) (s : State T Tid) (cond : Cond) : Prop where
  flag : s.shared.quit = true ∨ s.shared.finished = true
  silent : ∀ t, ¬ WaitsOn s cond t
  uncommitted : ∀ t, ¬ Committed sizeMax s cond t

/-! ### Sealed wait sets stay sealed -/

theorem flag_step {s s' : State T Tid} {l : Label T Tid} (step : (program T sizeMax).Step s l s')
    (flag : s.shared.quit = true ∨ s.shared.finished = true) :
    s'.shared.quit = true ∨ s'.shared.finished = true :=
  flag.imp (quit_step step) (finished_step step)

/-- `_finished` is clear only if it was clear. -/
theorem finished_clear {s s' : State T Tid} {l : Label T Tid}
    (step : (program T sizeMax).Step s l s') (clear : s'.shared.finished = false) :
    s.shared.finished = false := by
  cases before : s.shared.finished with
  | false => rfl
  | true =>
    rw [finished_step step before] at clear
    cases clear

/-- **The stored values change only under the mutex**: a thread inside the mutex that did not just
enqueue or dequeue finds them as they were. -/
theorem queue_held {s s' : State T Tid} {l : Label T Tid} (step : (program T sizeMax).Step s l s')
    (exclusive : (program T sizeMax).Exclusive s) {t : Tid}
    (held : (program T sizeMax).Inside (s.thread t))
    (noPush : s'.thread t ≠ .running .pushNotify)
    (noPop : ∀ data, s'.thread t ≠ .running (.popNotify data)) :
    s'.shared.queue = s.shared.queue := by
  cases step with
  | @access u loc shared n here act =>
    have same (inside : inside loc = true) : t = u :=
      exclusive.unique (t := u) ⟨loc, here, inside⟩ held
    cases access_of_instr act with
    | enqueue room =>
      have self := same rfl
      subst self
      exact absurd (Function.update_self ..) noPush
    | dequeue front =>
      have self := same rfl
      subst self
      exact absurd (Function.update_self ..) (noPop _)
    | _ => rfl
  | _ => rfl

/-- A thread that stays inside the mutex at a test of its loop finds the stored values as they
were. -/
theorem queue_stays {s s' : State T Tid} {l : Label T Tid} (step : (program T sizeMax).Step s l s')
    (exclusive : (program T sizeMax).Exclusive s) {t : Tid} {loc : Loc T} (inner : Inner loc = true)
    (before : s.thread t = .running loc) (after : s'.thread t = .running loc) :
    s'.shared.queue = s.shared.queue := by
  have held : inside loc = true := by cases loc <;> first | rfl | cases inner
  refine queue_held step exclusive ⟨loc, before, held⟩ (fun moved => ?_) (fun data moved => ?_)
  · rw [after] at moved
    cases moved
    cases inner
  · rw [after] at moved
    cases moved
    cases inner

/-- Once a flag is set no `push` becomes committed. -/
theorem committed_fullQue_step {s s' : State T Tid} {l : Label T Tid}
    (step : (program T sizeMax).Step s l s') (exclusive : (program T sizeMax).Exclusive s)
    (resumes : ∀ t, ResumesAt LoopHead (s.thread t))
    (flag : s.shared.quit = true ∨ s.shared.finished = true) {t : Tid}
    (committed : Committed sizeMax s' .fullQue t) : Committed sizeMax s .fullQue t := by
  obtain ⟨full, data, arrives | ⟨arrives, clear⟩⟩ := committed
  · rcases inner_arrival rfl (step.arrival arrives) (resumes t) with here | ⟨origin, here, access⟩
    · rw [queue_stays step exclusive rfl here arrives] at full
      exact ⟨full, data, Or.inl here⟩
    · generalize s'.shared = q' at access full
      cases access with
      | pushCheck clear => exact ⟨full, data, Or.inr ⟨here, clear⟩⟩
  · rcases inner_arrival rfl (step.arrival arrives) (resumes t) with here | ⟨origin, here, access⟩
    · rw [queue_stays step exclusive rfl here arrives] at full
      exact ⟨full, data, Or.inr ⟨here, finished_clear step clear⟩⟩
    · have open_ := finished_clear step clear
      generalize s'.shared = q' at access
      cases access with
      | pushOpen noQuit => simp [noQuit, open_] at flag

/-- Once a flag is set no `pop` becomes committed. -/
theorem committed_empty_step {s s' : State T Tid} {l : Label T Tid}
    (step : (program T sizeMax).Step s l s') (exclusive : (program T sizeMax).Exclusive s)
    (resumes : ∀ t, ResumesAt LoopHead (s.thread t))
    (flag : s.shared.quit = true ∨ s.shared.finished = true) {t : Tid}
    (committed : Committed sizeMax s' .empty t) : Committed sizeMax s .empty t := by
  rcases committed with arrives | ⟨clear, arrives | ⟨arrives, nothing⟩⟩
  · rcases inner_arrival rfl (step.arrival arrives) (resumes t) with here | ⟨origin, here, access⟩
    · exact Or.inl here
    · generalize s'.shared = q' at access
      cases access with
      | popCheck clear => exact Or.inr ⟨clear, Or.inl here⟩
  · have stillClear := finished_clear step clear
    rcases inner_arrival rfl (step.arrival arrives) (resumes t) with here | ⟨origin, here, access⟩
    · exact Or.inr ⟨stillClear, Or.inl here⟩
    · generalize s'.shared = q' at access
      cases access with
      | popEmpty nothing => exact Or.inr ⟨stillClear, Or.inr ⟨here, nothing⟩⟩
  · have stillClear := finished_clear step clear
    rcases inner_arrival rfl (step.arrival arrives) (resumes t) with here | ⟨origin, here, access⟩
    · rw [queue_stays step exclusive rfl here arrives] at nothing
      exact Or.inr ⟨stillClear, Or.inr ⟨here, nothing⟩⟩
    · generalize s'.shared = q' at access
      cases access with
      | popOpen noQuit => simp [noQuit, stillClear] at flag

theorem committed_step {s s' : State T Tid} {l : Label T Tid}
    (step : (program T sizeMax).Step s l s') (fifo : Fifo sizeMax s)
    (flag : s.shared.quit = true ∨ s.shared.finished = true) {cond : Cond} {t : Tid}
    (committed : Committed sizeMax s' cond t) : Committed sizeMax s cond t := by
  cases cond with
  | fullQue => exact committed_fullQue_step step fifo.exclusive fifo.resumes flag committed
  | empty => exact committed_empty_step step fifo.exclusive fifo.resumes flag committed

/-- A thread in a wait set was there, or was committed to it. -/
theorem waitsOn_step {s s' : State T Tid} {l : Label T Tid}
    (step : (program T sizeMax).Step s l s') {cond : Cond} {t : Tid} (waits : WaitsOn s' cond t) :
    WaitsOn s cond t ∨ Committed sizeMax s cond t := by
  obtain ⟨resume, waits⟩ := waits
  rcases step.waiting_arrival waits with before | ⟨loc, here, act⟩
  · exact Or.inl ⟨resume, before⟩
  · cases waits_of_instr act with
    | push full => exact Or.inr ⟨full, _, Or.inl here⟩
    | pop => exact Or.inr (Or.inl here)

/-- **A sealed wait set stays sealed.** -/
theorem sealed_step {s s' : State T Tid} {l : Label T Tid} (step : (program T sizeMax).Step s l s')
    (fifo : Fifo sizeMax s) {cond : Cond} (sealed : Sealed sizeMax s cond) :
    Sealed sizeMax s' cond where
  flag := flag_step step sealed.flag
  silent t waits := (waitsOn_step step waits).elim (sealed.silent t) (sealed.uncommitted t)
  uncommitted t committed := sealed.uncommitted t (committed_step step fifo sealed.flag committed)

/-! ### The calm shutdowns -/

/-- **The condition on a step**: a notification of `quit` finds nobody committed to its wait set,
and the notification of `finished` finds nobody committed to either and no `push` waiting. -/
def Calm (sizeMax : Nat) (s : State T Tid) : Label T Tid → Prop
  | .call _ _ => True
  | .step t =>
    (s.thread t = .running .quitEmpty → ∀ u, ¬ Committed sizeMax s .empty u) ∧
      (s.thread t = .running .quitFull → ∀ u, ¬ Committed sizeMax s .fullQue u) ∧
      (s.thread t = .running .finishedNotify →
        (∀ u, ¬ Committed sizeMax s .empty u) ∧
          ∀ u, ¬ Committed sizeMax s .fullQue u ∧ ¬ WaitsOn s .fullQue u)

/-- What a thread inside, or returned from, a shutdown call has achieved. -/
def Achieved (sizeMax : Nat) (s : State T Tid) : Loc T → Prop
  | .finishedNotify => s.shared.finished = true
  | .finishedDone => Sealed sizeMax s .empty ∧ Sealed sizeMax s .fullQue
  | .quitEmpty => s.shared.quit = true
  | .quitFull => s.shared.quit = true ∧ Sealed sizeMax s .empty
  | .quitDone => Sealed sizeMax s .empty ∧ Sealed sizeMax s .fullQue
  | _ => True

/-- What was achieved stays achieved. -/
theorem achieved_step {s s' : State T Tid} {l : Label T Tid}
    (step : (program T sizeMax).Step s l s') (fifo : Fifo sizeMax s) {loc : Loc T}
    (achieved : Achieved sizeMax s loc) : Achieved sizeMax s' loc := by
  cases loc with
  | finishedNotify => exact finished_step step achieved
  | finishedDone => exact achieved.imp (sealed_step step fifo) (sealed_step step fifo)
  | quitEmpty => exact quit_step step achieved
  | quitFull => exact achieved.imp (quit_step step) (sealed_step step fifo)
  | quitDone => exact achieved.imp (sealed_step step fifo) (sealed_step step fifo)
  | _ => trivial

/-- A notification that finds nobody committed seals its wait set. -/
theorem sealed_of_notify {s s' : State T Tid} {l : Label T Tid}
    (step : (program T sizeMax).Step s l s') (fifo : Fifo sizeMax s) {cond : Cond}
    (flag : s.shared.quit = true ∨ s.shared.finished = true)
    (nobody : ∀ u, ¬ Committed sizeMax s cond u)
    (silent : ∀ u resume, s'.thread u ≠ .waiting cond resume) : Sealed sizeMax s' cond where
  flag := flag_step step flag
  silent u waits := waits.elim fun resume there => silent u resume there
  uncommitted u committed := nobody u (committed_step step fifo flag committed)

/-- **The invariant of calm runs.** -/
structure CalmInv (sizeMax : Nat) (s : State T Tid) : Prop where
  fifo : Fifo sizeMax s
  achieved : ∀ t loc, s.thread t = .running loc → Achieved sizeMax s loc

theorem calmInv_start : CalmInv sizeMax (start T Tid) where
  fifo := fifo_start
  achieved t loc here := by
    cases here
    trivial

/-- **The step lemma of calm runs.** -/
theorem calmInv_step {s s' : State T Tid} {l : Label T Tid}
    (step : (program T sizeMax).Step s l s') (inv : CalmInv sizeMax s) (calm : Calm sizeMax s l) :
    CalmInv sizeMax s' where
  fifo := fifo_step step inv.fifo
  achieved t loc arrives := by
    cases step.arrival arrives with
    | stays here => exact achieved_step step inv.fifo (inv.achieved t loc here)
    | call here entry => cases loc <;> first | trivial | simp [program, calling] at entry
    | relock here =>
      have resumes := inv.fifo.resumes t
      rw [here] at resumes
      cases loc <;> trivial
    | lock here act => cases locks_of_instr act <;> trivial
    | unlock here act => cases unlocks_of_instr act <;> trivial
    | notifyAll here act mine silent =>
      subst mine
      have before := inv.achieved t _ here
      cases notifies_of_instr act with
      | push => trivial
      | pop => trivial
      | finished =>
        obtain ⟨noPop, noPush⟩ := calm.2.2 here
        refine ⟨sealed_of_notify step inv.fifo (Or.inr before) noPop silent, ?_⟩
        exact sealed_step step inv.fifo
          ⟨Or.inr before, fun u => (noPush u).2, fun u => (noPush u).1⟩
      | quitEmpty =>
        exact ⟨quit_step step before,
          sealed_of_notify step inv.fifo (Or.inl before) (calm.1 here) silent⟩
      | quitFull =>
        exact ⟨sealed_step step inv.fifo before.2,
          sealed_of_notify step inv.fifo (Or.inl before.1) (calm.2.1 here) silent⟩
    | access here act =>
      have access := access_of_instr act
      generalize stored : s'.shared = q' at access
      cases access with
      | finished =>
        show s'.shared.finished = true
        rw [stored]
      | quit =>
        show s'.shared.quit = true
        rw [stored]
      | _ => trivial

/-- **The run lemma of calm runs.** -/
theorem calmInv_run {s : State T Tid} {labels : List (Label T Tid)}
    (guarded : (system T Tid sizeMax).Guarded (Calm sizeMax) (start T Tid) labels)
    (run : (system T Tid sizeMax).run (start T Tid) labels = some s) : CalmInv sizeMax s :=
  System.invariant_guarded (I := CalmInv sizeMax)
    (fun _ _ _ inv calm enabled => calmInv_step (Program.step_of_next enabled) inv calm)
    guarded run calmInv_start

/-- A sealed wait set stays sealed in every continuation. -/
theorem sealed_run {s u : State T Tid} {more : List (Label T Tid)} (fifo : Fifo sizeMax s)
    {cond : Cond} (sealed : Sealed sizeMax s cond)
    (run : (system T Tid sizeMax).run s more = some u) : Sealed sizeMax u cond := by
  have kept : Fifo sizeMax u ∧ Sealed sizeMax u cond :=
    System.invariant_run (I := fun v => Fifo sizeMax v ∧ Sealed sizeMax v cond)
      (fun v l w inv enabled => by
        have step := Program.step_of_next enabled
        exact ⟨fifo_step step inv.1, sealed_step step inv.1 inv.2⟩)
      run ⟨fifo, sealed⟩
  exact kept.2
/-! ### A step that is not calm loses a wake-up -/

/-- A state that differs from another only in where one thread stands. -/
structure Moved (s s' : State T Tid) (u : Tid) : Prop where
  shared : s'.shared = s.shared
  others : ∀ v, v ≠ u → s'.thread v = s.thread v

theorem Moved.trans {s s' s'' : State T Tid} {u : Tid} (first : Moved s s' u)
    (second : Moved s' s'' u) : Moved s s'' u :=
  ⟨second.shared.trans first.shared,
    fun v other => (second.others v other).trans (first.others v other)⟩

variable (sizeMax) in
/-- A `pop` in `popWait` enters its wait set by its next step. -/
theorem popWait_waits {s : State T Tid} {u : Tid} (here : s.thread u = .running .popWait) :
    ∃ s', (system T Tid sizeMax).Reaches s s' ∧ WaitsOn s' .empty u ∧ Moved s s' u :=
  ⟨_, Program.reaches_of_wait here rfl,
    ⟨_, Function.update_self ..⟩, ⟨rfl, fun _ other => Function.update_of_ne other ..⟩⟩

/-- A test of a loop that leaves the data moves only its own thread. -/
theorem access_moves {s : State T Tid} {u : Tid} {loc n : Loc T} (here : s.thread u = .running loc)
    (act : (program T sizeMax).instr s.shared loc = .access s.shared n) :
    ∃ s', (system T Tid sizeMax).Reaches s s' ∧ s'.thread u = .running n ∧ Moved s s' u :=
  ⟨_, Program.reaches_of_access here act, Function.update_self ..,
    ⟨rfl, fun _ other => Function.update_of_ne other ..⟩⟩

/-- **A committed thread can enter the wait set by its own steps alone.** -/
theorem committed_waits {s : State T Tid} {cond : Cond} {u : Tid}
    (committed : Committed sizeMax s cond u) :
    ∃ s', (system T Tid sizeMax).Reaches s s' ∧ WaitsOn s' cond u ∧ Moved s s' u := by
  have pushSize : ∀ {s : State T Tid} {data}, sizeMax ≤ s.shared.queue.length →
      s.thread u = .running (.pushSize data) →
      ∃ s', (system T Tid sizeMax).Reaches s s' ∧ WaitsOn s' .fullQue u ∧ Moved s s' u := by
    intro s data full here
    have act : (program T sizeMax).instr s.shared (.pushSize data) =
        .wait .fullQue (.pushQuit data) := by
      simp only [program, instr]
      rw [if_neg (Nat.not_lt.mpr full)]
    exact ⟨_, Program.reaches_of_wait here act, ⟨_, Function.update_self ..⟩,
      ⟨rfl, fun _ other => Function.update_of_ne other ..⟩⟩
  have popFinished : ∀ {s : State T Tid}, s.shared.finished = false →
      s.thread u = .running .popFinished →
      ∃ s', (system T Tid sizeMax).Reaches s s' ∧ WaitsOn s' .empty u ∧ Moved s s' u := by
    intro s clear here
    have act : (program T sizeMax).instr s.shared .popFinished = .access s.shared .popWait := by
      simp [program, instr, clear]
    obtain ⟨middle, reach, there, moved⟩ := access_moves here act
    obtain ⟨s', rest, waits, moved'⟩ := popWait_waits sizeMax there
    exact ⟨s', reach.trans rest, waits, moved.trans moved'⟩
  cases cond with
  | fullQue =>
    obtain ⟨full, data, here | ⟨here, clear⟩⟩ := committed
    · exact pushSize full here
    · have act : (program T sizeMax).instr s.shared (.pushFinished data) =
          .access s.shared (.pushSize data) := by
        simp [program, instr, clear]
      obtain ⟨middle, reach, there, moved⟩ := access_moves here act
      obtain ⟨s', rest, waits, moved'⟩ := pushSize (moved.shared ▸ full) there
      exact ⟨s', reach.trans rest, waits, moved.trans moved'⟩
  | empty =>
    rcases committed with here | ⟨clear, here | ⟨here, nothing⟩⟩
    · exact popWait_waits sizeMax here
    · exact popFinished clear here
    · have act : (program T sizeMax).instr s.shared .popEmpty = .access s.shared .popFinished := by
        simp [program, instr, nothing]
      obtain ⟨middle, reach, there, moved⟩ := access_moves here act
      obtain ⟨s', rest, waits, moved'⟩ := popFinished (moved.shared ▸ clear) there
      exact ⟨s', reach.trans rest, waits, moved.trans moved'⟩
theorem committed_inner {s : State T Tid} {cond : Cond} {u : Tid}
    (committed : Committed sizeMax s cond u) :
    ∃ loc, s.thread u = .running loc ∧ Inner loc = true := by
  cases cond with
  | fullQue =>
    obtain ⟨full, data, here | ⟨here, clear⟩⟩ := committed <;> exact ⟨_, here, rfl⟩
  | empty =>
    rcases committed with here | ⟨clear, here | ⟨here, nothing⟩⟩ <;> exact ⟨_, here, rfl⟩

/-- A thread committed to `_empty` stands at an empty queue. -/
theorem Fifo.committed_empty {s : State T Tid} (fifo : Fifo sizeMax s) {u : Tid}
    (committed : Committed sizeMax s .empty u) : s.shared.queue = [] := by
  rcases committed with here | ⟨clear, here | ⟨here, nothing⟩⟩
  · exact fifo.sawEmpty u (Or.inr here)
  · exact fifo.sawEmpty u (Or.inl here)
  · exact nothing

/-- Being committed depends on the data and on where the thread stands only. -/
theorem committed_congr {s s' : State T Tid} {cond : Cond} {u : Tid}
    (committed : Committed sizeMax s cond u) (shared : s'.shared = s.shared)
    (stands : ∀ loc, s.thread u = .running loc → s'.thread u = .running loc) :
    Committed sizeMax s' cond u := by
  cases cond with
  | fullQue =>
    obtain ⟨full, data, here | ⟨here, clear⟩⟩ := committed
    · exact ⟨shared ▸ full, data, Or.inl (stands _ here)⟩
    · exact ⟨shared ▸ full, data, Or.inr ⟨stands _ here, shared ▸ clear⟩⟩
  | empty =>
    rcases committed with here | ⟨clear, here | ⟨here, nothing⟩⟩
    · exact Or.inl (stands _ here)
    · exact Or.inr ⟨shared ▸ clear, Or.inl (stands _ here)⟩
    · exact Or.inr ⟨shared ▸ clear, Or.inr ⟨stands _ here, shared ▸ nothing⟩⟩

variable (sizeMax) in
/-- A notification leaves the data, and every other thread that stands at a location. -/
theorem notify_moves {s : State T Tid} {t : Tid} {loc n : Loc T} {cond : Cond}
    (here : s.thread t = .running loc)
    (act : (program T sizeMax).instr s.shared loc = .notifyAll cond n) :
    ∃ s', (system T Tid sizeMax).Reaches s s' ∧ s'.thread t = .running n ∧
      s'.shared = s.shared ∧
      ∀ v, v ≠ t → s'.thread v = wake cond (s.thread v) :=
  ⟨_, Program.reaches_of_notifyAll here act, by simp, rfl,
    fun v other => by simp only [Function.update_of_ne other]⟩

/-- The notification of a shutdown call returns, and a committed thread then waits for ever: the
call has returned in a state with a waiter. -/
theorem lost_after {s : State T Tid} {t u : Tid} {loc n : Loc T} {cond c : Cond}
    (here : s.thread t = .running loc) (outer : Inner loc = false)
    (act : (program T sizeMax).instr s.shared loc = .notifyAll cond n)
    (committed : Committed sizeMax s c u) :
    ∃ s', (system T Tid sizeMax).Reaches s s' ∧ s'.thread t = .running n ∧ WaitsOn s' c u ∧
      s'.shared = s.shared := by
  obtain ⟨stand, there, inner⟩ := committed_inner committed
  have other : u ≠ t := fun same => by
    rw [same, here] at there
    cases there
    rw [outer] at inner
    cases inner
  obtain ⟨middle, reach, done, shared, woken⟩ := notify_moves sizeMax here act
  have still : Committed sizeMax middle c u := committed_congr committed shared fun loc stands => by
    rw [woken u other, stands, wake_running]
  obtain ⟨s', rest, waits, moved⟩ := committed_waits still
  exact ⟨s', reach.trans rest, (moved.others t other.symm).trans done, waits,
    moved.shared.trans shared⟩

/-! ### The main result -/

/-- What a shutdown promises between a state `s` of a run and a later state `u`: if a `quit` has
returned in `s`, no thread waits in `u`; if a `finished` has returned, no `push` waits, and no
`pop` waits at an empty queue. -/
def Released (s u : State T Tid) : Prop :=
  ((∃ t, s.thread t = .running .quitDone) → ∀ v cond, ¬ WaitsOn u cond v) ∧
    ((∃ t, s.thread t = .running .finishedDone) →
      ∀ v, ¬ WaitsOn u .fullQue v ∧ (u.shared.queue = [] → ¬ WaitsOn u .empty v))

/-- The property over every run: no shutdown of the queue loses a wake-up. -/
def NoLostWakeup (prog : Program (Data T) Cond (Loc T)) (Tid : Type) [DecidableEq Tid] : Prop :=
  ∀ labels more s u, (prog.system Tid).run (start T Tid) labels = some s →
    (prog.system Tid).run s more = some u → Released s u

/-- Calm steps are exactly what the property needs: a run of calm steps has it, and from every
reachable state a step that is not calm can be continued to a state that violates it. -/
structure ReleasesIffCalm (prog : Program (Data T) Cond (Loc T)) (sizeMax : Nat) (Tid : Type)
    [DecidableEq Tid] : Prop where
  released : ∀ labels more s u, (prog.system Tid).Guarded (Calm sizeMax) (start T Tid)
      (labels ++ more) →
    (prog.system Tid).run (start T Tid) labels = some s →
    (prog.system Tid).run s more = some u → Released s u
  lost : ∀ labels s l, (prog.system Tid).run (start T Tid) labels = some s →
    ¬ Calm sizeMax s l → ∃ u, (prog.system Tid).Reaches s u ∧ ¬ Released u u

theorem CalmInv.released {s u : State T Tid} {more : List (Label T Tid)} (inv : CalmInv sizeMax s)
    (run : (system T Tid sizeMax).run s more = some u) : Released s u := by
  refine ⟨fun ⟨t, done⟩ v cond => ?_, fun ⟨t, done⟩ v => ?_⟩
  · obtain ⟨empty, fullQue⟩ := inv.achieved t _ done
    cases cond with
    | fullQue => exact (sealed_run inv.fifo fullQue run).silent v
    | empty => exact (sealed_run inv.fifo empty run).silent v
  · obtain ⟨empty, fullQue⟩ := inv.achieved t _ done
    exact ⟨(sealed_run inv.fifo fullQue run).silent v,
      fun _ => (sealed_run inv.fifo empty run).silent v⟩

/-- A step that is not calm can be continued to a lost wake-up. -/
theorem lost_of_not_calm {s : State T Tid} (fifo : Fifo sizeMax s) {l : Label T Tid}
    (restless : ¬ Calm sizeMax s l) :
    ∃ u, (system T Tid sizeMax).Reaches s u ∧ ¬ Released u u := by
  cases l with
  | call t loc => exact absurd trivial restless
  | step t =>
    simp only [Calm, not_and_or, not_forall, not_not] at restless
    rcases restless with ⟨here, u, committed⟩ | ⟨here, u, committed⟩ | ⟨here, restless⟩
    · obtain ⟨middle, reach, stands, ⟨resume, waits⟩, _⟩ := lost_after here rfl rfl committed
      obtain ⟨s', rest, done, _, woken⟩ := notify_moves sizeMax stands rfl
      have other : u ≠ t := fun same => by
        rw [same, stands] at waits
        cases waits
      have still : s'.thread u = .waiting .empty resume := by
        rw [woken u other, wake_eq_waiting]
        exact ⟨waits, by decide⟩
      exact ⟨s', reach.trans rest, fun released => released.1 ⟨t, done⟩ u .empty ⟨resume, still⟩⟩
    · obtain ⟨s', reach, done, waits, _⟩ := lost_after here rfl rfl committed
      exact ⟨s', reach, fun released => released.1 ⟨t, done⟩ u _ waits⟩
    · rcases restless with ⟨u, committed⟩ | ⟨u, committed | ⟨resume, waits⟩⟩
      · obtain ⟨s', reach, done, waits, shared⟩ := lost_after here rfl rfl committed
        have nothing : s'.shared.queue = [] := shared ▸ fifo.committed_empty committed
        exact ⟨s', reach, fun released => (released.2 ⟨t, done⟩ u).2 nothing waits⟩
      · obtain ⟨s', reach, done, waits, _⟩ := lost_after here rfl rfl committed
        exact ⟨s', reach, fun released => (released.2 ⟨t, done⟩ u).1 waits⟩
      · obtain ⟨s', reach, done, _, woken⟩ := notify_moves sizeMax here rfl
        have other : u ≠ t := fun same => by
          rw [same, here] at waits
          cases waits
        have still : s'.thread u = .waiting .fullQue resume := by
          rw [woken u other, wake_eq_waiting]
          exact ⟨waits, by decide⟩
        exact ⟨s', reach, fun released => (released.2 ⟨t, done⟩ u).1 ⟨resume, still⟩⟩

theorem releasesIffCalm (T Tid : Type) [DecidableEq Tid] (sizeMax : Nat) :
    ReleasesIffCalm (program T sizeMax) sizeMax Tid where
  released _ _ _ _ guarded run rest := (calmInv_run guarded.append_left run).released rest
  lost _ _ _ run restless := lost_of_not_calm (fifo_run run) restless

/-- **The shutdowns of `Queue<T>` and `XMessageQueue` that lose no wake-up are the calm ones.** -/
theorem queues_releasesIffCalm (Tid : Type) [DecidableEq Tid] (sizeMax : Nat) :
    (∀ T, ReleasesIffCalm (program T sizeMax) sizeMax Tid) ∧
      ReleasesIffCalm (XMessageQueue.program sizeMax) sizeMax Tid :=
  ⟨fun T => releasesIffCalm T Tid sizeMax, releasesIffCalm XMessage Tid sizeMax⟩

/-! ### Two lost wake-ups -/

/-- Thread `false` fills a queue of capacity one and pushes again, up to the wait it is bound for. -/
def pushTwice : List (Label Nat Bool) :=
  [.call false (.pushLock 7)] ++ List.replicate 6 (.step false) ++
    [.call false (.pushLock 8)] ++ List.replicate 3 (.step false)

/-- Thread `true` runs all of `quit` before the `push` enters the wait set. -/
def quitMissesPush : List (Label Nat Bool) :=
  pushTwice ++ [.call true .quitStore] ++ List.replicate 3 (.step true) ++ [.step false]

/-- The `push` already waits when thread `true` calls `finished`, which does not notify it. -/
def finishedMissesPush : List (Label Nat Bool) :=
  pushTwice ++ [.step false, .call true .finishedStore] ++ List.replicate 2 (.step true)

/-- **`quit` loses a wake-up, and so does `finished`.** -/
theorem quit_and_finished_lose_wakeup :
    (∃ s, (system Nat Bool 1).run (start Nat Bool) quitMissesPush = some s ∧
        s.thread true = .running .quitDone ∧ WaitsOn s .fullQue false) ∧
      (∃ s, (system Nat Bool 1).run (start Nat Bool) finishedMissesPush = some s ∧
        s.thread true = .running .finishedDone ∧ WaitsOn s .fullQue false) ∧
      ¬ NoLostWakeup (program Nat 1) Bool := by
  have quit : ∃ s, (system Nat Bool 1).run (start Nat Bool) quitMissesPush = some s ∧
      s.thread true = .running .quitDone ∧ WaitsOn s .fullQue false :=
    ⟨_, rfl, rfl, _, rfl⟩
  refine ⟨quit, ⟨_, rfl, rfl, _, rfl⟩, fun claim => ?_⟩
  obtain ⟨s, run, done, waits⟩ := quit
  exact (claim _ [] s s run rfl).1 ⟨true, done⟩ false .fullQue waits

end Xplay.Queue
