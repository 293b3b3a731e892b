/-
**When the shutdown of `IAudioPlay` releases every blocked call.**

`stop` stores `isExit` and notifies without `framesMutex`. `getData` looks at `isExit` only behind
its wait and `update` never does, so a thread that has made its test and not entered its wait set yet
is missed by the notifications; and a wait that ends without a notification, or with the list emptied
again, goes on to `frames.front()`.

* `Shuts` — from the flag store of `stop` on every blocked call can go on by the steps of the threads
  alone, and nobody takes the front of an empty list.
* `Comes` — the thread is on its way to a notification; `Meets` — the condition on a step.
* `Facts`, `Clean` — the invariants of all runs, and of those whose steps meet the condition.
* `shutsDown_iff` — **these are exactly the runs in whose states the player shuts down cleanly.**
-/

import Xplay.Lib.Spurious
import Xplay.Audio.AudioPlay

set_option linter.unusedSectionVars false

namespace Xplay.AudioPlay

open Lib Lib.Monitor

variable {Tid : Type} [DecidableEq Tid] {maxFrameBuffer : Nat}

abbrev Event (Tid : Type) := Monitor.Event Loc Tid

/-- The audio player whose waits may end by themselves. -/
abbrev spurious (Tid : Type) [DecidableEq Tid] (maxFrameBuffer : Nat) :
    System (State Tid) (Event Tid) :=
  (program maxFrameBuffer).spuriousSystem Tid

/-- A freshly constructed player; OpenSL calls back on the threads of `plays`. -/
def constructed (plays : Tid → Bool) : State Tid where
  shared := ⟨[], none, false, false, false, [], [], []⟩
  owner := none
  thread t := .running (if plays t then .openSL else .idle)

/-- The call is blocked: in a wait set, or acquiring the mutex. -/
def Blocked : Status Cond Loc → Bool
  | .waiting _ _ | .relocking _ => true
  | .running .getLock | .running (.updateLock _) => true
  | .running _ => false

/-- **A clean shutdown**: once `stop` has stored its flag every blocked call can go on without a new
call or a spurious wake-up, and no `getData` stands before the front of an empty list. -/
structure Shuts (maxFrameBuffer : Nat) (s : State Tid) : Prop where
  released : s.shared.isExit = true → ∀ t, Blocked (s.thread t) = true →
    ∃ s', (system Tid maxFrameBuffer).ReachesBy Label.Internal s s' ∧
      Blocked (s'.thread t) = false
  front : ∀ t, s.thread t = .running .getFront → s.shared.frames ≠ []

/-- The locations from which a thread comes to a notification of the condition variable, whatever
the flags are. -/
def comes : Cond → Loc → Bool
  | _, .stopStore | _, .stopEmpty => true
  | .notEmpty, .updateLock data | .notEmpty, .updateSize data => decide (0 < data.size)
  | .notEmpty, .updateFull _ | .notEmpty, .updateWait _ | .notEmpty, .updatePush _ => true
  | .notEmpty, .updateNotify => true
  | .notFull, .stopFull | .notFull, .getFront | .notFull, .getNotify _ => true
  | _, _ => false

/-- The thread is on its way to a notification of the condition variable. -/
def Comes (cond : Cond) : Status Cond Loc → Bool
  | .running loc | .relocking loc | .waiting _ loc => comes cond loc

/-- **The condition on a step**: after the flag store a thread enters a wait set only while another
is on its way to notify it, and `getData` finds a frame or the flag behind its wait. -/
def Meets (s : State Tid) : Event Tid → Prop
  | .act (.step t) =>
    match s.thread t with
    | .running .getWait => s.shared.isExit = true → ∃ u, Comes .notEmpty (s.thread u) = true
    | .running (.updateWait _) => s.shared.isExit = true → ∃ u, Comes .notFull (s.thread u) = true
    | .running .getExit => s.shared.frames ≠ [] ∨ s.shared.isExit = true
    | _ => True
  | _ => True

/-! ### The invariants of every run -/

/-- Both waits resume behind their test. -/
def Resumes : Status Cond Loc → Prop
  | .running _ => True
  | .waiting .notEmpty n => n = .getExit
  | .waiting .notFull n => ∃ data, n = .updatePush data
  | .relocking n => n = .getExit ∨ ∃ data, n = .updatePush data

/-- **What every interleaving keeps.** -/
structure Facts (maxFrameBuffer : Nat) (s : State Tid) : Prop where
  exclusive : (program maxFrameBuffer).Exclusive s
  resumes : ∀ t, Resumes (s.thread t)
  getWait : ∀ t, s.thread t = .running .getWait → s.shared.frames = []
  updateWait : ∀ t data, s.thread t = .running (.updateWait data) → s.shared.frames ≠ []
  notEmpty : ∀ t n, s.thread t = .waiting .notEmpty n →
    s.shared.frames = [] ∨ ∃ v, s.thread v = .running .updateNotify
  notFull : ∀ t n, s.thread t = .waiting .notFull n →
    s.shared.frames ≠ [] ∨ ∃ v d, s.thread v = .running (.getNotify d)

theorem facts_start (plays : Tid → Bool) : Facts maxFrameBuffer (constructed plays) where
  exclusive :=
    { owner := fun t => by
        simp only [constructed]
        split_ifs <;> simp [Program.Inside, program, inside]
      resumes := fun t => trivial }
  resumes t := trivial
  getWait t here := by
    simp only [constructed] at here
    split_ifs at here <;> cases here
  updateWait t data here := by
    simp only [constructed] at here
    split_ifs at here <;> cases here
  notEmpty t n here := by cases here
  notFull t n here := by cases here

variable {s s' : State Tid} {l : Label Tid}

theorem resumes_wake {cond : Cond} {status : Status Cond Loc} (resumes : Resumes status) :
    Resumes (wake cond status) := by
  cases status with
  | running loc => trivial
  | relocking n => exact resumes
  | waiting c n =>
    simp only [wake]
    split_ifs
    · cases c with
      | notEmpty => exact Or.inl resumes
      | notFull => exact Or.inr resumes
    · exact resumes

theorem resumes_step (step : (program maxFrameBuffer).Step s l s')
    (before : ∀ t, Resumes (s.thread t)) (t : Tid) : Resumes (s'.thread t) := by
  by_cases self : t = l.actor
  · subst self
    cases step with
    | wait here act =>
      simp only [Label.actor, Function.update_self]
      cases waits_of_instr act with
      | get => exact rfl
      | update => exact ⟨_, rfl⟩
    | _ =>
      simp only [Label.actor, Function.update_self]
      trivial
  · rcases step.other self with same | ⟨_, _, _, _, _, _, woken⟩
    · rw [same]
      exact before t
    · rw [woken]
      exact resumes_wake (before t)

/-- **The list changes by an `update` that appends, or a `getData` that takes the front.** -/
inductive Framed (s : State Tid) (l : Label Tid) (s' : State Tid) : Prop
  | same (frames : s'.shared.frames = s.shared.frames)
  | push (data : XData) (here : s.thread l.actor = .running (.updatePush data))
      (there : s'.thread l.actor = .running .updateNotify)
      (frames : s'.shared.frames = s.shared.frames ++ [data])
  | pop (d : XData) (here : s.thread l.actor = .running .getFront)
      (there : s'.thread l.actor = .running (.getNotify d))
      (frames : s.shared.frames = d :: s'.shared.frames)

theorem framed_of_step (step : (program maxFrameBuffer).Step s l s') : Framed s l s' := by
  cases step with
  | access here act =>
    cases access_of_instr act with
    | getFront front => exact .pop _ here (Function.update_self ..) front
    | updatePush => exact .push _ here (Function.update_self ..) rfl
    | _ => exact .same rfl
  | _ => exact .same rfl

/-- The waits, before which the list is tested under the same ownership of the mutex. -/
def AtWait : Loc → Bool
  | .getWait | .updateWait _ => true
  | _ => false

/-- A thread before its wait finds the list as it was. -/
theorem frames_held (step : (program maxFrameBuffer).Step s l s')
    (exclusive : (program maxFrameBuffer).Exclusive s) {t : Tid} {loc : Loc}
    (here : s.thread t = .running loc) (waits : AtWait loc = true) :
    s'.shared.frames = s.shared.frames := by
  have held : inside loc = true := by cases loc <;> first | rfl | cases waits
  have same {there : Loc} (stands : s.thread l.actor = .running there)
      (inner : inside there = true) : there = loc := by
    have self : t = l.actor := exclusive.unique ⟨there, stands, inner⟩ ⟨loc, here, held⟩
    subst self
    exact (Status.running.inj (stands.symm.trans here))
  cases framed_of_step step with
  | same frames => exact frames
  | push data stands there frames =>
    cases same stands rfl
    cases waits
  | pop d stands there frames =>
    cases same stands rfl
    cases waits

/-- The locations that only a test leads to. -/
def Tested : Loc → Bool
  | .getWait | .getFront | .undefined | .updateWait _ => true
  | _ => false

/-- **How a thread comes behind a test**: it stood there, or it took the test. -/
theorem tested_arrival (step : (program maxFrameBuffer).Step s l s')
    (resumes : ∀ t, Resumes (s.thread t)) {t : Tid} {n : Loc} (tested : Tested n = true)
    (arrives : s'.thread t = .running n) :
    s.thread t = .running n ∨
      ∃ loc, s.thread t = .running loc ∧ Access maxFrameBuffer s.shared loc s'.shared n := by
  cases step.arrival arrives with
  | stays here => exact Or.inl here
  | call here entry => cases calls_of_entry entry <;> cases tested
  | relock here =>
    have resumes := resumes t
    rw [here] at resumes
    rcases resumes with rfl | ⟨data, rfl⟩ <;> cases tested
  | lock here act => cases locks_of_instr act <;> cases tested
  | unlock here act => cases unlocks_of_instr act <;> cases tested
  | notifyAll here act => cases notifies_of_instr act <;> cases tested
  | access here act => exact Or.inr ⟨_, here, access_of_instr act⟩

/-- A thread before a notification stays there, or empties the wait set. -/
theorem notifier_step (step : (program maxFrameBuffer).Step s l s') {v : Tid} {loc n : Loc}
    {cond : Cond} (here : s.thread v = .running loc) (notifies : Notifies loc cond n) :
    s'.thread v = .running loc ∨ ∀ u resume, s'.thread u ≠ .waiting cond resume := by
  have act : (program maxFrameBuffer).instr s.shared loc = .notifyAll cond n := by
    cases notifies <;> rfl
  have busy (next : Loc) : (program maxFrameBuffer).entry loc next = false := by
    cases notifies <;> rfl
  exact step.notified here act busy

theorem getWait_step (facts : Facts maxFrameBuffer s) (step : (program maxFrameBuffer).Step s l s')
    {t : Tid} (arrives : s'.thread t = .running .getWait) : s'.shared.frames = [] := by
  rcases tested_arrival step facts.resumes rfl arrives with here | ⟨loc, here, access⟩
  · rw [frames_held step facts.exclusive here rfl]
    exact facts.getWait t here
  · generalize s'.shared = q' at access ⊢
    generalize target : Loc.getWait = n at access
    cases access with
    | getEmpty =>
      split_ifs at target with nothing
      exact nothing
    | _ => first | cases target | (split_ifs at target)

theorem updateWait_step (facts : Facts maxFrameBuffer s)
    (step : (program maxFrameBuffer).Step s l s') {t : Tid} {data : XData}
    (arrives : s'.thread t = .running (.updateWait data)) : s'.shared.frames ≠ [] := by
  rcases tested_arrival step facts.resumes rfl arrives with here | ⟨loc, here, access⟩
  · rw [frames_held step facts.exclusive here rfl]
    exact facts.updateWait t data here
  · generalize s'.shared = q' at access ⊢
    generalize target : Loc.updateWait data = n at access
    cases access with
    | updateFull =>
      split_ifs at target with full
      exact List.ne_nil_of_length_pos (Nat.lt_of_le_of_lt (Nat.zero_le _) full)
    | _ => first | cases target | (split_ifs at target)

theorem notEmpty_step (facts : Facts maxFrameBuffer s)
    (step : (program maxFrameBuffer).Step s l s') {t : Tid} {n : Loc}
    (waits : s'.thread t = .waiting .notEmpty n) :
    s'.shared.frames = [] ∨ ∃ v, s'.thread v = .running .updateNotify := by
  rcases step.waiting_arrival waits with before | ⟨loc, here, act⟩
  · have notified := facts.notEmpty t n before
    cases framed_of_step step with
    | same frames =>
      rw [frames]
      refine notified.imp_right fun ⟨v, stands⟩ => ⟨v, ?_⟩
      exact (notifier_step step stands .update).resolve_right fun silent => silent t n waits
    | push data here there frames => exact Or.inr ⟨_, there⟩
    | pop d here there frames =>
      obtain ⟨v, stands⟩ := notified.resolve_left (by rw [frames]; exact List.cons_ne_nil _ _)
      have self := facts.exclusive.unique ⟨_, here, rfl⟩ ⟨_, stands, rfl⟩
      subst self
      cases stands.symm.trans here
  · cases waits_of_instr act
    left
    rw [frames_held step facts.exclusive here rfl]
    exact facts.getWait t here

theorem notFull_step (facts : Facts maxFrameBuffer s)
    (step : (program maxFrameBuffer).Step s l s') {t : Tid} {n : Loc}
    (waits : s'.thread t = .waiting .notFull n) :
    s'.shared.frames ≠ [] ∨ ∃ v d, s'.thread v = .running (.getNotify d) := by
  rcases step.waiting_arrival waits with before | ⟨loc, here, act⟩
  · have notified := facts.notFull t n before
    cases framed_of_step step with
    | same frames =>
      rw [frames]
      refine notified.imp_right fun ⟨v, d, stands⟩ => ⟨v, d, ?_⟩
      exact (notifier_step step stands .get).resolve_right fun silent => silent t n waits
    | push data here there frames =>
      rw [frames]
      exact Or.inl (by simp)
    | pop d here there frames => exact Or.inr ⟨_, d, there⟩
  · cases waits_of_instr act
    left
    rw [frames_held step facts.exclusive here rfl]
    exact facts.updateWait t _ here

theorem facts_step (facts : Facts maxFrameBuffer s)
    (step : (program maxFrameBuffer).Step s l s') : Facts maxFrameBuffer s' where
  exclusive := Program.exclusive_step lawful facts.exclusive step
  resumes := resumes_step step facts.resumes
  getWait _ arrives := getWait_step facts step arrives
  updateWait _ _ arrives := updateWait_step facts step arrives
  notEmpty _ _ waits := notEmpty_step facts step waits
  notFull _ _ waits := notFull_step facts step waits

/-- The state after the wait of `t` has ended by itself. -/
abbrev woken (s : State Tid) (t : Tid) (resume : Loc) : State Tid :=
  { s with thread := Function.update s.thread t (.relocking resume) }

theorem facts_spurious (facts : Facts maxFrameBuffer s) {t : Tid} {cond : Cond} {resume : Loc}
    (here : s.thread t = .waiting cond resume) : Facts maxFrameBuffer (woken s t resume) where
  exclusive := Program.exclusive_spurious facts.exclusive here
  resumes u := by
    by_cases self : u = t
    · have mine := facts.resumes t
      rw [here] at mine
      simp only [self, Function.update_self]
      cases cond with
      | notEmpty => exact Or.inl mine
      | notFull => exact Or.inr mine
    · simp only [Function.update_of_ne self]
      exact facts.resumes u
  getWait u there := facts.getWait u ((Program.running_spurious here).mp there)
  updateWait u data there := facts.updateWait u data ((Program.running_spurious here).mp there)
  notEmpty u n there := by
    refine (facts.notEmpty u n (Program.waiting_spurious there)).imp_right fun ⟨v, stands⟩ => ?_
    exact ⟨v, (Program.running_spurious here).mpr stands⟩
  notFull u n there := by
    refine (facts.notFull u n (Program.waiting_spurious there)).imp_right fun ⟨v, d, stands⟩ => ?_
    exact ⟨v, d, (Program.running_spurious here).mpr stands⟩

/-! ### The notifications to come -/

theorem comes_wake (cond c : Cond) (status : Status Cond Loc) :
    Comes cond (wake c status) = Comes cond status := by
  cases status with
  | waiting c' n =>
    simp only [wake]
    split_ifs <;> rfl
  | _ => rfl

/-- A thread on its way to a notification stays on it or makes it. -/
theorem comes_moves {q q' : Data} {cond : Cond} {before after : Status Cond Loc}
    (moves : (program maxFrameBuffer).Moves q before l q' after)
    (front : before = .running .getFront → q.frames ≠ []) (coming : Comes cond before = true) :
    Comes cond after = true ∨ ∃ loc n, before = .running loc ∧ Notifies loc cond n := by
  cases moves with
  | call entry => cases calls_of_entry entry <;> cases cond <;> cases coming
  | relock => exact Or.inl coming
  | lock act =>
    cases locks_of_instr act with
    | get => cases cond <;> cases coming
    | update =>
      cases cond with
      | notEmpty => exact Or.inl coming
      | notFull => cases coming
  | unlock act => cases unlocks_of_instr act <;> cases cond <;> cases coming
  | wait act =>
    cases waits_of_instr act with
    | get => cases cond <;> cases coming
    | update =>
      cases cond with
      | notEmpty => exact Or.inl rfl
      | notFull => cases coming
  | notifyAll act =>
    have notifies := notifies_of_instr act
    cases notifies with
    | get =>
      cases cond with
      | notEmpty => cases coming
      | notFull => exact Or.inr ⟨_, _, rfl, .get⟩
    | update =>
      cases cond with
      | notEmpty => exact Or.inr ⟨_, _, rfl, .update⟩
      | notFull => cases coming
    | stopEmpty =>
      cases cond with
      | notEmpty => exact Or.inr ⟨_, _, rfl, .stopEmpty⟩
      | notFull => exact Or.inl rfl
    | stopFull =>
      cases cond with
      | notEmpty => cases coming
      | notFull => exact Or.inr ⟨_, _, rfl, .stopFull⟩
  | access act =>
    left
    cases access_of_instr act with
    | getNothing nothing => exact absurd nothing (front rfl)
    | updateSize =>
      cases cond with
      | notEmpty =>
        rw [if_neg (not_le.mpr (of_decide_eq_true coming))]
        rfl
      | notFull => cases coming
    | updateFull =>
      cases cond with
      | notEmpty => split_ifs <;> rfl
      | notFull => cases coming
    | _ => cases cond <;> first | rfl | cases coming

/-- After the flag store no thread comes onto the way but by a new call. -/
theorem comes_back {q q' : Data} {cond : Cond} {t : Tid} {before after : Status Cond Loc}
    (moves : (program maxFrameBuffer).Moves q before (.step t) q' after)
    (stopped : q.isExit = true) (coming : Comes cond after = true) : Comes cond before = true := by
  cases moves with
  | relock => exact coming
  | lock act =>
    cases locks_of_instr act with
    | get => cases cond <;> cases coming
    | update =>
      cases cond with
      | notEmpty => exact coming
      | notFull => cases coming
  | unlock act => cases unlocks_of_instr act <;> cases cond <;> cases coming
  | wait act =>
    cases waits_of_instr act with
    | get => cases cond <;> cases coming
    | update =>
      cases cond with
      | notEmpty => rfl
      | notFull => cases coming
  | notifyAll act =>
    cases notifies_of_instr act <;> cases cond <;> first | rfl | cases coming
  | access act =>
    cases access_of_instr act with
    | getExit =>
      rw [if_pos stopped] at coming
      cases cond <;> cases coming
    | updateSize =>
      split_ifs at coming with positive
      · cases cond <;> cases coming
      · cases cond with
        | notEmpty => exact decide_eq_true (not_le.mp positive)
        | notFull => cases coming
    | updateFull =>
      cases cond with
      | notEmpty => rfl
      | notFull => split_ifs at coming <;> cases coming
    | _ => cases cond <;> first | rfl | cases coming | (split_ifs at coming <;> cases coming)

/-- **A notification to come is still to come after a step, or the wait set is empty.** -/
theorem comes_step (step : (program maxFrameBuffer).Step s l s')
    (front : ∀ t, s.thread t = .running .getFront → s.shared.frames ≠ []) {cond : Cond} {u : Tid}
    (coming : Comes cond (s.thread u) = true) :
    Comes cond (s'.thread u) = true ∨ ∀ v n, s'.thread v ≠ .waiting cond n := by
  by_cases self : u = l.actor
  · rw [self] at coming ⊢
    rcases comes_moves step.moves (front _) coming with still | ⟨loc, n, here, notifies⟩
    · exact Or.inl still
    · refine (notifier_step step here notifies).imp_left fun still => ?_
      rw [still, ← here]
      exact coming
  · left
    rcases step.other self with same | ⟨_, _, _, _, _, _, woken⟩
    · rwa [same]
    · rwa [woken, comes_wake]

/-- The flag is set by `stop`, which then is on its way to both notifications. -/
theorem isExit_step (step : (program maxFrameBuffer).Step s l s')
    (stopped : s'.shared.isExit = true) :
    s.shared.isExit = true ∨ s'.thread l.actor = .running .stopEmpty := by
  cases step with
  | access here act =>
    cases access_of_instr act with
    | stopStore => exact Or.inr (Function.update_self ..)
    | _ => exact Or.inl stopped
  | _ => exact Or.inl stopped

theorem isExit_kept (step : (program maxFrameBuffer).Step s l s')
    (stopped : s.shared.isExit = true) : s'.shared.isExit = true := by
  cases step with
  | access here act =>
    cases access_of_instr act with
    | stopStore => exact rfl
    | _ => exact stopped
  | _ => exact stopped

/-! ### The runs whose steps meet the condition -/

/-- Nobody takes, or took, the front of an empty list. -/
structure Fronts (s : State Tid) : Prop where
  front : ∀ t, s.thread t = .running .getFront → s.shared.frames ≠ []
  defined : ∀ t, s.thread t ≠ .running .undefined

theorem fronts_step (facts : Facts maxFrameBuffer s) (fronts : Fronts s)
    (step : (program maxFrameBuffer).Step s l s')
    (exits : ∀ t, s.thread t = .running .getExit → l = .step t →
      s.shared.frames ≠ [] ∨ s.shared.isExit = true) : Fronts s' where
  front t arrives := by
    rcases tested_arrival step facts.resumes rfl arrives with here | ⟨loc, here, access⟩
    · have before := fronts.front t here
      cases framed_of_step step with
      | same frames => rwa [frames]
      | push data stands there frames =>
        rw [frames]
        exact List.append_ne_nil_of_right_ne_nil _ (List.cons_ne_nil _ _)
      | pop d stands there frames =>
        have self : t = l.actor := facts.exclusive.unique ⟨_, stands, rfl⟩ ⟨_, here, rfl⟩
        rw [← self, arrives] at there
        cases there
    · have acts := step.eq_step (t := t) here
      generalize s'.shared = q' at access ⊢
      generalize target : Loc.getFront = n at access
      cases access with
      | getExit =>
        split_ifs at target with stopped
        have mine : l = .step t := acts (fun next => rfl) (by rw [arrives]; nofun)
        exact (exits t here mine).resolve_right stopped
      | _ => first | cases target | (split_ifs at target)
  defined t arrives := by
    rcases tested_arrival step facts.resumes rfl arrives with here | ⟨loc, here, access⟩
    · exact fronts.defined t here
    · generalize s'.shared = q' at access
      generalize target : Loc.undefined = n at access
      cases access with
      | getNothing nothing => exact fronts.front t here nothing
      | _ => first | cases target | (split_ifs at target)

/-- **The invariant of the runs whose steps meet the condition**: after the flag store somebody is on
the way to notify each wait set that is not empty. -/
structure Clean (maxFrameBuffer : Nat) (s : State Tid) : Prop where
  facts : Facts maxFrameBuffer s
  fronts : Fronts s
  coming : s.shared.isExit = true → ∀ t cond n, s.thread t = .waiting cond n →
    ∃ u, Comes cond (s.thread u) = true

theorem clean_start (plays : Tid → Bool) : Clean maxFrameBuffer (constructed plays) where
  facts := facts_start plays
  fronts :=
    { front := fun t here => by
        simp only [constructed] at here
        split_ifs at here <;> cases here
      defined := fun t here => by
        simp only [constructed] at here
        split_ifs at here <;> cases here }
  coming stopped := by cases stopped

theorem coming_step (clean : Clean maxFrameBuffer s)
    (step : (program maxFrameBuffer).Step s l s') (meets : Meets s (.act l))
    (stopped : s'.shared.isExit = true) {t : Tid} {cond : Cond} {n : Loc}
    (waits : s'.thread t = .waiting cond n) : ∃ u, Comes cond (s'.thread u) = true := by
  have still (before : ∃ u, Comes cond (s.thread u) = true) :
      ∃ u, Comes cond (s'.thread u) = true := by
    obtain ⟨u, coming⟩ := before
    exact ⟨u, (comes_step step clean.fronts.front coming).resolve_right
      fun silent => silent t n waits⟩
  rcases isExit_step step stopped with before | stops
  · rcases step.waiting_arrival waits with waited | ⟨loc, here, act⟩
    · exact still (clean.coming before t cond n waited)
    · have notThere : s'.thread t ≠ .running loc := by
        rw [waits]
        nofun
      cases waits_of_instr act with
      | get =>
        cases step.eq_step here (fun _ => rfl) notThere
        simp only [Meets, here] at meets
        exact still (meets before)
      | update =>
        cases step.eq_step here (fun _ => rfl) notThere
        simp only [Meets, here] at meets
        exact still (meets before)
  · refine ⟨l.actor, ?_⟩
    rw [stops]
    cases cond <;> rfl

/-- **The step lemma.** -/
theorem clean_step {e : Event Tid} (clean : Clean maxFrameBuffer s) (meets : Meets s e)
    (step : (program maxFrameBuffer).SpuriousStep s e s') : Clean maxFrameBuffer s' := by
  cases step with
  | act step =>
    refine ⟨facts_step clean.facts step, fronts_step clean.facts clean.fronts step ?_, ?_⟩
    · rintro t here rfl
      simpa only [Meets, here] using meets
    · exact fun stopped t cond n waits => coming_step clean step meets stopped waits
  | @spurious v cond resume here =>
    refine ⟨facts_spurious clean.facts here, ⟨fun t there => ?_, fun t there => ?_⟩, ?_⟩
    · exact clean.fronts.front t ((Program.running_spurious here).mp there)
    · exact clean.fronts.defined t ((Program.running_spurious here).mp there)
    · intro stopped t c n waits
      obtain ⟨u, coming⟩ := clean.coming stopped t c n (Program.waiting_spurious waits)
      refine ⟨u, ?_⟩
      by_cases self : u = v
      · simp only [self, Function.update_self]
        rw [self, here] at coming
        exact coming
      · simp only [Function.update_of_ne self]
        exact coming

/-! ### Every blocked call is released -/

/-- What is left of a call of `getData`, `update` or `stop`, at most. -/
def weight : Loc → Nat
  | .getLock | .updateLock _ => 9
  | .getEmpty | .updateSize _ => 8
  | .getWait | .updateFull _ => 7
  | .updateWait _ => 6
  | .getExit => 4
  | .getFront | .updatePush _ | .stopStore => 3
  | .getNotify _ | .updateNotify | .stopEmpty => 2
  | .getUnlock _ | .updateUnlock | .stopFull => 1
  | _ => 0

theorem weighs : Weighs (program maxFrameBuffer) weight where
  acts {loc} heavy shared halt := by
    cases loc with
    | idle | openSL | undefined | overrun | playCopy => cases heavy
    | getFront =>
      simp only [program, instr] at halt
      split at halt <;> cases halt
    | _ => cases halt
  lock act _ := by cases locks_of_instr act <;> simp [weight]
  unlock act _ := by cases unlocks_of_instr act <;> simp [weight]
  wait act _ := by cases waits_of_instr act <;> simp [weight]
  notifyAll act _ := by cases notifies_of_instr act <;> simp [weight]
  access act heavy := by
    cases access_of_instr act with
    | getEmpty | getExit | updateSize | updateFull => split_ifs <;> simp [weight]
    | getNothing | getFront | updatePush | stopStore => simp [weight]
    | _ => cases heavy

theorem weight_lt (status : Status Cond Loc) : status.weight weight < 12 := by
  have small (loc : Loc) : weight loc ≤ 9 := by cases loc <;> simp [weight]
  cases status with
  | running loc => exact Nat.lt_of_le_of_lt (small loc) (by decide)
  | relocking n => exact Nat.lt_of_le_of_lt (Nat.add_le_add_right (small n) 1) (by decide)
  | waiting c n => exact Nat.lt_of_le_of_lt (Nat.add_le_add_right (small n) 2) (by decide)

theorem heavy_of_blocked {status : Status Cond Loc} (blocked : Blocked status = true) :
    0 < status.weight weight := by
  cases status with
  | waiting c n => exact Nat.succ_pos _
  | relocking n => exact Nat.succ_pos _
  | running loc => cases loc <;> first | exact Nat.succ_pos _ | cases blocked

theorem heavy_of_comes {cond : Cond} {status : Status Cond Loc}
    (coming : Comes cond status = true) : 0 < status.weight weight := by
  cases status with
  | waiting c n => exact Nat.succ_pos _
  | relocking n => exact Nat.succ_pos _
  | running loc =>
    cases loc <;> first | exact Nat.succ_pos _ | (cases cond <;> cases coming)

/-- Whoever holds the mutex has something left to do with it. -/
theorem heavy_of_inside (fronts : Fronts s) {o : Tid}
    (inner : (program maxFrameBuffer).Inside (s.thread o)) :
    0 < (s.thread o).weight weight := by
  obtain ⟨loc, here, held⟩ := inner
  have defined := fronts.defined o
  rw [here] at defined ⊢
  cases loc <;> first | exact Nat.succ_pos _ | exact absurd rfl defined | cases held

/-- After the flag store: `t` is blocked, and if it waits, `u` is on the way to notify it. -/
structure Releasing (maxFrameBuffer : Nat) (t u : Tid) (s : State Tid) : Prop where
  facts : Facts maxFrameBuffer s
  fronts : Fronts s
  stopped : s.shared.isExit = true
  coming : ∀ cond n, s.thread t = .waiting cond n → Comes cond (s.thread u) = true

/-- **The step lemma**: as long as `t` is blocked every step keeps this. -/
theorem Releasing.step {t u : Tid} (releasing : Releasing maxFrameBuffer t u s)
    (blocked : Blocked (s.thread t) = true) (step : (program maxFrameBuffer).Step s l s') :
    Releasing maxFrameBuffer t u s' where
  facts := facts_step releasing.facts step
  fronts := fronts_step releasing.facts releasing.fronts step fun _ _ _ => Or.inr releasing.stopped
  stopped := isExit_kept step releasing.stopped
  coming cond n waits := by
    rcases step.waiting_arrival waits with waited | ⟨loc, here, act⟩
    · exact (comes_step step releasing.fronts.front (releasing.coming cond n waited)).resolve_right
        fun silent => silent t n waits
    · rw [here] at blocked
      cases waits_of_instr act <;> cases blocked

/-- While `t` is blocked it can step, or `u` can, or the owner of the mutex. -/
theorem Releasing.able {t u : Tid} (releasing : Releasing maxFrameBuffer t u s)
    (blocked : Blocked (s.thread t) = true) :
    ∃ y s', (y = t ∨ y = u ∨ s.owner = some y) ∧ 0 < (s.thread y).weight weight ∧
      (program maxFrameBuffer).next s (.step y) = some s' := by
  have facts := releasing.facts
  have busy (o : Tid) (inner : (program maxFrameBuffer).Inside (s.thread o)) :=
    heavy_of_inside releasing.fronts inner
  have able {x : Tid} := weighs.able (x := x) lawful facts.exclusive busy
  have holder {v : Tid} {loc : Loc} (here : s.thread v = .running loc) (held : inside loc = true) :
      ∃ y s', (y = t ∨ y = u ∨ s.owner = some y) ∧ 0 < (s.thread y).weight weight ∧
        (program maxFrameBuffer).next s (.step y) = some s' := by
    have inner : (program maxFrameBuffer).Inside (s.thread v) := ⟨loc, here, held⟩
    obtain ⟨y, s', who, rest⟩ := able (busy v inner) fun c m same => by
      cases here.symm.trans same
    refine ⟨y, s', Or.inr (Or.inr ?_), rest⟩
    rcases who with rfl | owns
    · exact (facts.exclusive.owner y).mpr inner
    · exact owns
  cases here : s.thread t with
  | waiting cond n =>
    have coming := releasing.coming cond n here
    cases there : s.thread u with
    | waiting c m =>
      -- an `update` that waits itself: somebody has just changed the list under the mutex
      have resumes := facts.resumes u
      rw [there] at resumes coming
      cases c with
      | notEmpty =>
        cases resumes
        cases cond <;> cases coming
      | notFull =>
        obtain ⟨data, rfl⟩ := resumes
        cases cond with
        | notFull => cases coming
        | notEmpty =>
          rcases facts.notEmpty t n here with nothing | ⟨v, stands⟩
          · rcases facts.notFull u _ there with stored | ⟨v, d, stands⟩
            · exact absurd nothing stored
            · exact holder stands rfl
          · exact holder stands rfl
    | _ =>
      obtain ⟨y, s', who, rest⟩ := able (x := u) (heavy_of_comes coming) fun c m same => by
        cases there.symm.trans same
      exact ⟨y, s', Or.inr who, rest⟩
  | _ =>
    obtain ⟨y, s', who, rest⟩ := able (x := t) (heavy_of_blocked blocked) fun c m same => by
      cases here.symm.trans same
    exact ⟨y, s', who.imp_right Or.inr, rest⟩

/-- **A blocked call goes on by the steps of the threads alone.** -/
theorem Releasing.released {t u : Tid} (releasing : Releasing maxFrameBuffer t u s) :
    ∃ s', (system Tid maxFrameBuffer).ReachesBy Label.Internal s s' ∧
      Blocked (s'.thread t) = false := by
  refine weighs.release weight_lt (t := t) (u := u)
    (F := fun s' => Blocked (s'.thread t) = false) (fun s s' y inv stuck step => ?_)
    (fun s inv stuck => ?_) releasing
  · exact inv.step (Bool.eq_true_of_not_eq_false stuck) step
  · exact inv.able (Bool.eq_true_of_not_eq_false stuck)

theorem Clean.shuts (clean : Clean maxFrameBuffer s) : Shuts maxFrameBuffer s where
  released stopped t blocked := by
    by_cases waits : ∃ cond n, s.thread t = .waiting cond n
    · obtain ⟨cond, n, here⟩ := waits
      obtain ⟨u, coming⟩ := clean.coming stopped t cond n here
      have releasing : Releasing maxFrameBuffer t u s :=
        { facts := clean.facts
          fronts := clean.fronts
          stopped := stopped
          coming := fun c m there => by
            cases here.symm.trans there
            exact coming }
      exact releasing.released
    · have releasing : Releasing maxFrameBuffer t t s :=
        { facts := clean.facts
          fronts := clean.fronts
          stopped := stopped
          coming := fun c m there => absurd ⟨c, m, there⟩ waits }
      exact releasing.released
  front := clean.fronts.front

/-! ### A missed notification -/

/-- The flag is set, the thread waits, and nobody is on the way to notify it. -/
structure Missed (cond : Cond) (t : Tid) (s : State Tid) : Prop where
  stopped : s.shared.isExit = true
  waits : ∃ n, s.thread t = .waiting cond n
  nobody : ∀ u, Comes cond (s.thread u) = false

/-- **The threads alone never release it.** -/
theorem Missed.step {cond : Cond} {t y : Tid} (missed : Missed cond t s)
    (step : (program maxFrameBuffer).Step s (.step y) s') : Missed cond t s' where
  stopped := isExit_kept step missed.stopped
  waits := by
    obtain ⟨n, here⟩ := missed.waits
    refine ⟨n, ?_⟩
    have other : t ≠ y := by
      rintro rfl
      have moves := step.moves
      simp only [Label.actor, here] at moves
      generalize s'.shared = q', s'.thread t = after at moves
      cases moves
    rcases step.other other with same | ⟨loc, c, m, there, act, -, woken⟩
    · rw [same, here]
    · rw [woken, wake_eq_waiting]
      refine ⟨here, ?_⟩
      rintro rfl
      have nobody := missed.nobody y
      rw [Label.actor] at there
      rw [there] at nobody
      cases notifies_of_instr act <;> cases nobody
  nobody u := by
    cases coming : Comes cond (s'.thread u) with
    | false => rfl
    | true =>
      have nobody := missed.nobody u
      by_cases self : u = y
      · have moves := step.moves
        rw [Label.actor, ← self] at moves
        rw [comes_back moves missed.stopped coming] at nobody
        cases nobody
      · rcases step.other self with same | ⟨_, _, _, _, _, _, woken⟩
        · rw [← same, coming] at nobody
          cases nobody
        · rw [woken, comes_wake, nobody] at coming
          cases coming

theorem Missed.not_shuts {cond : Cond} {t : Tid} (missed : Missed cond t s) :
    ¬ Shuts maxFrameBuffer s := by
  intro shuts
  obtain ⟨n, here⟩ := missed.waits
  obtain ⟨s', reach, free⟩ := shuts.released missed.stopped t (by rw [here]; rfl)
  have still : Missed cond t s' :=
    System.invariant_reachesBy (I := Missed cond t) (fun s l s' inv internal enabled => by
      cases l with
      | call u loc => cases internal
      | step y => exact inv.step (Program.step_of_next enabled)) reach missed
  obtain ⟨m, waits⟩ := still.waits
  rw [waits] at free
  cases free

/-- A wait entered after the flag store with nobody on the way to notify it. -/
theorem missed_of_wait {t : Tid} {loc n : Loc} {cond : Cond} (here : s.thread t = .running loc)
    (waits : Waits loc cond n) (stopped : s.shared.isExit = true)
    (nobody : ∀ u, Comes cond (s.thread u) = false)
    (enabled : (program maxFrameBuffer).next s (.step t) = some s') : Missed cond t s' := by
  have act : (program maxFrameBuffer).instr s.shared loc = .wait cond n := by cases waits <;> rfl
  simp only [Program.next, here, act, Option.some.injEq] at enabled
  subst enabled
  refine ⟨stopped, ⟨n, Function.update_self ..⟩, fun u => ?_⟩
  by_cases self : u = t
  · simp only [self, Function.update_self]
    cases waits <;> rfl
  · simp only [Function.update_of_ne self]
    exact nobody u

/-- **A step that does not meet the condition ends the clean shutdown.** -/
theorem not_shuts_of_not_meets {e : Event Tid} (breaks : ¬ Meets s e)
    (enabled : (program maxFrameBuffer).nextSpurious s e = some s') :
    ¬ Shuts maxFrameBuffer s' := by
  cases e with
  | spurious t => exact absurd trivial breaks
  | act l =>
    cases l with
    | call t loc => exact absurd trivial breaks
    | step t =>
      simp only [Program.nextSpurious] at enabled
      simp only [Meets] at breaks
      split at breaks
      case h_1 here =>
        push Not at breaks
        obtain ⟨stopped, nobody⟩ := breaks
        have silent (u : Tid) : Comes .notEmpty (s.thread u) = false := by simpa using nobody u
        exact (missed_of_wait here .get stopped silent enabled).not_shuts
      case h_2 data here =>
        push Not at breaks
        obtain ⟨stopped, nobody⟩ := breaks
        have silent (u : Tid) : Comes .notFull (s.thread u) = false := by simpa using nobody u
        exact (missed_of_wait here .update stopped silent enabled).not_shuts
      case h_3 here =>
        push Not at breaks
        obtain ⟨nothing, running⟩ := breaks
        have act : (program maxFrameBuffer).instr s.shared .getExit =
            .access s.shared .getFront := by
          simp only [program, instr]
          rw [if_neg running]
        simp only [Program.next, here, act, Option.some.injEq] at enabled
        subst enabled
        exact fun shuts => shuts.front t (Function.update_self ..) nothing
      case h_4 => exact absurd trivial breaks

/-! ### The main result -/

/-- **The player shuts down cleanly in exactly the runs whose steps meet the condition**, for every
interleaving of the calls, the callbacks of OpenSL and spurious wake-ups. -/
theorem shutsDown_iff (maxFrameBuffer : Nat) (plays : Tid → Bool) (events : List (Event Tid)) :
    (spurious Tid maxFrameBuffer).Steps (fun _ _ s' => Shuts maxFrameBuffer s')
        (constructed plays) events ↔
      (spurious Tid maxFrameBuffer).Steps (fun s e _ => Meets s e) (constructed plays) events := by
  refine System.steps_iff (I := Clean maxFrameBuffer) (fun s e s' clean enabled => ?_)
    (fun s e s' clean enabled meets => ?_) (clean_start plays) events
  · have step := Program.spuriousStep_of_next enabled
    constructor
    · intro shuts
      by_contra breaks
      exact not_shuts_of_not_meets breaks enabled shuts
    · exact fun meets => (clean_step clean meets step).shuts
  · exact clean_step clean meets (Program.spuriousStep_of_next enabled)

/-- `getData` finds the list empty, `stop` runs to its end, and only then `getData` waits. -/
def stopInBetween : List (Event Bool) :=
  .act (.call true .playExit) :: List.replicate 5 (.act (.step true)) ++
    .act (.call false .stopStore) :: List.replicate 3 (.act (.step false)) ++
    [.act (.step true)]

/-- `getData` waits, wakes by itself and finds the flag clear. -/
def wakeByItself : List (Event Bool) :=
  .act (.call true .playExit) :: List.replicate 6 (.act (.step true)) ++
    [.spurious true, .act (.step true), .act (.step true)]

/-- `stop` has returned and `getData` is blocked for ever; and a `getData` that woke by itself stands
before the front of the empty list. -/
theorem shutdown_fails :
    (∃ s, (spurious Bool 100).run (constructed id) stopInBetween = some s ∧
      s.thread false = .running .idle ∧ s.shared.isExit = true ∧
      s.thread true = .waiting .notEmpty .getExit ∧ ¬ Shuts 100 s) ∧
    ∃ s, (spurious Bool 100).run (constructed id) wakeByItself = some s ∧
      s.thread true = .running .getFront ∧ s.shared.frames = [] ∧ ¬ Shuts 100 s := by
  constructor
  · refine ⟨_, rfl, rfl, rfl, rfl, ?_⟩
    exact Missed.not_shuts (t := true) ⟨rfl, ⟨_, rfl⟩, fun u => by cases u <;> rfl⟩
  · refine ⟨_, rfl, rfl, rfl, ?_⟩
    exact fun shuts => shuts.front true rfl rfl

end Xplay.AudioPlay
