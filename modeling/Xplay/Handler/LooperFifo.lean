/-
**`XLooper` delivers every accepted message exactly once and in order.**

`Tells` is what the location of a thread says: a message on its way through `sendMessage` is still as
it was when the call began, and a `quit` past its store has set `isQuit`. Only the thread of the
loop pops. `Delivery` adds that the accepted messages are the dispatched ones, the one the loop
holds (`inHand`) and the stored ones, in that order.

A message whose `sendMessage` begins after a `quit` has returned finds `isQuit` set: the flag is
never cleared.
-/

import Xplay.Handler.Looper
import Mathlib.Tactic.Common

set_option linter.unusedSectionVars false

namespace Xplay.XLooper

open Lib Lib.Locks

variable {Tid : Type} [DecidableEq Tid] {looper : Tid}

/-- The message is as it was sent, by a handler, before any `quit` had returned. -/
structure Faithful (posted : Posted) : Prop where
  same : posted.message = posted.sentAs
  target : posted.sentAs.target ≠ none
  early : posted.late = false

/-- **What the location of a thread says.** -/
def Tells (looper : Tid) (q : Data Tid) (t : Tid) : Loc → Prop
  | .idle => t ≠ looper
  | .writing _ _ | .postMessage _ _ _ _ _ | .sendMessage _ _ | .sendUnlock => True
  | .sendLock object sentAs late | .sendQuit object sentAs late =>
    q.objects t object = sentAs ∧ sentAs.target ≠ none ∧ (late = true → q.isQuit = true)
  | .queue loc =>
    match loc with
    | .pushLock data | .pushQuit data | .pushFinished data | .pushSize data => Faithful data
    | .pushNotify | .pushUnlock _ | .pushDone _ => True
    | .quitStore | .quitEmpty | .quitFull | .quitDone => q.isQuit = true
    | .popLock | .popQuit | .popEmpty | .popFinished | .popWait | .popNotify _ | .popUnlock _
    | .popDone _ => t = looper
    | _ => False
  | .quitLock | .quitFlag => True
  | .quitUnlock | .quitDone => q.isQuit = true
  | .loopQuit | .loopTarget _ | .dispatch _ | .handling | .loopDone => t = looper

/-- The message the loop has popped and not dispatched yet. -/
def inHand : Loc → List Posted
  | .queue (.popNotify posted) | .queue (.popUnlock (some posted))
  | .queue (.popDone (some posted)) | .loopTarget posted | .dispatch posted => [posted]
  | _ => []

/-- A wait resumes at the head of the loop of `push` or `pop`. -/
def Resumes : Loc → Prop
  | .queue loc => Queue.LoopHead loc
  | _ => False

/-- **The invariant of every interleaving.** -/
structure Delivery (looper : Tid) (s : State Tid) : Prop where
  exclusive : (program looper).Exclusive s
  resumes : ∀ t, Monitor.ResumesAt Resumes (s.thread t)
  tells : ∀ t, Tells looper s.shared t (place (s.thread t))
  returned : s.shared.quitReturned = true → s.shared.isQuit = true
  order : s.shared.dispatched ++ inHand (place (s.thread looper)) ++ s.shared.queue.queue =
    s.shared.queue.accepted
  faithful : ∀ posted ∈ s.shared.queue.accepted, Faithful posted

theorem delivery_start (objects : Tid → Nat → XMessage) :
    Delivery looper (start looper objects) where
  exclusive := exclusive_start objects
  resumes t := by
    simp only [start]
    split_ifs <;> trivial
  tells t := by
    simp only [start]
    split_ifs with mine
    · exact mine
    · exact mine
  returned set := by cases set
  order := by simp [start, place, inHand]
  faithful := List.forall_mem_nil _

theorem resumes_of_wait {t : Tid} {q : Data Tid} {loc n : Loc} {cond : Queue.Cond}
    (act : (program looper).instr t q loc = .wait cond n) : Resumes n := by
  obtain ⟨_, _, rfl, rfl, waits⟩ := waits_of_instr act
  cases waits <;> trivial

/-! ### The data under one step -/

variable {t : Tid} {q q' : Data Tid} {loc n : Loc}

/-- `isQuit` is never cleared. -/
theorem isQuit_access (access : Access looper t q loc q' n) (isSet : q.isQuit = true) :
    q'.isQuit = true := by
  cases access with
  | quitFlag => rfl
  | _ => exact isSet

/-- A thread writes its own objects only. -/
theorem objects_access (access : Access looper t q loc q' n) {u : Tid} (other : u ≠ t) :
    q'.objects u = q.objects u := by
  cases access with
  | writing => exact Function.update_of_ne other _ _
  | postMessage => exact Function.update_of_ne other _ _
  | sendMessage => exact Function.update_of_ne other _ _
  | _ => rfl

/-- What a location says survives another thread's step. -/
theorem Tells.stable {u : Tid} (tells : Tells looper q u loc) (objects : q'.objects u = q.objects u)
    (isQuit : q.isQuit = true → q'.isQuit = true) : Tells looper q' u loc := by
  cases loc with
  | sendLock object sentAs late =>
    obtain ⟨same, target, early⟩ := tells
    exact ⟨by rw [objects, same], target, fun late => isQuit (early late)⟩
  | sendQuit object sentAs late =>
    obtain ⟨same, target, early⟩ := tells
    exact ⟨by rw [objects, same], target, fun late => isQuit (early late)⟩
  | queue loc =>
    cases loc with
    | quitStore => exact isQuit tells
    | quitEmpty => exact isQuit tells
    | quitFull => exact isQuit tells
    | quitDone => exact isQuit tells
    | _ => exact tells
  | quitUnlock => exact isQuit tells
  | quitDone => exact isQuit tells
  | _ => exact tells

theorem tells_back (looper t : Tid) : Tells looper q t (back looper t) := by
  unfold back
  split_ifs with mine
  · exact mine
  · exact mine

/-- An access keeps what the location of its thread says. -/
theorem tells_access (access : Access looper t q loc q' n) (tells : Tells looper q t loc)
    (returned : q.quitReturned = true → q.isQuit = true) : Tells looper q' t n := by
  cases access with
  | writing => exact tells_back looper t
  | postMessage => trivial
  | sendMessage =>
    refine ⟨?_, ?_, returned⟩
    · simp [Data.write]
    · simp
  | sendRefused isSet => trivial
  | sendOpen clear =>
    obtain ⟨same, target, early⟩ := tells
    refine ⟨same, target, ?_⟩
    show _ = false
    by_contra late
    rw [clear] at early
    exact absurd (early (by simpa using late)) (by simp)
  | pushDone => trivial
  | quitFlag => rfl
  | queueQuit => exact tells
  | quitDone => exact tells_back looper t
  | loopEnds isSet => exact tells
  | loopOpen clear => exact tells
  | popFailed => exact tells
  | popDone => exact tells
  | noTarget null => exact tells
  | target present => exact tells
  | dispatch => exact tells
  | handling => exact tells
  | queue access => cases access <;> first | exact tells | trivial

@[simp] theorem inHand_back (looper t : Tid) : inHand (back looper t) = [] := by
  unfold back
  split_ifs <;> rfl

theorem inHand_resumes (resumes : Resumes n) : inHand n = [] := by
  cases n with
  | queue loc => cases loc <;> first | rfl | cases resumes
  | _ => cases resumes

/-- **An access of the loop's thread** moves a message along: from the queue into its hand, from its
hand to its handler. -/
theorem order_own (access : Access looper looper q loc q' n)
    (order : q.dispatched ++ inHand loc ++ q.queue.queue = q.queue.accepted)
    (faithful : ∀ posted ∈ q.queue.accepted, Faithful posted) :
    q'.dispatched ++ inHand n ++ q'.queue.queue = q'.queue.accepted := by
  cases access with
  | writing =>
    rw [inHand_back]
    exact order
  | quitDone =>
    rw [inHand_back]
    exact order
  | @noTarget posted null =>
    have accepted : posted ∈ q.queue.accepted := by simp [← order, inHand]
    have sent := faithful posted accepted
    rw [sent.same] at null
    exact absurd null sent.target
  | dispatch => simpa [inHand] using order
  | queue access =>
    cases access with
    | enqueue room => simp [inHand, ← order]
    | dequeue front => simpa [inHand, front] using order
    | _ => exact order
  | _ => exact order

/-- An access of another thread leaves the hand of the loop. -/
theorem order_other (access : Access looper t q loc q' n) (other : t ≠ looper)
    (tells : Tells looper q t loc) {hand : List Posted}
    (order : q.dispatched ++ hand ++ q.queue.queue = q.queue.accepted) :
    q'.dispatched ++ hand ++ q'.queue.queue = q'.queue.accepted := by
  cases access with
  | dispatch => exact absurd tells other
  | queue access =>
    cases access with
    | enqueue room => simp [← order]
    | dequeue front => exact absurd tells other
    | _ => exact order
  | _ => exact order

/-- A message is accepted as `push` was given it. -/
theorem faithful_access (access : Access looper t q loc q' n) (tells : Tells looper q t loc)
    (faithful : ∀ posted ∈ q.queue.accepted, Faithful posted) :
    ∀ posted ∈ q'.queue.accepted, Faithful posted := by
  cases access with
  | queue access =>
    cases access with
    | @enqueue data room =>
      have last : ∀ posted ∈ [data], Faithful posted := List.forall_mem_singleton.mpr tells
      exact List.forall_mem_append.mpr ⟨faithful, last⟩
    | _ => exact faithful
  | _ => exact faithful

/-- After a `quit` has returned, `isQuit` is set. -/
theorem returned_access (access : Access looper t q loc q' n) (tells : Tells looper q t loc)
    (returned : q.quitReturned = true → q.isQuit = true) :
    q'.quitReturned = true → q'.isQuit = true := by
  cases access with
  | quitDone => exact fun _ => tells
  | quitFlag => exact fun _ => rfl
  | _ => exact returned

/-! ### The invariant -/

/-- An action keeps what the place of its thread says. -/
theorem tells_acts {owner : Mutex → Option Tid} {l : Label Tid}
    {σ σ' : Monitor.Status Queue.Cond Loc} {effect : Effect Mutex Queue.Cond}
    (acts : (program looper).Acts owner q l σ q' σ' effect)
    (tells : Tells looper q l.actor (place σ))
    (returned : q.quitReturned = true → q.isQuit = true) :
    Tells looper q' l.actor (place σ') := by
  cases acts with
  | @call t rest loc entry =>
    obtain ⟨-, calls⟩ := entry_calling entry
    cases loc <;> trivial
  | relock free => exact tells
  | lock act free =>
    cases acquires_of_instr act with
    | queue locks => cases locks <;> exact tells
    | send => exact tells
    | quit => trivial
  | unlock act =>
    cases releases_of_instr act with
    | send => exact tells_back looper _
    | queue unlocks => cases unlocks <;> exact tells
    | quit => exact tells
  | wait act =>
    obtain ⟨_, _, rfl, rfl, waits⟩ := waits_of_instr act
    cases waits <;> exact tells
  | notifyAll act =>
    obtain ⟨_, _, rfl, rfl, notifies⟩ := notifies_of_instr act
    cases notifies <;> exact tells
  | access act => exact tells_access (access_of_instr act) tells returned

/-- An action of another thread leaves the order. -/
theorem order_acts_other {owner : Mutex → Option Tid} {l : Label Tid}
    {σ σ' : Monitor.Status Queue.Cond Loc} {effect : Effect Mutex Queue.Cond}
    (acts : (program looper).Acts owner q l σ q' σ' effect) (other : l.actor ≠ looper)
    (tells : Tells looper q l.actor (place σ)) {hand : List Posted}
    (order : q.dispatched ++ hand ++ q.queue.queue = q.queue.accepted) :
    q'.dispatched ++ hand ++ q'.queue.queue = q'.queue.accepted := by
  rcases acts.shared with rfl | ⟨loc, n, act, rfl, rfl⟩
  · exact order
  · exact order_other (access_of_instr act) other tells order

/-- An action of the loop's thread moves a message along. -/
theorem order_acts_own {owner : Mutex → Option Tid} {l : Label Tid}
    {σ σ' : Monitor.Status Queue.Cond Loc} {effect : Effect Mutex Queue.Cond}
    (acts : (program looper).Acts owner q l σ q' σ' effect) (mine : l.actor = looper)
    (order : q.dispatched ++ inHand (place σ) ++ q.queue.queue = q.queue.accepted)
    (faithful : ∀ posted ∈ q.queue.accepted, Faithful posted) :
    q'.dispatched ++ inHand (place σ') ++ q'.queue.queue = q'.queue.accepted := by
  subst mine
  cases acts with
  | @call t rest loc entry =>
    obtain ⟨⟨rfl, -⟩ | ⟨rfl, -⟩, calls⟩ := entry_calling entry
    all_goals cases loc <;> first | exact order | cases calls
  | relock free => exact order
  | lock act free =>
    cases acquires_of_instr act with
    | queue locks => cases locks <;> exact order
    | _ => exact order
  | unlock act =>
    cases releases_of_instr act with
    | send =>
      simp only [place, inHand_back]
      exact order
    | queue unlocks =>
      cases unlocks with
      | @pop result => cases result <;> exact order
      | _ => exact order
    | quit => exact order
  | wait act =>
    obtain ⟨_, _, rfl, rfl, waits⟩ := waits_of_instr act
    cases waits <;> exact order
  | notifyAll act =>
    obtain ⟨_, _, rfl, rfl, notifies⟩ := notifies_of_instr act
    cases notifies <;> exact order
  | access act => exact order_own (access_of_instr act) order faithful

/-- **The step lemma**: one step of any thread keeps the delivery. -/
theorem delivery_step {s s' : State Tid} {l : Label Tid} {effect : Effect Mutex Queue.Cond}
    (step : (program looper).Step s l s' effect) (delivery : Delivery looper s) :
    Delivery looper s' where
  exclusive := Program.exclusive_step lawful delivery.exclusive step
  resumes := step.resumesAt resumes_of_wait delivery.resumes
  tells t := by
    by_cases mine : t = l.actor
    · subst mine
      exact tells_acts step.acts (delivery.tells _) delivery.returned
    · rw [step.other t mine, place_status]
      rcases step.acts.shared with same | ⟨loc, n, act, here, there⟩
      · rw [same]
        exact delivery.tells t
      · have access := access_of_instr act
        exact (delivery.tells t).stable (objects_access access mine) (isQuit_access access)
  returned := by
    rcases step.acts.shared with same | ⟨loc, n, act, here, there⟩
    · rw [same]
      exact delivery.returned
    · have tells := delivery.tells l.actor
      rw [here] at tells
      exact returned_access (access_of_instr act) tells delivery.returned
  order := by
    by_cases mine : looper = l.actor
    · have order := delivery.order
      rw [mine] at order ⊢
      exact order_acts_own step.acts mine.symm order delivery.faithful
    · rw [step.other looper mine, place_status]
      exact order_acts_other step.acts (Ne.symm mine) (delivery.tells _) delivery.order
  faithful := by
    rcases step.acts.shared with same | ⟨loc, n, act, here, there⟩
    · rw [same]
      exact delivery.faithful
    · have tells := delivery.tells l.actor
      rw [here] at tells
      exact faithful_access (access_of_instr act) tells delivery.faithful

/-- **The run lemma**: the delivery holds in every reachable state. -/
theorem delivery_run {objects : Tid → Nat → XMessage} {s : State Tid} {labels : List (Label Tid)}
    (run : (system looper).run (start looper objects) labels = some s) : Delivery looper s :=
  System.invariant_run (I := Delivery looper)
    (fun _ _ _ delivery enabled => by
      obtain ⟨effect, step⟩ := Program.step_of_next enabled
      exact delivery_step step delivery)
    run (delivery_start objects)

/-! ### The main result -/

/-- A looper that delivers: in every interleaving of any threads,

* two threads are never in the critical sections of `sendMessage` and `quit` at once, so the order
  of the accepted messages is the order of these sections;
* the messages dispatched are a prefix of the accepted ones;
* every accepted message is as it was when its `sendMessage` was called, goes to the handler that
  sent it, and its `sendMessage` began before any `quit` had returned;
* while the loop waits in `pop` on an empty queue, every accepted message was dispatched. -/
structure Delivers (looper : Tid) (s : State Tid) : Prop where
  oneAtATime : ∀ t u, (program looper).Holds .looper (s.thread t) →
    (program looper).Holds .looper (s.thread u) → t = u
  inOrder : s.shared.dispatched <+: s.shared.queue.accepted
  unchanged : ∀ posted ∈ s.shared.queue.accepted,
    posted.message = posted.sentAs ∧ posted.sentAs.target ≠ none ∧ posted.late = false
  complete : ∀ n, s.thread looper = .waiting .empty n → s.shared.queue.queue = [] →
    s.shared.dispatched = s.shared.queue.accepted

theorem Delivery.delivers {s : State Tid} (delivery : Delivery looper s) : Delivers looper s where
  oneAtATime t u := delivery.exclusive.unique
  inOrder := by
    rw [← delivery.order, List.append_assoc]
    exact List.prefix_append _ _
  unchanged posted member := by
    have sent := delivery.faithful posted member
    exact ⟨sent.same, sent.target, sent.early⟩
  complete n waits nothing := by
    have resumes := delivery.resumes looper
    have order := delivery.order
    rw [waits] at resumes order
    have empty : inHand n = [] := inHand_resumes resumes
    simpa [place, empty, nothing] using order

/-- **`XLooper` delivers exactly once and in order**, whatever the threads, the handlers, the
objects and the interleaving. -/
theorem looper_delivers (Tid : Type) [DecidableEq Tid] (looper : Tid)
    (objects : Tid → Nat → XMessage) (labels : List (Label Tid)) (s : State Tid)
    (run : (system looper).run (start looper objects) labels = some s) : Delivers looper s :=
  (delivery_run run).delivers

/-- Thread `false` posts a message, and changes its object before the loop has seen it. -/
def posted : List (Label Bool) :=
  [.call false (.postMessage 5 0 1 2 3)] ++ List.replicate 12 (.step false) ++
    [.call false (.writing 0 ⟨7, 7, 7, none⟩), .step false] ++ List.replicate 9 (.step true)

theorem looper_delivers_posted : ∃ s,
    (system true).run (start true fun _ _ => ⟨0, 0, 0, none⟩) posted = some s ∧
      s.shared.dispatched.map Posted.message = [⟨1, 2, 3, some 5⟩] ∧ Delivers true s := by
  refine ⟨_, rfl, rfl, ?_⟩
  exact looper_delivers Bool true _ posted _ rfl

end Xplay.XLooper
