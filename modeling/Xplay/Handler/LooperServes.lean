/-
**A looper that nobody quits, and whose own thread makes no call, handles everything that is posted.**

`Serving` is the invariant: `isQuit` is clear, no thread is in `quit`, and the thread of the loop is
in no call. Nothing then corners the loop, so the threads go on until they are done: every step
lowers `work`, and when no thread can step any more the loop waits at an empty queue and the poster
is back in its own code (`served_of_halted`).

`inFlight` is the message that the poster has on its way through `sendMessage`; with the accepted
ones it makes up the messages posted (`order_step`).
-/

import Xplay.Handler.LooperDeadlock

set_option linter.unusedSectionVars false

namespace Xplay.XLooper

open Lib Lib.Locks

variable {Tid : Type} [DecidableEq Tid] {looper t : Tid} {s s' : State Tid} {l : Label Tid}
  {effect : Effect Mutex Queue.Cond} {owner : Mutex → Option Tid} {q q' : Data Tid}
  {σ σ' : Monitor.Status Queue.Cond Loc} {loc n : Loc}

/-- A step of a thread, or a call of one other than the loop's, and not of `quit`. -/
def Posts (looper : Tid) : Label Tid → Prop
  | .step _ => True
  | .call t loc => t ≠ looper ∧ quitting loc = false

/-- **What a looper keeps that nobody quits.** -/
structure Serving (looper : Tid) (s : State Tid) : Prop where
  calls : Calls looper s
  clear : s.shared.isQuit = false
  noQuit : NoQuit Set.univ s
  loop : inCall (place (s.thread looper)) = false

theorem serving_start (objects : Tid → Nat → XMessage) :
    Serving looper (start looper objects) where
  calls := calls_start objects
  clear := rfl
  noQuit t _ := by
    simp only [start]
    split_ifs <;> rfl
  loop := by simp [start, place, inCall, before, beforeSend, holds]

theorem inCall_back : inCall (back looper t) = false := by
  unfold back
  split_ifs <;> rfl

/-- **A thread comes into a call by calling.** -/
theorem inCall_acts (acts : (program looper).Acts owner q (.step t) σ q' σ' effect)
    (outside : inCall (place σ) = false) : inCall (place σ') = false := by
  cases acts with
  | relock free => exact outside
  | lock act free =>
    cases acquires_of_instr act with
    | send => cases outside
    | quit => cases outside
    | queue locks => cases locks <;> first | rfl | cases outside
  | unlock act =>
    cases releases_of_instr act with
    | send => exact inCall_back
    | quit => rfl
    | queue unlocks => cases unlocks <;> first | rfl | cases outside
  | wait act =>
    obtain ⟨_, _, rfl, rfl, waits⟩ := waits_of_instr act
    cases waits <;> first | rfl | cases outside
  | notifyAll act =>
    obtain ⟨_, _, rfl, rfl, notifies⟩ := notifies_of_instr act
    cases notifies <;> first | rfl | cases outside
  | access act =>
    cases access_of_instr act with
    | writing => exact inCall_back
    | quitDone => exact inCall_back
    | queue access => cases access <;> first | rfl | cases outside
    | _ => first | rfl | cases outside

/-- **The step lemma.** -/
theorem Serving.step (serving : Serving looper s) (posts : Posts looper l)
    (step : (program looper).Step s l s' effect) : Serving looper s' where
  calls := calls_step step serving.calls
  clear := by
    rcases step.acts.shared with same | ⟨loc, n, act, here, there⟩
    · rw [same]
      exact serving.clear
    · have access := access_of_instr act
      have calm := serving.noQuit l.actor trivial
      rw [here] at calm
      generalize s'.shared = q' at access
      cases access with
      | quitFlag => cases calm
      | _ => exact serving.clear
  noQuit t _ := by
    by_cases mine : t = l.actor
    · subst mine
      cases l with
      | step t => exact quitting_keeps step.acts (serving.noQuit t trivial)
      | call t loc =>
        obtain ⟨there, -⟩ := called step
        rw [show (Monitor.Label.call t loc : Label Tid).actor = t from rfl, there]
        exact posts.2
    · rw [step.other t mine, place_status]
      exact serving.noQuit t trivial
  loop := by
    by_cases mine : looper = l.actor
    · cases l with
      | step t =>
        cases mine
        exact inCall_acts step.acts serving.loop
      | call t loc => exact absurd mine.symm posts.1
    · rw [step.other looper mine, place_status]
      exact serving.loop

/-- Nothing corners such a loop. -/
theorem Serving.loose (serving : Serving looper s) (among : Set Tid) :
    ¬Stuck looper among s := by
  intro stuck
  have notBefore : ¬before (place (s.thread looper)) = true := fun before =>
    absurd (inCall_of_before before) (by rw [serving.loop]; exact Bool.false_ne_true)
  cases stuck with
  | pushing clear full own =>
    exact absurd (inCall_of_storing own) (by rw [serving.loop]; exact Bool.false_ne_true)
  | behind clear full waits holder => exact notBefore waits
  | posting clear posts noQuit crowded => exact notBefore (before_of_beforeSend posts)
  | lost isQuit => rw [serving.clear] at isQuit; cases isQuit

/-! ### When no thread can step -/

/-- A thread in no call and not in `pop` is at rest, or can step. -/
theorem Serving.idle_of_halted (serving : Serving looper s)
    (halted : ¬(program looper).Enabled s t) (outside : inCall (place (s.thread t)) = false)
    (elsewhere : inPop (place (s.thread t)) = false) : s.thread t = .running .idle := by
  have apart : (inCall (place (s.thread t)) || inPop (place (s.thread t))) = false := by
    rw [outside, elsewhere]
    rfl
  have resumes := serving.calls.delivery.resumes t
  have ended := (serving.calls.knows t).quit
  have unset : ¬s.shared.isQuit = true := by
    rw [serving.clear]
    exact Bool.false_ne_true
  have stays : ∀ n, Resumes n → place (s.thread t) = n → False := by
    intro n resumes there
    rw [there] at apart
    cases n with
    | queue loc => cases loc <;> first | exact resumes.elim | cases apart
    | _ => cases resumes
  cases status : s.thread t with
  | waiting cond n =>
    rw [status] at resumes
    exact (stays n resumes (by rw [status]; rfl)).elim
  | relocking n =>
    rw [status] at resumes
    exact (stays n resumes (by rw [status]; rfl)).elim
  | running loc =>
    rw [status] at apart ended
    have able : ∀ {q' n}, (program looper).instr t s.shared loc = .access q' n → False := by
      intro q' n act
      exact halted (Program.enabled_running status (by rw [act]; trivial))
    have tells := serving.calls.delivery.tells t
    rw [status] at tells
    cases loc with
    | idle => rfl
    | loopDone => exact absurd (ended rfl) unset
    | queue loc => cases loc <;> first | exact tells.elim | cases apart
    | _ => first | exact (able rfl).elim | cases apart

/-- **When the poster and the loop can no longer step**, the poster is back in its own code and every
accepted message was dispatched. -/
theorem Serving.served_of_halted (serving : Serving looper s) {poster : Tid}
    (other : poster ≠ looper) (two : ∀ t, t = poster ∨ t = looper)
    (halted : ∀ t, ¬(program looper).Enabled s t) :
    s.thread poster = .running .idle ∧ s.shared.dispatched = s.shared.queue.accepted := by
  have ready : Among looper {poster, looper} s := by
    refine ⟨serving.calls, serving.loose _, by simp, fun t _ => by simpa using two t, ?_⟩
    exact Nat.le_trans Finset.card_le_two (by decide)
  have settled : ∀ t, Settled looper s t := by
    intro t
    by_contra unsettled
    obtain ⟨y, -, enabled, -⟩ := ready.moves (t := t) (by simpa using two t) unsettled
    exact halted y enabled
  have rests : Resting looper s := by
    obtain ⟨outside, rests⟩ := settled looper
    by_cases pops : inPop (place (s.thread looper)) = true
    · exact rests rfl pops
    · have idle := serving.idle_of_halted (halted looper) outside (by simpa using pops)
      have tells := serving.calls.delivery.tells looper
      rw [idle] at tells
      exact absurd rfl tells
  obtain ⟨⟨n, waits⟩, nothing, -⟩ := rests
  constructor
  · -- only the loop's own thread pops
    have elsewhere : inPop (place (s.thread poster)) = false := by
      have tells := serving.calls.delivery.tells poster
      generalize place (s.thread poster) = loc at tells
      cases loc with
      | queue loc => cases loc <;> first | rfl | exact absurd tells other
      | _ => rfl
    exact serving.idle_of_halted (halted poster) (settled poster).1 elsewhere
  · exact serving.calls.delivery.delivers.complete n waits nothing

/-! ### The messages on their way -/

/-- The message a thread has in `postMessage` or `sendMessage`, as it was when the call began. -/
def inFlight (q : Data Tid) (t : Tid) : Loc → List XMessage
  | .postMessage handler _ what arg1 arg2 => [⟨what, arg1, arg2, some handler⟩]
  | .sendMessage handler object => [{ q.objects t object with target := some handler }]
  | .sendLock _ sentAs _ | .sendQuit _ sentAs _ => [sentAs]
  | .queue (.pushLock data) | .queue (.pushQuit data) | .queue (.pushFinished data)
  | .queue (.pushSize data) => [data.sentAs]
  | _ => []

@[simp] theorem inFlight_back (q : Data Tid) (looper t : Tid) :
    inFlight q t (back looper t) = [] := by
  unfold back
  split_ifs <;> rfl

/-- What was accepted, and what the thread has on its way. -/
def sent (q : Data Tid) (t : Tid) (loc : Loc) : List XMessage :=
  q.queue.accepted.map Posted.sentAs ++ inFlight q t loc

theorem sent_back (q : Data Tid) (looper t : Tid) :
    sent q t (back looper t) = q.queue.accepted.map Posted.sentAs ++ [] := by
  rw [sent, inFlight_back]

/-- An access of the poster moves its message along while nothing has been quit. -/
theorem sent_access (access : Access looper t q loc q' n) (clear : q.isQuit = false)
    (open' : q.queue.quit = false) (unfinished : q.queue.finished = false) :
    sent q' t n = sent q t loc := by
  cases access with
  | writing => exact sent_back _ looper t
  | postMessage => simp [sent, inFlight, Data.write]
  | quitDone => exact sent_back _ looper t
  | sendRefused isSet =>
    rw [clear] at isSet
    cases isSet
  | queue access =>
    cases access with
    | pushQuit isSet =>
      rw [open'] at isSet
      cases isSet
    | pushFinished isSet =>
      rw [unfinished] at isSet
      cases isSet
    | enqueue room => simp [sent, inFlight]
    | _ => rfl
  | _ => rfl

/-- So does any action of the poster. -/
theorem sent_acts (acts : (program looper).Acts owner q (.step t) σ q' σ' effect)
    (clear : q.isQuit = false) (open' : q.queue.quit = false)
    (unfinished : q.queue.finished = false) : sent q' t (place σ') = sent q t (place σ) := by
  cases acts with
  | relock free => rfl
  | lock act free =>
    cases acquires_of_instr act with
    | queue locks => cases locks <;> rfl
    | _ => rfl
  | unlock act =>
    cases releases_of_instr act with
    | send => exact sent_back _ looper t
    | queue unlocks => cases unlocks <;> rfl
    | quit => rfl
  | wait act =>
    obtain ⟨_, _, rfl, rfl, waits⟩ := waits_of_instr act
    cases waits <;> rfl
  | notifyAll act =>
    obtain ⟨_, _, rfl, rfl, notifies⟩ := notifies_of_instr act
    cases notifies <;> rfl
  | access act => exact sent_access (access_of_instr act) clear open' unfinished

/-- What the poster has on its way depends on its own objects only. -/
theorem inFlight_objects (objects : q'.objects t = q.objects t) :
    inFlight q' t loc = inFlight q t loc := by
  cases loc with
  | sendMessage handler object => simp [inFlight, objects]
  | queue loc => cases loc <;> rfl
  | _ => rfl

/-- The loop accepts no message and writes no object of another. -/
theorem sent_loop (access : Access looper t q loc q' n) (outside : inCall loc = false) {u : Tid}
    (other : u ≠ t) {at' : Loc} : sent q' u at' = sent q u at' := by
  have accepted : q'.queue.accepted = q.queue.accepted := by
    cases access with
    | queue access =>
      cases access with
      | enqueue room => cases outside
      | _ => rfl
    | _ => rfl
  rw [sent, sent, accepted, inFlight_objects (objects_access access other)]

/-- **No message gets lost on its way.** -/
theorem Serving.sent_step (serving : Serving looper s) {poster : Tid} (other : poster ≠ looper)
    (two : ∀ t, t = poster ∨ t = looper) (step : (program looper).Step s (.step t) s' effect) :
    sent s'.shared poster (place (s'.thread poster)) =
      sent s.shared poster (place (s.thread poster)) := by
  rcases two t with rfl | rfl
  · exact sent_acts step.acts serving.clear (open_of_clear serving.calls serving.clear)
      serving.calls.unfinished
  · rw [step.other poster other, place_status]
    rcases step.acts.shared with same | ⟨loc, n, act, here, there⟩
    · rw [same]
    · have outside := serving.loop
      simp only [Monitor.Label.actor] at here
      rw [here] at outside
      exact sent_loop (access_of_instr act) outside other

/-- A call adds its message. -/
theorem sent_call (step : (program looper).Step s (.call t loc) s' effect) (other : t ≠ looper) :
    sent s'.shared t (place (s'.thread t)) =
      sent s.shared t (place (s.thread t)) ++ inFlight s.shared t loc := by
  obtain ⟨there, same, -, -, rest⟩ := called step
  rw [if_neg other] at rest
  simp [sent, there, same, rest, place, inFlight]

/-- Only the loop dispatches. -/
theorem dispatched_step (step : (program looper).Step s l s' effect) (calls : Calls looper s) :
    ∃ new, s'.shared.dispatched = s.shared.dispatched ++ new ∧ (l.actor ≠ looper → new = []) := by
  rcases step.acts.shared with same | ⟨loc, n, act, here, there⟩
  · exact ⟨[], by rw [same, List.append_nil], fun _ => rfl⟩
  · have access := access_of_instr act
    have tells := calls.delivery.tells l.actor
    rw [here] at tells
    generalize s'.shared = q' at access
    cases access with
    | @dispatch posted => exact ⟨[posted], rfl, fun other => absurd tells other⟩
    | _ => exact ⟨[], (List.append_nil _).symm, fun _ => rfl⟩

end Xplay.XLooper
