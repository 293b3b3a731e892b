/-
**When the threads of `XLooper` are stuck, and which steps lead there.**

`Stuck` lists the ways in which the loop's thread cannot go on by itself:

* `pushing` — it is in `push` on its own full queue, from inside `handleMessage`;
* `behind` — it calls `sendMessage` or `quit` from inside `handleMessage` while another thread, in
  `push` on the full queue, holds the looper's mutex;
* `posting` — it calls `sendMessage` from inside `handleMessage`, there is no room for its message
  and no `quit` is under way;
* `lost` — `isQuit` is set, and it waits, or is about to wait, for a notification nobody makes.

`Corners` lists the steps that lead there, by the state before the step. Both are stated among
certain threads: `quit` calls of the others do not count.
-/

import Xplay.Handler.LooperCalls

set_option linter.unusedSectionVars false

namespace Xplay.XLooper

open Lib Lib.Locks

variable {Tid : Type} [DecidableEq Tid] {looper : Tid}

/-- In `sendMessage`, before it has the looper's mutex. -/
def beforeSend : Loc → Bool
  | .postMessage _ _ _ _ _ | .sendMessage _ _ | .sendLock _ _ _ => true
  | _ => false

/-- In `sendMessage` or `quit`, before it has the looper's mutex. -/
def before : Loc → Bool
  | .quitLock => true
  | loc => beforeSend loc

/-- In `sendMessage`, with the looper's mutex, before its message is in the queue. -/
def storing : Loc → Bool
  | .sendQuit _ _ _ | .queue (.pushLock _) | .queue (.pushQuit _) | .queue (.pushFinished _)
  | .queue (.pushSize _) => true
  | _ => false

/-- In `quit`, before it has notified `_empty`. -/
def quitting : Loc → Bool
  | .quitLock | .quitFlag | .queue .quitStore | .queue .quitEmpty => true
  | _ => false

/-- In `pop`, past its test of `_quit`. -/
def bound : Loc → Bool
  | .queue .popEmpty | .queue .popFinished | .queue .popWait => true
  | _ => false

/-- The loop waits for a message, or is about to. -/
def BoundToWait : Monitor.Status Queue.Cond Loc → Prop
  | .running loc => bound loc = true
  | .waiting cond _ => cond = .empty
  | .relocking _ => False

/-- None of the threads is in `quit` with its notification of `_empty` to come. -/
def NoQuit (among : Set Tid) (s : State Tid) : Prop :=
  ∀ t ∈ among, quitting (place (s.thread t)) = false

/-- Another message would not find room, or finds the last one. -/
def Crowded (s : State Tid) : Prop :=
  capacity ≤ s.shared.queue.queue.length ∨
    (∃ t, storing (place (s.thread t)) = true) ∧ capacity ≤ s.shared.queue.queue.length + 1

/-- **The loop's thread cannot go on by itself.** -/
inductive Stuck (looper : Tid) (among : Set Tid) (s : State Tid) : Prop
  | pushing (clear : s.shared.isQuit = false) (full : capacity ≤ s.shared.queue.queue.length)
      (own : storing (place (s.thread looper)) = true)
  | behind (clear : s.shared.isQuit = false) (full : capacity ≤ s.shared.queue.queue.length)
      (calls : before (place (s.thread looper)) = true) {t : Tid}
      (holder : storing (place (s.thread t)) = true)
  | posting (clear : s.shared.isQuit = false) (posts : beforeSend (place (s.thread looper)) = true)
      (noQuit : NoQuit among s) (crowded : Crowded s)
  | lost (isQuit : s.shared.isQuit = true) (nothing : s.shared.queue.queue = [])
      (bound : BoundToWait (s.thread looper)) (noQuit : NoQuit among s)

/-- **The steps that lead there.** -/
inductive Corners (looper : Tid) (among : Set Tid) (s : State Tid) : Label Tid → Prop
  | nestedSend {loc} (send : beforeSend loc = true) (clear : s.shared.isQuit = false)
      (crowded : NoQuit among s ∧ Crowded s ∨
        capacity ≤ s.shared.queue.queue.length ∧ ∃ t, storing (place (s.thread t)) = true) :
      Corners looper among s (.call looper loc)
  | nestedQuit (clear : s.shared.isQuit = false)
      (full : capacity ≤ s.shared.queue.queue.length) {t : Tid}
      (holder : storing (place (s.thread t)) = true) :
      Corners looper among s (.call looper .quitLock)
  | ownLock {object sentAs late} (here : s.thread looper = .running (.sendLock object sentAs late))
      (clear : s.shared.isQuit = false) (full : capacity ≤ s.shared.queue.queue.length) :
      Corners looper among s (.step looper)
  | otherLock {t : Tid} {object sentAs late} (other : t ≠ looper)
      (here : s.thread t = .running (.sendLock object sentAs late))
      (clear : s.shared.isQuit = false)
      (crowded : before (place (s.thread looper)) = true ∧
          capacity ≤ s.shared.queue.queue.length ∨
        beforeSend (place (s.thread looper)) = true ∧ NoQuit among s ∧
          capacity ≤ s.shared.queue.queue.length + 1) :
      Corners looper among s (.step t)
  | lostNotify {t : Tid} {loc} (here : s.thread t = .running (.queue .quitEmpty))
      (waits : s.thread looper = .running loc) (bound : bound loc = true)
      (nothing : s.shared.queue.queue = [])
      (last : ∀ u ∈ among, u ≠ t → quitting (place (s.thread u)) = false) :
      Corners looper among s (.step t)

/-! ### Where the threads come from -/

variable {owner : Mutex → Option Tid} {q q' : Data Tid} {l : Label Tid}
  {σ σ' : Monitor.Status Queue.Cond Loc} {effect : Effect Mutex Queue.Cond} {among : Set Tid}

@[simp] theorem storing_back (looper t : Tid) : storing (back looper t) = false := by
  unfold back
  split_ifs <;> rfl

@[simp] theorem beforeSend_back (looper t : Tid) : beforeSend (back looper t) = false := by
  unfold back
  split_ifs <;> rfl

@[simp] theorem before_back (looper t : Tid) : before (back looper t) = false := by
  unfold back
  split_ifs <;> rfl

theorem before_of_beforeSend {loc : Loc} (send : beforeSend loc = true) : before loc = true := by
  cases loc <;> first | rfl | cases send

theorem not_before_of_storing {loc : Loc} (stores : storing loc = true) : ¬before loc = true := by
  cases loc <;> first | exact Bool.false_ne_true | cases stores

/-- A thread comes to store a message by taking the looper's mutex. -/
theorem storing_acts (acts : (program looper).Acts owner q l σ q' σ' effect)
    (after : storing (place σ') = true) :
    storing (place σ) = true ∨
      ∃ object sentAs late, σ = .running (.sendLock object sentAs late) ∧ l = .step l.actor := by
  cases acts with
  | @call t rest loc entry =>
    obtain ⟨-, calls⟩ := entry_calling entry
    cases loc <;> first | exact absurd calls Bool.false_ne_true | cases after
  | relock free => exact Or.inl after
  | lock act free =>
    cases acquires_of_instr act with
    | send => exact Or.inr ⟨_, _, _, rfl, rfl⟩
    | quit => cases after
    | queue locks => cases locks <;> first | exact Or.inl rfl | cases after
  | unlock act =>
    cases releases_of_instr act with
    | send => simp [place] at after
    | quit => cases after
    | queue unlocks => cases unlocks <;> cases after
  | wait act =>
    obtain ⟨_, _, rfl, rfl, waits⟩ := waits_of_instr act
    cases waits <;> first | exact Or.inl rfl | cases after
  | notifyAll act =>
    obtain ⟨_, _, rfl, rfl, notifies⟩ := notifies_of_instr act
    cases notifies <;> cases after
  | access act =>
    cases access_of_instr act with
    | sendOpen clear => exact Or.inl rfl
    | writing => simp [place] at after
    | quitDone => simp [place] at after
    | queue access => cases access <;> first | exact Or.inl rfl | cases after
    | _ => cases after

/-- A thread comes before the looper's mutex by a call. -/
theorem before_acts (acts : (program looper).Acts owner q l σ q' σ' effect)
    (after : before (place σ') = true) :
    before (place σ) = true ∧ (beforeSend (place σ') = true → beforeSend (place σ) = true) ∨
      ∃ t loc, l = .call t loc ∧ σ' = .running loc ∧ q' = q := by
  cases acts with
  | call entry => exact Or.inr ⟨_, _, rfl, rfl, rfl⟩
  | relock free => exact Or.inl ⟨after, id⟩
  | lock act free =>
    cases acquires_of_instr act with
    | queue locks => cases locks <;> cases after
    | _ => cases after
  | unlock act =>
    cases releases_of_instr act with
    | send => simp [place] at after
    | quit => cases after
    | queue unlocks => cases unlocks <;> cases after
  | wait act =>
    obtain ⟨_, _, rfl, rfl, waits⟩ := waits_of_instr act
    cases waits <;> cases after
  | notifyAll act =>
    obtain ⟨_, _, rfl, rfl, notifies⟩ := notifies_of_instr act
    cases notifies <;> cases after
  | access act =>
    cases access_of_instr act with
    | postMessage => exact Or.inl ⟨rfl, fun _ => rfl⟩
    | sendMessage => exact Or.inl ⟨rfl, fun _ => rfl⟩
    | writing => simp [place] at after
    | quitDone => simp [place] at after
    | queue access => cases access <;> cases after
    | _ => cases after

/-- A thread in `quit` goes on to notify `_empty`. -/
theorem quitting_acts (acts : (program looper).Acts owner q l σ q' σ' effect)
    (was : quitting (place σ) = true) :
    quitting (place σ') = true ∨ σ = .running (.queue .quitEmpty) ∧ effect = .wakes .empty := by
  cases acts with
  | call entry =>
    obtain ⟨⟨rfl, -⟩ | ⟨rfl, -⟩, -⟩ := entry_calling entry
    all_goals cases was
  | relock free => exact Or.inl was
  | lock act free =>
    cases acquires_of_instr act with
    | send => cases was
    | quit => exact Or.inl rfl
    | queue locks => cases locks <;> cases was
  | unlock act =>
    cases releases_of_instr act with
    | queue unlocks => cases unlocks <;> cases was
    | _ => cases was
  | wait act =>
    obtain ⟨_, _, rfl, rfl, waits⟩ := waits_of_instr act
    cases waits <;> cases was
  | notifyAll act =>
    obtain ⟨_, _, rfl, rfl, notifies⟩ := notifies_of_instr act
    cases notifies <;> first | exact Or.inr ⟨rfl, rfl⟩ | cases was
  | access act =>
    cases access_of_instr act with
    | quitFlag => exact Or.inl rfl
    | queue access => cases access <;> first | exact Or.inl rfl | cases was
    | _ => cases was

theorem not_bound_back (looper t : Tid) : ¬bound (back looper t) = true := by
  unfold back
  split_ifs <;> exact Bool.false_ne_true

/-- The loop comes to wait past a clear `_quit`. -/
theorem bound_acts (acts : (program looper).Acts owner q l σ q' σ' effect)
    (resumes : Monitor.ResumesAt Resumes σ) (after : BoundToWait σ')
    (nothing : q'.queue.queue = []) :
    BoundToWait σ ∧ q.queue.queue = [] ∨ q.queue.quit = false ∧ q' = q := by
  cases acts with
  | @call t rest loc entry =>
    obtain ⟨-, calls⟩ := entry_calling entry
    cases loc <;> first | exact absurd calls Bool.false_ne_true | cases after
  | @relock t n free =>
    cases n with
    | queue loc => cases loc <;> first | exact resumes.elim | cases after
    | _ => cases resumes
  | lock act free =>
    cases acquires_of_instr act with
    | queue locks => cases locks <;> cases after
    | _ => cases after
  | unlock act =>
    cases releases_of_instr act with
    | send => exact absurd after (not_bound_back looper _)
    | quit => cases after
    | queue unlocks => cases unlocks <;> cases after
  | wait act =>
    obtain ⟨_, _, rfl, rfl, waits⟩ := waits_of_instr act
    cases waits with
    | push full => cases after
    | pop => exact Or.inl ⟨rfl, nothing⟩
  | notifyAll act =>
    obtain ⟨_, _, rfl, rfl, notifies⟩ := notifies_of_instr act
    cases notifies <;> cases after
  | access act =>
    cases access_of_instr act with
    | writing => exact absurd after (not_bound_back looper _)
    | quitDone => exact absurd after (not_bound_back looper _)
    | queue access =>
      cases access with
      | popOpen clear => exact Or.inr ⟨clear, rfl⟩
      | popEmpty nothing => exact Or.inl ⟨rfl, nothing⟩
      | popCheck clear => exact Or.inl ⟨rfl, nothing⟩
      | _ => cases after
    | _ => cases after

/-- A thread inside the queue makes no call. -/
theorem label_of_queue {loc : Queue.Loc Posted}
    (acts : (program looper).Acts owner q l σ q' σ' effect) (here : σ = .running (.queue loc)) :
    l = .step l.actor := by
  subst here
  cases l with
  | call t loc =>
    cases acts with
    | call entry =>
      obtain ⟨⟨rest, -⟩ | ⟨rest, -⟩, -⟩ := entry_calling entry
      · cases rest
      · cases rest
  | step t => rfl

/-! ### One step back -/

/-- A thread that stores a message holds the looper's mutex. -/
theorem holds_of_storing (inside : storing (place σ) = true) :
    (program looper : Program (Data Tid) Mutex Queue.Cond Loc Tid).Holds .looper σ := by
  have held : ∀ loc, storing loc = true → holds .looper loc = true := by
    intro loc inside
    cases loc with
    | queue loc => cases loc <;> first | rfl | cases inside
    | sendQuit object sentAs late => rfl
    | _ => cases inside
  cases σ with
  | running loc => exact held loc inside
  | waiting cond n => exact ⟨held n inside, by rintro ⟨⟩⟩
  | relocking n => exact ⟨held n inside, by rintro ⟨⟩⟩

section Back

variable {s s' : State Tid} (step : (program looper).Step s l s' effect)
  (calls : Calls looper s)
include step calls

/-- A thread that stores did so before, or took the looper's mutex in this step. -/
theorem storing_step {t : Tid} (after : storing (place (s'.thread t)) = true) :
    storing (place (s.thread t)) = true ∨
      ∃ object sentAs late, s.thread t = .running (.sendLock object sentAs late) ∧ l = .step t := by
  by_cases mine : t = l.actor
  · subst mine
    exact storing_acts step.acts after
  · rw [step.other t mine, place_status] at after
    exact Or.inl after

/-- The queue grows only by the message that was being stored. -/
theorem length_back :
    s'.shared.queue.queue.length ≤ s.shared.queue.queue.length ∨
      s'.shared.queue.queue.length = s.shared.queue.queue.length + 1 ∧
        storing (place (s.thread l.actor)) = true ∧
        ∀ t, storing (place (s'.thread t)) = false := by
  rcases step.acts.shared with same | ⟨loc, n, act, here, there⟩
  · exact Or.inl (by simp [same])
  · have access := access_of_instr act
    generalize s'.shared = q' at access
    cases access with
    | queue access =>
      cases access with
      | enqueue room =>
        refine Or.inr ⟨by simp, by rw [here]; rfl, fun t => ?_⟩
        by_contra after
        rw [Bool.not_eq_false] at after
        rcases storing_step step calls after with was | ⟨object, sentAs, late, other, own⟩
        · have mine : t = l.actor := calls.delivery.exclusive.unique (holds_of_storing was)
            (by rw [here]; rfl)
          rw [mine, there] at after
          cases after
        · rw [own] at here
          simp only [Monitor.Label.actor] at here
          rw [other] at here
          cases here
      | dequeue front => exact Or.inl (by simp [front])
      | _ => exact Or.inl (Nat.le_refl _)
    | _ => exact Or.inl (Nat.le_refl _)

/-- The queue was full before, unless its last place was taken in this step. -/
theorem full_back (full : capacity ≤ s'.shared.queue.queue.length) {t : Tid}
    (stores : storing (place (s'.thread t)) = true) :
    capacity ≤ s.shared.queue.queue.length := by
  rcases length_back step calls with le | ⟨-, -, nobody⟩
  · exact Nat.le_trans full le
  · rw [nobody t] at stores
    cases stores

/-- `isQuit` was clear before. -/
theorem clear_back (clear : s'.shared.isQuit = false) : s.shared.isQuit = false := by
  by_contra isSet
  rw [Bool.not_eq_false] at isSet
  rcases step.acts.shared with same | ⟨loc, n, act, here, there⟩
  · rw [same, isSet] at clear
    cases clear
  · rw [isQuit_access (access_of_instr act) isSet] at clear
    cases clear

/-- While `isQuit` is clear, nobody leaves `quit`. -/
theorem noQuit_back (clear : s'.shared.isQuit = false) (noQuit : NoQuit among s') :
    NoQuit among s := by
  intro t member
  by_contra was
  rw [Bool.not_eq_false] at was
  have after := noQuit t member
  by_cases mine : t = l.actor
  · subst mine
    rcases quitting_acts step.acts was with goesOn | ⟨here, -⟩
    · rw [goesOn] at after
      cases after
    · have tells := calls.delivery.tells l.actor
      rw [here] at tells
      have isSet : s.shared.isQuit = true := tells
      rw [clear_back step calls clear] at isSet
      cases isSet
  · rw [step.other t mine, place_status, was] at after
    cases after

/-- The loop's thread was before the looper's mutex, or calls in this step. -/
theorem before_step (after : before (place (s'.thread looper)) = true) :
    before (place (s.thread looper)) = true ∧
        (beforeSend (place (s'.thread looper)) = true →
          beforeSend (place (s.thread looper)) = true) ∨
      ∃ loc, l = .call looper loc ∧ s'.thread looper = .running loc ∧ s'.shared = s.shared ∧
        (before loc = true → loc = .quitLock ∨ beforeSend loc = true) := by
  by_cases mine : looper = l.actor
  · have acts := step.acts
    rw [← mine] at acts
    rcases before_acts acts after with was | ⟨t, loc, called, there, same⟩
    · exact Or.inl was
    · subst called
      refine Or.inr ⟨loc, by rw [mine]; rfl, there, same, fun calls => ?_⟩
      cases loc <;> first | exact Or.inl rfl | exact Or.inr calls
  · rw [step.other looper mine, place_status] at after ⊢
    exact Or.inl ⟨after, id⟩

/-- The loop was bound to wait before, or `_quit` was clear then. -/
theorem bound_step (after : BoundToWait (s'.thread looper))
    (nothing : s'.shared.queue.queue = []) :
    BoundToWait (s.thread looper) ∧ s.shared.queue.queue = [] ∨
      s.shared.queue.quit = false ∧ s'.shared = s.shared ∧ looper = l.actor := by
  by_cases mine : looper = l.actor
  · have acts := step.acts
    have resumes := calls.delivery.resumes l.actor
    rw [← mine] at acts resumes
    rcases bound_acts acts resumes after nothing with was | ⟨clear, same⟩
    · exact Or.inl was
    · exact Or.inr ⟨clear, same, mine⟩
  · refine Or.inl ⟨?_, ?_⟩
    · rw [step.other looper mine] at after
      cases effect with
      | wakes cond =>
        cases status : s.thread looper with
        | waiting c n =>
          rw [status] at after
          simp only [Effect.status, Monitor.wake] at after
          split_ifs at after with woken
          · cases after
          · exact after
        | _ =>
          rw [status] at after
          exact after
      | _ => exact after
    · rcases step.acts.shared with same | ⟨loc, n, act, here, there⟩
      · exact same ▸ nothing
      · have access := access_of_instr act
        have tells := calls.delivery.tells l.actor
        rw [here] at tells
        generalize s'.shared = q' at access nothing
        cases access with
        | queue access =>
          cases access with
          | enqueue room => simp at nothing
          | dequeue front => exact absurd (Eq.symm tells) mine
          | _ => exact nothing
        | _ => exact nothing

/-- The queue was crowded before, or a thread took the looper's mutex to store the last message. -/
theorem crowded_back (crowded : Crowded s') : Crowded s ∨
    ∃ t object sentAs late, s.thread t = .running (.sendLock object sentAs late) ∧ l = .step t ∧
      storing (place (s'.thread t)) = true ∧ capacity ≤ s.shared.queue.queue.length + 1 := by
  rcases crowded with full | ⟨⟨t, stores⟩, last⟩
  · rcases length_back step calls with le | ⟨grown, stored, -⟩
    · exact Or.inl (Or.inl (Nat.le_trans full le))
    · exact Or.inl (Or.inr ⟨⟨_, stored⟩, grown ▸ full⟩)
  · rcases length_back step calls with le | ⟨-, -, nobody⟩
    · have last := Nat.le_trans last (Nat.succ_le_succ le)
      rcases storing_step step calls stores with stored | ⟨object, sentAs, late, here, own⟩
      · exact Or.inl (Or.inr ⟨⟨t, stored⟩, last⟩)
      · exact Or.inr ⟨t, object, sentAs, late, here, own, stores, last⟩
    · rw [nobody t] at stores
      cases stores

/-- Once no `quit` is under way, `isQuit` was set before. -/
theorem isQuit_back (acting : l.actor ∈ among) (noQuit : NoQuit among s')
    (isQuit : s'.shared.isQuit = true) : s.shared.isQuit = true := by
  rcases step.acts.shared with same | ⟨loc, n, act, here, there⟩
  · exact same ▸ isQuit
  · have access := access_of_instr act
    have after := noQuit l.actor acting
    rw [there] at after
    generalize s'.shared = q' at access isQuit
    cases access with
    | quitFlag => cases after
    | _ => exact isQuit

/-- The loop was bound to wait before: `_quit` is set by then. -/
theorem lost_back (holders : ∀ t, (program looper).Holds .looper (s.thread t) → t ∈ among)
    (noQuit : NoQuit among s') (isQuit : s.shared.isQuit = true)
    (nothing : s'.shared.queue.queue = []) (bound : BoundToWait (s'.thread looper)) :
    BoundToWait (s.thread looper) ∧ s.shared.queue.queue = [] := by
  rcases bound_step step calls bound nothing with was | ⟨clear, same, mine⟩
  · exact was
  · rcases calls.stores isQuit with quit | ⟨t, storing⟩
    · rw [clear] at quit
      cases quit
    · have after := noQuit t (holders t (by rw [storing]; rfl))
      by_cases own : t = l.actor
      · subst own
        rcases quitting_acts step.acts (by rw [storing]; rfl) with goesOn | ⟨here, -⟩
        · rw [goesOn] at after
          cases after
        · rw [storing] at here
          cases here
      · rw [step.other t own, place_status, storing] at after
        cases after

omit calls in
/-- A notification of `_empty` that leaves the loop bound to wait finds it on the way to the wait. -/
theorem running_of_bound (notifies : effect = .wakes .empty)
    (here : s.thread l.actor = .running (.queue .quitEmpty)) (was : BoundToWait (s.thread looper))
    (after : BoundToWait (s'.thread looper)) :
    ∃ loc, s.thread looper = .running loc ∧ bound loc = true := by
  cases status : s.thread looper with
  | running loc =>
    rw [status] at was
    exact ⟨loc, rfl, was⟩
  | waiting cond n =>
    rw [status] at was
    have other : looper ≠ l.actor := by
      rintro same
      rw [same, here] at status
      cases status
    rw [step.other looper other, notifies, status] at after
    simp only [Effect.status, Monitor.wake, if_pos (show cond = .empty from was)] at after
    cases after
  | relocking n =>
    rw [status] at was
    cases was

/-- **A step into `Stuck` comes from `Stuck` or corners the loop.** -/
theorem stuck_back (acting : l.actor ∈ among)
    (holders : ∀ t, (program looper).Holds .looper (s.thread t) → t ∈ among)
    (stuck : Stuck looper among s') : Stuck looper among s ∨ Corners looper among s l := by
  cases stuck with
  | pushing clear full own =>
    have clear := clear_back step calls clear
    have full := full_back step calls full own
    rcases storing_step step calls own with was | ⟨object, sentAs, late, here, rfl⟩
    · exact Or.inl (.pushing clear full was)
    · exact Or.inr (.ownLock here clear full)
  | @behind clear full waits t holder =>
    have clear := clear_back step calls clear
    have full := full_back step calls full holder
    rcases before_step step calls waits with ⟨was, -⟩ | ⟨loc, rfl, there, same, kind⟩
    · rcases storing_step step calls holder with stored | ⟨object, sentAs, late, here, rfl⟩
      · exact Or.inl (.behind clear full was stored)
      · refine Or.inr (.otherLock ?_ here clear (Or.inl ⟨was, full⟩))
        rintro rfl
        exact not_before_of_storing holder waits
    · rcases storing_step step calls holder with stored | ⟨object, sentAs, late, here, own⟩
      · rw [there] at waits
        rcases kind waits with rfl | send
        · exact Or.inr (.nestedQuit clear full stored)
        · exact Or.inr (.nestedSend send clear (Or.inr ⟨full, t, stored⟩))
      · cases own
  | posting clear posts noQuit crowded =>
    have clear' := clear_back step calls clear
    have noQuit := noQuit_back step calls clear noQuit
    rcases before_step step calls (before_of_beforeSend posts) with
      ⟨-, sends⟩ | ⟨loc, rfl, there, same, kind⟩
    · rcases crowded_back step calls crowded with was | ⟨t, object, sentAs, late, here, rfl, stores,
        last⟩
      · exact Or.inl (.posting clear' (sends posts) noQuit was)
      · refine Or.inr (.otherLock ?_ here clear' (Or.inr ⟨sends posts, noQuit, last⟩))
        rintro rfl
        exact not_before_of_storing stores (before_of_beforeSend posts)
    · rcases crowded_back step calls crowded with was | ⟨t, object, sentAs, late, here, own, -⟩
      · rw [there] at posts
        exact Or.inr (.nestedSend posts clear' (Or.inl ⟨noQuit, was⟩))
      · cases own
  | lost isQuit nothing bound noQuit =>
    have isQuit := isQuit_back step calls acting noQuit isQuit
    have was := lost_back step calls holders noQuit isQuit nothing bound
    by_cases still : NoQuit among s
    · exact Or.inl (.lost isQuit was.2 was.1 still)
    · obtain ⟨t, member, quits⟩ : ∃ t ∈ among, quitting (place (s.thread t)) = true := by
        simpa [NoQuit] using still
      have after := noQuit t member
      by_cases mine : t = l.actor
      · subst mine
        rcases quitting_acts step.acts quits with goesOn | ⟨here, rfl⟩
        · rw [goesOn] at after
          cases after
        · refine Or.inr ?_
          rw [label_of_queue step.acts here]
          obtain ⟨loc, waits, past⟩ := running_of_bound step rfl here was.1 bound
          refine .lostNotify here waits past was.2 fun u member other => ?_
          have quiet := noQuit u member
          rwa [step.other u other, place_status] at quiet
      · rw [step.other t mine, place_status, quits] at after
        cases after

end Back

end Xplay.XLooper
