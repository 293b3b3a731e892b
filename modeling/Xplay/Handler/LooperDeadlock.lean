/-
**`XLooper` is free of deadlock exactly while no step corners its loop.**

The main result is an equivalence over runs: in a run none of whose steps is in `Corners`, every
state is released (`released`); and every step in `Corners` leads to a state that is not
(`sticks`), since `Stuck` outlasts the steps of all threads.

`looper_sticks` is a run into the worst of these states: a handler posts to its own looper while ten
messages are waiting. It holds the looper's mutex and waits for room which only it could make, so
neither its call nor any `quit` ever returns, whatever is called.
-/

import Xplay.Handler.LooperRelease

set_option linter.unusedSectionVars false

namespace Xplay.XLooper

open Lib Lib.Locks

variable {Tid : Type} [DecidableEq Tid] {looper t : Tid} {s s' : State Tid} {l : Label Tid}
  {owner : Mutex → Option Tid} {q q' : Data Tid} {loc n : Loc}
  {σ σ' : Monitor.Status Queue.Cond Loc} {effect : Effect Mutex Queue.Cond}
  {object : Nat} {sentAs : XMessage} {late : Bool}

/-- **A thread that stores a message goes on storing it**, and changes nothing, until there is room
for it. -/
theorem storing_keeps (acts : (program looper).Acts owner q l σ q' σ' effect)
    (stores : storing (place σ) = true) (clear : q.isQuit = false) (open' : q.queue.quit = false)
    (unfinished : q.queue.finished = false) :
    storing (place σ') = true ∧ q' = q ∨
      q.queue.queue.length < capacity ∧
        q'.queue.queue.length = q.queue.queue.length + 1 := by
  cases acts with
  | call entry =>
    obtain ⟨⟨rfl, -⟩ | ⟨rfl, -⟩, -⟩ := entry_calling entry
    all_goals cases stores
  | relock free => exact Or.inl ⟨stores, rfl⟩
  | lock act free =>
    cases acquires_of_instr act with
    | queue locks => cases locks <;> first | exact Or.inl ⟨rfl, rfl⟩ | cases stores
    | _ => cases stores
  | unlock act =>
    cases releases_of_instr act with
    | queue unlocks => cases unlocks <;> cases stores
    | _ => cases stores
  | wait act =>
    obtain ⟨_, _, rfl, rfl, waits⟩ := waits_of_instr act
    cases waits <;> first | exact Or.inl ⟨rfl, rfl⟩ | cases stores
  | notifyAll act =>
    obtain ⟨_, _, rfl, rfl, notifies⟩ := notifies_of_instr act
    cases notifies <;> cases stores
  | access act =>
    cases access_of_instr act with
    | sendRefused isSet =>
      rw [clear] at isSet
      cases isSet
    | sendOpen clear => exact Or.inl ⟨rfl, rfl⟩
    | queue access =>
      cases access with
      | pushQuit isSet =>
        rw [open'] at isSet
        cases isSet
      | pushOpen clear => exact Or.inl ⟨rfl, rfl⟩
      | pushFinished isSet =>
        rw [unfinished] at isSet
        cases isSet
      | pushCheck clear => exact Or.inl ⟨rfl, rfl⟩
      | enqueue room => exact Or.inr ⟨room, by simp⟩
      | _ => cases stores
    | _ => cases stores

/-- **A thread before the looper's mutex stays there** while the mutex is taken; otherwise it may
take it, with a message or in `quit`. -/
theorem before_keeps (acts : (program looper).Acts owner q l σ q' σ' effect)
    (waits : before (place σ) = true) : q'.isQuit = q.isQuit ∧ q'.queue = q.queue ∧
      (before (place σ') = true ∧ (beforeSend (place σ) = true → beforeSend (place σ') = true) ∨
        owner .looper = none ∧ (beforeSend (place σ) = true → storing (place σ') = true)) := by
  cases acts with
  | call entry =>
    obtain ⟨⟨rfl, -⟩ | ⟨rfl, -⟩, -⟩ := entry_calling entry
    all_goals cases waits
  | relock free => exact ⟨rfl, rfl, Or.inl ⟨waits, id⟩⟩
  | lock act free =>
    cases acquires_of_instr act with
    | send => exact ⟨rfl, rfl, Or.inr ⟨free, fun _ => rfl⟩⟩
    | quit => exact ⟨rfl, rfl, Or.inr ⟨free, by rintro ⟨⟩⟩⟩
    | queue locks => cases locks <;> cases waits
  | unlock act =>
    cases releases_of_instr act with
    | queue unlocks => cases unlocks <;> cases waits
    | _ => cases waits
  | wait act =>
    obtain ⟨_, _, rfl, rfl, waits'⟩ := waits_of_instr act
    cases waits' <;> cases waits
  | notifyAll act =>
    obtain ⟨_, _, rfl, rfl, notifies⟩ := notifies_of_instr act
    cases notifies <;> cases waits
  | access act =>
    cases access_of_instr act with
    | postMessage => exact ⟨rfl, rfl, Or.inl ⟨rfl, fun _ => rfl⟩⟩
    | sendMessage => exact ⟨rfl, rfl, Or.inl ⟨rfl, fun _ => rfl⟩⟩
    | queue access => cases access <;> cases waits
    | _ => cases waits

/-- A thread comes into `quit` by a call. -/
theorem quitting_keeps (acts : (program looper).Acts owner q (.step t) σ q' σ' effect)
    (outside : quitting (place σ) = false) : quitting (place σ') = false := by
  have home : quitting (back looper t) = false := by
    unfold back
    split_ifs <;> rfl
  cases acts with
  | relock free => exact outside
  | lock act free =>
    cases acquires_of_instr act with
    | send => rfl
    | quit => cases outside
    | queue locks => cases locks <;> rfl
  | unlock act =>
    cases releases_of_instr act with
    | send => exact home
    | quit => rfl
    | queue unlocks => cases unlocks <;> rfl
  | wait act =>
    obtain ⟨_, _, rfl, rfl, waits⟩ := waits_of_instr act
    cases waits <;> rfl
  | notifyAll act =>
    obtain ⟨_, _, rfl, rfl, notifies⟩ := notifies_of_instr act
    cases notifies <;> rfl
  | access act =>
    cases access_of_instr act with
    | writing => exact home
    | quitDone => exact home
    | quitFlag => cases outside
    | queue access => cases access <;> first | rfl | cases outside
    | _ => rfl

/-- **The loop goes on to the wait** once it is past its test of `_quit`. -/
theorem bound_keeps (acts : (program looper).Acts owner q l σ q' σ' effect)
    (bound : BoundToWait σ) (nothing : q.queue.queue = []) (unfinished : q.queue.finished = false) :
    BoundToWait σ' := by
  cases acts with
  | call entry =>
    obtain ⟨⟨rfl, -⟩ | ⟨rfl, -⟩, -⟩ := entry_calling entry
    all_goals cases bound
  | relock free => cases bound
  | lock act free =>
    cases acquires_of_instr act with
    | queue locks => cases locks <;> cases bound
    | _ => cases bound
  | unlock act =>
    cases releases_of_instr act with
    | queue unlocks => cases unlocks <;> cases bound
    | _ => cases bound
  | wait act =>
    obtain ⟨_, _, rfl, rfl, waits⟩ := waits_of_instr act
    cases waits with
    | push full => cases bound
    | pop => rfl
  | notifyAll act =>
    obtain ⟨_, _, rfl, rfl, notifies⟩ := notifies_of_instr act
    cases notifies <;> cases bound
  | access act =>
    cases access_of_instr act with
    | queue access =>
      cases access with
      | popEmpty nothing => rfl
      | dequeue front =>
        rw [nothing] at front
        cases front
      | popFinished isSet =>
        rw [unfinished] at isSet
        cases isSet
      | popCheck clear => rfl
      | _ => cases bound
    | _ => cases bound

/-- While `isQuit` is clear, so is `_quit`. -/
theorem open_of_clear (calls : Calls looper s) (clear : s.shared.isQuit = false) :
    s.shared.queue.quit = false := by
  by_contra quit
  rw [calls.quit (by simpa using quit)] at clear
  cases clear

theorem not_inPop_of_before (waits : before loc = true) : inPop loc = false := by
  cases loc with
  | queue loc => cases waits
  | _ => rfl

section Steps

variable (step : (program looper).Step s l s' effect) (calls : Calls looper s)
include step calls

/-- While a thread stores its message, no other sets `isQuit`. -/
theorem clear_step (clear : s.shared.isQuit = false) {h : Tid}
    (stores : storing (place (s.thread h)) = true) : s'.shared.isQuit = false := by
  rcases step.acts.shared with same | ⟨loc, n, act, here, there⟩
  · exact same ▸ clear
  · have access := access_of_instr act
    generalize s'.shared = q' at access
    cases access with
    | quitFlag =>
      have mine : h = l.actor := calls.delivery.exclusive.unique (holds_of_storing stores)
        (by rw [here]; rfl)
      rw [mine, here] at stores
      cases stores
    | _ => exact clear

/-- While the loop is not in `pop`, the queue does not get shorter. -/
theorem length_mono (busy : inPop (place (s.thread looper)) = false) :
    s.shared.queue.queue.length ≤ s'.shared.queue.queue.length := by
  rcases step.acts.shared with same | ⟨loc, n, act, here, there⟩
  · exact Nat.le_of_eq (by rw [same])
  · have access := access_of_instr act
    have tells := calls.delivery.tells l.actor
    rw [here] at tells
    generalize s'.shared = q' at access
    cases access with
    | queue access =>
      cases access with
      | enqueue room => simp
      | dequeue front =>
        have mine : l.actor = looper := tells
        rw [← mine, here] at busy
        cases busy
      | _ => exact Nat.le_refl _
    | _ => exact Nat.le_refl _

/-- A thread that stores its message keeps the looper's mutex from the others. -/
theorem not_free_of_storing (stores : storing (place (s.thread t)) = true) :
    s.owner .looper ≠ none := by
  intro free
  have owned := (calls.delivery.exclusive.owner .looper t).mpr (holds_of_storing stores)
  rw [free] at owned
  cases owned

/-- The loop stays before the looper's mutex while another thread has it. -/
theorem before_stays (waits : before (place (s.thread looper)) = true)
    (taken : s.owner .looper ≠ none) : before (place (s'.thread looper)) = true ∧
      (beforeSend (place (s.thread looper)) = true →
        beforeSend (place (s'.thread looper)) = true) := by
  by_cases mine : looper = l.actor
  · have acts := step.acts
    rw [← mine] at acts
    rcases (before_keeps acts waits).2.2 with stays | ⟨free, -⟩
    · exact stays
    · exact absurd free taken
  · rw [step.other looper mine, place_status]
    exact ⟨waits, id⟩

/-- A thread that stores its message into the full queue goes on doing so. -/
theorem storing_stays (clear : s.shared.isQuit = false)
    (full : capacity ≤ s.shared.queue.queue.length)
    (stores : storing (place (s.thread t)) = true) : storing (place (s'.thread t)) = true := by
  by_cases mine : t = l.actor
  · have acts := step.acts
    rw [← mine] at acts
    rcases storing_keeps acts stores clear (open_of_clear calls clear) calls.unfinished with
      ⟨still, -⟩ | ⟨room, -⟩
    · exact still
    · exact absurd full (Nat.not_le_of_lt room)
  · rw [step.other t mine, place_status]
    exact stores

/-- A push of the loop into its own full queue goes on for ever, whatever is called. -/
theorem pushing_step (clear : s.shared.isQuit = false)
    (full : capacity ≤ s.shared.queue.queue.length)
    (own : storing (place (s.thread looper)) = true) :
    s'.shared.isQuit = false ∧ capacity ≤ s'.shared.queue.queue.length ∧
      storing (place (s'.thread looper)) = true := by
  have busy : inPop (place (s.thread looper)) = false := by
    generalize place (s.thread looper) = loc at own
    cases loc with
    | queue loc => cases loc <;> first | rfl | cases own
    | _ => rfl
  exact ⟨clear_step step calls clear own, Nat.le_trans full (length_mono step calls busy),
    storing_stays step calls clear full own⟩

/-- While nobody is in `quit`, nobody sets `isQuit`. -/
theorem clear_of_noQuit (clear : s.shared.isQuit = false) (noQuit : NoQuit Set.univ s) :
    s'.shared.isQuit = false := by
  rcases step.acts.shared with same | ⟨loc, n, act, here, there⟩
  · exact same ▸ clear
  · have access := access_of_instr act
    have outside := noQuit l.actor trivial
    rw [here] at outside
    generalize s'.shared = q' at access
    cases access with
    | quitFlag => cases outside
    | _ => exact clear

/-- The queue stays crowded while the loop is not in `pop`. -/
theorem crowded_step (crowded : Crowded s) (clear : s.shared.isQuit = false)
    (busy : inPop (place (s.thread looper)) = false) : Crowded s' := by
  rcases crowded with full | ⟨⟨t, stores⟩, last⟩
  · exact Or.inl (Nat.le_trans full (length_mono step calls busy))
  · by_cases mine : t = l.actor
    · have acts := step.acts
      rw [← mine] at acts
      rcases storing_keeps acts stores clear (open_of_clear calls clear) calls.unfinished with
        ⟨still, same⟩ | ⟨-, grown⟩
      · exact Or.inr ⟨⟨t, still⟩, same ▸ last⟩
      · exact Or.inl (grown ▸ last)
    · refine Or.inr ⟨⟨t, by rwa [step.other t mine, place_status]⟩, ?_⟩
      exact Nat.le_trans last (Nat.succ_le_succ (length_mono step calls busy))

/-- A loop bound to wait stays so while `isQuit` is set and nobody is in `quit`. -/
theorem lost_stays (isQuit : s.shared.isQuit = true) (nothing : s.shared.queue.queue = [])
    (bound : BoundToWait (s.thread looper)) (noQuit : NoQuit Set.univ s) :
    s'.shared.isQuit = true ∧ s'.shared.queue.queue = [] ∧ BoundToWait (s'.thread looper) := by
  have outside := noQuit l.actor trivial
  have knows := calls.knows l.actor
  have tells := calls.delivery.tells l.actor
  refine ⟨?_, ?_, ?_⟩
  · rcases step.acts.shared with same | ⟨loc, n, act, here, there⟩
    · exact same ▸ isQuit
    · exact isQuit_access (access_of_instr act) isQuit
  · rcases step.acts.shared with same | ⟨loc, n, act, here, there⟩
    · exact same ▸ nothing
    · rw [here] at knows
      have access := access_of_instr act
      generalize s'.shared = q' at access
      cases access with
      | queue access =>
        cases access with
        | enqueue room =>
          rw [knows.open' rfl] at isQuit
          cases isQuit
        | dequeue front =>
          rw [nothing] at front
          cases front
        | _ => exact nothing
      | _ => exact nothing
  · by_cases mine : looper = l.actor
    · have acts := step.acts
      rw [← mine] at acts
      exact bound_keeps acts bound nothing calls.unfinished
    · rw [step.other looper mine]
      have silent : effect ≠ .wakes .empty := by
        rintro rfl
        have acts := step.acts
        generalize s'.shared = q', s'.thread l.actor = σ' at acts
        generalize s.thread l.actor = σ at acts outside knows tells
        cases acts with
        | notifyAll act =>
          obtain ⟨cond, n, rfl, same, notifies⟩ := notifies_of_instr act
          cases same
          cases notifies with
          | push =>
            rw [knows.open' rfl] at isQuit
            cases isQuit
          | finished => cases tells
          | quitEmpty => cases outside
      cases status : s.thread looper with
      | waiting cond n =>
        rw [status] at bound
        have same : cond = .empty := bound
        subst same
        cases effect with
        | wakes c =>
          have differ : ¬Queue.Cond.empty = c := fun same => silent (by rw [same])
          simp only [Effect.status, Monitor.wake, if_neg differ]
          rfl
        | _ => rfl
      | running loc =>
        rw [status] at bound
        cases effect <;> exact bound
      | relocking n =>
        rw [status] at bound
        cases bound

end Steps

/-- **`Stuck` outlasts every step of every thread.** -/
theorem stuck_step (step : (program looper).Step s (.step t) s' effect) (calls : Calls looper s)
    (stuck : Stuck looper Set.univ s) : Stuck looper Set.univ s' := by
  have quiet : NoQuit Set.univ s → NoQuit Set.univ s' := by
    intro noQuit u _
    by_cases mine : u = t
    · subst mine
      exact quitting_keeps step.acts (noQuit _ trivial)
    · rw [step.other u mine, place_status]
      exact noQuit u trivial
  cases stuck with
  | pushing clear full own =>
    obtain ⟨clear, full, own⟩ := pushing_step step calls clear full own
    exact .pushing clear full own
  | behind clear full waits holder =>
    have busy := not_inPop_of_before waits
    have taken := not_free_of_storing step calls holder
    exact .behind (clear_step step calls clear holder)
      (Nat.le_trans full (length_mono step calls busy)) (before_stays step calls waits taken).1
      (storing_stays step calls clear full holder)
  | posting clear posts noQuit crowded =>
    have waits := before_of_beforeSend posts
    have clear' := clear_of_noQuit step calls clear noQuit
    have crowded' := crowded_step step calls crowded clear (not_inPop_of_before waits)
    by_cases stays : beforeSend (place (s'.thread looper)) = true
    · exact .posting clear' stays (quiet noQuit) crowded'
    · -- the loop has taken the looper's mutex, so no other thread is storing
      have mine : looper = t := by
        by_contra other
        rw [step.other looper other, place_status] at stays
        exact stays posts
      have acts := step.acts
      rw [Monitor.Label.actor, ← mine] at acts
      rcases (before_keeps acts waits).2.2 with ⟨-, still⟩ | ⟨free, own⟩
      · exact absurd (still posts) stays
      · rcases crowded with full | ⟨⟨h, stores⟩, -⟩
        · exact .pushing clear' (Nat.le_trans full (length_mono step calls
            (not_inPop_of_before waits))) (own posts)
        · exact absurd free (not_free_of_storing step calls stores)
  | lost isQuit nothing bound noQuit =>
    obtain ⟨isQuit, nothing, bound⟩ := lost_stays step calls isQuit nothing bound noQuit
    exact .lost isQuit nothing bound (quiet noQuit)

/-! ### A stuck loop is not released -/

theorem inCall_of_storing (stores : storing loc = true) : inCall loc = true := by
  cases loc with
  | queue loc => cases loc <;> first | rfl | cases stores
  | sendQuit object sentAs late => rfl
  | _ => cases stores

theorem inCall_of_before (waits : before loc = true) : inCall loc = true := by
  rw [inCall, waits, Bool.true_or]

theorem inPop_of_bound (past : bound loc = true) : inPop loc = true := by
  cases loc with
  | queue loc => cases loc <;> first | rfl | cases past
  | _ => cases past

/-- **A stuck loop is in a call**, or in `pop` with `isQuit` set. -/
theorem not_settled_of_stuck (calls : Calls looper s) (stuck : Stuck looper Set.univ s) :
    ¬Settled looper s looper := by
  rintro ⟨outside, rests⟩
  cases stuck with
  | pushing clear full own =>
    rw [inCall_of_storing own] at outside
    cases outside
  | behind clear full waits holder =>
    rw [inCall_of_before waits] at outside
    cases outside
  | posting clear posts noQuit crowded =>
    rw [inCall_of_before (before_of_beforeSend posts)] at outside
    cases outside
  | lost isQuit nothing bound noQuit =>
    have awaits := calls.awaits looper
    have pops : inPop (place (s.thread looper)) = true := by
      generalize s.thread looper = σ at awaits bound
      cases σ with
      | running loc => exact inPop_of_bound bound
      | waiting cond n =>
        have same : cond = .empty := bound
        subst same
        obtain ⟨rfl, -⟩ := awaits
        rfl
      | relocking n => cases bound
    obtain ⟨-, -, clear⟩ := rests rfl pops
    rw [isQuit] at clear
    cases clear

/-- **Once the loop is stuck, no steps of the threads bring it back.** -/
theorem not_released_of_stuck (calls : Calls looper s) (stuck : Stuck looper Set.univ s) :
    ¬Released looper s := by
  intro released
  obtain ⟨u, reach, settled⟩ := released looper
  have kept : Calls looper u ∧ Stuck looper Set.univ u := by
    refine System.invariant_reachesBy (I := fun s => Calls looper s ∧ Stuck looper Set.univ s)
      (fun s l s' inv allowed enabled => ?_) reach ⟨calls, stuck⟩
    obtain ⟨effect, step⟩ := Program.step_of_next enabled
    cases l with
    | step t => exact ⟨calls_step step inv.1, stuck_step step inv.1 inv.2⟩
    | call t loc => cases allowed
  exact not_settled_of_stuck kept.1 kept.2 settled

/-! ### A cornered loop is stuck -/

/-- The call begins at its first location. -/
theorem called (step : (program looper).Step s (.call t loc) s' effect) :
    s'.thread t = .running loc ∧ s'.shared = s.shared ∧ (∀ u, u ≠ t → s'.thread u = s.thread u) ∧
      calling loc = true ∧ s.thread t = .running (if t = looper then .handling else .idle) := by
  have acts := step.acts
  have others := step.other
  simp only [Monitor.Label.actor] at acts others
  generalize s'.shared = q', s'.thread t = σ', s.thread t = σ at acts
  cases acts with
  | call entry =>
    obtain ⟨place, calls⟩ := entry_calling entry
    refine ⟨rfl, rfl, others, calls, ?_⟩
    rcases place with ⟨rfl, other⟩ | ⟨rfl, same⟩
    · rw [if_neg other]
    · rw [if_pos same]

/-- A thread that takes the looper's mutex has its message still to store. -/
theorem locked (step : (program looper).Step s (.step t) s' effect)
    (here : s.thread t = .running (.sendLock object sentAs late)) :
    storing (place (s'.thread t)) = true ∧ s'.shared = s.shared ∧
      ∀ u, u ≠ t → s'.thread u = s.thread u := by
  have acts := step.acts
  have others := step.other
  simp only [Monitor.Label.actor] at acts others
  rw [here] at acts
  generalize s'.shared = q', s'.thread t = σ' at acts
  cases acts with
  | lock act free =>
    cases acquires_of_instr act with
    | send => exact ⟨rfl, rfl, others⟩
  | unlock act => cases releases_of_instr act
  | wait act =>
    obtain ⟨_, _, same, -⟩ := waits_of_instr act
    cases same
  | notifyAll act =>
    obtain ⟨_, _, same, -⟩ := notifies_of_instr act
    cases same
  | access act => cases access_of_instr act

/-- A `quit` past its notification is not `quitting`. -/
theorem notified (step : (program looper).Step s (.step t) s' effect)
    (here : s.thread t = .running (.queue .quitEmpty)) :
    quitting (place (s'.thread t)) = false ∧ s'.shared = s.shared ∧ effect = .wakes .empty := by
  have acts := step.acts
  simp only [Monitor.Label.actor] at acts
  rw [here] at acts
  generalize s'.shared = q', s'.thread t = σ' at acts
  cases acts with
  | lock act free =>
    cases acquires_of_instr act with
    | queue locks => cases locks
  | unlock act =>
    cases releases_of_instr act with
    | queue unlocks => cases unlocks
  | wait act =>
    obtain ⟨_, _, same, rfl, waits⟩ := waits_of_instr act
    cases same
    cases waits
  | notifyAll act =>
    obtain ⟨_, _, same, rfl, notifies⟩ := notifies_of_instr act
    cases same
    cases notifies
    exact ⟨rfl, rfl, rfl⟩
  | access act =>
    cases access_of_instr act with
    | queue access => cases access

theorem not_quitting_of_storing (stores : storing loc = true) : quitting loc = false := by
  cases loc with
  | queue loc => cases loc <;> first | rfl | cases stores
  | quitLock => cases stores
  | quitFlag => cases stores
  | _ => rfl

theorem not_quitting_of_beforeSend (send : beforeSend loc = true) : quitting loc = false := by
  cases loc <;> first | rfl | cases send

/-- A thread at rest stores nothing. -/
theorem ne_of_rest (rest : s.thread t = .running (if t = looper then .handling else .idle))
    {h : Tid} (stores : storing (place (s.thread h)) = true) : h ≠ t := by
  rintro rfl
  rw [rest] at stores
  split_ifs at stores <;> cases stores

/-- **A step in `Corners` leaves the loop stuck.** -/
theorem stuck_of_corners (step : (program looper).Step s l s' effect) (calls : Calls looper s)
    (corners : Corners looper Set.univ s l) : Stuck looper Set.univ s' := by
  cases corners with
  | @nestedSend loc send clear crowded =>
    obtain ⟨there, same, others, -, rest⟩ := called step
    have clear' : s'.shared.isQuit = false := same ▸ clear
    have posts : beforeSend (place (s'.thread looper)) = true := there ▸ send
    rcases crowded with ⟨noQuit, crowded⟩ | ⟨full, h, stores⟩
    · refine .posting clear' posts (fun u _ => ?_) ?_
      · by_cases mine : u = looper
        · rw [mine]
          exact not_quitting_of_beforeSend posts
        · rw [others u mine]
          exact noQuit u trivial
      · rcases crowded with full | ⟨⟨h, stores⟩, last⟩
        · exact Or.inl (same ▸ full)
        · exact Or.inr ⟨⟨h, others h (ne_of_rest rest stores) ▸ stores⟩, same ▸ last⟩
    · exact .behind clear' (same ▸ full) (before_of_beforeSend posts)
        (others h (ne_of_rest rest stores) ▸ stores)
  | nestedQuit clear full holder =>
    obtain ⟨there, same, others, -, rest⟩ := called step
    exact .behind (same ▸ clear) (same ▸ full) (by rw [there]; rfl)
      (others _ (ne_of_rest rest holder) ▸ holder)
  | ownLock here clear full =>
    obtain ⟨stores, same, -⟩ := locked step here
    exact .pushing (same ▸ clear) (same ▸ full) stores
  | @otherLock t object sentAs late other here clear crowded =>
    obtain ⟨stores, same, others⟩ := locked step here
    have stays := others looper (Ne.symm other)
    rcases crowded with ⟨waits, full⟩ | ⟨posts, noQuit, last⟩
    · exact .behind (same ▸ clear) (same ▸ full) (stays ▸ waits) stores
    · refine .posting (same ▸ clear) (stays ▸ posts) (fun u _ => ?_) (Or.inr ⟨⟨t, stores⟩, same ▸ last⟩)
      by_cases mine : u = t
      · rw [mine]
        exact not_quitting_of_storing stores
      · rw [others u mine]
        exact noQuit u trivial
  | @lostNotify t loc here waits past nothing last =>
    have tells := calls.delivery.tells t
    rw [here] at tells
    obtain ⟨done, same, rfl⟩ := notified step here
    have other : looper ≠ t := by
      rintro rfl
      rw [here] at waits
      cases waits
      cases past
    refine .lost (same ▸ tells) (same ▸ nothing) ?_ fun u _ => ?_
    · rw [step.other looper other, waits]
      exact past
    · by_cases mine : u = t
      · rw [mine]
        exact done
      · rw [step.other u mine, place_status]
        exact last u trivial mine

/-! ### The main result -/

/-- **What holds of every run of the looper with handlers that send and quit.** -/
structure FreeUnlessCornered (looper : Tid) (objects : Tid → Nat → XMessage) : Prop where
  /-- In a run that does not corner the loop, every state is released. -/
  released : ∀ labels s,
    (system looper).Guarded (fun s l => ¬Corners looper Set.univ s l) (start looper objects)
      labels →
    (system looper).run (start looper objects) labels = some s → Released looper s
  /-- Every step that does leads to a state that is not. -/
  sticks : ∀ labels s l s', (system looper).run (start looper objects) labels = some s →
    Corners looper Set.univ s l → (system looper).next s l = some s' → ¬Released looper s'

theorem not_stuck_start (objects : Tid → Nat → XMessage) :
    ¬Stuck looper Set.univ (start looper objects) := by
  have head : (start looper objects).thread looper = .running .loopQuit := if_pos rfl
  intro stuck
  cases stuck with
  | pushing clear full own => rw [head] at own; cases own
  | behind clear full waits holder => rw [head] at waits; cases waits
  | posting clear posts noQuit crowded => rw [head] at posts; cases posts
  | lost isQuit nothing bound noQuit => cases isQuit

/-- **The looper is free of deadlock exactly while no step corners its loop.** -/
theorem looper_free_unless_cornered (looper : Tid) (objects : Tid → Nat → XMessage) :
    FreeUnlessCornered looper objects where
  released labels s guarded run := by
    have kept : Calls looper s ∧ ¬Stuck looper Set.univ s := by
      refine System.invariant_guarded (I := fun s => Calls looper s ∧ ¬Stuck looper Set.univ s)
        (fun s l s' inv safe enabled => ?_) guarded run
        ⟨calls_start objects, not_stuck_start objects⟩
      obtain ⟨effect, step⟩ := Program.step_of_next enabled
      exact ⟨calls_step step inv.1, fun stuck =>
        (stuck_back step inv.1 (Set.mem_univ _) (fun _ _ => Set.mem_univ _) stuck).elim inv.2 safe⟩
    exact released_of_not_stuck kept.1 kept.2
  sticks labels s l s' run corners enabled := by
    have calls := calls_run run
    obtain ⟨effect, step⟩ := Program.step_of_next enabled
    exact not_released_of_stuck (calls_step step calls) (stuck_of_corners step calls corners)

/-- A thread posts a message and returns. -/
def post : List (Label Bool) :=
  .call false (.postMessage 5 0 1 2 3) :: List.replicate 12 (.step false)

/-- While the loop handles a message ten others arrive; then its handler posts one itself. -/
def fillAndPost : List (Label Bool) :=
  post ++ List.replicate 9 (.step true) ++ (List.replicate capacity post).flatten ++
    .call true (.postMessage 5 0 1 2 3) :: List.replicate 8 (.step true)

/-- The state this run leads to. -/
def filled : Option (State Bool) :=
  (system true).run (start true fun _ _ => ⟨0, 0, 0, none⟩) fillAndPost

set_option maxRecDepth 100000 in
/-- **A handler that posts to its own full looper never returns**, and no `quit` ever gets through:
whatever the threads do and call from then on, the loop is still in `push`. -/
theorem looper_sticks : ∃ s, (system true).run (start true fun _ _ => ⟨0, 0, 0, none⟩) fillAndPost =
    some s ∧ ∀ u, (system true).Reaches s u →
      storing (place (u.thread true)) = true ∧ u.shared.isQuit = false := by
  have waits : ∃ s, filled = some s ∧ s.shared.isQuit = false ∧
      capacity ≤ s.shared.queue.queue.length ∧ storing (place (s.thread true)) = true :=
    ⟨_, rfl, rfl, by decide, rfl⟩
  obtain ⟨s, run, clear, full, own⟩ := waits
  refine ⟨s, run, fun u reach => ?_⟩
  have kept : Calls true u ∧ u.shared.isQuit = false ∧
      capacity ≤ u.shared.queue.queue.length ∧ storing (place (u.thread true)) = true := by
    refine System.invariant_reaches (I := fun u => Calls true u ∧ u.shared.isQuit = false ∧
      capacity ≤ u.shared.queue.queue.length ∧ storing (place (u.thread true)) = true)
      (fun s l s' inv enabled => ?_) reach ⟨calls_run run, clear, full, own⟩
    obtain ⟨effect, step⟩ := Program.step_of_next enabled
    exact ⟨calls_step step inv.1, pushing_step step inv.1 inv.2.1 inv.2.2.1 inv.2.2.2⟩
  exact ⟨kept.2.2.2, kept.2.1⟩

end Xplay.XLooper
