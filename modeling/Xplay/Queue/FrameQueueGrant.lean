/-
**Which slots `peekWritable` grants.**

* `Grants` — a slot is granted below the capacity and holds no frame, and `size` stays in bounds.
* `Calm` — the condition on a step: no `start` meets a decoder that waits for room, and `popFrame`
  clears a slot only while a frame is counted.
* `grants_while_calm` — **in every run of calm steps every granted slot is free**; and every `start`
  that is not calm goes on, in some run, to a slot granted in a full queue.
-/

import Xplay.Queue.FrameQueueRing

set_option linter.unusedSectionVars false

namespace Xplay.FrameSlots

open Lib Lib.Monitor

/-- **A slot is granted below the capacity and holds no frame; the counter stays in bounds.** -/
structure Grants {Tid : Type} (s : State Tid) : Prop where
  room : ∀ t k, s.thread t = .running (.peekSlot k) → s.shared.queue.size < s.shared.queue.maxSize
  free : ∀ t k, s.thread t = .running (.peekSlot k) → s.shared.holds k = false
  size_le : s.shared.queue.size ≤ s.shared.queue.maxSize

/-- The decoder is in the wait set of `mNotFull`, or was notified and is not back yet. -/
def AwaitsRoom {Tid : Type} (s : State Tid) : Prop :=
  (∃ n, s.thread .producer = .waiting .notFull n) ∨ ∃ n, s.thread .producer = .relocking n

/-- **The condition on a step**: a `start` finds room in the queue or no decoder that waits for it,
and `popFrame` clears a slot only while a frame is counted. -/
def Calm {Tid : Type} (s : State Tid) : Label Tid → Prop
  | .call _ _ => True
  | .step t =>
    match s.thread t with
    | .running .startStore => AwaitsRoom s → s.shared.queue.size < s.shared.queue.maxSize
    | .running .popClear => 0 < s.shared.queue.size
    | _ => True

variable {Tid : Type} [DecidableEq Tid] {s s' : State Tid} {l : Label Tid}

/-! ### The invariant of calm runs -/

/-- **What every run of calm steps keeps.** -/
structure Inv (s : State Tid) : Prop where
  exclusive : program.Exclusive s
  roles : ∀ t, roleOf (s.thread t) = t.role
  resumes : ∀ t, ResumesAt (· = .peekAbort) (s.thread t)
  core : Core s.shared (s.thread .producer) (s.thread .consumer)
  /-- `start` notifies a decoder that finds room. -/
  starting : ∀ t, s.thread t = .running .startNotify →
    (∃ n, s.thread .producer = .waiting .notFull n) →
    s.shared.queue.size < s.shared.queue.maxSize
  aborting : ∀ t, s.thread t = .running .abortNotify → s.shared.queue.abortRequest = true

theorem inv_constructed (maxSize : Nat) (keepLast : Bool) :
    Inv (constructed Tid maxSize keepLast) where
  exclusive :=
    { owner := fun t => by
        cases t <;> simp [constructed, Program.Inside, program, inside]
      resumes := fun t => by cases t <;> trivial }
  roles t := by cases t <;> rfl
  resumes t := by cases t <;> trivial
  core := Core.new maxSize keepLast
  starting t here := by cases t <;> cases here
  aborting t here := by cases t <;> cases here

/-- Nobody but the decoder waits. -/
theorem Inv.wake_eq (inv : Inv s) {t : Thread Tid} (other : t.role ≠ .producer) (cond : Cond) :
    wake cond (s.thread t) = s.thread t := by
  have role := inv.roles t
  have resumes := inv.resumes t
  cases here : s.thread t with
  | waiting c n =>
    rw [here] at role resumes
    cases resumes
    exact absurd role.symm other
  | _ => rfl

/-- The thread of another role than the decoder's is left alone by the steps of the others. -/
theorem Inv.stays (inv : Inv s) (step : program.Step s l s') {t : Thread Tid} (apart : t ≠ l.actor)
    (other : t.role ≠ .producer) : s'.thread t = s.thread t := by
  rcases step.other apart with same | ⟨_, cond, _, _, _, _, woken⟩
  · exact same
  · rw [woken, inv.wake_eq other]

/-- **The decoder is left alone**, or notified by a thread at one of the notifications. -/
theorem Inv.notified (inv : Inv s) (step : program.Step s l s') (apart : Thread.producer ≠ l.actor)
    (core : Core s'.shared (s.thread .producer) (s'.thread .consumer)) :
    Core s'.shared (s'.thread .producer) (s'.thread .consumer) := by
  have role := inv.roles l.actor
  rcases step.other apart with same | ⟨loc, cond, n, here, act, shared, woken⟩
  · rw [same]
    exact core
  · rw [woken]
    cases cond
    refine core.wake fun waits => ?_
    rw [shared]
    cases notifies_of_instr act with
    | push =>
      rw [here] at role
      cases actor : l.actor with
      | producer => exact absurd actor.symm apart
      | _ =>
        rw [actor] at role
        cases role
    | pop =>
      rw [here] at role
      cases actor : l.actor with
      | consumer =>
        rw [actor] at here
        exact Or.inl (inv.core.popNotify here)
      | _ =>
        rw [actor] at role
        cases role
    | start => exact Or.inl (inv.starting l.actor here waits)
    | abort => exact Or.inr (inv.aborting l.actor here)

/-- `start` finds room where a decoder is about to come back, unless it has come back already. -/
theorem Inv.room_of_back (inv : Inv s) {t : Thread Tid} (here : s.thread t = .running .startStore)
    (calm : AwaitsRoom s → s.shared.queue.size < s.shared.queue.maxSize)
    (back : resuming (s.thread .producer) = true) :
    s.shared.queue.size < s.shared.queue.maxSize := by
  cases there : s.thread .producer with
  | waiting c n =>
    rw [there] at back
    cases back
  | relocking n => exact calm (Or.inr ⟨n, there⟩)
  | running loc =>
    rw [there] at back
    cases loc with
    | peekAbort =>
      cases inv.exclusive.unique ⟨_, here, rfl⟩ ⟨_, there, rfl⟩
      cases here.symm.trans there
    | _ => cases back

/-- **The step lemma for the ring.** -/
theorem core_step (inv : Inv s) (step : program.Step s l s') (calm : Calm s l) :
    Core s'.shared (s'.thread .producer) (s'.thread .consumer) := by
  have moves := step.moves
  have role := inv.roles l.actor
  have resumes := inv.resumes l.actor
  cases actor : l.actor with
  | producer =>
    rw [actor] at moves role resumes
    rw [inv.stays step (t := .consumer) (by rw [actor]; nofun) nofun]
    refine inv.core.producer_moves moves role resumes fun there inner => ?_
    cases inv.exclusive.unique ⟨_, there, rfl⟩ inner
  | consumer =>
    rw [actor] at moves role resumes
    refine inv.notified step (by rw [actor]; nofun)
      (inv.core.consumer_moves moves role resumes fun here => ?_)
    have acts := step.acts (by rw [actor, here]) fun _ => rfl
    rw [acts, actor] at calm
    simpa only [Calm, here] using calm
  | other u =>
    rw [actor] at moves role
    refine inv.notified step (by rw [actor]; nofun) ?_
    rw [inv.stays step (t := .consumer) (by rw [actor]; nofun) nofun]
    refine inv.core.other_moves moves role fun here back => ?_
    have acts := step.acts (by rw [actor, here]) fun _ => rfl
    rw [acts, actor] at calm
    simp only [Calm, here] at calm
    exact inv.room_of_back here calm back

/-! ### What a step leaves -/

theorem maxSize_step (step : program.Step s l s') :
    s'.shared.queue.maxSize = s.shared.queue.maxSize := by
  cases step with
  | access here act => cases access_of_instr act <;> rfl
  | _ => rfl

/-- The counter grows only by `pushFrame`. -/
theorem size_step (step : program.Step s l s') :
    s'.shared.queue.size ≤ s.shared.queue.size ∨ s'.thread l.actor = .running .pushNotify := by
  cases step with
  | access here act =>
    cases access_of_instr act with
    | pushSize => exact Or.inr (Function.update_self ..)
    | popSize =>
      left
      show (if 0 < s.shared.queue.size then s.shared.queue.size - 1 else s.shared.queue.size) ≤ _
      split_ifs
      · exact Nat.sub_le _ 1
      · exact Nat.le_refl _
    | _ => exact Or.inl (Nat.le_refl _)
  | _ => exact Or.inl (Nat.le_refl _)

/-- `abort_request` is cleared only by `start`. -/
theorem abortRequest_step (step : program.Step s l s')
    (aborted : s.shared.queue.abortRequest = true) :
    s'.shared.queue.abortRequest = true ∨ s.thread l.actor = .running .startStore := by
  cases step with
  | access here act =>
    cases access_of_instr act with
    | startStore => exact Or.inr here
    | abortStore => exact Or.inl rfl
    | _ => exact Or.inl aborted
  | _ => exact Or.inl aborted

/-- The two locations behind the stores of `start` and `abort`. -/
def stored : Loc → Bool
  | .startNotify | .abortNotify => true
  | _ => false

/-- **How a thread comes behind a store**: it stood there, or it stored. -/
theorem stored_arrival (step : program.Step s l s')
    (resumes : ∀ t, ResumesAt (· = .peekAbort) (s.thread t)) {t : Thread Tid} {n : Loc}
    (behind : stored n = true) (arrives : s'.thread t = .running n) :
    s.thread t = .running n ∨
      ∃ loc, s.thread t = .running loc ∧ Access s.shared loc s'.shared n := by
  cases step.arrival arrives with
  | stays here => exact Or.inl here
  | call here entry => cases calls_of_entry entry <;> cases behind
  | relock here =>
    have resumes := resumes t
    rw [here] at resumes
    cases resumes
    cases behind
  | lock here act => cases locks_of_instr act <;> cases behind
  | unlock here act => cases unlocks_of_instr act <;> cases behind
  | notifyAll here act => cases notifies_of_instr act <;> cases behind
  | access here act => exact Or.inr ⟨_, here, access_of_instr act⟩

theorem starting_step (inv : Inv s) (step : program.Step s l s') (calm : Calm s l)
    {t : Thread Tid} (arrives : s'.thread t = .running .startNotify)
    (waits : ∃ n, s'.thread .producer = .waiting .notFull n) :
    s'.shared.queue.size < s'.shared.queue.maxSize := by
  obtain ⟨n, waits⟩ := waits
  rcases stored_arrival step inv.resumes rfl arrives with here | ⟨loc, here, access⟩
  · have before : ∃ n, s.thread .producer = .waiting .notFull n := by
      rcases step.waiting_arrival waits with waited | ⟨loc, there, act⟩
      · exact ⟨n, waited⟩
      · cases waits_of_instr act
        cases inv.exclusive.unique ⟨_, here, rfl⟩ ⟨_, there, rfl⟩
        cases here.symm.trans there
    have less := inv.starting t here before
    rw [maxSize_step step]
    rcases size_step step with fewer | pushed
    · exact Nat.lt_of_le_of_lt fewer less
    · have role := roles_step step inv.roles l.actor
      rw [pushed] at role
      cases actor : l.actor with
      | producer =>
        rw [actor, waits] at pushed
        cases pushed
      | _ =>
        rw [actor] at role
        cases role
  · have origin : loc = .startStore ∧ s'.shared.queue.size = s.shared.queue.size := by
      generalize s'.shared = d' at access ⊢
      cases access with
      | startStore => exact ⟨rfl, rfl⟩
    obtain ⟨rfl, same⟩ := origin
    have self : t = l.actor := by
      by_contra other
      rw [(step.running_other other).mpr here] at arrives
      cases arrives
    have apart : Thread.producer ≠ l.actor := by
      rw [← self]
      rintro rfl
      cases arrives.symm.trans waits
    have acts := step.acts (by rw [← self, here]) fun _ => rfl
    rw [maxSize_step step, same]
    rw [acts, ← self] at calm
    simp only [Calm, here] at calm
    exact calm (Or.inl ⟨n, step.waiting_other apart waits⟩)

theorem aborting_step (inv : Inv s) (step : program.Step s l s') {t : Thread Tid}
    (arrives : s'.thread t = .running .abortNotify) : s'.shared.queue.abortRequest = true := by
  rcases stored_arrival step inv.resumes rfl arrives with here | ⟨loc, here, access⟩
  · refine (abortRequest_step step (inv.aborting t here)).resolve_right fun there => ?_
    cases inv.exclusive.unique ⟨_, here, rfl⟩ ⟨_, there, rfl⟩
    cases here.symm.trans there
  · generalize s'.shared = d' at access
    cases access with
    | abortStore => rfl

/-- **The step lemma.** -/
theorem inv_step (inv : Inv s) (step : program.Step s l s') (calm : Calm s l) : Inv s' where
  exclusive := Program.exclusive_step lawful inv.exclusive step
  roles := roles_step step inv.roles
  resumes := step.resumesAt (fun act => by cases waits_of_instr act; rfl) inv.resumes
  core := core_step inv step calm
  starting _ arrives waits := starting_step inv step calm arrives waits
  aborting _ arrives := aborting_step inv step arrives

/-- **The run lemma.** -/
theorem inv_run {maxSize : Nat} {keepLast : Bool} {labels : List (Label Tid)}
    (guarded : (system Tid).Guarded Calm (constructed Tid maxSize keepLast) labels)
    (run : (system Tid).run (constructed Tid maxSize keepLast) labels = some s) : Inv s :=
  System.invariant_guarded (I := Inv)
    (fun _ _ _ inv calm enabled => inv_step inv (Program.step_of_next enabled) calm)
    guarded run (inv_constructed maxSize keepLast)

theorem Inv.grants (inv : Inv s) : Grants s := by
  have granted {t : Thread Tid} {k : Nat} (here : s.thread t = .running (.peekSlot k)) :
      s.shared.queue.size < s.shared.queue.maxSize ∧ s.shared.holds k = false := by
    have role := inv.roles t
    rw [here] at role
    cases t with
    | producer =>
      have core := inv.core
      rw [here] at core
      exact core.grants
    | _ => cases role
  exact ⟨fun t k here => (granted here).1, fun t k here => (granted here).2,
    Nat.le_trans (Nat.le_add_right _ _) inv.core.size_le⟩

/-! ### A `start` that is not calm -/

/-- What every run keeps, calm or not. -/
structure Sound (s : State Tid) : Prop where
  exclusive : program.Exclusive s
  resumes : ∀ t, ResumesAt (· = .peekAbort) (s.thread t)

theorem sound_run {maxSize : Nat} {keepLast : Bool} {labels : List (Label Tid)}
    (run : (system Tid).run (constructed Tid maxSize keepLast) labels = some s) : Sound s := by
  have first : Inv (constructed Tid maxSize keepLast) := inv_constructed maxSize keepLast
  refine System.invariant_run (I := Sound) (fun s l s' sound enabled => ?_) run
    ⟨first.exclusive, first.resumes⟩
  have step := Program.step_of_next enabled
  exact ⟨Program.exclusive_step lawful sound.exclusive step,
    step.resumesAt (fun act => by cases waits_of_instr act; rfl) sound.resumes⟩

/-- **The decoder comes back to a full queue that is not aborted**: the slot it is granted is one of
a full queue. -/
theorem regranted (sound : Sound s) {t : Thread Tid} (here : s.thread t = .running .startStore)
    (awaits : AwaitsRoom s) (full : s.shared.queue.maxSize ≤ s.shared.queue.size) :
    ∃ u, (system Tid).Reaches s u ∧ ¬ Grants u := by
  have apart : Thread.producer ≠ t := by
    rintro rfl
    rcases awaits with ⟨n, there⟩ | ⟨n, there⟩ <;> cases there.symm.trans here
  have woken : wake .notFull (s.thread .producer) = .relocking .peekAbort := by
    have resumes := sound.resumes .producer
    rcases awaits with ⟨n, there⟩ | ⟨n, there⟩
    · rw [there] at resumes ⊢
      cases resumes
      rfl
    · rw [there] at resumes ⊢
      cases resumes
      rfl
  have enabled : ∃ u, (system Tid).run s
      [.step t, .step t, .step t, .step .producer, .step .producer] = some u ∧
      u.thread .producer = .running (.peekSlot s.shared.queue.windex) ∧
      u.shared.queue.size = s.shared.queue.size ∧
      u.shared.queue.maxSize = s.shared.queue.maxSize := by
    simp [System.run, Program.system, Program.next, here, program, instr, Function.update_of_ne apart,
      woken, FrameQueue.start]
  obtain ⟨u, run, there, size, maxSize⟩ := enabled
  refine ⟨u, ⟨_, run⟩, fun grants => ?_⟩
  have room := grants.room _ _ there
  omega

/-! ### The main result -/

/-- Every run of calm steps grants free slots only, and from every reachable state a `start` that is
not calm can be continued to a grant in a full queue. -/
structure GrantsWhileCalm (Tid : Type) [DecidableEq Tid] (maxSize : Nat) (keepLast : Bool) :
    Prop where
  granted : ∀ labels s, (system Tid).Guarded Calm (constructed Tid maxSize keepLast) labels →
    (system Tid).run (constructed Tid maxSize keepLast) labels = some s → Grants s
  lost : ∀ labels s t, (system Tid).run (constructed Tid maxSize keepLast) labels = some s →
    s.thread t = .running .startStore → ¬ Calm s (.step t) →
    ∃ u, (system Tid).Reaches s u ∧ ¬ Grants u

/-- **`peekWritable` grants free slots only, in every run of calm steps**, for every capacity and
every number of threads that start and abort the queue. -/
theorem grants_while_calm (maxSize : Nat) (keepLast : Bool) :
    GrantsWhileCalm Tid maxSize keepLast where
  granted _ _ guarded run := (inv_run guarded run).grants
  lost _ s t run here restless := by
    simp only [Calm, here] at restless
    push Not at restless
    exact regranted (sound_run run) here restless.1 restless.2

/-- A whole call of `start`. -/
def startCall : List (Label Unit) :=
  .call (.other ()) .startLock :: List.replicate 4 (.step (.other ()))

/-- The decoder is granted slot `k`, fills it and pushes it. -/
def pushCall (k : Nat) : List (Label Unit) :=
  .call .producer .peekLock :: List.replicate 4 (.step .producer) ++
    .call .producer (.fill k XData.zero) :: List.replicate 6 (.step .producer)

/-- A `popFrame` past its keep-last branch. -/
def popCall : List (Label Unit) :=
  .call .consumer .popKeep :: List.replicate 7 (.step .consumer)

/-- The decoder fills the started queue and waits for room, and `start` is called once more. -/
def startedAgain : List (Label Unit) :=
  startCall ++ (List.range 10).flatMap pushCall ++
    .call .producer .peekLock :: List.replicate 3 (.step .producer) ++ startCall ++
    List.replicate 2 (.step .producer)

/-- Two `popFrame` calls on the empty queue, ten frames, and a third `popFrame`. -/
def poppedEmpty : List (Label Unit) :=
  startCall ++ [.call .consumer .popKeep, .step .consumer] ++ popCall ++
    (List.range 10).flatMap pushCall ++ popCall ++
    .call .producer .peekLock :: List.replicate 3 (.step .producer)

set_option maxRecDepth 100000 in
/-- The decoder is granted the slot of the first frame: of a full queue, and of one whose `rindex` ran
ahead of the frames. -/
theorem occupied_granted :
    (∃ s, (system Unit).run (constructed Unit FRAME_QUEUE_SIZE true) startedAgain = some s ∧
      s.thread .producer = .running (.peekSlot 0) ∧ s.shared.queue.size = 10 ∧ ¬ Grants s) ∧
    ∃ s, (system Unit).run (constructed Unit FRAME_QUEUE_SIZE true) poppedEmpty = some s ∧
      s.thread .producer = .running (.peekSlot 0) ∧ s.shared.holds 0 = true ∧ ¬ Grants s := by
  constructor
  · refine ⟨_, rfl, rfl, rfl, fun grants => ?_⟩
    exact absurd (grants.room .producer 0 rfl) (by decide)
  · refine ⟨_, rfl, rfl, rfl, fun grants => ?_⟩
    exact absurd (grants.free .producer 0 rfl) (by decide)

end Xplay.FrameSlots
