/-
**The list of `IAudioPlay` and its bound.**

`update` waits while `frames.size() > maxFrameBuffer` holds, so a list of exactly `maxFrameBuffer`
frames takes one more; and a producer that has waited appends without another test, so all those that
one `notFull.notify_all` wakes append.

* `Within` — the list holds at most `maxFrameBuffer` frames.
* `OffBoundary` — the condition on a step: no `update` makes its test on a list of exactly
  `maxFrameBuffer` frames.
* `Calm` — what the runs of such steps keep: nobody ever waits for room.
* `bounded_of_offBoundary` — **in these runs the list is bounded, and from every other step two more
  steps of the same thread overfill it.**
-/

import Xplay.Audio.AudioShutdown

set_option linter.unusedSectionVars false

namespace Xplay.AudioPlay

open Lib Lib.Monitor

variable {Tid : Type} [DecidableEq Tid] {maxFrameBuffer : Nat}

/-- The list holds at most `maxFrameBuffer` frames. -/
def Within (maxFrameBuffer : Nat) (s : State Tid) : Prop := s.shared.frames.length ≤ maxFrameBuffer

/-- The thread is about to test whether the list is full. -/
def TestsFull : Status Cond Loc → Bool
  | .running (.updateFull _) => true
  | _ => false

/-- **The condition on a step**: no `update` makes its test on a list of exactly `maxFrameBuffer`
frames. -/
def OffBoundary (maxFrameBuffer : Nat) (s : State Tid) : Event Tid → Prop
  | .act (.step t) => TestsFull (s.thread t) = true → s.shared.frames.length ≠ maxFrameBuffer
  | _ => True

instance (maxFrameBuffer : Nat) (s : State Tid) :
    ∀ e, Decidable (OffBoundary maxFrameBuffer s e)
  | .act (.step t) =>
    inferInstanceAs (Decidable (TestsFull (s.thread t) = true → s.shared.frames.length ≠ _))
  | .act (.call _ _) => isTrue trivial
  | .spurious _ => isTrue trivial

/-- The thread is not in the wait for room, nor on its way into or out of it. -/
def Roomy : Status Cond Loc → Bool
  | .running (.updateWait _) | .waiting .notFull _ | .relocking (.updatePush _) => false
  | _ => true

/-- **What runs of such steps keep.** -/
structure Calm (maxFrameBuffer : Nat) (s : State Tid) : Prop where
  facts : Facts maxFrameBuffer s
  within : Within maxFrameBuffer s
  roomy : ∀ t, Roomy (s.thread t) = true
  push : ∀ t data, s.thread t = .running (.updatePush data) →
    s.shared.frames.length < maxFrameBuffer

theorem calm_start (plays : Tid → Bool) : Calm maxFrameBuffer (constructed plays) where
  facts := facts_start plays
  within := Nat.zero_le _
  roomy t := by
    simp only [constructed]
    split_ifs <;> rfl
  push t data here := by
    simp only [constructed] at here
    split_ifs at here <;> cases here

/-! ### The steps -/

variable {s s' : State Tid} {l : Label Tid}

theorem roomy_wake {cond : Cond} {status : Status Cond Loc} (resumes : Resumes status)
    (roomy : Roomy status = true) : Roomy (wake cond status) = true := by
  cases status with
  | running loc => exact roomy
  | relocking n => exact roomy
  | waiting c n =>
    cases c with
    | notFull => cases roomy
    | notEmpty =>
      cases resumes
      cases cond <;> rfl

/-- A thread comes to the wait for room only from a test on a list that is over its bound. -/
theorem roomy_moves {q q' : Data} {before after : Status Cond Loc}
    (moves : (program maxFrameBuffer).Moves q before l q' after)
    (resumes : Resumes before) (within : q.frames.length ≤ maxFrameBuffer)
    (roomy : Roomy before = true) : Roomy after = true := by
  cases moves with
  | call entry => cases calls_of_entry entry <;> rfl
  | relock =>
    rcases resumes with rfl | ⟨data, rfl⟩
    · rfl
    · cases roomy
  | lock act => cases locks_of_instr act <;> rfl
  | unlock act => cases unlocks_of_instr act <;> rfl
  | wait act =>
    cases waits_of_instr act with
    | get => rfl
    | update => cases roomy
  | notifyAll act => cases notifies_of_instr act <;> rfl
  | access act =>
    cases access_of_instr act with
    | updateFull =>
      rw [if_neg (not_lt.mpr within)]
      rfl
    | _ => first | rfl | (split_ifs <;> rfl)

theorem roomy_step (calm : Calm maxFrameBuffer s) (step : (program maxFrameBuffer).Step s l s')
    (t : Tid) : Roomy (s'.thread t) = true := by
  by_cases self : t = l.actor
  · subst self
    exact roomy_moves step.moves (calm.facts.resumes _) calm.within (calm.roomy _)
  · rcases step.other self with same | ⟨_, _, _, _, _, _, woken⟩
    · rw [same]
      exact calm.roomy t
    · rw [woken]
      exact roomy_wake (calm.facts.resumes t) (calm.roomy t)

theorem within_step (calm : Calm maxFrameBuffer s) (step : (program maxFrameBuffer).Step s l s') :
    Within maxFrameBuffer s' := by
  have within := calm.within
  simp only [Within] at within ⊢
  cases framed_of_step step with
  | same frames => rwa [frames]
  | push data here there frames =>
    have room := calm.push _ data here
    rw [frames, List.length_append, List.length_singleton]
    exact room
  | pop d here there frames =>
    rw [frames, List.length_cons] at within
    exact Nat.le_of_succ_le within

/-- A thread before `push_back` finds room: it has tested the list under the same ownership. -/
theorem push_step (calm : Calm maxFrameBuffer s) (meets : OffBoundary maxFrameBuffer s (.act l))
    (step : (program maxFrameBuffer).Step s l s') {t : Tid} {data : XData}
    (arrives : s'.thread t = .running (.updatePush data)) :
    s'.shared.frames.length < maxFrameBuffer := by
  cases step.arrival arrives with
  | stays here =>
    have room := calm.push t data here
    have holds {loc : Loc} (stands : s.thread l.actor = .running loc) (inner : inside loc = true) :
        t = l.actor := calm.facts.exclusive.unique ⟨loc, stands, inner⟩ ⟨_, here, rfl⟩
    cases framed_of_step step with
    | same frames => rwa [frames]
    | push d stands there frames =>
      cases holds stands rfl
      cases arrives.symm.trans there
    | pop d stands there frames =>
      cases holds stands rfl
      cases arrives.symm.trans there
  | call here entry => cases calls_of_entry entry
  | relock here =>
    have roomy := calm.roomy t
    rw [here] at roomy
    cases roomy
  | lock here act => cases locks_of_instr act
  | unlock here act => cases unlocks_of_instr act
  | notifyAll here act => cases notifies_of_instr act
  | access here act =>
    have access := access_of_instr act
    generalize target : Loc.updatePush data = n at access
    generalize after : s'.shared = q' at access ⊢
    cases access with
    | updateFull =>
      split_ifs at target with full
      have mine : l = .step t := step.eq_step here (fun _ => rfl) (by rw [arrives]; nofun)
      subst mine
      exact lt_of_le_of_ne (not_lt.mp full) (meets (by rw [here]; rfl))
    | _ => first | cases target | (split_ifs at target)

/-- **The step lemma.** -/
theorem calm_step {e : Event Tid} (calm : Calm maxFrameBuffer s)
    (meets : OffBoundary maxFrameBuffer s e)
    (step : (program maxFrameBuffer).SpuriousStep s e s') : Calm maxFrameBuffer s' := by
  cases step with
  | act step =>
    exact ⟨facts_step calm.facts step, within_step calm step, roomy_step calm step,
      fun _ _ arrives => push_step calm meets step arrives⟩
  | @spurious t cond resume here =>
    refine ⟨facts_spurious calm.facts here, calm.within, fun u => ?_, fun u data there => ?_⟩
    · have roomy := calm.roomy t
      have resumes := calm.facts.resumes t
      rw [here] at roomy resumes
      by_cases self : u = t
      · simp only [self, Function.update_self]
        cases cond with
        | notEmpty =>
          cases resumes
          rfl
        | notFull => cases roomy
      · simp only [Function.update_of_ne self]
        exact calm.roomy u
    · exact calm.push u data ((Program.running_spurious here).mp there)

theorem exists_updateFull {status : Status Cond Loc} (tests : TestsFull status = true) :
    ∃ data, status = .running (.updateFull data) := by
  cases status with
  | running loc => cases loc <;> first | exact ⟨_, rfl⟩ | cases tests
  | _ => cases tests

/-- **A test on the boundary overfills the list**: it lets the thread append. -/
theorem overfills {t : Tid} {data : XData} (here : s.thread t = .running (.updateFull data))
    (boundary : s.shared.frames.length = maxFrameBuffer) :
    ∃ s', (spurious Tid maxFrameBuffer).run s [.act (.step t), .act (.step t)] = some s' ∧
      s'.shared.frames.length = maxFrameBuffer + 1 := by
  have tested : (program maxFrameBuffer).instr s.shared (.updateFull data) =
      .access s.shared (.updatePush data) := by
    simp only [program, instr]
    rw [if_neg (by rw [boundary]; exact Nat.lt_irrefl _)]
  let appending : State Tid :=
    { s with thread := Function.update s.thread t (.running (.updatePush data)) }
  let overfull : State Tid :=
    { s with
      shared := { s.shared with
        frames := s.shared.frames ++ [data], appended := s.shared.appended ++ [data] }
      thread := Function.update appending.thread t (.running .updateNotify) }
  have first : (program maxFrameBuffer).next s (.step t) = some appending :=
    Program.next_access here tested
  have second : (program maxFrameBuffer).next appending (.step t) = some overfull :=
    Program.next_access (Function.update_self ..) rfl
  refine ⟨overfull, ?_, by simp [overfull, boundary]⟩
  rw [System.run_cons]
  simp only [Program.spuriousSystem, Program.nextSpurious, first, Option.bind_some]
  rw [System.run_cons]
  simp only [Program.nextSpurious, second, Option.bind_some, System.run_nil]

/-! ### The main result -/

/-- **A run bounds the list if no `update` makes its test on a list of exactly `maxFrameBuffer`
frames; and from every state in which one is about to, two more steps of its thread leave a list of
`maxFrameBuffer + 1`**, for every interleaving of the calls, the callbacks and spurious wake-ups. -/
theorem bounded_of_offBoundary (maxFrameBuffer : Nat) (plays : Tid → Bool)
    (events : List (Event Tid)) (s : State Tid)
    (run : (spurious Tid maxFrameBuffer).run (constructed plays) events = some s) :
    ((spurious Tid maxFrameBuffer).Guarded (OffBoundary maxFrameBuffer) (constructed plays) events →
      Within maxFrameBuffer s) ∧
    ∀ e, ¬ OffBoundary maxFrameBuffer s e →
      ∃ t s', e = .act (.step t) ∧
        (spurious Tid maxFrameBuffer).run s [e, .act (.step t)] = some s' ∧
        ¬ Within maxFrameBuffer s' := by
  constructor
  · intro guarded
    have calm : Calm maxFrameBuffer s :=
      System.invariant_guarded (I := Calm maxFrameBuffer)
        (fun s e s' calm meets enabled =>
          calm_step calm meets (Program.spuriousStep_of_next enabled))
        guarded run (calm_start plays)
    exact calm.within
  · intro e breaks
    match e, breaks with
    | .act (.step t), breaks =>
      simp only [OffBoundary, Classical.not_imp, not_not] at breaks
      obtain ⟨tests, boundary⟩ := breaks
      obtain ⟨data, here⟩ := exists_updateFull tests
      obtain ⟨s', two, length⟩ := overfills here boundary
      refine ⟨t, s', rfl, two, ?_⟩
      rw [Within, length]
      exact Nat.not_succ_le_self _
    | .act (.call t loc), breaks => exact absurd trivial breaks
    | .spurious t, breaks => exact absurd trivial breaks

/-- An `update` of the thread up to its return. -/
def updates (t : Fin 3) : List (Event (Fin 3)) :=
  .act (.call t (.updateLock { XData.init with size := 1 })) :: List.replicate 6 (.act (.step t))

/-- An `update` of the thread up to its wait. -/
def updateWaits (t : Fin 3) : List (Event (Fin 3)) :=
  .act (.call t (.updateLock { XData.init with size := 1 })) :: List.replicate 4 (.act (.step t))

/-- One `update` makes its test on the empty list and fills it. -/
theorem bounded_by_one :
    (spurious (Fin 3) 1).Guarded (OffBoundary 1) (constructed (· == 0)) (updates 1) ∧
      ∃ s, (spurious (Fin 3) 1).run (constructed (· == 0)) (updates 1) = some s ∧
        s.shared.frames.length = 1 ∧ Within 1 s := by
  have guarded : (spurious (Fin 3) 1).Guarded (OffBoundary 1) (constructed (· == 0)) (updates 1) := by
    decide +kernel
  exact ⟨guarded, _, rfl, rfl, (bounded_of_offBoundary 1 (· == 0) (updates 1) _ rfl).1 guarded⟩

/-- Two producers wait, one `getData` wakes both, and both append. -/
def wokenTogether : List (Event (Fin 3)) :=
  updateWaits 1 ++ updateWaits 2 ++ .act (.call 0 .playExit) :: List.replicate 9 (.act (.step 0)) ++
    List.replicate 4 (.act (.step 1)) ++ List.replicate 2 (.act (.step 2))

/-- With room for one frame the list takes a second one, and a third one when the notification of one
`getData` wakes two producers. -/
theorem bound_fails :
    (∃ s, (spurious (Fin 3) 1).run (constructed (· == 0)) (updates 1 ++ updates 1) = some s ∧
      s.shared.frames.length = 2 ∧ ¬ Within 1 s) ∧
    ∃ s, (spurious (Fin 3) 1).run (constructed (· == 0))
        (updates 1 ++ updates 1 ++ wokenTogether) = some s ∧
      s.shared.frames.length = 3 ∧ ¬ Within 1 s := by
  constructor
  · exact ⟨_, rfl, rfl, by simp [Within]⟩
  · exact ⟨_, rfl, rfl, by simp [Within]⟩

end Xplay.AudioPlay
