/-
**While `release` deletes nothing but parts at rest, no step uses a part it has deleted.**

* `Sound` — what every careful run keeps: what was released is at rest.
* `alive_of_careful` — so a step that uses a part is one of a user that is not done, and the part is
  alive.
-/

import Xplay.Player.ReleaseRest

set_option linter.unusedSectionVars false

namespace Xplay

open Lib

namespace Player

variable {output : Kind → FrameOutput} {s s' : Player} {l : Label}

/-- `stop` is called once. -/
theorem returned_step (step : Step output s l s') (returned : s.stop = .returned) :
    s'.stop = .returned := by
  cases step <;> simp_all [setDecode, put]

/-- A wait that ends moves a thread, and no other than the waiting one. -/
theorem spurious_frame {w : Waiter} (woken : s.spurious w = some s') :
    s'.stop = s.stop ∧ s'.playExit = s.playExit ∧ (s.callback = .idle → s'.callback = .idle) := by
  cases w with
  | get =>
    simp only [spurious] at woken
    split at woken
    · next here =>
      cases woken
      exact ⟨rfl, rfl, fun idle => nomatch here.symm.trans idle⟩
    · cases woken
  | _ =>
    simp only [spurious] at woken
    split at woken
    · cases woken
      exact ⟨rfl, rfl, id⟩
    · cases woken

theorem destroy_frame (s : Player) (part : Part) :
    (s.destroy part).stop = s.stop ∧ (s.destroy part).playExit = s.playExit ∧
      (s.destroy part).callback = s.callback := by
  cases part <;> exact ⟨rfl, rfl, rfl⟩

/-- A callback that takes a frame has enqueued it, and is to be called again. -/
theorem callback_of_taken (step : Step output s .callback s') {x : XData}
    (taken : s.taken = some x) : s'.callback = .idle := by
  unfold Player.taken at taken
  split at taken
  · next gets =>
    obtain ⟨here, clear⟩ := gets
    cases step with
    | callbackMove move => rcases here with here | here <;> cases move <;> simp_all
    | callbackTake => rfl
  · cases taken

end Player

namespace Releasing

variable {output : Kind → FrameOutput} {s t : Releasing} {l : Label}

/-- **The invariant of careful runs.** -/
structure Sound (s : Releasing) : Prop where
  order : s.unreleased <:+ releaseOrder
  begun : s.unreleased = releaseOrder ∨ s.player.stop = .returned
  stopped : 3 ≤ s.player.stop.rank → s.player.playExit = true
  idle : ∀ r, s.report = some r → s.player.callback = .idle
  messages : s.messages ≤ messageQueueSize
  rest : ∀ part, ¬s.Alive part → s.AtRest part

theorem sound_start (file : List Packet) : (start file).Sound where
  order := List.suffix_rfl
  begun := .inl rfl
  stopped later := absurd later (show ¬3 ≤ 0 by decide)
  idle := by rintro _ ⟨⟩
  messages := Nat.zero_le _
  rest part dead := by
    refine absurd ?_ dead
    show part ∈ releaseOrder
    cases part with
    | decode k => cases k <;> decide
    | _ => decide

namespace Sound

theorem exits (sound : s.Sound) (returned : s.player.stop = .returned) :
    s.player.playExit = true :=
  sound.stopped (by rw [returned]; decide)

/-- What was released was released after `stop`. -/
theorem returned (sound : s.Sound) {part : Part} (dead : ¬s.Alive part) :
    s.player.stop = .returned := by
  refine sound.begun.resolve_left fun whole => dead ?_
  show part ∈ s.unreleased
  rw [whole]
  cases part with
  | decode k => cases k <;> decide
  | _ => decide

/-- Parts at rest stay at rest. -/
theorem atRest_step (sound : s.Sound) (returned : s.player.stop = .returned)
    (step : Step output s l t) {part : Part} (rest : s.AtRest part) : t.AtRest part :=
  fun w user => done_step (sound.exits returned) step (rest w user)

end Sound

theorem PlayerStep.returned {l : Player.Label} {player : Player}
    (step : PlayerStep output s l player) (returned : s.player.stop = .returned) :
    player.stop = .returned := by
  cases step with
  | own step => exact Player.returned_step step returned
  | _ => exact returned

theorem PlayerStep.stopped {l : Player.Label} {player : Player}
    (step : PlayerStep output s l player)
    (stopped : 3 ≤ s.player.stop.rank → s.player.playExit = true) :
    3 ≤ player.stop.rank → player.playExit = true := by
  cases step with
  | own step => exact Player.stopped_step stopped step
  | _ => exact stopped

/-- While `playCall` reports, the callback is not called. -/
theorem PlayerStep.idle {l : Player.Label} {player : Player} (step : PlayerStep output s l player)
    (idle : ∀ r, s.report = some r → s.player.callback = .idle) :
    ∀ r, s.reported l = some r → player.callback = .idle := by
  intro r reports
  cases step with
  | own step calls =>
    by_cases own : l = .callback
    · subst own
      obtain ⟨x, taken, -⟩ := Option.map_eq_some_iff.mp reports
      exact Player.callback_of_taken step taken
    · have same : s.reported l = s.report := by cases l <;> first | rfl | exact absurd rfl own
      exact Player.callback_idle step own (idle r (same ▸ reports))
  | pushFails => exact idle r reports
  | popFails => exact idle r reports

/-- **The step lemma.** -/
theorem sound_step (sound : s.Sound) (careful : s.Careful l) (step : Step output s l t) :
    t.Sound := by
  have rest : t.unreleased = s.unreleased → ∀ part, ¬t.Alive part → t.AtRest part := by
    intro same part dead
    have dead : ¬s.Alive part := fun alive => dead (by rw [Alive, same]; exact alive)
    exact sound.atRest_step (sound.returned dead) step (sound.rest part dead)
  cases step with
  | player step =>
    exact ⟨sound.order, sound.begun.imp_right step.returned, step.stopped sound.stopped,
      step.idle sound.idle, sound.messages, rest rfl⟩
  | spurious woken =>
    obtain ⟨stop, exit, idle⟩ := Player.spurious_frame woken
    refine ⟨sound.order, ?_, ?_, fun r here => idle (sound.idle r here), sound.messages,
      rest rfl⟩
    · exact sound.begun.imp_right stop.trans
    · intro later
      exact exit.trans (sound.stopped (stop ▸ later))
  | reportMove r loc here =>
    exact ⟨sound.order, sound.begun, sound.stopped, fun _ _ => sound.idle r here, sound.messages,
      rest rfl⟩
  | send r here sends room =>
    exact ⟨sound.order, sound.begun, sound.stopped, fun _ _ => sound.idle r here, room, rest rfl⟩
  | drop r here =>
    exact ⟨sound.order, sound.begun, sound.stopped, by rintro _ ⟨⟩, sound.messages, rest rfl⟩
  | pop =>
    exact ⟨sound.order, sound.begun, sound.stopped, sound.idle,
      (Nat.sub_le _ _).trans sound.messages, rest rfl⟩
  | threadMain =>
    exact ⟨sound.order, sound.begun, sound.stopped, sound.idle, sound.messages, rest rfl⟩
  | handleMessage =>
    exact ⟨sound.order, sound.begun, sound.stopped, sound.idle, sound.messages, rest rfl⟩
  | release part others returned next =>
    obtain ⟨stop, exit, callback⟩ := Player.destroy_frame s.player part
    have step : Step output s .release
        { s with player := s.player.destroy part, unreleased := others } :=
      .release part others returned next
    refine ⟨?_, .inr (stop.trans returned), fun _ => exit.trans (sound.exits returned),
      fun r here => callback.trans (sound.idle r here), sound.messages, fun part' dead => ?_⟩
    · exact (List.suffix_cons part others).trans (next ▸ sound.order)
    · refine sound.atRest_step returned step ?_
      rcases eq_or_ne part' part with rfl | other
      · exact careful part' (by rw [next]; rfl)
      · refine sound.rest part' fun alive => dead ?_
        have alive : part' ∈ s.unreleased := alive
        rw [next] at alive
        exact List.mem_of_ne_of_mem other alive

/-- **A careful run uses no part that was released.** -/
theorem alive_of_careful (sound : s.Sound) (step : Step output s l t) {part : Part}
    (uses : part ∈ s.uses l) : s.Alive part := by
  by_contra dead
  obtain ⟨w, user, busy⟩ := user_of_uses step uses
  exact busy (sound.rest part dead w user)

end Releasing

end Xplay
