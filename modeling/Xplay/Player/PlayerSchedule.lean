/-
**Schedules of a player's threads.**

* `Own` — the steps of one of the threads; `FairPlay` — a schedule that is fair to each of them.
* `offer` — a step a thread is offered in its turn; a thread has a step if that one is enabled.
* `roundRobin` — the threads take turns, and a step that is always enabled fills in for one that
  cannot step: every state from which that step goes on is the start of a fair run
  (`exists_fair`).
-/

import Xplay.Lib.Fair
import Xplay.Player.PlayerStop

namespace Xplay

open Lib

namespace Player

/-- The steps of a thread. -/
def Own : Worker → Label → Prop
  | .demux, l => l = .demux
  | .decode k, l => ∃ made, l = .decode k made
  | .audioSync, l => ∃ resampled, l = .audioSync resampled
  | .videoSync, l => l = .videoSync
  | .callback, l => l = .callback

/-- **Fair scheduling**: no thread that can step is kept from it for ever. -/
def FairPlay {output : Kind → FrameOutput} (run : (system output).Endless) : Prop :=
  ∀ w, run.Fair (Own w)

/-- The step a thread is offered in its turn. -/
def offer : Worker → Label
  | .demux => .demux
  | .decode k => .decode k true
  | .audioSync => .audioSync true
  | .videoSync => .videoSync
  | .callback => .callback

/-- The thread whose turn it is. -/
def turn (n : Nat) : Worker :=
  match n % 6 with
  | 0 => .demux
  | 1 => .decode .audio
  | 2 => .decode .video
  | 3 => .audioSync
  | 4 => .videoSync
  | _ => .callback

variable {output : Kind → FrameOutput} {s : Player}

theorem own_offer (w : Worker) : Own w (offer w) := by
  cases w with
  | demux | videoSync | callback => rfl
  | decode k => exact ⟨true, rfl⟩
  | audioSync => exact ⟨true, rfl⟩

theorem turn_comes (w : Worker) (n : Nat) : ∃ m, n ≤ m ∧ turn m = w := by
  have same : ∀ i, turn (6 * n + i) = turn i := fun i => by
    unfold turn
    rw [Nat.mul_add_mod]
  cases w with
  | demux => exact ⟨6 * n + 0, by omega, same 0⟩
  | decode k =>
    cases k with
    | audio => exact ⟨6 * n + 1, by omega, same 1⟩
    | video => exact ⟨6 * n + 2, by omega, same 2⟩
  | audioSync => exact ⟨6 * n + 3, by omega, same 3⟩
  | videoSync => exact ⟨6 * n + 4, by omega, same 4⟩
  | callback => exact ⟨6 * n + 5, by omega, same 5⟩

/-- A decoder can step whatever comes of its packet. -/
theorem decode_made {k : Kind} {made : Bool}
    (enabled : (system output).next s (.decode k made) ≠ none) :
    (system output).next s (.decode k true) ≠ none := by
  simp only [system, next, decodeNext] at enabled ⊢
  generalize (s.decode k).loc = loc at enabled ⊢
  cases loc with
  | decoding frame => exact Option.some_ne_none _
  | _ => exact enabled

/-- The audio thread can step whatever the resampler does. -/
theorem audio_resampled {resampled : Bool}
    (enabled : (system output).next s (.audioSync resampled) ≠ none) :
    (system output).next s (.audioSync true) ≠ none := by
  simp only [system, next, audioNext] at enabled ⊢
  generalize s.audioSync = loc at enabled ⊢
  cases loc with
  | updating => exact Option.some_ne_none _
  | _ => exact enabled

/-- **A thread that can step can take the step it is offered.** -/
theorem offer_enabled {w : Worker} {l : Label} (own : Own w l)
    (enabled : (system output).next s l ≠ none) : (system output).next s (offer w) ≠ none := by
  cases w with
  | demux | videoSync | callback =>
    cases own
    exact enabled
  | decode k =>
    obtain ⟨made, rfl⟩ := own
    exact decode_made enabled
  | audioSync =>
    obtain ⟨resampled, rfl⟩ := own
    exact audio_resampled enabled

/-! ### Taking turns -/

/-- In its turn a thread takes the step it is offered; `rest` fills in for one that cannot. -/
def roundRobin (output : Kind → FrameOutput) (rest : Label) (n : Nat) (s : Player) : Label :=
  if ((system output).next s (offer (turn n))).isSome then offer (turn n) else rest

theorem roundRobin_cases (rest : Label) (n : Nat) (s : Player) :
    roundRobin output rest n s = rest ∨ ∃ w, roundRobin output rest n s = offer w := by
  unfold roundRobin
  split
  · exact .inr ⟨turn n, rfl⟩
  · exact .inl rfl

/-- A thread that can step does in its turn. -/
theorem own_roundRobin {rest : Label} {n : Nat} {w : Worker} {l : Label} (here : turn n = w)
    (own : Own w l) (enabled : (system output).next s l ≠ none) :
    Own w (roundRobin output rest n s) := by
  unfold roundRobin
  rw [here, if_pos (Option.isSome_iff_ne_none.mpr (offer_enabled own enabled))]
  exact own_offer w

/-- **A fair run from every state that can always go on.** -/
theorem exists_fair (output : Kind → FrameOutput) (rest : Label) {I : Player → Prop}
    (keeps : ∀ s l t, I s → (system output).next s l = some t →
      (l = rest ∨ ∃ w, l = offer w) → I t)
    (goes : ∀ s, I s → ∃ t, (system output).next s rest = some t) (start : I s) :
    ∃ run : (system output).Endless, run.state 0 = s ∧ FairPlay run ∧
      ∀ n, run.label n = rest ∨ ∃ w, run.label n = offer w := by
  have scheduled : ∀ n s, I s →
      ∃ t, (system output).next s (roundRobin output rest n s) = some t ∧ I t := by
    intro n s kept
    unfold roundRobin
    split
    · next can =>
      obtain ⟨t, step⟩ := Option.isSome_iff_exists.mp can
      exact ⟨t, step, keeps s _ t kept step (.inr ⟨_, rfl⟩)⟩
    · obtain ⟨t, step⟩ := goes s kept
      exact ⟨t, step, keeps s _ t kept step (.inl rfl)⟩
  refine ⟨System.Endless.scheduled (roundRobin output rest) scheduled s start, rfl, fun w => ?_,
    fun n => roundRobin_cases rest n _⟩
  refine System.Endless.fair_of_turns _ fun n => ?_
  obtain ⟨m, later, here⟩ := turn_comes w n
  exact ⟨m, later, fun ⟨l, own, enabled⟩ => own_roundRobin here own enabled⟩

end Player

end Xplay
