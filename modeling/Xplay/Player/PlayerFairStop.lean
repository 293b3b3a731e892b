/-
**After `stop` every fair schedule ends the workers, exactly where every blocking call is attended to.**

Once `stop` has returned a thread does not poll: each step of a worker lowers `ending`, and only the
calls of `pause` and `resume` do not (`ending_step`). So from some point on no worker steps, and
fairness says that none can; where every blocking call is attended to this means that all have
exited. Elsewhere some worker gets stuck, and every fair schedule from there on leaves it behind.
-/

import Xplay.Player.PlayerEffort
import Xplay.Player.PlayerSchedule
import Xplay.Player.PlayerStranded

namespace Xplay

open Lib

namespace Player

/-- **Every fair schedule ends every worker**, from every state the threads get to. -/
def EndsAll (output : Kind → FrameOutput) (s : Player) : Prop :=
  ∀ run : (system output).Endless, (system output).Reaches s (run.state 0) → FairPlay run →
    ∃ n, ∀ m, n ≤ m → ∀ w, (run.state m).Exited w

variable {output : Kind → FrameOutput} {s t : Player} {l : Label}

/-! ### Steps after the return of `stop` -/

/-- The steps that are left, twice, and the looks that are. -/
def ending (s : Player) : Nat :=
  2 * s.effort + (if s.audioSync = .looking then 1 else 0) + if s.videoSync = .looking then 1 else 0

/-- A worker does not poll once `stop` has returned: it looks for a last time at most. -/
theorem looks_of_turns (halted : Halted output s) (turns : Turns s l t)
    (enabled : (system output).next s l = some t) :
    (∃ request, l = .pause request) ∨
      (∃ resampled, l = .audioSync resampled) ∧ s.audioSync = .looking ∧
        t = { s with audioSync := .top } ∨
      l = .videoSync ∧ s.videoSync = .looking ∧ t = { s with videoSync := .top } := by
  have aborted := halted.aborted
  have playExit := halted.playExit
  cases l with
  | demux =>
    obtain ⟨here, there⟩ := turns
    have quits : (system output).next s .demux = some { s with demux := .exited } := by
      simp [system, next, demuxNext, here, aborted]
    cases quits.symm.trans enabled
    cases there
  | decode k made =>
    obtain ⟨here, there⟩ := turns
    have quits : (system output).next s (.decode k made) =
        some (s.setDecode k ((s.decode k).goto .exited)) := by
      simp [system, next, decodeNext, here, aborted]
    cases quits.symm.trans enabled
    simp [IDecode.goto] at there
  | audioSync resampled =>
    obtain ⟨here | here, there⟩ := turns
    · have quits : (system output).next s (.audioSync resampled) =
          some { s with audioSync := .exited } := by
        simp [system, next, audioNext, here, aborted]
      cases quits.symm.trans enabled
      rcases there with there | there <;> cases there
    · simp only [system, next, audioNext, here] at enabled
      split at enabled <;> cases enabled
      · exact .inr (.inl ⟨⟨resampled, rfl⟩, here, rfl⟩)
      · rcases there with there | there <;> cases there
  | videoSync =>
    obtain ⟨here | here, there⟩ := turns
    · have quits : (system output).next s .videoSync = some { s with videoSync := .exited } := by
        simp [system, next, videoNext, here, aborted]
      cases quits.symm.trans enabled
      rcases there with there | there <;> cases there
    · simp only [system, next, videoNext, here] at enabled
      split at enabled <;> cases enabled
      · exact .inr (.inr ⟨rfl, here, rfl⟩)
      · rcases there with there | there <;> cases there
  | callback =>
    obtain ⟨here, there⟩ := turns
    simp only [system, next, callbackNext, here, playExit] at enabled
    cases paused : s.pauseRequest <;> simp [paused] at enabled <;> subst enabled <;> cases there
  | stop => exact turns.elim
  | pause request => exact .inl ⟨request, rfl⟩

/-- No other step brings a thread to its look. -/
theorem looking_step (step : Step output s l t) (works : ¬Turns s l t) :
    (t.audioSync = .looking → s.audioSync = .looking) ∧
      (t.videoSync = .looking → s.videoSync = .looking) := by
  cases step with
  | audioMove resampled move =>
    refine ⟨fun there => ?_, id⟩
    cases move with
    | look here clear => exact absurd ⟨.inl here, .inr rfl⟩ works
    | _ => cases there
  | audioPut resampled here => exact ⟨(by rintro ⟨⟩), id⟩
  | audioPop resampled here => exact ⟨(by rintro ⟨⟩), id⟩
  | videoMove move =>
    refine ⟨id, fun there => ?_⟩
    cases move with
    | look here clear => exact absurd ⟨.inl here, .inr rfl⟩ works
    | _ => cases there
  | videoShow here => exact ⟨id, by rintro ⟨⟩⟩
  | videoPop here => exact ⟨id, by rintro ⟨⟩⟩
  | callbackTake x rest here front clear =>
    refine ⟨fun there => ?_, id⟩
    cases loc : s.audioSync <;> simp_all [AudioLoc.wakePut]
  | stopNotFull here =>
    refine ⟨fun there => ?_, id⟩
    cases loc : s.audioSync <;> simp_all [AudioLoc.wakePut]
  | _ => exact ⟨id, id⟩

/-- **Every step of a worker brings the end closer**, and a call of `pause` or `resume` changes nothing
but the request. -/
theorem ending_step (halted : Halted output s) (enabled : (system output).next s l = some t) :
    t.ending < s.ending ∨ ∃ request, l = .pause request ∧ t = { s with pauseRequest := request } := by
  have step := step_of_next enabled
  have paid := effort_step halted.sound step
  by_cases turns : Turns s l t
  · rcases looks_of_turns halted turns enabled with ⟨request, rfl⟩ | ⟨-, here, rfl⟩ | ⟨-, here, rfl⟩
    · cases step with
      | pause request here => exact .inr ⟨request, rfl, rfl⟩
    · left
      have same : ({ s with audioSync := .top } : Player).effort = s.effort := by
        simp [effort, here, AudioLoc.effort]
      simp [ending, same, here]
    · left
      have same : ({ s with videoSync := .top } : Player).effort = s.effort := by
        simp [effort, here, VideoLoc.effort]
      simp [ending, same, here]
  · left
    obtain ⟨audio, video⟩ := looking_step step turns
    unfold worked at paid
    rw [if_neg turns, List.length_singleton] at paid
    unfold ending
    split <;> split <;> split <;> split <;> simp_all <;> omega

/-! ### Where a fair run ends -/

/-- A pause takes no step from a worker, and gives it none. -/
theorem next_paused {w : Worker} (own : Own w l) (request : Bool)
    (enabled : (system output).next s l ≠ none) :
    (system output).next { s with pauseRequest := request } l ≠ none := by
  have gone : ∀ {α : Type} {x : α} {c : Prop} [Decidable c] {y : Option α},
      y ≠ none → (if c then some x else y) ≠ none := fun some => by
    split
    · exact Option.some_ne_none _
    · exact some
  cases w with
  | demux =>
    cases own
    simp only [system, next, demuxNext] at enabled ⊢
    generalize s.demux = loc at enabled ⊢
    cases loc with
    | top => exact gone (gone (by split <;> exact Option.some_ne_none _))
    | routing | pushing => exact gone (Option.some_ne_none _)
    | pushWaiting | exited => exact absurd rfl enabled
  | decode k =>
    obtain ⟨made, rfl⟩ := own
    simp only [system, next, decodeNext] at enabled ⊢
    generalize (s.decode k).loc = loc at enabled ⊢
    cases loc with
    | top => exact gone (gone (Option.some_ne_none _))
    | popping => dsimp only; split <;> exact Option.some_ne_none _
    | peeking frame => dsimp only; split <;> exact Option.some_ne_none _
    | peekWoken frame => dsimp only; split <;> exact Option.some_ne_none _
    | decoding | filling | pushing => exact Option.some_ne_none _
    | popWaiting | peekWaiting | exited => exact absurd rfl enabled
  | audioSync =>
    obtain ⟨resampled, rfl⟩ := own
    simp only [system, next, audioNext] at enabled ⊢
    generalize s.audioSync = loc at enabled ⊢
    cases loc with
    | top => exact gone (gone (Option.some_ne_none _))
    | looking | putting => exact gone (Option.some_ne_none _)
    | updating | putWoken | popping => exact Option.some_ne_none _
    | putWaiting | exited => exact absurd rfl enabled
  | videoSync =>
    cases own
    simp only [system, next, videoNext] at enabled ⊢
    generalize s.videoSync = loc at enabled ⊢
    cases loc with
    | top => exact gone (gone (Option.some_ne_none _))
    | looking => exact gone (Option.some_ne_none _)
    | showing | popping => exact Option.some_ne_none _
    | exited => exact absurd rfl enabled
  | callback =>
    cases own
    have takes : s.take ≠ none → ({ s with pauseRequest := request } : Player).take ≠ none := by
      intro takes
      unfold take at takes ⊢
      split
      · exact Option.some_ne_none _
      · next clear =>
        rw [if_neg clear] at takes
        dsimp only
        generalize s.frames = frames at takes ⊢
        cases frames with
        | nil => exact absurd rfl takes
        | cons x rest => exact Option.some_ne_none _
    simp only [system, next, callbackNext] at enabled ⊢
    generalize s.callback = loc at enabled ⊢
    cases loc with
    | idle => exact gone (gone (Option.some_ne_none _))
    | pausing =>
      dsimp only
      split
      · exact gone (Option.some_ne_none _)
      · exact Option.some_ne_none _
    | getting =>
      dsimp only at enabled ⊢
      split
      · exact Option.some_ne_none _
      · next some =>
        rw [if_neg some] at enabled
        exact takes enabled
    | getWoken => exact takes enabled
    | getWaiting | exited => exact absurd rfl enabled

/-- A step that brings a thread closer to its exit is a worker's. -/
theorem own_of_less (halted : Halted output s) (enabled : (system output).next s l = some t)
    (less : t.left < s.left) : ∃ w, Own w l := by
  cases l with
  | demux => exact ⟨.demux, rfl⟩
  | decode k made => exact ⟨.decode k, made, rfl⟩
  | audioSync resampled => exact ⟨.audioSync, resampled, rfl⟩
  | videoSync => exact ⟨.videoSync, rfl⟩
  | callback => exact ⟨.callback, rfl⟩
  | stop => simp [system, next, stopNext, halted.returned] at enabled
  | pause request =>
    simp [system, next, halted.returned] at enabled
    subst enabled
    exact absurd less (Nat.lt_irrefl _)

/-- **Where every blocking call is attended to, some worker can step until all have exited.** -/
theorem Stopped.steps (stopped : Stopped output s) : (∀ w, s.Exited w) ∨
    ∃ w l, Own w l ∧ (system output).next s l ≠ none := by
  have go : (∃ l t, (system output).next s l = some t ∧ t.left < s.left) →
      ∃ w l, Own w l ∧ (system output).next s l ≠ none := by
    rintro ⟨l, t, enabled, less⟩
    obtain ⟨w, own⟩ := own_of_less stopped.toHalted enabled less
    exact ⟨w, l, own, by rw [enabled]; nofun⟩
  by_cases audio : s.audioSync = .exited
  case neg => exact .inr (go (stopped.audio_advances audio))
  by_cases video : s.videoSync = .exited
  case neg => exact .inr (go (stopped.video_advances video))
  by_cases callback : s.callback = .exited
  case neg => exact .inr (go (stopped.callback_advances audio callback))
  by_cases demux : s.demux = .exited
  case neg => exact .inr (go (stopped.demux_advances demux))
  by_cases decode : ∀ k, (s.decode k).loc = .exited
  case neg =>
    obtain ⟨k, here⟩ := not_forall.mp decode
    exact .inr (go (stopped.decode_advances demux audio video here))
  left
  intro w
  cases w with
  | demux => exact demux
  | decode k => exact decode k
  | audioSync => exact audio
  | videoSync => exact video
  | callback => exact callback

/-- **A fair run ends every worker** where every blocking call is attended to. -/
theorem endsAll_of_stopped (stopped : Stopped output s) : EndsAll output s := by
  intro run reach fair
  have start : Stopped output (run.state 0) := System.invariant_reaches
    (fun _ _ _ stopped enabled => stopped.step (step_of_next enabled)) reach stopped
  have always : ∀ n, Stopped output (run.state n) := fun n =>
    run.invariant (n := 0) (fun m _ stopped => stopped.step (step_of_next (run.step m))) start
      (Nat.zero_le n)
  obtain ⟨n, -, same⟩ := run.settles ending (n := 0) fun m _ => by
    rcases ending_step (always m).toHalted (run.step m) with less | ⟨request, -, next⟩
    · exact less.le
    · rw [next]
      exact Nat.le_refl _
  -- from then on only `pause` and `resume` are called
  have calls : ∀ m, n ≤ m → ∃ request, run.label m = .pause request ∧
      run.state (m + 1) = { run.state m with pauseRequest := request } := by
    intro m later
    rcases ending_step (always m).toHalted (run.step m) with less | call
    · exact absurd (same m later) less.ne
    · exact call
  have stays : ∀ m, n ≤ m →
      ∃ request, run.state m = { run.state n with pauseRequest := request } := fun m later =>
    run.invariant (I := fun t => ∃ request, t = { run.state n with pauseRequest := request })
      (fun i after ⟨_, here⟩ => by
        obtain ⟨request, -, next⟩ := calls i after
        exact ⟨request, by rw [next, here]⟩)
      ⟨_, rfl⟩ later
  have ended : ∀ w, (run.state n).Exited w := by
    rcases (always n).steps with all | ⟨w, l, own, enabled⟩
    · exact all
    · obtain ⟨m, later, none⟩ := run.disabled_of_fair (fair w) fun m later own => by
        obtain ⟨request, call, -⟩ := calls m later
        rw [call] at own
        cases w with
        | decode | audioSync =>
          obtain ⟨_, same⟩ := own
          cases same
        | demux | videoSync | callback => cases own
      obtain ⟨request, same⟩ := stays m later
      exact absurd (none l own) (by rw [same]; exact next_paused own request enabled)
  refine ⟨n, fun m later w => ?_⟩
  obtain ⟨request, same⟩ := stays m later
  rw [same]
  have ended := ended w
  cases w <;> exact ended

/-- **A stuck worker is left behind by every fair run.** -/
theorem not_endsAll_of_mayStick (may : MayStick output s) : ¬EndsAll output s := by
  obtain ⟨t, w, reach, halted, stuck⟩ := may
  intro ends
  obtain ⟨run, begins, fair, -⟩ := exists_fair output (s := t) (.pause true)
    (I := Halted output) (fun u l v halted enabled _ => halted.step (step_of_next enabled))
    (fun u halted => ⟨_, by simp only [system, next, halted.returned]; rfl⟩) halted
  obtain ⟨n, exited⟩ := ends run (begins ▸ reach) fair
  obtain ⟨-, still⟩ := run.invariant (I := fun u => Halted output u ∧ Stuck u w) (n := 0) (m := n)
    (by
      rintro m - ⟨halted, stuck⟩
      have step := step_of_next (run.step m)
      exact ⟨halted.step step, stuck_step halted step stuck⟩)
    (by rw [begins]; exact ⟨halted, stuck⟩) (Nat.zero_le n)
  exact still.not_exited (exited n (Nat.le_refl n) w)

/-- At every return of `stop`, fair schedules end every worker if and only if every blocking call is
attended to. -/
def EndsIffAttended (output : Kind → FrameOutput) (file : List Packet) : Prop :=
  ∀ labels s, (system output).run (start file) labels = some s → s.stop = .returned →
    (EndsAll output s ↔ Attended output s)

/-- **`stop` ends the workers under every fair schedule exactly when it returns where every blocking
call is attended to.** -/
theorem stop_endsIffAttended (output : Kind → FrameOutput) (file : List Packet) :
    EndsIffAttended output file := by
  intro labels s run returned
  have halted : Halted output s := ⟨sound_run run, returned⟩
  constructor
  · intro ends
    by_contra unattended
    exact not_endsAll_of_mayStick (mayStick_of_not_attended halted unattended) ends
  · intro attended
    exact endsAll_of_stopped ⟨halted, attended⟩

end Player

end Xplay
