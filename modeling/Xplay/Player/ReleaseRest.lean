/-
**What is at rest stays at rest.**

* `Outlives` — threads that exited have exited for good, whatever the player does.
* `done_step` — so a user that is `Done` once `stop` has returned stays `Done`.
* `user_of_uses` — a step that uses a part is that of a user of it that is not done.
-/

import Xplay.Player.Release
import Xplay.Player.PlayerSound

namespace Xplay

open Lib

namespace Player

variable {output : Kind → FrameOutput} {s s' : Player} {l : Label}

/-! ### Threads that exited -/

/-- **Threads that have exited in the first state have exited in the second.** -/
structure Outlives (s s' : Player) : Prop where
  demux : s.demux = .exited → s'.demux = .exited
  decode : ∀ k, (s.decode k).loc = .exited → (s'.decode k).loc = .exited
  audioSync : s.audioSync = .exited → s'.audioSync = .exited
  videoSync : s.videoSync = .exited → s'.videoSync = .exited
  callback : s.callback = .exited → s'.callback = .exited

theorem Outlives.refl (s : Player) : Outlives s s := ⟨id, fun _ => id, id, id, id⟩

theorem demux_exited (step : Step output s l s') (gone : s.demux = .exited) :
    s'.demux = .exited := by
  cases step with
  | demuxMove move => cases move <;> simp_all
  | demuxEof here => rfl
  | demuxRead _ _ here => exact nomatch here.symm.trans gone
  | demuxPush _ here => exact nomatch here.symm.trans gone
  | decodePop k => exact congrArg (DemuxLoc.wakePush k) gone
  | _ => exact gone

theorem loc_exited_setDecode {k : Kind} {d : IDecode}
    (kept : (s.decode k).loc = .exited → d.loc = .exited) (k' : Kind)
    (gone : (s.decode k').loc = .exited) : ((s.setDecode k d).decode k').loc = .exited :=
  setDecode_all (P := fun k d => (s.decode k).loc = .exited → d.loc = .exited) kept (fun _ => id) k'
    gone

theorem decode_exited (step : Step output s l s') (k : Kind) (gone : (s.decode k).loc = .exited) :
    (s'.decode k).loc = .exited := by
  cases step with
  | demuxPush p =>
    exact loc_exited_setDecode (fun gone => congrArg DecodeLoc.wakePop gone) k gone
  | decodeStep k' made own =>
    refine loc_exited_setDecode (fun gone => ?_) k gone
    cases own with
    | move move => cases move <;> simp_all
    | make frame here => exact nomatch here.symm.trans gone
    | skip frame here => exact nomatch here.symm.trans gone
    | fill frame j here => exact nomatch here.symm.trans gone
    | push here => exact nomatch here.symm.trans gone
  | decodePop k' made p rest here =>
    exact loc_exited_setDecode (fun gone => nomatch here.symm.trans gone) k gone
  | audioPop => exact loc_exited_setDecode (popFrame_exited _).mpr k gone
  | videoPop => exact loc_exited_setDecode (popFrame_exited _).mpr k gone
  | stopAudio =>
    exact loc_exited_setDecode (d := { s.decode .audio with isExit := true }) id k gone
  | stopVideo =>
    exact loc_exited_setDecode (d := { s.decode .video with isExit := true }) id k gone
  | _ => exact gone

theorem audioSync_exited (step : Step output s l s') (gone : s.audioSync = .exited) :
    s'.audioSync = .exited := by
  cases step with
  | audioMove _ move => cases move <;> simp_all
  | audioPut _ here => rcases here with ⟨here, -⟩ | here <;> exact nomatch here.symm.trans gone
  | audioPop _ here => exact nomatch here.symm.trans gone
  | callbackTake => exact congrArg AudioLoc.wakePut gone
  | stopNotFull => exact congrArg AudioLoc.wakePut gone
  | _ => exact gone

theorem videoSync_exited (step : Step output s l s') (gone : s.videoSync = .exited) :
    s'.videoSync = .exited := by
  cases step with
  | videoMove move => cases move <;> simp_all
  | videoShow here => exact nomatch here.symm.trans gone
  | videoPop here => exact nomatch here.symm.trans gone
  | _ => exact gone

theorem callback_exited (step : Step output s l s') (gone : s.callback = .exited) :
    s'.callback = .exited := by
  cases step with
  | callbackMove move => cases move <;> simp_all
  | callbackTake _ _ here => rcases here with here | here <;> exact nomatch here.symm.trans gone
  | audioPut => exact congrArg CallbackLoc.wakeGet gone
  | stopNotEmpty => exact congrArg CallbackLoc.wakeGet gone
  | _ => exact gone

theorem outlives_step (step : Step output s l s') : Outlives s s' :=
  ⟨demux_exited step, decode_exited step, audioSync_exited step, videoSync_exited step,
    callback_exited step⟩

/-- A callback that is to come stays to come until its own step. -/
theorem callback_idle (step : Step output s l s') (other : l ≠ .callback)
    (idle : s.callback = .idle) : s'.callback = .idle := by
  cases step with
  | callbackMove => exact absurd rfl other
  | callbackTake => exact absurd rfl other
  | audioPut => exact congrArg CallbackLoc.wakeGet idle
  | stopNotEmpty => exact congrArg CallbackLoc.wakeGet idle
  | _ => exact idle

/-! ### The release -/

theorem flush_exited (n : Nat) (d : IDecode) : (d.flush n).loc = .exited ↔ d.loc = .exited := by
  induction n generalizing d with
  | zero => exact Iff.rfl
  | succ n ih =>
    unfold IDecode.flush
    split
    · exact (ih d.popFrame).trans (popFrame_exited d)
    · exact Iff.rfl

theorem destroy_exited (d : IDecode) : d.destroy.loc = .exited ↔ d.loc = .exited := by
  refine Iff.trans ?_ (flush_exited (d.frameQueue.size + 1) d)
  show (d.flush _).loc.wakePop = .exited ↔ _
  cases (d.flush _).loc <;> simp [DecodeLoc.wakePop]

theorem outlives_destroy (s : Player) (part : Part) : Outlives s (s.destroy part) := by
  cases part with
  | decode k =>
    exact ⟨fun gone => congrArg (DemuxLoc.wakePush k) gone,
      loc_exited_setDecode (destroy_exited _).mpr, id, id, id⟩
  | _ => exact .refl s

theorem outlives_spurious {w : Waiter} (woken : s.spurious w = some s') : Outlives s s' := by
  unfold spurious at woken
  split at woken <;> split at woken
  · next here =>
    cases woken
    exact ⟨fun gone => (nomatch here.symm.trans gone), fun _ => id, id, id, id⟩
  · cases woken
  · next here =>
    cases woken
    exact ⟨id, loc_exited_setDecode fun gone => (nomatch here.symm.trans gone), id, id, id⟩
  · cases woken
  · next here =>
    cases woken
    exact ⟨id, loc_exited_setDecode fun gone => (nomatch here.symm.trans gone), id, id, id⟩
  · cases woken
  · next here =>
    cases woken
    exact ⟨id, fun _ => id, fun gone => (nomatch here.symm.trans gone), id, id⟩
  · cases woken
  · next here =>
    cases woken
    exact ⟨id, fun _ => id, id, id, fun gone => (nomatch here.symm.trans gone)⟩
  · cases woken

end Player

namespace Releasing

variable {output : Kind → FrameOutput} {s t : Releasing} {l : Label}

/-- **A step of the player**: one of its own, or the end of a `push` or `pop` on a queue that was
quit. -/
inductive PlayerStep (output : Kind → FrameOutput) (s : Releasing) : Player.Label → Player → Prop
  | own {l : Player.Label} {player : Player} (step : Player.Step output s.player l player)
    (calls : l = .callback → s.report = none) : PlayerStep output s l player
  | pushFails (p : Packet) (here : s.player.demux = .pushing p) (quit : s.Quit p.kind) :
    PlayerStep output s .demux { s.player with demux := .top }
  | popFails (k : Kind) (made : Bool) (here : (s.player.decode k).loc = .popping)
    (quit : s.Quit k) :
    PlayerStep output s (.decode k made)
      (s.player.setDecode k ((s.player.decode k).goto .top))

theorem playerStep_of_next {l : Player.Label} {player : Player}
    (enabled : s.playerNext output l = some player) : PlayerStep output s l player := by
  cases l with
  | demux =>
    have enabled : s.demuxNext = some player := enabled
    unfold demuxNext at enabled
    split at enabled
    · next p here =>
      split at enabled
      · next quit =>
        cases enabled
        exact .pushFails p here quit
      · exact .own (Player.demux_step enabled) (by rintro ⟨⟩)
    · exact .own (Player.demux_step enabled) (by rintro ⟨⟩)
  | decode k made =>
    have enabled : s.decodeNext (output k) k made = some player := enabled
    unfold decodeNext at enabled
    split at enabled
    · next here =>
      split at enabled
      · next quit =>
        cases enabled
        exact .popFails k made here quit
      · exact .own (Player.decode_step enabled) (by rintro ⟨⟩)
    · exact .own (Player.decode_step enabled) (by rintro ⟨⟩)
  | callback =>
    have enabled : (if s.report.isSome then none else s.player.callbackNext) = some player :=
      enabled
    split at enabled
    · cases enabled
    · next idle =>
      exact .own (Player.callback_step enabled) fun _ => by simpa using idle
  | pause request =>
    have enabled : (if s.unreleased = releaseOrder then
      Player.next output s.player (.pause request) else none) = some player := enabled
    split at enabled
    · exact .own (Player.step_of_next (l := .pause request) enabled) (by rintro ⟨⟩)
    · cases enabled
  | _ => exact .own (Player.step_of_next enabled) (by rintro ⟨⟩)

theorem PlayerStep.outlives {l : Player.Label} {player : Player}
    (step : PlayerStep output s l player) : s.player.Outlives player := by
  cases step with
  | own step => exact Player.outlives_step step
  | pushFails p here =>
    exact ⟨fun gone => (nomatch here.symm.trans gone), fun _ => id, id, id, id⟩
  | popFails k made here =>
    exact ⟨id, Player.loc_exited_setDecode fun gone => (nomatch here.symm.trans gone), id, id, id⟩

/-- **A step, with its guards.** -/
inductive Step (output : Kind → FrameOutput) (s : Releasing) : Label → Releasing → Prop
  | player {l : Player.Label} {player : Player} (step : PlayerStep output s l player) :
    Step output s (.player l) { s with player := player, report := s.reported l }
  | spurious {w : Player.Waiter} {player : Player} (woken : s.player.spurious w = some player) :
    Step output s (.spurious w) { s with player := player }
  | reportMove (r : Report) (loc : ReportLoc) (here : s.report = some r)
    (early : r.loc.early = true) :
    Step output s .report { s with report := some { r with loc := loc } }
  | send (r : Report) (here : s.report = some r) (sends : r.loc = .sending)
    (room : s.messages < messageQueueSize) :
    Step output s .report
      { s with messages := s.messages + 1, report := some { r with loc := .dropping } }
  | drop (r : Report) (here : s.report = some r) (drops : r.loc = .dropping) :
    Step output s .report { s with report := none }
  | threadMain (part : Part) (returned : s.Returned part) (runs : s.isRunning part = true) :
    Step output s (.threadMain part)
      { s with isRunning := Function.update s.isRunning part false }
  | pop (idle : s.handling = false) (waits : 0 < s.messages) :
    Step output s .pop { s with messages := s.messages - 1, handling := true }
  | handleMessage (busy : s.handling = true) :
    Step output s .handleMessage { s with handling := false }
  | release (part : Part) (rest : List Part) (returned : s.player.stop = .returned)
    (next : s.unreleased = part :: rest) :
    Step output s .release { s with player := s.player.destroy part, unreleased := rest }

theorem report_step (enabled : s.reportNext = some t) : Step output s .report t := by
  obtain ⟨r, here, enabled⟩ := Option.bind_eq_some_iff.mp enabled
  split at enabled
  case h_1 loc | h_2 loc | h_3 loc | h_4 loc | h_5 loc =>
    cases enabled
    exact .reportMove r _ here (by rw [loc]; rfl)
  case h_6 loc =>
    split at enabled
    · next room =>
      cases enabled
      exact .send r here loc room
    · cases enabled
  case h_7 loc =>
    cases enabled
    exact .drop r here loc

theorem release_step (enabled : s.releaseNext = some t) : Step output s .release t := by
  unfold releaseNext at enabled
  split at enabled
  · next returned =>
    split at enabled
    · cases enabled
    · next part rest next =>
      cases enabled
      exact .release part rest returned next
  · cases enabled

theorem step_of_next (enabled : s.next output l = some t) : Step output s l t := by
  cases l with
  | player l =>
    obtain ⟨player, moves, rfl⟩ := Option.map_eq_some_iff.mp enabled
    exact .player (playerStep_of_next moves)
  | spurious w =>
    obtain ⟨player, woken, rfl⟩ := Option.map_eq_some_iff.mp enabled
    exact .spurious woken
  | report => exact report_step enabled
  | release => exact release_step enabled
  | threadMain part =>
    simp only [next] at enabled
    split at enabled
    · next runs =>
      cases enabled
      exact .threadMain part runs.1 runs.2
    · cases enabled
  | pop =>
    simp only [next] at enabled
    split at enabled
    · next waits =>
      cases enabled
      exact .pop waits.1 waits.2
    · cases enabled
  | handleMessage =>
    simp only [next] at enabled
    split at enabled
    · next busy =>
      cases enabled
      exact .handleMessage busy
    · cases enabled

/-! ### Users that are done -/

theorem outlives_step (step : Step output s l t) : s.player.Outlives t.player := by
  cases step with
  | player step => exact step.outlives
  | spurious woken => exact Player.outlives_spurious woken
  | release part => exact Player.outlives_destroy _ _
  | _ => exact .refl _

/-- A thread that has ended does not run again. -/
theorem isRunning_step (step : Step output s l t) {part : Part} (ended : s.isRunning part = false) :
    t.isRunning part = false := by
  cases step with
  | threadMain part' =>
    rcases eq_or_ne part part' with rfl | other
    · exact Function.update_self ..
    · exact (Function.update_of_ne other ..).trans ended
  | _ => exact ended

/-- Once the audio output is stopped, the callback takes no frame. -/
theorem taken_of_exit {s : Player} (stopped : s.playExit = true) : s.taken = none := by
  unfold Player.taken
  rw [if_neg]
  rintro ⟨-, clear⟩
  exact nomatch stopped.symm.trans clear

theorem reported_of_exit (stopped : s.player.playExit = true) {l : Player.Label} {r : Report}
    (reports : s.reported l = some r) : s.report = some r := by
  cases l with
  | callback =>
    have silent : s.reported .callback = none := by
      show s.player.taken.map _ = none
      rw [taken_of_exit stopped]
      rfl
    exact nomatch silent.symm.trans reports
  | _ => exact reports

theorem report_done_step (stopped : s.player.playExit = true) (step : Step output s l t)
    (done : s.Done .report) : t.Done .report := by
  cases step with
  | player step => exact fun r reports => done r (reported_of_exit stopped reports)
  | reportMove r loc here early => exact nomatch early.symm.trans (done r here)
  | send r here sends =>
    rintro _ ⟨⟩
    rfl
  | drop r here drops => rintro _ ⟨⟩
  | _ => exact done

theorem callback_done_step (step : Step output s l t) (done : s.Done .callback) :
    t.Done .callback := by
  obtain ⟨exited, silent⟩ := done
  refine ⟨(outlives_step step).callback exited, ?_⟩
  cases step with
  | player step =>
    rename_i l _
    cases l with
    | callback =>
      have nothing : s.player.taken = none := by
        unfold Player.taken
        rw [if_neg]
        rintro ⟨here | here, -⟩ <;> exact nomatch exited.symm.trans here
      show s.player.taken.map _ = none
      rw [nothing]
      rfl
    | _ => exact silent
  | reportMove r loc here early => exact nomatch silent.symm.trans here
  | send r here sends => exact nomatch silent.symm.trans here
  | drop r here drops => rfl
  | _ => exact silent

theorem looper_done_step (step : Step output s l t) (done : s.Done .looper) : t.Done .looper := by
  obtain ⟨callback, empty, idle⟩ := done
  refine ⟨callback_done_step step callback, ?_⟩
  cases step with
  | send r here sends => exact nomatch callback.2.symm.trans here
  | pop _ waits => exact absurd waits (by rw [empty]; exact Nat.lt_irrefl 0)
  | handleMessage busy => exact ⟨empty, rfl⟩
  | _ => exact ⟨empty, idle⟩

/-- **A user that is done stays done.** -/
theorem done_step (stopped : s.player.playExit = true) (step : Step output s l t) {w : User}
    (done : s.Done w) : t.Done w := by
  have outlives := outlives_step step
  cases w with
  | demux => exact ⟨outlives.demux done.1, isRunning_step step done.2⟩
  | decode k => exact ⟨outlives.decode k done.1, isRunning_step step done.2⟩
  | audioSync => exact outlives.audioSync done
  | videoSync => exact outlives.videoSync done
  | resample => exact isRunning_step step done
  | callback => exact callback_done_step step done
  | report => exact report_done_step stopped step done
  | looper => exact looper_done_step step done

/-! ### Who uses what -/

theorem demux_uses : ∀ part ∈ s.demuxUses, .demux ∈ users part := by
  unfold demuxUses
  split
  · decide
  · next p _ =>
    generalize p.kind = k
    generalize (s.player.decode k).isExit = flag
    cases k <;> cases flag <;> decide
  · split <;> decide
  · decide
  · decide

theorem decode_uses (k : Kind) : ∀ part ∈ s.decodeUses k, .decode k ∈ users part := by
  unfold decodeUses
  generalize (s.player.decode k).isExit = flag
  split <;> cases k <;> cases flag <;> decide

theorem audio_uses : ∀ part ∈ s.audioUses, .audioSync ∈ users part := by
  unfold audioUses
  generalize s.player.isExist = flag
  split <;> first | decide | (cases flag <;> decide) | (split <;> decide)

theorem video_uses : ∀ part ∈ s.videoUses, .videoSync ∈ users part := by
  unfold videoUses
  generalize s.player.isExist = flag
  split <;> cases flag <;> decide

theorem callback_uses : ∀ part ∈ s.callbackUses, .callback ∈ users part := by
  unfold callbackUses
  generalize s.player.playExit = flag
  split <;> cases flag <;> decide

/-- Until it calls back, the callback is busy with `audioPlay`, and then with `audioCallBack`. -/
theorem report_uses (r : Report) :
    ∀ part ∈ reportUses r, .callback ∈ users part ∨ .report ∈ users part := by
  unfold reportUses
  generalize r.pts.isSome = flag
  split <;> cases flag <;> decide

/-- **A step that uses a part is that of a user of it that is not done.** -/
theorem user_of_uses (step : Step output s l t) {part : Part} (uses : part ∈ s.uses l) :
    ∃ w ∈ users part, ¬s.Done w := by
  have reports : ∀ r, s.report = some r → r.loc.early = true → part ∈ s.uses .report →
      ∃ w ∈ users part, ¬s.Done w := by
    intro r here early uses
    have uses : part ∈ s.report.elim [] reportUses := uses
    rw [here] at uses
    rcases report_uses r part uses with user | user
    · exact ⟨.callback, user, fun done => nomatch here.symm.trans done.2⟩
    · exact ⟨.report, user, fun done => nomatch early.symm.trans (done r here)⟩
  have silent : s.uses l ≠ [] := fun nothing => by
    rw [nothing] at uses
    cases uses
  cases step with
  | @player l player step =>
    cases l with
    | demux =>
      refine ⟨.demux, demux_uses part uses, fun done => ?_⟩
      exact silent (by simp only [Releasing.uses, demuxUses, done.1])
    | decode k made =>
      refine ⟨.decode k, decode_uses k part uses, fun done => ?_⟩
      exact silent (by simp only [Releasing.uses, decodeUses, done.1])
    | audioSync resampled =>
      refine ⟨.audioSync, audio_uses part uses, fun done => ?_⟩
      have done : s.player.audioSync = .exited := done
      exact silent (by simp only [Releasing.uses, audioUses, done])
    | videoSync =>
      refine ⟨.videoSync, video_uses part uses, fun done => ?_⟩
      have done : s.player.videoSync = .exited := done
      exact silent (by simp only [Releasing.uses, videoUses, done])
    | callback =>
      refine ⟨.callback, callback_uses part uses, fun done => ?_⟩
      exact silent (by simp only [Releasing.uses, callbackUses, done.1])
    | stop => cases uses
    | pause request => cases uses
  | reportMove r loc here early => exact reports r here early uses
  | send r here sends =>
    exact absurd (by simp only [Releasing.uses, here, Option.elim, reportUses, sends]) silent
  | drop r here drops =>
    exact absurd (by simp only [Releasing.uses, here, Option.elim, reportUses, drops]) silent
  | threadMain part' returned runs =>
    cases List.mem_singleton.mp uses
    cases part with
    | demux => exact ⟨.demux, by decide, fun done => nomatch runs.symm.trans done.2⟩
    | decode k =>
      exact ⟨.decode k, by cases k <;> decide, fun done => nomatch runs.symm.trans done.2⟩
    | resample => exact ⟨.resample, by decide, fun done => nomatch runs.symm.trans done⟩
    | _ => exact returned.elim
  | handleMessage busy =>
    cases List.mem_singleton.mp uses
    exact ⟨.looper, by decide, fun done => nomatch busy.symm.trans done.2.2⟩
  | spurious woken => cases uses
  | pop => cases uses
  | release => cases uses

end Releasing

end Xplay
