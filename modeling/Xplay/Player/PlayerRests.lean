/-
**When no thread of a playing player moves.**

* `Moves` — after idle steps at most, a step is enabled that is none; the idle steps are those of the
  callback and those of a `MediaSync2` thread that looks at its frame queue and sleeps.
* `Rests` — every thread waits, or looks and sees nothing to take.
* `not_moves_iff` — these are the players without moves.
-/

import Xplay.Player.PlayerFlow

namespace Xplay

open Lib

namespace Player

/-- The player has packets or unshown frames left. -/
def Left (s : Player) : Prop :=
  s.file ≠ [] ∨ s.demux.hand ≠ [] ∨ ∃ k, (s.decode k).packetQueue ≠ [] ∨
    (s.decode k).loc.hand ≠ [] ∨ 0 < (s.decode k).frameQueue.getFrameSize

/-- The audio thread has no frame it may take. -/
def Deaf (s : Player) : Prop :=
  (s.decode .audio).frameQueue.currentFrame.size = 0 ∨ s.lastFramePts = some 0

/-- The video thread has no frame. -/
def Dark (s : Player) : Prop := (s.decode .video).frameQueue.currentFrame.size = 0

/-- A step of the callback, or one of a `MediaSync2` thread that polls: it sleeps, or looks and sees
nothing to take. -/
def Idle (s : Player) : Label → Prop
  | .audioSync _ => s.audioSync = .top ∨ s.audioSync = .looking ∧ s.Deaf
  | .videoSync => s.videoSync = .top ∨ s.videoSync = .looking ∧ s.Dark
  | .callback => True
  | _ => False

/-- **Some thread moves**: after idle steps at most, a step is enabled that is none. -/
def Moves (output : Kind → FrameOutput) (s : Player) : Prop :=
  ∃ idle t l u, (system output).Guarded Idle s idle ∧ (system output).run s idle = some t ∧
    Playing l ∧ ¬t.Idle l ∧ (system output).next t l = some u

/-- The demux thread is gone or waits for room, the decoders wait, the video thread sees no frame. -/
structure Waiting (s : Player) : Prop where
  demux : s.demux = .exited ∨ ∃ p, s.demux = .pushWaiting p
  decode : ∀ k, (s.decode k).loc = .popWaiting ∨ ∃ frame, (s.decode k).loc = .peekWaiting frame
  videoSync : s.videoSync.bound = false
  dark : s.Dark

/-- **A player at rest**: the audio thread has no frame it may take either. -/
structure Rests (s : Player) : Prop extends Waiting s where
  audioSync : s.audioSync.bound = false
  deaf : s.Deaf

variable {output : Kind → FrameOutput} {file : List Packet} {s s' t : Player} {l : Label}

theorem Idle.playing (polls : s.Idle l) : Playing l := by
  cases l with
  | audioSync | videoSync | callback => trivial
  | demux | decode | stop | pause => exact polls.elim

theorem moves_now (playing : Playing l) (busy : ¬s.Idle l)
    (enabled : (system output).next s l = some t) : Moves output s :=
  ⟨[], s, l, t, trivial, rfl, playing, busy, enabled⟩

theorem moves_after (polls : s.Idle l) (enabled : (system output).next s l = some t)
    (moves : Moves output t) : Moves output s := by
  obtain ⟨idle, u, l', v, guarded, run, playing, busy, next⟩ := moves
  refine ⟨l :: idle, u, l', v, ⟨polls, fun t' enabled' => ?_⟩, ?_, playing, busy, next⟩
  · rw [enabled] at enabled'
    cases enabled'
    exact guarded
  · exact (System.run_cons_eq_some _).mpr ⟨t, enabled, run⟩

/-! ### Threads that can step -/

/-- A demux thread steps unless it waits or is gone. -/
theorem demux_enabled (waits : ∀ p, s.demux ≠ .pushWaiting p) (gone : s.demux ≠ .exited) :
    ∃ t, s.demuxNext = some t := by
  cases loc : s.demux with
  | top =>
    simp only [demuxNext, loc]
    split
    · exact ⟨_, rfl⟩
    · split
      · exact ⟨_, rfl⟩
      · split <;> exact ⟨_, rfl⟩
  | routing p =>
    simp only [demuxNext, loc]
    split <;> exact ⟨_, rfl⟩
  | pushing p =>
    simp only [demuxNext, loc]
    split <;> exact ⟨_, rfl⟩
  | pushWaiting p => exact absurd loc (waits p)
  | exited => exact absurd loc gone

/-- A decoder thread steps unless it waits or is gone. -/
theorem decode_enabled {k : Kind} (pops : (s.decode k).loc ≠ .popWaiting)
    (peeks : ∀ frame, (s.decode k).loc ≠ .peekWaiting frame) (gone : (s.decode k).loc ≠ .exited) :
    ∃ t, decodeNext (output k) k true s = some t := by
  cases loc : (s.decode k).loc with
  | top =>
    simp only [decodeNext, loc]
    split
    · exact ⟨_, rfl⟩
    · split <;> exact ⟨_, rfl⟩
  | popping =>
    simp only [decodeNext, loc]
    split <;> exact ⟨_, rfl⟩
  | decoding frame => exact ⟨_, by simp only [decodeNext, loc]; rfl⟩
  | peeking frame =>
    simp only [decodeNext, loc]
    split <;> exact ⟨_, rfl⟩
  | peekWoken frame =>
    simp only [decodeNext, loc]
    split <;> exact ⟨_, rfl⟩
  | filling frame j => exact ⟨_, by simp only [decodeNext, loc]; rfl⟩
  | pushing => exact ⟨_, by simp only [decodeNext, loc]; rfl⟩
  | popWaiting => exact absurd loc pops
  | peekWaiting frame => exact absurd loc (peeks frame)
  | exited => exact absurd loc gone

/-- **The video thread takes a frame it sees.** -/
theorem video_moves (flow : Flow output file s) (saw : ¬s.Dark ∨ s.videoSync.bound = true) :
    Moves output s := by
  have looks : ∀ t : Player, t.videoSync = .looking → ¬t.Dark → Moves output t := by
    intro t here saw
    refine moves_now (l := .videoSync) (t := { t with videoSync := .showing }) trivial ?_
      (by simp only [system, next, videoNext, here]; exact if_neg saw)
    rintro (top | ⟨-, dark⟩)
    · rw [here] at top
      cases top
    · exact saw dark
  cases loc : s.videoSync with
  | top =>
    have saw := saw.resolve_right (by rw [loc]; rintro ⟨⟩)
    refine moves_after (l := .videoSync) (t := { s with videoSync := .looking }) (.inl loc) ?_
      (looks _ rfl saw)
    simp [system, next, videoNext, loc, flow.calm.isExist, flow.calm.abortRequest,
      flow.calm.pauseRequest]
  | looking => exact looks s loc (saw.resolve_right (by rw [loc]; rintro ⟨⟩))
  | showing =>
    refine moves_now (l := .videoSync) trivial ?_ (by simp only [system, next, videoNext, loc]; rfl)
    simp [Idle, loc]
  | popping =>
    refine moves_now (l := .videoSync) trivial ?_ (by simp only [system, next, videoNext, loc]; rfl)
    simp [Idle, loc]
  | exited => exact absurd loc flow.alive.videoSync

/-- **The audio thread takes a frame it sees while the gate is open.** -/
theorem audio_sees (flow : Flow output file s) (loose : s.audioSync.bound = false)
    (hears : ¬s.Deaf) : Moves output s := by
  have looks : ∀ t : Player, t.audioSync = .looking → ¬t.Deaf → Moves output t := by
    intro t here hears
    refine moves_now (l := .audioSync true) (t := { t with audioSync := .updating }) trivial ?_
      (by simp only [system, next, audioNext, here]; exact if_neg hears)
    rintro (top | ⟨-, deaf⟩)
    · rw [here] at top
      cases top
    · exact hears deaf
  cases loc : s.audioSync with
  | top =>
    refine moves_after (l := .audioSync true) (t := { s with audioSync := .looking }) (.inl loc) ?_
      (looks _ rfl hears)
    simp [system, next, audioNext, loc, flow.calm.isExist, flow.calm.abortRequest,
      flow.calm.pauseRequest]
  | looking => exact looks s loc hears
  | exited => exact absurd loc flow.alive.audioSync
  | updating | putting | putWaiting | putWoken | popping =>
    rw [loc] at loose
    cases loose

/-- **An audio thread that waits for room gets it from the callback.** -/
theorem audio_woken (sound : Sound output s) (flow : Flow output file s)
    (here : s.audioSync = .putWaiting) : Moves output s := by
  have many := sound.putWaiting here
  have puts : ∀ t : Player, t.audioSync = .putWoken → Moves output t := by
    intro t woken
    refine moves_now (l := .audioSync true) trivial ?_
      (by simp only [system, next, audioNext, woken]; rfl)
    simp [Idle, woken]
  have takes : ∀ t : Player, t.callback = .getting ∨ t.callback = .getWoken →
      t.audioSync = .putWaiting → t.frames ≠ [] → t.playExit = false → Moves output t := by
    intro t gets waits some play
    obtain ⟨x, rest, front⟩ := List.exists_cons_of_ne_nil some
    refine moves_after (l := .callback)
      (t := { t with frames := rest, audioSync := t.audioSync.wakePut, callback := .idle })
      trivial ?_ (puts _ (by simp only [waits]; rfl))
    rcases gets with gets | gets <;>
      simp [system, next, callbackNext, gets, take, front, play]
  have some : s.frames ≠ [] := fun nothing => by
    rw [nothing] at many
    cases many
  cases loc : s.callback with
  | idle | pausing =>
    refine moves_after (l := .callback) (t := { s with callback := .getting }) trivial ?_
      (takes _ (.inl rfl) here some flow.calm.playExit)
    simp [system, next, callbackNext, loc, flow.calm.playExit, flow.calm.abortRequest,
      flow.calm.pauseRequest]
  | getting => exact takes s (.inl loc) here some flow.calm.playExit
  | getWaiting => exact absurd (sound.getWaiting loc) some
  | getWoken => exact takes s (.inr loc) here some flow.calm.playExit
  | exited => exact absurd loc flow.alive.callback

/-- An audio thread that has seen a frame goes on. -/
theorem audio_moves (sound : Sound output s) (flow : Flow output file s)
    (bound : s.audioSync.bound = true) : Moves output s := by
  by_cases waits : s.audioSync = .putWaiting
  · exact audio_woken sound flow waits
  · obtain ⟨t, enabled⟩ : ∃ t, s.audioNext true = some t := by
      cases loc : s.audioSync with
      | updating => exact ⟨_, by simp only [audioNext, loc]; rfl⟩
      | putting =>
        simp only [audioNext, loc]
        split <;> exact ⟨_, rfl⟩
      | putWoken => exact ⟨_, by simp only [audioNext, loc]; rfl⟩
      | popping => exact ⟨_, by simp only [audioNext, loc]; rfl⟩
      | putWaiting => exact absurd loc waits
      | _ =>
        rw [loc] at bound
        cases bound
    refine moves_now (l := .audioSync true) trivial ?_ enabled
    rintro (here | ⟨here, -⟩)
    · rw [here] at bound
      cases bound
    · rw [here] at bound
      cases bound

/-- **A player without moves is at rest.** -/
theorem rests_of_not_moves (sound : Sound output s) (flow : Flow output file s)
    (stays : ¬Moves output s) : Rests s where
  demux := by
    by_contra moves
    obtain ⟨gone, waits⟩ := not_or.mp moves
    obtain ⟨t, enabled⟩ := demux_enabled (not_exists.mp waits) gone
    exact stays (moves_now (l := .demux) trivial id enabled)
  decode k := by
    by_contra moves
    obtain ⟨pops, peeks⟩ := not_or.mp moves
    obtain ⟨t, enabled⟩ : ∃ t, decodeNext (output k) k true s = some t :=
      decode_enabled pops (not_exists.mp peeks) (flow.alive.decode k)
    exact stays (moves_now (l := .decode k true) rfl id enabled)
  videoSync := by
    by_contra bound
    exact stays (video_moves flow (.inr (by simpa using bound)))
  dark := by
    by_contra saw
    exact stays (video_moves flow (.inl saw))
  audioSync := by
    by_contra bound
    exact stays (audio_moves sound flow (by simpa using bound))
  deaf := by
    by_contra hears
    by_cases bound : s.audioSync.bound = true
    · exact stays (audio_moves sound flow bound)
    · exact stays (audio_sees flow (by simpa using bound) hears)

/-! ### Players at rest -/

namespace Rests

/-- **Every step of a player at rest is idle.** -/
theorem idle (rests : Rests s) (flow : Flow output file s) (playing : Playing l)
    (enabled : (system output).next s l = some s') : s.Idle l := by
  cases l with
  | demux =>
    rcases rests.demux with gone | ⟨p, waits⟩
    · simp [system, next, demuxNext, gone] at enabled
    · simp [system, next, demuxNext, waits] at enabled
  | decode k made =>
    rcases rests.decode k with waits | ⟨frame, waits⟩ <;>
      simp [system, next, decodeNext, waits] at enabled
  | audioSync resampled =>
    have loose := rests.audioSync
    cases loc : s.audioSync with
    | top => exact .inl loc
    | looking => exact .inr ⟨loc, rests.deaf⟩
    | exited => exact absurd loc flow.alive.audioSync
    | updating | putting | putWaiting | putWoken | popping =>
      rw [loc] at loose
      cases loose
  | videoSync =>
    have loose := rests.videoSync
    cases loc : s.videoSync with
    | top => exact .inl loc
    | looking => exact .inr ⟨loc, rests.dark⟩
    | exited => exact absurd loc flow.alive.videoSync
    | showing | popping =>
      rw [loc] at loose
      cases loose
  | callback => trivial
  | stop => exact playing.elim
  | pause request => exact playing.elim

/-- **An idle step leaves it at rest.** -/
theorem step (rests : Rests s) (polls : s.Idle l) (step : Step output s l s') : Rests s' := by
  obtain ⟨⟨demux, decode, video, dark⟩, audio, deaf⟩ := rests
  cases step with
  | audioMove resampled move =>
    refine ⟨⟨demux, decode, video, dark⟩, ?_, deaf⟩
    cases move with
    | see here saw opens => exact absurd deaf (not_or.mpr ⟨saw, opens⟩)
    | resampled here | lost here | full here full =>
      rw [here] at audio
      cases audio
    | _ => rfl
  | audioPut resampled here =>
    rcases here with ⟨here, -⟩ | here <;> rw [here] at audio <;> cases audio
  | audioPop resampled here =>
    rw [here] at audio
    cases audio
  | videoMove move =>
    refine ⟨⟨demux, decode, ?_, dark⟩, audio, deaf⟩
    cases move with
    | see here saw => exact absurd dark saw
    | _ => rfl
  | videoShow here | videoPop here =>
    rw [here] at video
    cases video
  | callbackMove move => exact ⟨⟨demux, decode, video, dark⟩, audio, deaf⟩
  | callbackTake x rest here front clear =>
    exact ⟨⟨demux, decode, video, dark⟩, (AudioLoc.bound_wakePut _).trans audio, deaf⟩
  | _ => exact polls.elim

end Rests

/-- **The players without moves are those at rest.** -/
theorem not_moves_iff (sound : Sound output s) (flow : Flow output file s) :
    ¬Moves output s ↔ Rests s := by
  refine ⟨rests_of_not_moves sound flow, ?_⟩
  rintro rests ⟨idle, t, l, u, guarded, run, playing, busy, enabled⟩
  obtain ⟨rests, sound, flow⟩ := System.invariant_guarded
    (I := fun s => Rests s ∧ Sound output s ∧ Flow output file s)
    (fun s l _ ⟨rests, sound, flow⟩ polls enabled =>
      have step := step_of_next enabled
      ⟨rests.step polls step, sound_step sound step, flow_step sound flow polls.playing step⟩)
    guarded run ⟨rests, sound, flow⟩
  exact busy (rests.idle flow playing enabled)

end Player

end Xplay
