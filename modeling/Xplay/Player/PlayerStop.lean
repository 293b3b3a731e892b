/-
**`MediaPlayer::stop` releases the workers whose blocking calls are attended to.**

* `Stopped.advances` — in a state where `stop` has returned and every blocking call is attended to,
  some thread gets closer to its exit, until all have exited.
* `Stopped.released` — so from such a state every worker can still exit.
-/

import Xplay.Player.PlayerAttended

namespace Xplay

open Lib

/-! ### How far a thread is from its exit -/

def DemuxLoc.left : DemuxLoc → Nat
  | exited => 0
  | top => 1
  | routing _ => 2
  | pushing _ => 3
  | pushWaiting _ => 4

def DecodeLoc.left : DecodeLoc → Nat
  | exited => 0
  | top => 1
  | pushing => 2
  | filling _ _ => 3
  | peekWoken _ => 4
  | peekWaiting _ => 5
  | peeking _ => 6
  | decoding _ => 7
  | popping => 8
  | popWaiting => 9

def AudioLoc.left : AudioLoc → Nat
  | exited => 0
  | top => 1
  | popping => 2
  | putWoken => 3
  | putting | putWaiting => 4
  | updating => 5
  | looking => 6

def VideoLoc.left : VideoLoc → Nat
  | exited => 0
  | top => 1
  | popping => 2
  | showing => 3
  | looking => 4

def CallbackLoc.left : CallbackLoc → Nat
  | exited => 0
  | idle | getWoken => 1
  | getting => 2
  | pausing | getWaiting => 3

/-- A woken thread is no farther from its exit. -/
theorem DemuxLoc.left_wakePush (loc : DemuxLoc) (k : Kind) : (loc.wakePush k).left ≤ loc.left := by
  cases loc with
  | pushWaiting p =>
    show DemuxLoc.left (if p.kind = k then .pushing p else .pushWaiting p) ≤ 4
    split
    · exact Nat.le_succ 3
    · exact Nat.le_refl 4
  | _ => exact Nat.le_refl _

theorem DecodeLoc.left_wakePop (loc : DecodeLoc) : loc.wakePop.left ≤ loc.left := by
  cases loc <;> simp [wakePop, left]

theorem DecodeLoc.left_wakePeek (loc : DecodeLoc) : loc.wakePeek.left ≤ loc.left := by
  cases loc <;> simp [wakePeek, left]

theorem IDecode.left_popFrame (d : IDecode) : d.popFrame.loc.left ≤ d.loc.left := by
  rcases Player.popFrame_loc d with same | same <;> rw [same]
  exact DecodeLoc.left_wakePeek _

theorem CallbackLoc.left_wakeGet (loc : CallbackLoc) : loc.wakeGet.left ≤ loc.left := by
  cases loc <;> simp [wakeGet, left]

namespace Player

/-- The threads `stop` is to release. -/
inductive Worker
  | demux
  | decode (k : Kind)
  | audioSync
  | videoSync
  | callback

/-- The worker's function has returned. -/
def Exited (s : Player) : Worker → Prop
  | .demux => s.demux = .exited
  | .decode k => (s.decode k).loc = .exited
  | .audioSync => s.audioSync = .exited
  | .videoSync => s.videoSync = .exited
  | .callback => s.callback = .exited

/-- **Every worker is released**: it has exited, or the threads have a way on that makes it exit. -/
def Released (output : Kind → FrameOutput) (s : Player) : Prop :=
  ∀ w, ∃ t, (system output).Reaches s t ∧ t.Exited w

/-- The steps all threads together are away from their exits. -/
def left (s : Player) : Nat :=
  s.demux.left + (s.decode .audio).loc.left + (s.decode .video).loc.left + s.audioSync.left +
    s.videoSync.left + s.callback.left

theorem left_setDecode (s : Player) (k : Kind) (d : IDecode) :
    (s.setDecode k d).left + (s.decode k).loc.left = s.left + d.loc.left := by
  cases k with
  | audio =>
    show s.demux.left + d.loc.left + (s.decode .video).loc.left + s.audioSync.left +
      s.videoSync.left + s.callback.left + (s.decode .audio).loc.left = _
    unfold left
    omega
  | video =>
    show s.demux.left + (s.decode .audio).loc.left + d.loc.left + s.audioSync.left +
      s.videoSync.left + s.callback.left + (s.decode .video).loc.left = _
    unfold left
    omega

variable {output : Kind → FrameOutput} {s s' : Player} {l : Label}

/-- A packet that is popped is a step done, even if it lets the demux thread go on. -/
theorem left_pop {k : Kind} (here : (s.decode k).loc = .popping) (p : Packet) (rest : List Packet) :
    ({ s.setDecode k ((s.decode k).popPacket p rest) with demux := s.demux.wakePush k } :
      Player).left < s.left := by
  have moved := left_setDecode s k ((s.decode k).popPacket p rest)
  have woken := s.demux.left_wakePush k
  rw [here] at moved
  unfold left at moved ⊢
  simp only [setDecode, IDecode.popPacket, DecodeLoc.left] at moved ⊢
  omega

/-- So is one that is pushed. -/
theorem left_push {p : Packet} (here : s.demux = .pushing p) :
    ({ s.setDecode p.kind ((s.decode p.kind).pushPacket p) with
      demux := .top
      pushed := s.pushed ++ [p] } : Player).left < s.left := by
  have moved := left_setDecode s p.kind ((s.decode p.kind).pushPacket p)
  have woken := (s.decode p.kind).loc.left_wakePop
  unfold left at moved ⊢
  simp only [setDecode, IDecode.pushPacket, here, DemuxLoc.left] at moved ⊢
  omega

/-- A state of the player in which `stop` has returned. -/
structure Halted (output : Kind → FrameOutput) (s : Player) : Prop where
  sound : Sound output s
  returned : s.stop = .returned

namespace Halted

theorem aborted (halted : Halted output s) : s.abortRequest = true :=
  halted.sound.aborted (by rw [halted.returned]; decide)

theorem playExit (halted : Halted output s) : s.playExit = true :=
  halted.sound.stopped (by rw [halted.returned]; decide)

/-- Nobody calls `stop` again. -/
theorem step (halted : Halted output s) (step : Step output s l s') : Halted output s' := by
  have returned := halted.returned
  refine ⟨sound_step halted.sound step, ?_⟩
  cases step <;> simp_all [setDecode, put]

end Halted

/-- `stop` has returned where every blocking call was attended to. -/
structure Stopped (output : Kind → FrameOutput) (s : Player) : Prop extends Halted output s where
  attended : Attended output s

namespace Stopped

theorem step (stopped : Stopped output s) (step : Step output s l s') : Stopped output s' :=
  ⟨stopped.toHalted.step step, attended_step stopped.sound (by rw [stopped.returned]; decide)
    stopped.attended step⟩

/-- **The audio thread gets closer to its exit.** -/
theorem audio_advances (stopped : Stopped output s) (here : s.audioSync ≠ .exited) :
    ∃ l t, (system output).next s l = some t ∧ t.left < s.left := by
  have aborted := stopped.aborted
  cases loc : s.audioSync with
  | top =>
    exact ⟨.audioSync false, { s with audioSync := .exited },
      by simp [system, next, audioNext, loc, aborted], by simp [left, loc, AudioLoc.left]⟩
  | looking =>
    by_cases closed : (s.decode .audio).frameQueue.currentFrame.size = 0 ∨ s.lastFramePts = some 0
    · exact ⟨.audioSync false, { s with audioSync := .top },
        by simp [system, next, audioNext, loc, closed], by simp [left, loc, AudioLoc.left]⟩
    · exact ⟨.audioSync false, { s with audioSync := .updating },
        by simp [system, next, audioNext, loc, closed], by simp [left, loc, AudioLoc.left]⟩
  | updating =>
    exact ⟨.audioSync false, { s with audioSync := .popping },
      by simp [system, next, audioNext, loc], by simp [left, loc, AudioLoc.left]⟩
  | putting =>
    have fits := stopped.attended.put (.inr (.inl loc))
    refine ⟨.audioSync false, s.put,
      by simp [system, next, audioNext, loc, Nat.not_lt.mpr fits], ?_⟩
    have woken := s.callback.left_wakeGet
    simp only [left, put, loc, AudioLoc.left]
    omega
  | putWaiting => exact absurd loc stopped.attended.putWaiting
  | putWoken =>
    refine ⟨.audioSync false, s.put, by simp [system, next, audioNext, loc], ?_⟩
    have woken := s.callback.left_wakeGet
    simp only [left, put, loc, AudioLoc.left]
    omega
  | popping =>
    refine ⟨.audioSync false, { s.setDecode .audio (s.decode .audio).popFrame with
      audioSync := .top }, by simp [system, next, audioNext, loc], ?_⟩
    have popped := (s.decode .audio).left_popFrame
    simp only [left, loc, AudioLoc.left, setDecode_decode, if_true, reduceCtorEq, if_false]
    simp only [setDecode]
    omega
  | exited => exact absurd loc here

/-- **The video thread gets closer to its exit.** -/
theorem video_advances (stopped : Stopped output s) (here : s.videoSync ≠ .exited) :
    ∃ l t, (system output).next s l = some t ∧ t.left < s.left := by
  have aborted := stopped.aborted
  cases loc : s.videoSync with
  | top =>
    exact ⟨.videoSync, { s with videoSync := .exited },
      by simp [system, next, videoNext, loc, aborted], by simp [left, loc, VideoLoc.left]⟩
  | looking =>
    by_cases blank : (s.decode .video).frameQueue.currentFrame.size = 0
    · exact ⟨.videoSync, { s with videoSync := .top },
        by simp [system, next, videoNext, loc, blank], by simp [left, loc, VideoLoc.left]⟩
    · exact ⟨.videoSync, { s with videoSync := .showing },
        by simp [system, next, videoNext, loc, blank], by simp [left, loc, VideoLoc.left]⟩
  | showing =>
    exact ⟨.videoSync, _, by simp only [system, next, videoNext, loc]; rfl,
      by simp [left, loc, VideoLoc.left]⟩
  | popping =>
    refine ⟨.videoSync, { s.setDecode .video (s.decode .video).popFrame with
      videoSync := .top }, by simp [system, next, videoNext, loc], ?_⟩
    have popped := (s.decode .video).left_popFrame
    simp only [left, loc, VideoLoc.left, setDecode_decode, if_true, reduceCtorEq, if_false]
    simp only [setDecode]
    omega
  | exited => exact absurd loc here

/-- **The callback gets closer to its exit**, or is about to be woken by the audio thread. -/
theorem callback_advances (stopped : Stopped output s) (audio : s.audioSync = .exited)
    (here : s.callback ≠ .exited) :
    ∃ l t, (system output).next s l = some t ∧ t.left < s.left := by
  have playExit := stopped.playExit
  cases loc : s.callback with
  | idle =>
    exact ⟨.callback, { s with callback := .exited },
      by simp [system, next, callbackNext, loc, playExit], by simp [left, loc, CallbackLoc.left]⟩
  | pausing =>
    cases paused : s.pauseRequest with
    | true =>
      exact ⟨.callback, { s with callback := .exited },
        by simp [system, next, callbackNext, loc, playExit, paused],
        by simp [left, loc, CallbackLoc.left]⟩
    | false =>
      exact ⟨.callback, { s with callback := .getting },
        by simp [system, next, callbackNext, loc, paused], by simp [left, loc, CallbackLoc.left]⟩
  | getting =>
    rcases stopped.attended.get (.inr (.inl loc)) with some | there | there
    · exact ⟨.callback, { s with callback := .exited },
        by simp [system, next, callbackNext, loc, some, take, playExit],
        by simp [left, loc, CallbackLoc.left]⟩
    · rw [audio] at there
      cases there
    · rw [audio] at there
      cases there
  | getWaiting =>
    rcases stopped.attended.get (.inr (.inr loc)) with some | there | there
    · exact absurd (stopped.sound.getWaiting loc) some
    · rw [audio] at there
      cases there
    · rw [audio] at there
      cases there
  | getWoken =>
    exact ⟨.callback, { s with callback := .exited },
      by simp [system, next, callbackNext, loc, take, playExit],
      by simp [left, loc, CallbackLoc.left]⟩
  | exited => exact absurd loc here

/-- A decoder at the pop takes a packet, and lets the demux thread out of its wait. -/
theorem pop_advances {k : Kind} (here : (s.decode k).loc = .popping)
    (packets : (s.decode k).packetQueue ≠ []) :
    ∃ l t, (system output).next s l = some t ∧ t.left < s.left := by
  obtain ⟨p, rest, front⟩ := List.exists_cons_of_ne_nil packets
  exact ⟨.decode k false, _, by simp only [system, next, decodeNext, here, front],
    left_pop here p rest⟩

/-- **The demux thread gets closer to its exit**, or the decoder it waits for does. -/
theorem demux_advances (stopped : Stopped output s) (here : s.demux ≠ .exited) :
    ∃ l t, (system output).next s l = some t ∧ t.left < s.left := by
  have aborted := stopped.aborted
  -- a full queue is attended to by its decoder, which has a packet to take
  have relieved : ∀ p, s.demux = .pushing p ∨ s.demux = .pushWaiting p →
      packetQueueSize ≤ (s.decode p.kind).packetQueue.length →
      ∃ l t, (system output).next s l = some t ∧ t.left < s.left := by
    intro p pushes full
    rcases stopped.attended.push p pushes with room | popping
    · exact absurd room (Nat.not_lt.mpr full)
    · refine pop_advances popping fun nothing => ?_
      rw [nothing] at full
      cases full
  cases loc : s.demux with
  | top =>
    exact ⟨.demux, { s with demux := .exited }, by simp [system, next, demuxNext, loc, aborted],
      by simp [left, loc, DemuxLoc.left]⟩
  | routing p =>
    exact ⟨.demux, { s with demux := .top }, by simp [system, next, demuxNext, loc, aborted],
      by simp [left, loc, DemuxLoc.left]⟩
  | pushing p =>
    by_cases room : (s.decode p.kind).packetQueue.length < packetQueueSize
    · exact ⟨.demux, _, by simp only [system, next, demuxNext, loc, if_pos room], left_push loc⟩
    · exact relieved p (.inl loc) (Nat.not_lt.mp room)
  | pushWaiting p => exact relieved p (.inr loc) (stopped.sound.pushWaiting p loc)
  | exited => exact absurd loc here

/-- Where no consumer is left to make room, there is room. -/
theorem room (stopped : Stopped output s) (audio : s.audioSync = .exited)
    (video : s.videoSync = .exited) {k : Kind} (peeks : (s.decode k).loc.peeks = true) :
    (s.decode k).frameQueue.size < (s.decode k).frameQueue.maxSize := by
  rcases stopped.attended.peek k peeks with room | ⟨-, will⟩
  · exact room
  · cases k with
    | audio =>
      rcases will with bound | ⟨looking, -⟩
      · rw [audio] at bound
        cases bound
      · rw [audio] at looking
        cases looking
    | video =>
      rcases will with bound | ⟨looking, -⟩
      · rw [video] at bound
        cases bound
      · rw [video] at looking
        cases looking

/-- Where no demux thread is left to bring a packet, one is there. -/
theorem packets (stopped : Stopped output s) (demux : s.demux = .exited) {k : Kind}
    (pops : (s.decode k).loc = .popping ∨ (s.decode k).loc = .popWaiting) :
    (s.decode k).packetQueue ≠ [] := by
  intro nothing
  have next := stopped.attended.pop k pops
  unfold nextPacket at next
  rw [nothing, demux] at next
  exact next rfl

/-- **A decoder gets closer to its exit** when the other threads are gone. -/
theorem decode_advances (stopped : Stopped output s) (demux : s.demux = .exited)
    (audio : s.audioSync = .exited) (video : s.videoSync = .exited) {k : Kind}
    (here : (s.decode k).loc ≠ .exited) :
    ∃ l t, (system output).next s l = some t ∧ t.left < s.left := by
  have aborted := stopped.aborted
  obtain ⟨stored, held⟩ := stopped.sound.held k
  have claims := held.claims
  have goes : ∀ d, (system output).next s (.decode k false) = some (s.setDecode k d) →
      d.loc.left < (s.decode k).loc.left →
      ∃ l t, (system output).next s l = some t ∧ t.left < s.left := by
    intro d enabled less
    have moved := left_setDecode s k d
    exact ⟨.decode k false, s.setDecode k d, enabled, by omega⟩
  cases loc : (s.decode k).loc with
  | top =>
    exact goes ((s.decode k).goto .exited) (by simp [system, next, decodeNext, loc, aborted])
      (by rw [loc]; exact Nat.one_pos)
  | popping => exact pop_advances loc (stopped.packets demux (.inl loc))
  | popWaiting =>
    rw [loc] at claims
    exact absurd claims (stopped.packets demux (.inr loc))
  | decoding frame =>
    exact goes ((s.decode k).goto .top) (by simp [system, next, decodeNext, loc])
      (by rw [loc]; simp [IDecode.goto, DecodeLoc.left])
  | peeking frame =>
    have room := stopped.room audio video (k := k) (by rw [loc]; rfl)
    have granted := FrameQueue.peekWritable_of_room held.started room
    exact goes ((s.decode k).goto (.filling frame (s.decode k).frameQueue.windex))
      (by simp [system, next, decodeNext, loc, granted])
      (by rw [loc]; simp [IDecode.goto, DecodeLoc.left])
  | peekWaiting frame =>
    have room := stopped.room audio video (k := k) (by rw [loc]; rfl)
    rw [loc] at claims
    exact absurd room (Nat.not_lt.mpr claims)
  | peekWoken frame =>
    refine goes ((s.decode k).goto (.filling frame (s.decode k).frameQueue.windex)) ?_
      (by rw [loc]; simp [IDecode.goto, DecodeLoc.left])
    simp [system, next, decodeNext, loc, FrameQueue.peekAfterWait, held.started]
  | filling frame j =>
    exact goes ((s.decode k).fill (output k) frame j) (by simp [system, next, decodeNext, loc])
      (by rw [loc]; simp [IDecode.fill, DecodeLoc.left])
  | pushing =>
    exact goes (s.decode k).pushFrame (by simp [system, next, decodeNext, loc])
      (by rw [loc]; simp [IDecode.pushFrame, DecodeLoc.left])
  | exited => exact absurd loc here

/-- **Some thread gets closer to its exit** until all have exited. -/
theorem advances (stopped : Stopped output s) : (∀ w, s.Exited w) ∨
    ∃ t, (system output).ReachesBy (fun _ => True) s t ∧ Stopped output t ∧ t.left < s.left := by
  have go : (∃ l t, (system output).next s l = some t ∧ t.left < s.left) →
      ∃ t, (system output).ReachesBy (fun _ => True) s t ∧ Stopped output t ∧ t.left < s.left := by
    rintro ⟨l, t, enabled, less⟩
    exact ⟨t, .single trivial enabled, stopped.step (step_of_next enabled), less⟩
  by_cases audio : s.audioSync = .exited
  case neg => exact .inr (go (stopped.audio_advances audio))
  by_cases video : s.videoSync = .exited
  case neg => exact .inr (go (stopped.video_advances video))
  by_cases callback : s.callback = .exited
  case neg => exact .inr (go (stopped.callback_advances audio callback))
  by_cases demux : s.demux = .exited
  case neg => exact .inr (go (stopped.demux_advances demux))
  by_cases decode : ∀ k, (s.decode k).loc = .exited
  · left
    intro w
    cases w with
    | demux => exact demux
    | decode k => exact decode k
    | audioSync => exact audio
    | videoSync => exact video
    | callback => exact callback
  · obtain ⟨k, here⟩ := not_forall.mp decode
    exact .inr (go (stopped.decode_advances demux audio video here))

/-- **All workers can exit together.** -/
theorem released (stopped : Stopped output s) : Released output s := by
  obtain ⟨t, reach, -, exited⟩ := System.reachesBy_final (I := Stopped output)
    (F := fun t => ∀ w, t.Exited w) left (fun _ stopped => stopped.advances) s stopped
  exact fun w => ⟨t, reach.reaches, exited w⟩

end Stopped

end Player

end Xplay
