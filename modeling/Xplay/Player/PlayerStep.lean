/-
**What one step of the player can do.**

`Step` lists every step with its guards: the moves of a thread that change nothing but where it
stands (`DemuxMove`, `DecodeMove`, …) and the steps that change what the threads share. Every later
proof about steps is a case analysis over it (`step_of_next`).
-/

import Xplay.Player.Player

namespace Xplay

open Lib

namespace Player

/-- The demux thread only moves. -/
inductive DemuxMove (s : Player) : DemuxLoc → Prop
  | poll (here : s.demux = .top) (pause : s.pauseRequest = true) : DemuxMove s .top
  | quit (here : s.demux = .top) (flag : s.abortRequest = true ∨ s.demuxExit = true) :
    DemuxMove s .exited
  | drop (p : Packet) (here : s.demux = .routing p)
    (flag : (s.decode p.kind).isExit = true ∨ s.abortRequest = true) : DemuxMove s .top
  | route (p : Packet) (here : s.demux = .routing p) (clear : s.abortRequest = false) :
    DemuxMove s (.pushing p)
  | full (p : Packet) (here : s.demux = .pushing p)
    (full : packetQueueSize ≤ (s.decode p.kind).packetQueue.length) : DemuxMove s (.pushWaiting p)

/-- A decoder thread only moves. -/
inductive DecodeMove (s : Player) (d : IDecode) : DecodeLoc → Prop
  | poll (here : d.loc = .top) (pause : s.pauseRequest = true) : DecodeMove s d .top
  | quit (here : d.loc = .top) (flag : d.isExit = true ∨ s.abortRequest = true) :
    DecodeMove s d .exited
  | pop (here : d.loc = .top) (clear : s.abortRequest = false) : DecodeMove s d .popping
  | empty (here : d.loc = .popping) (nothing : d.packetQueue = []) : DecodeMove s d .popWaiting
  | wait (frame : AVFrame) (here : d.loc = .peeking frame)
    (full : d.frameQueue.maxSize ≤ d.frameQueue.size) : DecodeMove s d (.peekWaiting frame)
  | grant (frame : AVFrame) (here : d.loc = .peeking frame)
    (room : d.frameQueue.size < d.frameQueue.maxSize) :
    DecodeMove s d (.filling frame d.frameQueue.windex)
  | woken (frame : AVFrame) (here : d.loc = .peekWoken frame) :
    DecodeMove s d (.filling frame d.frameQueue.windex)
  | null (frame : AVFrame) (here : d.loc = .peeking frame ∨ d.loc = .peekWoken frame)
    (aborted : d.frameQueue.abortRequest = true) : DecodeMove s d .top

/-- A step of a decoder thread that takes no packet; it makes a frame of its packet if `made`. -/
inductive DecodeStep (output : FrameOutput) (s : Player) (d : IDecode) (made : Bool) :
    IDecode → Prop
  | move {loc : DecodeLoc} (move : DecodeMove s d loc) : DecodeStep output s d made (d.goto loc)
  | make (frame : AVFrame) (here : d.loc = .decoding frame) (makes : made = true) :
    DecodeStep output s d made (d.goto (.peeking frame))
  | skip (frame : AVFrame) (here : d.loc = .decoding frame) (skips : made = false) :
    DecodeStep output s d made (d.goto .top)
  | fill (frame : AVFrame) (j : Nat) (here : d.loc = .filling frame j) :
    DecodeStep output s d made (d.fill output frame j)
  | push (here : d.loc = .pushing) : DecodeStep output s d made d.pushFrame

/-- The audio thread only moves. -/
inductive AudioMove (s : Player) : AudioLoc → Prop
  | poll (here : s.audioSync = .top) : AudioMove s .top
  | quit (here : s.audioSync = .top) (flag : s.isExist = true ∨ s.abortRequest = true) :
    AudioMove s .exited
  | look (here : s.audioSync = .top) (clear : s.abortRequest = false) : AudioMove s .looking
  | blank (here : s.audioSync = .looking)
    (closed : (s.decode .audio).frameQueue.currentFrame.size = 0 ∨ s.lastFramePts = some 0) :
    AudioMove s .top
  | see (here : s.audioSync = .looking)
    (saw : (s.decode .audio).frameQueue.currentFrame.size ≠ 0) (gate : s.lastFramePts ≠ some 0) :
    AudioMove s .updating
  | resampled (here : s.audioSync = .updating) : AudioMove s .putting
  | lost (here : s.audioSync = .updating) : AudioMove s .popping
  | full (here : s.audioSync = .putting) (full : maxFrameBuffer < s.frames.length) :
    AudioMove s .putWaiting

/-- The video thread only moves. -/
inductive VideoMove (s : Player) : VideoLoc → Prop
  | poll (here : s.videoSync = .top) : VideoMove s .top
  | quit (here : s.videoSync = .top) (flag : s.isExist = true ∨ s.abortRequest = true) :
    VideoMove s .exited
  | look (here : s.videoSync = .top) (clear : s.abortRequest = false) : VideoMove s .looking
  | blank (here : s.videoSync = .looking)
    (none : (s.decode .video).frameQueue.currentFrame.size = 0) : VideoMove s .top
  | see (here : s.videoSync = .looking)
    (saw : (s.decode .video).frameQueue.currentFrame.size ≠ 0) : VideoMove s .showing

/-- The callback only moves. -/
inductive CallbackMove (s : Player) : CallbackLoc → Prop
  | pause (here : s.callback = .idle) (clear : s.abortRequest = false) : CallbackMove s .pausing
  | poll (here : s.callback = .pausing) : CallbackMove s .pausing
  | quit (here : s.callback = .idle ∨ s.callback = .pausing)
    (flag : s.playExit = true ∨ s.abortRequest = true) : CallbackMove s .exited
  | call (here : s.callback = .idle) (clear : s.abortRequest = false) : CallbackMove s .getting
  | resume (here : s.callback = .pausing) (clear : s.pauseRequest = false) : CallbackMove s .getting
  | empty (here : s.callback = .getting) (nothing : s.frames = []) : CallbackMove s .getWaiting
  | leave (here : s.callback = .getting ∨ s.callback = .getWoken) (flag : s.playExit = true) :
    CallbackMove s .exited

/-- **A step, with its guards.** -/
inductive Step (output : Kind → FrameOutput) (s : Player) : Label → Player → Prop
  | demuxMove {loc : DemuxLoc} (move : DemuxMove s loc) : Step output s .demux { s with demux := loc }
  | demuxEof (here : s.demux = .top) (nothing : s.file = []) :
    Step output s .demux { s with demux := .exited, demuxExit := true }
  | demuxRead (p : Packet) (rest : List Packet) (here : s.demux = .top) (front : s.file = p :: rest)
    (clear : s.abortRequest = false) :
    Step output s .demux { s with file := rest, demux := .routing p }
  | demuxPush (p : Packet) (here : s.demux = .pushing p)
    (room : (s.decode p.kind).packetQueue.length < packetQueueSize) :
    Step output s .demux
      { s.setDecode p.kind ((s.decode p.kind).pushPacket p) with
        demux := .top
        pushed := s.pushed ++ [p] }
  | decodeStep (k : Kind) (made : Bool) {d : IDecode}
    (own : DecodeStep (output k) s (s.decode k) made d) :
    Step output s (.decode k made) (s.setDecode k d)
  | decodePop (k : Kind) (made : Bool) (p : Packet) (rest : List Packet)
    (here : (s.decode k).loc = .popping) (front : (s.decode k).packetQueue = p :: rest) :
    Step output s (.decode k made)
      { s.setDecode k ((s.decode k).popPacket p rest) with demux := s.demux.wakePush k }
  | audioMove (resampled : Bool) {loc : AudioLoc} (move : AudioMove s loc) :
    Step output s (.audioSync resampled) { s with audioSync := loc }
  | audioPut (resampled : Bool)
    (here : s.audioSync = .putting ∧ s.frames.length ≤ maxFrameBuffer ∨ s.audioSync = .putWoken) :
    Step output s (.audioSync resampled) s.put
  | audioPop (resampled : Bool) (here : s.audioSync = .popping) :
    Step output s (.audioSync resampled)
      { s.setDecode .audio (s.decode .audio).popFrame with audioSync := .top }
  | videoMove {loc : VideoLoc} (move : VideoMove s loc) :
    Step output s .videoSync { s with videoSync := loc }
  | videoShow (here : s.videoSync = .showing) :
    Step output s .videoSync
      { s with
        lastFramePts := (s.decode .video).frameQueue.currentFrame.pts
        videoSync := .popping }
  | videoPop (here : s.videoSync = .popping) :
    Step output s .videoSync
      { s.setDecode .video (s.decode .video).popFrame with videoSync := .top }
  | callbackMove {loc : CallbackLoc} (move : CallbackMove s loc) :
    Step output s .callback { s with callback := loc }
  | callbackTake (x : XData) (rest : List XData)
    (here : s.callback = .getting ∨ s.callback = .getWoken) (front : s.frames = x :: rest)
    (clear : s.playExit = false) :
    Step output s .callback
      { s with frames := rest, audioSync := s.audioSync.wakePut, callback := .idle }
  | stopAbort (here : s.stop = .idle) :
    Step output s .stop { s with abortRequest := true, stop := .mediaSync }
  | stopSync (here : s.stop = .mediaSync) :
    Step output s .stop { s with isExist := true, stop := .audioPlay }
  | stopPlay (here : s.stop = .audioPlay) :
    Step output s .stop { s with playExit := true, stop := .notEmpty }
  | stopNotEmpty (here : s.stop = .notEmpty) :
    Step output s .stop { s with callback := s.callback.wakeGet, stop := .notFull }
  | stopNotFull (here : s.stop = .notFull) :
    Step output s .stop { s with audioSync := s.audioSync.wakePut, stop := .demux }
  | stopDemux (here : s.stop = .demux) :
    Step output s .stop { s with demuxExit := true, stop := .audioDecode }
  | stopAudio (here : s.stop = .audioDecode) :
    Step output s .stop { s.stopDecode .audio with stop := .videoDecode }
  | stopVideo (here : s.stop = .videoDecode) :
    Step output s .stop { s.stopDecode .video with stop := .returned }
  | pause (request : Bool) (here : s.stop = .idle ∨ s.stop = .returned) :
    Step output s (.pause request) { s with pauseRequest := request }

/-! ### What a decoder's own step leaves alone -/

namespace DecodeStep

variable {output : FrameOutput} {s : Player} {d d' : IDecode} {made : Bool}

theorem packetQueue (own : DecodeStep output s d made d') : d'.packetQueue = d.packetQueue := by
  cases own <;> rfl

theorem isExit (own : DecodeStep output s d made d') : d'.isExit = d.isExit := by
  cases own <;> rfl

theorem shown (own : DecodeStep output s d made d') : d'.shown = d.shown := by
  cases own <;> rfl

theorem showIndex (own : DecodeStep output s d made d') :
    d'.frameQueue.showIndex = d.frameQueue.showIndex := by
  cases own <;> rfl

end DecodeStep

/-! ### The steps of each thread -/

variable {output : Kind → FrameOutput} {s s' : Player}

theorem demux_step (enabled : s.demuxNext = some s') : Step output s .demux s' := by
  unfold demuxNext at enabled
  split at enabled
  · next here =>
    split at enabled
    · next flag =>
      cases enabled
      exact .demuxMove (.quit here (by simpa using flag))
    · next clear =>
      split at enabled
      · next pause =>
        cases enabled
        have poll : Step output s .demux { s with demux := .top } := .demuxMove (.poll here pause)
        rwa [← here] at poll
      · split at enabled
        · next nothing =>
          cases enabled
          exact .demuxEof here nothing
        · next p rest front =>
          cases enabled
          exact .demuxRead p rest here front (by simp at clear; exact clear.1)
  · next p here =>
    split at enabled
    · next flag =>
      cases enabled
      exact .demuxMove (.drop p here (by simpa using flag))
    · next clear =>
      cases enabled
      exact .demuxMove (.route p here (by simp at clear; exact clear.2))
  · next p here =>
    split at enabled
    · next room =>
      cases enabled
      exact .demuxPush p here room
    · next full =>
      cases enabled
      exact .demuxMove (.full p here (Nat.le_of_not_lt full))
  · cases enabled
  · cases enabled

theorem goto_self (s : Player) (k : Kind) :
    s.setDecode k ((s.decode k).goto (s.decode k).loc) = s := by
  unfold setDecode
  rw [show (s.decode k).goto (s.decode k).loc = s.decode k from rfl, Function.update_eq_self]

theorem decode_step {k : Kind} {made : Bool} (enabled : decodeNext (output k) k made s = some s') :
    Step output s (.decode k made) s' := by
  unfold decodeNext at enabled
  simp only at enabled
  split at enabled
  · next here =>
    split at enabled
    · next flag =>
      cases enabled
      exact .decodeStep k made (.move (.quit here (by simpa using flag)))
    · next clear =>
      split at enabled
      · next pause =>
        cases enabled
        have poll : Step output s (.decode k made) (s.setDecode k ((s.decode k).goto .top)) :=
          .decodeStep k made (.move (.poll here pause))
        rwa [← here, goto_self] at poll
      · cases enabled
        exact .decodeStep k made (.move (.pop here (by simp at clear; exact clear.2)))
  · next here =>
    split at enabled
    · next nothing =>
      cases enabled
      exact .decodeStep k made (.move (.empty here nothing))
    · next p rest front =>
      cases enabled
      exact .decodePop k made p rest here front
  · next frame here =>
    cases enabled
    cases made with
    | true => exact .decodeStep k true (.make frame here rfl)
    | false => exact .decodeStep k false (.skip frame here rfl)
  · next frame here =>
    split at enabled
    · next peek =>
      cases enabled
      exact .decodeStep k made (.move (.wait frame here (FrameQueue.full_of_peekWritable peek)))
    · next peek =>
      cases enabled
      exact .decodeStep k made
        (.move (.null frame (.inl here) (FrameQueue.aborted_of_peekWritable peek)))
    · next j peek =>
      cases enabled
      obtain ⟨same, room⟩ := FrameQueue.slot_of_peekWritable peek
      rw [same]
      exact .decodeStep k made (.move (.grant frame here room))
  · next frame here =>
    split at enabled
    · next j peek =>
      cases enabled
      rw [(FrameQueue.slot_of_peekAfterWait peek).1]
      exact .decodeStep k made (.move (.woken frame here))
    · next refused =>
      cases enabled
      exact .decodeStep k made (.move (.null frame (.inr here)
        (FrameQueue.aborted_of_peekAfterWait refused)))
  · next frame j here =>
    cases enabled
    exact .decodeStep k made (.fill frame j here)
  · next here =>
    cases enabled
    exact .decodeStep k made (.push here)
  all_goals cases enabled

theorem audio_step {resampled : Bool} (enabled : s.audioNext resampled = some s') :
    Step output s (.audioSync resampled) s' := by
  unfold audioNext at enabled
  split at enabled
  · next here =>
    split at enabled
    · next flag =>
      cases enabled
      exact .audioMove resampled (.quit here (by simpa using flag))
    · next clear =>
      split at enabled
      · cases enabled
        have poll : Step output s (.audioSync resampled) { s with audioSync := .top } :=
          .audioMove resampled (.poll here)
        rwa [← here] at poll
      · cases enabled
        exact .audioMove resampled (.look here (by simp at clear; exact clear.2))
  · next here =>
    split at enabled
    · next closed =>
      cases enabled
      exact .audioMove resampled (.blank here closed)
    · next saw =>
      cases enabled
      exact .audioMove resampled
        (.see here (fun blank => saw (.inl blank)) (fun gate => saw (.inr gate)))
  · next here =>
    cases enabled
    cases resampled with
    | true => exact .audioMove true (.resampled here)
    | false => exact .audioMove false (.lost here)
  · next here =>
    split at enabled
    · next full =>
      cases enabled
      exact .audioMove resampled (.full here full)
    · next room =>
      cases enabled
      exact .audioPut resampled (.inl ⟨here, Nat.le_of_not_lt room⟩)
  · next here =>
    cases enabled
    exact .audioPut resampled (.inr here)
  · next here =>
    cases enabled
    exact .audioPop resampled here
  all_goals cases enabled

theorem video_step (enabled : s.videoNext = some s') : Step output s .videoSync s' := by
  unfold videoNext at enabled
  split at enabled
  · next here =>
    split at enabled
    · next flag =>
      cases enabled
      exact .videoMove (.quit here (by simpa using flag))
    · next clear =>
      split at enabled
      · cases enabled
        have poll : Step output s .videoSync { s with videoSync := .top } := .videoMove (.poll here)
        rwa [← here] at poll
      · cases enabled
        exact .videoMove (.look here (by simp at clear; exact clear.2))
  · next here =>
    split at enabled
    · next none =>
      cases enabled
      exact .videoMove (.blank here none)
    · next saw =>
      cases enabled
      exact .videoMove (.see here saw)
  · next here =>
    cases enabled
    exact .videoShow here
  · next here =>
    cases enabled
    exact .videoPop here
  · cases enabled

theorem take_step (here : s.callback = .getting ∨ s.callback = .getWoken)
    (enabled : s.take = some s') : Step output s .callback s' := by
  unfold take at enabled
  split at enabled
  · next flag =>
    cases enabled
    exact .callbackMove (.leave here flag)
  · next clear =>
    split at enabled
    · cases enabled
    · next x rest front =>
      cases enabled
      exact .callbackTake x rest here front (Bool.eq_false_iff.mpr clear)

theorem callback_step (enabled : s.callbackNext = some s') : Step output s .callback s' := by
  unfold callbackNext at enabled
  split at enabled
  · next here =>
    split at enabled
    · next flag =>
      cases enabled
      exact .callbackMove (.quit (.inl here) (by simpa using flag))
    · next clear =>
      split at enabled
      · cases enabled
        exact .callbackMove (.pause here (by simp at clear; exact clear.2))
      · cases enabled
        exact .callbackMove (.call here (by simp at clear; exact clear.2))
  · next here =>
    split at enabled
    · split at enabled
      · next flag =>
        cases enabled
        exact .callbackMove (.quit (.inr here) (by simpa using flag))
      · cases enabled
        have poll : Step output s .callback { s with callback := .pausing } :=
          .callbackMove (.poll here)
        rwa [← here] at poll
    · next clear =>
      cases enabled
      exact .callbackMove (.resume here (by simpa using clear))
  · next here =>
    split at enabled
    · next nothing =>
      cases enabled
      exact .callbackMove (.empty here nothing)
    · exact take_step (.inl here) enabled
  · next here => exact take_step (.inr here) enabled
  all_goals cases enabled

theorem stop_step (enabled : s.stopNext = some s') : Step output s .stop s' := by
  unfold stopNext at enabled
  split at enabled
  · next here =>
    cases enabled
    exact .stopAbort here
  · next here =>
    cases enabled
    exact .stopSync here
  · next here =>
    cases enabled
    exact .stopPlay here
  · next here =>
    cases enabled
    exact .stopNotEmpty here
  · next here =>
    cases enabled
    exact .stopNotFull here
  · next here =>
    cases enabled
    exact .stopDemux here
  · next here =>
    cases enabled
    exact .stopAudio here
  · next here =>
    cases enabled
    exact .stopVideo here
  · cases enabled

/-- **The inversion lemma.** -/
theorem step_of_next {l : Label} (enabled : (system output).next s l = some s') :
    Step output s l s' := by
  cases l with
  | demux => exact demux_step enabled
  | decode k made => exact decode_step enabled
  | audioSync resampled => exact audio_step enabled
  | videoSync => exact video_step enabled
  | callback => exact callback_step enabled
  | stop => exact stop_step enabled
  | pause request =>
    simp only [system, next] at enabled
    split at enabled
    · next here =>
      cases enabled
      exact .pause request here
    · cases enabled

end Player

end Xplay
