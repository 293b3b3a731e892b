/-
**The running player**: the demux thread, the two decoder threads, the two `MediaSync2` threads,
the OpenSL callback and `MediaPlayer::stop`, over the two packet queues, the two frame queues, the
list of PCM frames and the flags.

Every thread is a function of the state (`demuxNext`, `decodeNext`, …), `none` while it is blocked
or has exited. A step runs from one blocking point, flag check or shared write to the next; what a
mutex guards is one step. A wait is left only when its condition variable is notified. The video view
is taken to have a view to render to; `Screened` adds the wait of `GLVideoView::render` for one.
-/

import Xplay.Decode.FrameOutput
import Xplay.Lib.System
import Xplay.Queue.FrameQueue

namespace Xplay

open Lib

/-- The two streams. -/
inductive Kind
  | audio
  | video
  deriving DecidableEq, Repr

/-- A packet of a stream, and the frame its decoder makes of it. -/
structure Packet where
  kind : Kind
  frame : AVFrame
  deriving DecidableEq

/-- What the two decoders write into their slots. -/
def decoders (tb frame_rate : AVRational) : Kind → FrameOutput
  | .audio => AudioDecode.output bytesPerSample
  | .video => VideoDecode.output tb frame_rate

/-- The capacity of a decoder's `packetQueue`. -/
def packetQueueSize : Nat := 100

/-- `IAudioPlay::maxFrameBuffer`. -/
def maxFrameBuffer : Nat := 100

/-! ### Where the threads stand -/

/-- The demux thread, in `FFDemux::readPacket`. -/
inductive DemuxLoc
  | top
  /-- In `pushPacket`, before its check. -/
  | routing (p : Packet)
  /-- In `packetQueue->push`. -/
  | pushing (p : Packet)
  | pushWaiting (p : Packet)
  | exited
  deriving DecidableEq

/-- A decoder thread, in `decodePacket`. -/
inductive DecodeLoc
  | top
  /-- In `packetQueue->pop`. -/
  | popping
  | popWaiting
  | decoding (frame : AVFrame)
  /-- In `frameQueue->peekWritable`. -/
  | peeking (frame : AVFrame)
  | peekWaiting (frame : AVFrame)
  | peekWoken (frame : AVFrame)
  | filling (frame : AVFrame) (k : Nat)
  /-- Before `frameQueue->pushFrame`. -/
  | pushing
  | exited
  deriving DecidableEq

/-- The audio thread, in `MediaSync2::audioPlay`. -/
inductive AudioLoc
  | top
  | looking
  /-- In `resample->update`. -/
  | updating
  /-- In `IAudioPlay::update`. -/
  | putting
  | putWaiting
  | putWoken
  | popping
  | exited
  deriving DecidableEq

/-- The video thread, in `MediaSync2::videoPlay`. -/
inductive VideoLoc
  | top
  | looking
  | showing
  | popping
  | exited
  deriving DecidableEq

/-- The OpenSL callback, in `SLAudioPlay::playCall`. -/
inductive CallbackLoc
  | idle
  /-- In the loop that waits for `resume`. -/
  | pausing
  /-- In `IAudioPlay::getData`. -/
  | getting
  | getWaiting
  | getWoken
  | exited
  deriving DecidableEq

/-- The thread in `MediaPlayer::stop`, by the statement it runs next. -/
inductive StopLoc
  | idle
  | mediaSync
  | audioPlay
  | notEmpty
  | notFull
  | demux
  | audioDecode
  | videoDecode
  | returned
  deriving DecidableEq

/-! ### The state -/

/-- `IDecode`: its flag, its two queues, where its thread stands, and in order the frames that were
filled in: those not popped yet, and those that were. -/
structure IDecode where
  isExit : Bool
  packetQueue : List Packet
  frameQueue : FrameQueue
  loc : DecodeLoc
  unshown : List AVFrame
  shown : List AVFrame

/-- The player. `pushed` are the packets the demux thread put into a packet queue, in order. -/
structure Player where
  file : List Packet
  decode : Kind → IDecode
  frames : List XData
  lastFramePts : Option ℚ
  demux : DemuxLoc
  audioSync : AudioLoc
  videoSync : VideoLoc
  callback : CallbackLoc
  stop : StopLoc
  abortRequest : Bool
  pauseRequest : Bool
  isExist : Bool
  playExit : Bool
  demuxExit : Bool
  pushed : List Packet

/-! ### Notifications -/

/-- `_fullQue.notify_all` of the packet queue of `k`. -/
def DemuxLoc.wakePush (k : Kind) : DemuxLoc → DemuxLoc
  | pushWaiting p => if p.kind = k then pushing p else pushWaiting p
  | loc => loc

/-- `_empty.notify_all` of the decoder's packet queue. -/
def DecodeLoc.wakePop : DecodeLoc → DecodeLoc
  | popWaiting => popping
  | loc => loc

/-- `mNotFull.notify_all` of the decoder's frame queue. -/
def DecodeLoc.wakePeek : DecodeLoc → DecodeLoc
  | peekWaiting frame => peekWoken frame
  | loc => loc

/-- `notFull.notify_all`. -/
def AudioLoc.wakePut : AudioLoc → AudioLoc
  | putWaiting => putWoken
  | loc => loc

/-- `notEmpty.notify_all`. -/
def CallbackLoc.wakeGet : CallbackLoc → CallbackLoc
  | getWaiting => getWoken
  | loc => loc

/-! ### Decoders -/

namespace IDecode

/-- A started decoder. -/
def new : IDecode := ⟨false, [], (FrameQueue.new FRAME_QUEUE_SIZE true).start, .top, [], []⟩

def goto (d : IDecode) (loc : DecodeLoc) : IDecode := { d with loc := loc }

/-- `packetQueue->push` with room. -/
def pushPacket (d : IDecode) (p : Packet) : IDecode :=
  { d with packetQueue := d.packetQueue ++ [p], loc := d.loc.wakePop }

/-- `packetQueue->pop` of a packet. -/
def popPacket (d : IDecode) (p : Packet) (rest : List Packet) : IDecode :=
  { d with packetQueue := rest, loc := .decoding p.frame }

/-- The granted slot is filled in. -/
def fill (output : FrameOutput) (d : IDecode) (frame : AVFrame) (k : Nat) : IDecode :=
  { d with
    frameQueue := d.frameQueue.store k (output.write frame (d.frameQueue.queue k))
    loc := .pushing
    unshown := d.unshown ++ [frame] }

/-- `frameQueue->pushFrame`. -/
def pushFrame (d : IDecode) : IDecode :=
  { d with frameQueue := d.frameQueue.pushFrame, loc := .top }

/-- `frameQueue->popFrame`, which notifies `mNotFull` past its keep-last branch. -/
def popFrame (d : IDecode) : IDecode :=
  { d with
    frameQueue := d.frameQueue.popFrame
    loc := if d.frameQueue.clears = none then d.loc else d.loc.wakePeek
    unshown := d.unshown.tail
    shown := d.shown ++ d.unshown.take 1 }

end IDecode

namespace Player

/-- A started player on a file. -/
def start (file : List Packet) : Player where
  file := file
  decode _ := IDecode.new
  frames := []
  lastFramePts := some 0
  demux := .top
  audioSync := .top
  videoSync := .top
  callback := .idle
  stop := .idle
  abortRequest := false
  pauseRequest := false
  isExist := false
  playExit := false
  demuxExit := false
  pushed := []

def setDecode (s : Player) (k : Kind) (d : IDecode) : Player :=
  { s with decode := Function.update s.decode k d }

/-! ### The threads -/

/-- `FFDemux::readPacket`. -/
def demuxNext (s : Player) : Option Player :=
  match s.demux with
  | .top =>
    if s.abortRequest || s.demuxExit then some { s with demux := .exited }
    else if s.pauseRequest then some s
    else
      match s.file with
      | [] => some { s with demux := .exited, demuxExit := true }
      | p :: rest => some { s with file := rest, demux := .routing p }
  | .routing p =>
    if (s.decode p.kind).isExit || s.abortRequest then some { s with demux := .top }
    else some { s with demux := .pushing p }
  | .pushing p =>
    if (s.decode p.kind).packetQueue.length < packetQueueSize then
      some { s.setDecode p.kind ((s.decode p.kind).pushPacket p) with
        demux := .top
        pushed := s.pushed ++ [p] }
    else some { s with demux := .pushWaiting p }
  | .pushWaiting _ | .exited => none

/-- `decodePacket` of the decoder of `k`; it makes a frame of the packet if `made`. -/
def decodeNext (output : FrameOutput) (k : Kind) (made : Bool) (s : Player) : Option Player :=
  let d := s.decode k
  match d.loc with
  | .top =>
    if d.isExit || s.abortRequest then some (s.setDecode k (d.goto .exited))
    else if s.pauseRequest then some s
    else some (s.setDecode k (d.goto .popping))
  | .popping =>
    match d.packetQueue with
    | [] => some (s.setDecode k (d.goto .popWaiting))
    | p :: rest =>
      some { s.setDecode k (d.popPacket p rest) with demux := s.demux.wakePush k }
  | .decoding frame => some (s.setDecode k (d.goto (if made then .peeking frame else .top)))
  | .peeking frame =>
    match d.frameQueue.peekWritable with
    | .wait => some (s.setDecode k (d.goto (.peekWaiting frame)))
    | .null => some (s.setDecode k (d.goto .top))
    | .slot j => some (s.setDecode k (d.goto (.filling frame j)))
  | .peekWoken frame =>
    match d.frameQueue.peekAfterWait with
    | .slot j => some (s.setDecode k (d.goto (.filling frame j)))
    | _ => some (s.setDecode k (d.goto .top))
  | .filling frame j => some (s.setDecode k (d.fill output frame j))
  | .pushing => some (s.setDecode k d.pushFrame)
  | .popWaiting | .peekWaiting _ | .exited => none

/-- The end of `IAudioPlay::update`; a PCM frame is the frame it was resampled from. -/
def put (s : Player) : Player :=
  { s with
    frames := s.frames ++ [(s.decode .audio).frameQueue.currentFrame]
    callback := s.callback.wakeGet
    audioSync := .popping }

/-- `MediaSync2::audioPlay`; the resampler hands the frame on if `resampled`. -/
def audioNext (resampled : Bool) (s : Player) : Option Player :=
  match s.audioSync with
  | .top =>
    if s.isExist || s.abortRequest then some { s with audioSync := .exited }
    else if s.pauseRequest then some s
    else some { s with audioSync := .looking }
  | .looking =>
    if (s.decode .audio).frameQueue.currentFrame.size = 0 ∨ s.lastFramePts = some 0 then
      some { s with audioSync := .top }
    else some { s with audioSync := .updating }
  | .updating => some { s with audioSync := if resampled then .putting else .popping }
  | .putting =>
    if maxFrameBuffer < s.frames.length then some { s with audioSync := .putWaiting }
    else some s.put
  | .putWoken => some s.put
  | .popping =>
    some { s.setDecode .audio (s.decode .audio).popFrame with audioSync := .top }
  | .putWaiting | .exited => none

/-- `MediaSync2::videoPlay`. -/
def videoNext (s : Player) : Option Player :=
  match s.videoSync with
  | .top =>
    if s.isExist || s.abortRequest then some { s with videoSync := .exited }
    else if s.pauseRequest then some s
    else some { s with videoSync := .looking }
  | .looking =>
    if (s.decode .video).frameQueue.currentFrame.size = 0 then some { s with videoSync := .top }
    else some { s with videoSync := .showing }
  | .showing =>
    some { s with
      lastFramePts := (s.decode .video).frameQueue.currentFrame.pts
      videoSync := .popping }
  | .popping =>
    some { s.setDecode .video (s.decode .video).popFrame with videoSync := .top }
  | .exited => none

/-- The end of `IAudioPlay::getData`; with a frame, `playCall` enqueues it and is called again. -/
def take (s : Player) : Option Player :=
  if s.playExit then some { s with callback := .exited }
  else
    match s.frames with
    | [] => none
    | _ :: rest =>
      some { s with frames := rest, audioSync := s.audioSync.wakePut, callback := .idle }

/-- `SLAudioPlay::playCall`. -/
def callbackNext (s : Player) : Option Player :=
  match s.callback with
  | .idle =>
    if s.playExit || s.abortRequest then some { s with callback := .exited }
    else if s.pauseRequest then some { s with callback := .pausing }
    else some { s with callback := .getting }
  | .pausing =>
    -- the loop ends on `pauseRequest` alone, whatever the other flags say
    if s.pauseRequest then
      if s.playExit || s.abortRequest then some { s with callback := .exited } else some s
    else some { s with callback := .getting }
  | .getting => if s.frames = [] then some { s with callback := .getWaiting } else s.take
  | .getWoken => s.take
  | .getWaiting | .exited => none

/-- A decoder's `stop`. -/
def stopDecode (s : Player) (k : Kind) : Player :=
  s.setDecode k { s.decode k with isExit := true }

/-- `MediaPlayer::stop`; `resample->stop` sets a flag nobody reads. -/
def stopNext (s : Player) : Option Player :=
  match s.stop with
  | .idle => some { s with abortRequest := true, stop := .mediaSync }
  | .mediaSync => some { s with isExist := true, stop := .audioPlay }
  | .audioPlay => some { s with playExit := true, stop := .notEmpty }
  | .notEmpty => some { s with callback := s.callback.wakeGet, stop := .notFull }
  | .notFull => some { s with audioSync := s.audioSync.wakePut, stop := .demux }
  | .demux => some { s with demuxExit := true, stop := .audioDecode }
  | .audioDecode => some { s.stopDecode .audio with stop := .videoDecode }
  | .videoDecode => some { s.stopDecode .video with stop := .returned }
  | .returned => none

/-- A step of one of the threads, or a call of `pause` or `resume`. -/
inductive Label
  | demux
  | decode (k : Kind) (made : Bool)
  | audioSync (resampled : Bool)
  | videoSync
  | callback
  | stop
  | pause (request : Bool)
  deriving DecidableEq

/-- **One step.** -/
def next (output : Kind → FrameOutput) (s : Player) : Label → Option Player
  | .demux => s.demuxNext
  | .decode k made => decodeNext (output k) k made s
  | .audioSync resampled => s.audioNext resampled
  | .videoSync => s.videoNext
  | .callback => s.callbackNext
  | .stop => s.stopNext
  | .pause request =>
    -- `pause` and `resume` take the mutex that `stop` holds
    if s.stop = .idle ∨ s.stop = .returned then some { s with pauseRequest := request } else none

def system (output : Kind → FrameOutput) : System Player Label := ⟨next output⟩

end Player

end Xplay
