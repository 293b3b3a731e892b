/-
**`MediaPlayer::release` after `stop`, while the threads of the player go on.**

`Releasing` is the running player with what `release` comes across: the parts it deletes one after
the other, the last statement of an `XThread` (it writes `isRunning`), the second half of `playCall`
with `MediaSync2::audioCallBack`, and the looper thread that drains the player's messages. Nothing
in `release` waits, so each of its statements is one step once `stop` has returned.

`uses` lists the parts a step reads or writes. Queues are not parts: `~IDecode` quits the packet
queue and flushes the frame queue, but deletes neither. A wait may also end without a notification.
-/

import Xplay.Player.PlayerStep

namespace Xplay

open Lib

/-- What `release` deletes. -/
inductive Part
  | mediaSync
  | demux
  | decode (k : Kind)
  | resample
  | videoView
  | audioPlay
  | playerState
  | jniListener
  deriving DecidableEq

/-- The statements of `release`, in order. -/
def releaseOrder : List Part :=
  [.mediaSync, .demux, .decode .audio, .decode .video, .resample, .videoView, .audioPlay,
    .playerState, .jniListener]

/-- The capacity of the looper's `XMessageQueue`. -/
def messageQueueSize : Nat := 10

/-- Where `playCall` stands once it has a frame; from `clock` to `positioning` it is in
`audioCallBack`. -/
inductive ReportLoc
  /-- Before `memcpy` and `Enqueue`. -/
  | copying
  /-- Before `callback(...)`. -/
  | calling
  /-- Before `audioClock->setClock(pts)`. -/
  | clock
  /-- Before `if (playerHandler)`. -/
  | testing
  /-- Before `playerHandler->postMessage(..., getCurrentPosition(), 0)`. -/
  | positioning
  /-- In `XLooper::sendMessage`. -/
  | sending
  /-- Before `data.drop()`. -/
  | dropping
  deriving DecidableEq

/-- Before the last use of `mediaSync` in `audioCallBack`. -/
def ReportLoc.early : ReportLoc → Bool
  | .copying | .calling | .clock | .testing | .positioning => true
  | .sending | .dropping => false

/-- The second half of `playCall`, with the pts of its frame. -/
structure Report where
  loc : ReportLoc
  pts : Option ℚ

/-- The player while it is released. `isRunning` is the field of the parts that are `XThread`s,
`messages` the length of the looper's queue, `handling` says that the looper thread is on its way to
`handleMessage`, and `unreleased` what `release` has not deleted yet. -/
structure Releasing where
  player : Player
  report : Option Report
  isRunning : Part → Bool
  messages : Nat
  handling : Bool
  unreleased : List Part

namespace IDecode

/-- `frameQueue->flush()`: `popFrame` while there are frames. -/
def flush : Nat → IDecode → IDecode
  | 0, d => d
  | n + 1, d => if 0 < d.frameQueue.getFrameSize then flush n d.popFrame else d

/-- `~IDecode`: `packetQueue->quit()` wakes the thread in `pop`. -/
def destroy (d : IDecode) : IDecode :=
  let d := d.flush (d.frameQueue.size + 1)
  d.goto d.loc.wakePop

end IDecode

namespace Player

/-- What the destructor of a part does to the threads. -/
def destroy (s : Player) : Part → Player
  | .decode k => { s.setDecode k (s.decode k).destroy with demux := s.demux.wakePush k }
  | _ => s

/-- The frame `getData` returns now, if it returns one. -/
def taken (s : Player) : Option XData :=
  if (s.callback = .getting ∨ s.callback = .getWoken) ∧ s.playExit = false then s.frames.head?
  else none

/-- The waits. -/
inductive Waiter
  | push
  | pop (k : Kind)
  | peek (k : Kind)
  | put
  | get
  deriving DecidableEq

/-- A wait ends without a notification. -/
def spurious (s : Player) : Waiter → Option Player
  | .push =>
    match s.demux with
    | .pushWaiting p => some { s with demux := .pushing p }
    | _ => none
  | .pop k =>
    match (s.decode k).loc with
    | .popWaiting => some (s.setDecode k ((s.decode k).goto .popping))
    | _ => none
  | .peek k =>
    match (s.decode k).loc with
    | .peekWaiting frame => some (s.setDecode k ((s.decode k).goto (.peekWoken frame)))
    | _ => none
  | .put =>
    match s.audioSync with
    | .putWaiting => some { s with audioSync := .putWoken }
    | _ => none
  | .get =>
    match s.callback with
    | .getWaiting => some { s with callback := .getWoken }
    | _ => none

end Player

namespace Releasing

/-- The player is started, and nothing released. -/
def start (file : List Packet) : Releasing where
  player := Player.start file
  report := none
  isRunning
    | .demux | .decode _ | .resample => true
    | _ => false
  messages := 0
  handling := false
  unreleased := releaseOrder

/-- The part's alive flag. -/
def Alive (s : Releasing) (part : Part) : Prop := part ∈ s.unreleased

instance (s : Releasing) (part : Part) : Decidable (s.Alive part) :=
  inferInstanceAs (Decidable (part ∈ s.unreleased))

/-- `run` of a part that is an `XThread` has returned; that of the resampler does nothing. -/
def Returned (s : Releasing) : Part → Prop
  | .demux => s.player.demux = .exited
  | .decode k => (s.player.decode k).loc = .exited
  | .resample => True
  | _ => False

instance (s : Releasing) (part : Part) : Decidable (s.Returned part) := by
  unfold Returned
  split <;> infer_instance

/-! ### Steps -/

inductive Label
  /-- A thread of the player, `stop`, `pause` or `resume`. -/
  | player (l : Player.Label)
  | spurious (w : Player.Waiter)
  /-- The second half of `playCall`. -/
  | report
  /-- `threadMain` after `run()`. -/
  | threadMain (part : Part)
  /-- `queue->pop` of the looper thread. -/
  | pop
  /-- `MediaPlayer::handleMessage`. -/
  | handleMessage
  | release

/-- `packetQueue->push` and `packetQueue->pop` of the decoder of `k` return `false`: `quit` was
called. -/
def Quit (s : Releasing) (k : Kind) : Prop := ¬s.Alive (.decode k)

instance (s : Releasing) (k : Kind) : Decidable (s.Quit k) :=
  inferInstanceAs (Decidable (¬s.Alive (.decode k)))

/-- `readPacket`. -/
def demuxNext (s : Releasing) : Option Player :=
  match s.player.demux with
  | .pushing p => if s.Quit p.kind then some { s.player with demux := .top } else s.player.demuxNext
  | _ => s.player.demuxNext

/-- `decodePacket`. -/
def decodeNext (output : FrameOutput) (s : Releasing) (k : Kind) (made : Bool) : Option Player :=
  match (s.player.decode k).loc with
  | .popping =>
    if s.Quit k then some (s.player.setDecode k ((s.player.decode k).goto .top))
    else Player.decodeNext output k made s.player
  | _ => Player.decodeNext output k made s.player

/-- A step of the player. The callback is not called again before `playCall` returns, and there are
no calls but `stop` and `release` once the release has begun. -/
def playerNext (output : Kind → FrameOutput) (s : Releasing) : Player.Label → Option Player
  | .demux => s.demuxNext
  | .decode k made => s.decodeNext (output k) k made
  | .callback => if s.report.isSome then none else s.player.callbackNext
  | .pause request =>
    if s.unreleased = releaseOrder then Player.next output s.player (.pause request) else none
  | l => Player.next output s.player l

/-- `getData` has returned a frame, and `playCall` goes on with it. -/
def reported (s : Releasing) : Player.Label → Option Report
  | .callback => s.player.taken.map fun x => ⟨.copying, x.pts⟩
  | _ => s.report

/-- **The second half of `playCall`.** `stop` sets `playerHandler` to null together with `isExist`;
where it does so after the test, `postMessage` is called on null and sends nothing. -/
def reportNext (s : Releasing) : Option Releasing :=
  s.report.bind fun r =>
    match r.loc with
    | .copying => some { s with report := some { r with loc := .calling } }
    | .calling => some { s with report := some { r with loc := .clock } }
    | .clock => some { s with report := some { r with loc := .testing } }
    | .testing =>
      some { s with
        report := some { r with loc := if s.player.isExist then .dropping else .positioning } }
    | .positioning =>
      some { s with
        report := some { r with loc := if s.player.isExist then .dropping else .sending } }
    | .sending =>
      if s.messages < messageQueueSize then
        some { s with messages := s.messages + 1, report := some { r with loc := .dropping } }
      else none
    | .dropping => some { s with report := none }

/-- **One statement of `release`.** -/
def releaseNext (s : Releasing) : Option Releasing :=
  if s.player.stop = .returned then
    match s.unreleased with
    | [] => none
    | part :: rest => some { s with player := s.player.destroy part, unreleased := rest }
  else none

def next (output : Kind → FrameOutput) (s : Releasing) : Label → Option Releasing
  | .player l =>
    (s.playerNext output l).map fun player => { s with player := player, report := s.reported l }
  | .spurious w => (s.player.spurious w).map fun player => { s with player := player }
  | .report => s.reportNext
  | .threadMain part =>
    if s.Returned part ∧ s.isRunning part = true then
      some { s with isRunning := Function.update s.isRunning part false }
    else none
  | .pop =>
    if s.handling = false ∧ 0 < s.messages then
      some { s with messages := s.messages - 1, handling := true }
    else none
  | .handleMessage => if s.handling = true then some { s with handling := false } else none
  | .release => s.releaseNext

def system (output : Kind → FrameOutput) : System Releasing Label := ⟨next output⟩

/-! ### What a step uses -/

/-- `playerState`, which is not read where the part's own flag is set already. -/
def readsState (flag : Bool) : List Part := if flag then [] else [.playerState]

/-- `readPacket` reads `abortRequest` before `isExit`; a push that does not wait returns to it. -/
def demuxUses (s : Releasing) : List Part :=
  match s.player.demux with
  | .top => [.demux, .playerState]
  | .routing p => [.demux, .decode p.kind] ++ readsState (s.player.decode p.kind).isExit
  | .pushing p =>
    if s.Quit p.kind ∨ (s.player.decode p.kind).packetQueue.length < packetQueueSize then [.demux]
    else []
  | .pushWaiting _ | .exited => []

def decodeUses (s : Releasing) (k : Kind) : List Part :=
  match (s.player.decode k).loc with
  | .top => .decode k :: readsState (s.player.decode k).isExit
  | .decoding _ | .pushing => [.decode k]
  | _ => []

/-- `resample->update` calls `audioPlay->update` under the resampler's mutex. -/
def audioUses (s : Releasing) : List Part :=
  match s.player.audioSync with
  | .top => .mediaSync :: readsState s.player.isExist
  | .looking | .popping => [.mediaSync, .decode .audio]
  | .updating => [.mediaSync, .resample]
  | .putting =>
    if maxFrameBuffer < s.player.frames.length then [.audioPlay] else [.audioPlay, .resample]
  | .putWoken => [.audioPlay, .resample]
  | .putWaiting | .exited => []

def videoUses (s : Releasing) : List Part :=
  match s.player.videoSync with
  | .top => .mediaSync :: readsState s.player.isExist
  | .looking | .popping => [.mediaSync, .decode .video]
  | .showing => [.mediaSync, .videoView]
  | .exited => []

def callbackUses (s : Releasing) : List Part :=
  match s.player.callback with
  | .idle => .audioPlay :: readsState s.player.playExit
  | .pausing => [.audioPlay, .playerState]
  | .getting | .getWoken => [.audioPlay]
  | .getWaiting | .exited => []

/-- `getCurrentPosition` reads `playerState->seekPos` where the clock is `NAN`. -/
def reportUses (r : Report) : List Part :=
  match r.loc with
  | .copying | .calling => [.audioPlay]
  | .clock | .testing => [.mediaSync]
  | .positioning => [.mediaSync, .decode .video] ++ readsState r.pts.isSome
  | .sending | .dropping => []

/-- **The parts that a step of a worker, of the callback or of the looper thread uses.** -/
def uses (s : Releasing) : Label → List Part
  | .player .demux => s.demuxUses
  | .player (.decode k _) => s.decodeUses k
  | .player (.audioSync _) => s.audioUses
  | .player .videoSync => s.videoUses
  | .player .callback => s.callbackUses
  | .report => s.report.elim [] reportUses
  | .threadMain part => [part]
  | .handleMessage => [.jniListener]
  | .player .stop | .player (.pause _) | .spurious _ | .pop | .release => []

/-! ### Whose business a part is -/

/-- Those who use the parts. `report` is the callback on its way through `audioCallBack`. -/
inductive User
  | demux
  | decode (k : Kind)
  | audioSync
  | videoSync
  | resample
  | callback
  | report
  | looper
  deriving DecidableEq

/-- **It uses nothing any more**: the thread has written `isRunning` and ended, the callback has
returned without enqueuing a buffer, the looper has no message left and gets no other. -/
def Done (s : Releasing) : User → Prop
  | .demux => s.player.demux = .exited ∧ s.isRunning .demux = false
  | .decode k => (s.player.decode k).loc = .exited ∧ s.isRunning (.decode k) = false
  | .audioSync => s.player.audioSync = .exited
  | .videoSync => s.player.videoSync = .exited
  | .resample => s.isRunning .resample = false
  | .callback => s.player.callback = .exited ∧ s.report = none
  | .report => ∀ r ∈ s.report, r.loc.early = false
  | .looper =>
    (s.player.callback = .exited ∧ s.report = none) ∧ s.messages = 0 ∧ s.handling = false

instance (s : Releasing) (w : User) : Decidable (s.Done w) := by
  cases w <;> unfold Done <;> infer_instance

/-- Who uses a part. -/
def users : Part → List User
  | .mediaSync => [.audioSync, .videoSync, .report]
  | .demux => [.demux]
  | .decode .audio => [.decode .audio, .demux, .audioSync]
  | .decode .video => [.decode .video, .demux, .videoSync, .report]
  | .resample => [.resample, .audioSync]
  | .videoView => [.videoSync]
  | .audioPlay => [.callback, .audioSync]
  | .playerState =>
    [.demux, .decode .audio, .decode .video, .audioSync, .videoSync, .callback, .report]
  | .jniListener => [.looper]

/-- **Nobody uses the part any more.** -/
def AtRest (s : Releasing) (part : Part) : Prop := ∀ w ∈ users part, s.Done w

instance (s : Releasing) (part : Part) : Decidable (s.AtRest part) :=
  inferInstanceAs (Decidable (∀ w ∈ users part, s.Done w))

/-- **The steps that release nothing in use**: `release` deletes a part only when it is at rest. -/
def Careful (s : Releasing) : Label → Prop
  | .release => ∀ part ∈ s.unreleased.head?, s.AtRest part
  | _ => True

instance (s : Releasing) (l : Label) : Decidable (s.Careful l) := by
  cases l <;> unfold Careful <;> infer_instance

end Releasing

end Xplay
