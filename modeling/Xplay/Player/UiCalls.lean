/-
**The calls of the UI threads, and what they wait for.**

Any number of UI threads call the player, which may be started any number of times, so every kind of
worker is a list of threads. The state keeps what decides who waits: the mutexes, how full the queues
are, the flags, and where every thread stands. What the file contains, and whether a decoder or the
resampler makes something of it, is left to the labels.

`MediaPlayer::mutex` has an owner, the call in progress. `FFDemux::mutex` and the resampler's
`IObserver::mutex` are held where a worker stands past its `lock`; a UI thread takes and leaves them in
one step, for it waits for nothing in between. So is whatever is done under one of the other mutexes,
and a wait is left only when its condition variable is notified. `initView` is not a call the property
is about, but it gives the player its view, and takes it away.

`isExist` and the `isExit` of a decoder are set after `abortRequest` and read next to it.
-/

import Xplay.Lib.WaitFor
import Xplay.Player.Player

namespace Xplay.UiCalls

open Lib

/-! ### Where the threads stand -/

/-- A demux thread, in `FFDemux::readPacket`. -/
inductive DemuxLoc
  | top
  /-- Past `mutex.lock()`. -/
  | checking
  | reading
  /-- In `pushPacket`, before its check. -/
  | routing (k : Kind)
  /-- In `packetQueue->push`. -/
  | pushing (k : Kind)
  | pushWaiting (k : Kind)
  | exited
  deriving DecidableEq

/-- A decoder thread, in `decodePacket`. -/
inductive DecodeLoc
  | top
  | popping
  | popWaiting
  | decoding
  | peeking
  | peekWaiting
  | peekWoken
  | filling
  | exited
  deriving DecidableEq

/-- An audio thread, in `MediaSync2::audioPlay`. -/
inductive AudioLoc
  | top
  | looking
  /-- In `resample->update`. -/
  | updating
  /-- In `notify`, before `mutex.lock()`. -/
  | notifying
  /-- In its loop, with `n` observers left. -/
  | putting (n : Nat)
  /-- In the wait of `IAudioPlay::update`, with `n` observers left after it. -/
  | putWaiting (n : Nat)
  | putWoken (n : Nat)
  | popping
  | exited
  deriving DecidableEq

/-- A video thread, in `MediaSync2::videoPlay`. -/
inductive VideoLoc
  | top
  | looking
  /-- In `GLVideoView::render`, before its check. -/
  | showing
  /-- In `noWindowCondition.wait`. -/
  | viewWaiting
  | popping
  | exited
  deriving DecidableEq

/-- Between `lock` and `unlock` of `FFDemux::mutex`. -/
def DemuxLoc.holds : DemuxLoc → Bool
  | .top | .exited => false
  | _ => true

/-- Between `lock` and `unlock` of `IObserver::mutex`. -/
def AudioLoc.holds : AudioLoc → Bool
  | .putting _ | .putWaiting _ | .putWoken _ => true
  | _ => false

/-- `_fullQue.notify_all` of the packet queue of `k`. -/
def DemuxLoc.wakePush (k : Kind) : DemuxLoc → DemuxLoc
  | .pushWaiting j => if j = k then .pushing j else .pushWaiting j
  | loc => loc

/-- `_empty.notify_all` of the decoder's packet queue. -/
def DecodeLoc.wakePop : DecodeLoc → DecodeLoc
  | .popWaiting => .popping
  | loc => loc

/-- `mNotFull.notify_all` of the decoder's frame queue. -/
def DecodeLoc.wakePeek : DecodeLoc → DecodeLoc
  | .peekWaiting => .peekWoken
  | loc => loc

/-- `notFull.notify_all`. -/
def AudioLoc.wakePut : AudioLoc → AudioLoc
  | .putWaiting n => .putWoken n
  | loc => loc

/-- `noWindowCondition.notify_all`; the view is not looked at again. -/
def VideoLoc.wakeRender : VideoLoc → VideoLoc
  | .viewWaiting => .popping
  | loc => loc

/-! ### The calls -/

inductive Call
  /-- With a window, or without one. -/
  | initView (window : Bool)
  | setDataSource
  | openSource
  | start
  | pause
  | resume
  | stop
  deriving DecidableEq

/-- The statements of the calls that concern the threads. -/
inductive Stmt
  | setWindow (window : Bool)
  /-- `videoView->setRender(window)`. -/
  | setRender
  /-- The same, if there is a window. -/
  | checkWindow
  | checkUrl
  | close
  | openInput
  | getVideoParameter
  | getAudioParameter
  /-- `audioOutParam = demux->getAudioParameter()`. -/
  | setAudioOutParam
  /-- The same, if `audioOutParam` has no sample rate. -/
  | checkSampleRate
  | startDecode (k : Kind)
  | startPlay
  | addObserver
  | startDemux
  | startMediaSync
  | setPause (pauseRequest : Bool)
  | setAbort
  | setPlayExit
  | notEmpty
  | notFull
  | setDemuxExit
  deriving DecidableEq

/-- `demux->open`, and the parameters of the two decoders. -/
def openStmts : List Stmt :=
  [.close, .openInput, .getVideoParameter, .getAudioParameter, .getVideoParameter,
    .getAudioParameter]

/-- **The calls of `MediaPlayer`.** -/
def body : Call → List Stmt
  | .initView window => [.setWindow window, .setRender]
  | .setDataSource => openStmts
  | .openSource => .checkUrl :: openStmts ++ [.setAudioOutParam, .getAudioParameter, .checkWindow]
  | .start => [.startDecode .audio, .checkSampleRate, .startPlay, .addObserver,
      .startDecode .video, .startDemux, .startMediaSync]
  | .pause => [.setPause true]
  | .resume => [.setPause false]
  | .stop => [.setAbort, .setPlayExit, .notEmpty, .notFull, .setDemuxExit]

/-- What is left after a statement; a missing url, and a file that does not open, end the call. -/
def Stmt.after (ok : Bool) : Stmt → List Stmt → List Stmt
  | .checkUrl, rest | .openInput, rest => if ok then rest else []
  | _, rest => rest

/-! ### The state -/

/-- The player and its threads. `window` is the player's, `view` that of its `GLVideoView`. `asked` are
the UI threads in `mutex.lock()`, `caller` is the one past it with the statements left, `sampleRate`
says that `audioOutParam` has one, and `pcm` is the length of the list of PCM frames. -/
structure State where
  window : Bool
  view : Bool
  pauseRequest : Bool
  abortRequest : Bool
  playExit : Bool
  demuxExit : Bool
  sampleRate : Bool
  observers : Nat
  packets : Kind → Nat
  frames : Kind → Nat
  showIndex : Kind → Bool
  pcm : Nat
  asked : Nat → Option Call
  caller : Option (Nat × List Stmt)
  demux : List DemuxLoc
  decode : Kind → List DecodeLoc
  audioSync : List AudioLoc
  videoSync : List VideoLoc
  callback : List CallbackLoc

namespace State

/-- `FFDemux::mutex` is taken. -/
def demuxHeld (s : State) : Bool := s.demux.any DemuxLoc.holds

/-- `IObserver::mutex` is taken. -/
def observerHeld (s : State) : Bool := s.audioSync.any AudioLoc.holds

def setDecode (s : State) (k : Kind) (locs : List DecodeLoc) : State :=
  { s with decode := Function.update s.decode k locs }

/-- `packetQueue->push` with room. -/
def pushPacket (s : State) (k : Kind) : State :=
  { s.setDecode k ((s.decode k).map DecodeLoc.wakePop) with
    packets := Function.update s.packets k (s.packets k + 1) }

/-- `packetQueue->pop` of a packet. -/
def popPacket (s : State) (k : Kind) : State :=
  { s with
    packets := Function.update s.packets k (s.packets k - 1)
    demux := s.demux.map (DemuxLoc.wakePush k) }

/-- `frameQueue->pushFrame`. -/
def pushFrame (s : State) (k : Kind) : State :=
  { s.setDecode k ((s.decode k).map DecodeLoc.wakePeek) with
    frames := Function.update s.frames k (s.frames k + 1) }

/-- `frameQueue->popFrame`. -/
def popFrame (s : State) (k : Kind) : State :=
  -- the first frame is kept, and nobody notified
  if s.showIndex k then
    { s.setDecode k ((s.decode k).map DecodeLoc.wakePeek) with
      frames := Function.update s.frames k (s.frames k - 1) }
  else { s with showIndex := Function.update s.showIndex k true }

/-- The end of `IAudioPlay::update`. -/
def put (s : State) : State :=
  { s with pcm := s.pcm + 1, callback := s.callback.map CallbackLoc.wakeGet }

/-- The end of `IAudioPlay::getData`. -/
def take (s : State) : State :=
  { s with pcm := s.pcm - 1, audioSync := s.audioSync.map AudioLoc.wakePut }

/-- `videoView->setRender(window)`. -/
def setRender (s : State) : State :=
  { s with view := s.window, videoSync := s.videoSync.map VideoLoc.wakeRender }

/-! ### Calls -/

/-- The statement locks `FFDemux::mutex`. -/
def locksDemux (s : State) : Stmt → Bool
  | .close | .openInput | .getVideoParameter | .getAudioParameter | .setAudioOutParam => true
  | .checkSampleRate => !s.sampleRate
  | _ => false

/-- The statement has to wait for a mutex. -/
def blocks (s : State) (stmt : Stmt) : Bool :=
  s.locksDemux stmt && s.demuxHeld || stmt = .addObserver && s.observerHeld

/-- What a statement does; `ok` is the outcome of a call it makes: the source has a sample rate, or
the OpenSL player plays. -/
def exec (ok : Bool) (s : State) : Stmt → State
  | .setWindow window => { s with window := window }
  | .setRender => s.setRender
  | .checkWindow => if s.window then s.setRender else s
  | .setAudioOutParam => { s with sampleRate := ok }
  | .checkSampleRate => { s with sampleRate := s.sampleRate || ok }
  | .startDecode k => s.setDecode k ((s.decode k).map DecodeLoc.wakePeek ++ [.top])
  | .startPlay => if ok then { s with callback := s.callback ++ [.idle] } else s
  | .addObserver => { s with observers := s.observers + 1 }
  | .startDemux => { s with demuxExit := false, demux := s.demux ++ [.top] }
  | .startMediaSync =>
    { s with audioSync := s.audioSync ++ [.top], videoSync := s.videoSync ++ [.top] }
  | .setPause pauseRequest => { s with pauseRequest := pauseRequest }
  | .setAbort => { s with abortRequest := true }
  | .setPlayExit => { s with playExit := true }
  | .notEmpty => { s with callback := s.callback.map CallbackLoc.wakeGet }
  | .notFull => { s with audioSync := s.audioSync.map AudioLoc.wakePut }
  | .setDemuxExit => { s with demuxExit := true }
  | .checkUrl | .close | .openInput | .getVideoParameter | .getAudioParameter => s

end State

/-! ### The workers -/

/-- The outcome of `av_read_frame`; `nothing` is an error, or a packet of another stream. -/
inductive Read
  | endOfFile
  | nothing
  | packet (k : Kind)
  deriving DecidableEq

namespace State

/-- `FFDemux::readPacket`. -/
def demuxNext (s : State) (read : Read) : DemuxLoc → Option (State × DemuxLoc)
  | .top => if s.demuxHeld then none else some (s, .checking)
  | .checking =>
    if s.abortRequest || s.demuxExit then some (s, .exited)
    else if s.pauseRequest then some (s, .top)
    else some (s, .reading)
  | .reading =>
    match read with
    | .endOfFile => some ({ s with demuxExit := true }, .exited)
    | .nothing => some (s, .top)
    | .packet k => some (s, .routing k)
  | .routing k => some (s, if s.abortRequest then .top else .pushing k)
  | .pushing k =>
    if s.packets k < packetQueueSize then some (s.pushPacket k, .top)
    else some (s, .pushWaiting k)
  | .pushWaiting _ | .exited => none

/-- `decodePacket` of the decoder of `k`; it makes a frame of the packet if `made`. -/
def decodeNext (s : State) (k : Kind) (made : Bool) : DecodeLoc → Option (State × DecodeLoc)
  | .top =>
    if s.abortRequest then some (s, .exited)
    else if s.pauseRequest then some (s, .top)
    else some (s, .popping)
  | .popping =>
    if s.packets k = 0 then some (s, .popWaiting) else some (s.popPacket k, .decoding)
  | .decoding => some (s, if made then .peeking else .top)
  | .peeking =>
    if FRAME_QUEUE_SIZE ≤ s.frames k then some (s, .peekWaiting) else some (s, .filling)
  | .peekWoken => some (s, .filling)
  | .filling => some (s.pushFrame k, .top)
  | .popWaiting | .peekWaiting | .exited => none

/-- `MediaSync2::audioPlay`; `got` says that it sees a frame behind an open gate, and that the
resampler makes something of it. -/
def audioNext (s : State) (got : Bool) : AudioLoc → Option (State × AudioLoc)
  | .top =>
    if s.abortRequest then some (s, .exited)
    else if s.pauseRequest then some (s, .top)
    else some (s, .looking)
  | .looking => some (s, if got then .updating else .top)
  | .updating => some (s, if got then .notifying else .popping)
  | .notifying => if s.observerHeld then none else some (s, .putting s.observers)
  | .putting 0 => some (s, .popping)
  | .putting (n + 1) =>
    if maxFrameBuffer < s.pcm then some (s, .putWaiting n) else some (s.put, .putting n)
  | .putWoken n => some (s.put, .putting n)
  | .popping => some (s.popFrame .audio, .top)
  | .putWaiting _ | .exited => none

/-- `MediaSync2::videoPlay`; `got` says that it sees a frame. -/
def videoNext (s : State) (got : Bool) : VideoLoc → Option (State × VideoLoc)
  | .top =>
    if s.abortRequest then some (s, .exited)
    else if s.pauseRequest then some (s, .top)
    else some (s, .looking)
  | .looking => some (s, if got then .showing else .top)
  | .showing => some (s, if s.view then .popping else .viewWaiting)
  | .popping => some (s.popFrame .video, .top)
  | .viewWaiting | .exited => none

/-- The end of `getData`; `front()` of an empty list is undefined. -/
def takeNext (s : State) : Option (State × CallbackLoc) :=
  if s.playExit then some (s, .exited) else if s.pcm = 0 then none else some (s.take, .idle)

/-- `SLAudioPlay::playCall`. -/
def callbackNext (s : State) : CallbackLoc → Option (State × CallbackLoc)
  | .idle =>
    if s.playExit || s.abortRequest then some (s, .exited)
    else if s.pauseRequest then some (s, .pausing)
    else some (s, .getting)
  | .pausing =>
    if s.pauseRequest then
      if s.playExit || s.abortRequest then some (s, .exited) else some (s, .pausing)
    else some (s, .getting)
  | .getting => if s.pcm = 0 then some (s, .getWaiting) else s.takeNext
  | .getWoken => s.takeNext
  | .getWaiting | .exited => none

end State

/-- A UI thread calls; it takes the mutex; the call in progress goes on; or a worker does. -/
inductive Label
  | ask (n : Nat) (c : Call)
  | lock (n : Nat)
  | exec (ok : Bool)
  | demux (i : Nat) (read : Read)
  | decode (k : Kind) (i : Nat) (made : Bool)
  | audioSync (i : Nat) (got : Bool)
  | videoSync (i : Nat) (got : Bool)
  | callback (i : Nat)

/-- **One step.** -/
def next (s : State) : Label → Option State
  | .ask n c =>
    if s.asked n = none ∧ s.caller.map Prod.fst ≠ some n then
      some { s with asked := Function.update s.asked n (some c) }
    else none
  | .lock n =>
    match s.asked n, s.caller with
    | some c, none =>
      some { s with asked := Function.update s.asked n none, caller := some (n, body c) }
    | _, _ => none
  | .exec ok =>
    match s.caller with
    | none => none
    | some (_, []) => some { s with caller := none }
    | some (n, stmt :: rest) =>
      if s.blocks stmt then none
      else some { s.exec ok stmt with caller := some (n, stmt.after ok rest) }
  | .demux i read => do
    let (t, loc) ← s.demuxNext read (← s.demux[i]?)
    return { t with demux := t.demux.set i loc }
  | .decode k i made => do
    let (t, loc) ← s.decodeNext k made (← (s.decode k)[i]?)
    return t.setDecode k ((t.decode k).set i loc)
  | .audioSync i got => do
    let (t, loc) ← s.audioNext got (← s.audioSync[i]?)
    return { t with audioSync := t.audioSync.set i loc }
  | .videoSync i got => do
    let (t, loc) ← s.videoNext got (← s.videoSync[i]?)
    return { t with videoSync := t.videoSync.set i loc }
  | .callback i => do
    let (t, loc) ← s.callbackNext (← s.callback[i]?)
    return { t with callback := t.callback.set i loc }

def system : System State Label := ⟨next⟩

/-- A player that was just built. -/
def start : State where
  window := false
  view := false
  pauseRequest := false
  abortRequest := false
  playExit := false
  demuxExit := false
  sampleRate := false
  observers := 0
  packets _ := 0
  frames _ := 0
  showIndex _ := false
  pcm := 0
  asked _ := none
  caller := none
  demux := []
  decode _ := []
  audioSync := []
  videoSync := []
  callback := []

/-! ### Who waits for whom -/

inductive Thread
  | ui (n : Nat)
  | demux (i : Nat)
  | decode (k : Kind) (i : Nat)
  | audioSync (i : Nat)
  | videoSync (i : Nat)
  | callback (i : Nat)

/-- What a thread waits for. -/
inductive Resource
  | playerMutex
  | demuxMutex
  | observerMutex
  /-- Room in the packet queue of `k`, in `Queue::push`. -/
  | packetRoom (k : Kind)
  | packet (k : Kind)
  /-- Room in the frame queue of `k`, in `FrameQueue::peekWritable`. -/
  | frameRoom (k : Kind)
  /-- Room for a PCM frame, in `IAudioPlay::update`. -/
  | pcmRoom
  | pcm
  /-- The end of a pause. -/
  | resumed
  /-- A view, in `GLVideoView::render`. -/
  | view
  deriving DecidableEq

/-- A thread that comes upon the pause stays there until `resume` or `stop`. -/
def State.paused (s : State) : Bool := s.pauseRequest && !s.abortRequest

/-- **The waits.** A thread of `MediaSync2` that looks for a frame every 5 ms holds nothing and is not
in one. -/
inductive Waits (s : State) : Thread → Resource → Prop
  | lock {n : Nat} (asked : s.asked n ≠ none) (taken : s.caller ≠ none) :
      Waits s (.ui n) .playerMutex
  | open {n : Nat} {stmt : Stmt} {rest : List Stmt} (here : s.caller = some (n, stmt :: rest))
      (locks : s.locksDemux stmt = true) (held : s.demuxHeld = true) : Waits s (.ui n) .demuxMutex
  | addObserver {n : Nat} {rest : List Stmt} (here : s.caller = some (n, .addObserver :: rest))
      (held : s.observerHeld = true) : Waits s (.ui n) .observerMutex
  | readPacket {i : Nat} (here : s.demux[i]? = some .top) (held : s.demuxHeld = true) :
      Waits s (.demux i) .demuxMutex
  | readPause {i : Nat} (here : s.demux[i]? = some .top) (paused : s.paused = true) :
      Waits s (.demux i) .resumed
  | push {i : Nat} {k : Kind} (here : s.demux[i]? = some (.pushWaiting k)) :
      Waits s (.demux i) (.packetRoom k)
  | decodePause {k : Kind} {i : Nat} (here : (s.decode k)[i]? = some .top)
      (paused : s.paused = true) : Waits s (.decode k i) .resumed
  | pop {k : Kind} {i : Nat} (here : (s.decode k)[i]? = some .popWaiting) :
      Waits s (.decode k i) (.packet k)
  | peek {k : Kind} {i : Nat} (here : (s.decode k)[i]? = some .peekWaiting) :
      Waits s (.decode k i) (.frameRoom k)
  | audioPause {i : Nat} (here : s.audioSync[i]? = some .top) (paused : s.paused = true) :
      Waits s (.audioSync i) .resumed
  | notify {i : Nat} (here : s.audioSync[i]? = some .notifying) (held : s.observerHeld = true) :
      Waits s (.audioSync i) .observerMutex
  | update {i n : Nat} (here : s.audioSync[i]? = some (.putWaiting n)) :
      Waits s (.audioSync i) .pcmRoom
  | videoPause {i : Nat} (here : s.videoSync[i]? = some .top) (paused : s.paused = true) :
      Waits s (.videoSync i) .resumed
  | render {i : Nat} (here : s.videoSync[i]? = some .viewWaiting) : Waits s (.videoSync i) .view
  | playPause {i : Nat} (here : s.callback[i]? = some .pausing) (paused : s.paused = true) :
      Waits s (.callback i) .resumed
  | getData {i : Nat} (here : s.callback[i]? = some .getWaiting) : Waits s (.callback i) .pcm

/-- The statement may end a wait for it. -/
def Stmt.releases : Stmt → Resource → Bool
  | .startDecode k, .frameRoom j => j = k
  | .notFull, .pcmRoom | .notEmpty, .pcm | .setRender, .view | .checkWindow, .view => true
  | .setPause pauseRequest, .resumed => !pauseRequest
  | .setAbort, .resumed => true
  | _, _ => false

/-- The loop that takes the frames of `k` off their queue has thread `i`. -/
def State.Shows (s : State) : Kind → Thread → Prop
  | .audio, .audioSync i => ∃ loc, s.audioSync[i]? = some loc ∧ loc ≠ .exited
  | .video, .videoSync i => ∃ loc, s.videoSync[i]? = some loc ∧ loc ≠ .exited
  | _, _ => False

/-- **Who can end a wait.** Any UI thread may make any of the calls; the workers that `start` adds are
not counted. -/
inductive Releases (s : State) : Thread → Resource → Prop
  | unlock {n : Nat} {rest : List Stmt} (here : s.caller = some (n, rest)) :
      Releases s (.ui n) .playerMutex
  | demuxMutex {i : Nat} {loc : DemuxLoc} (here : s.demux[i]? = some loc)
      (holds : loc.holds = true) : Releases s (.demux i) .demuxMutex
  | observerMutex {i : Nat} {loc : AudioLoc} (here : s.audioSync[i]? = some loc)
      (holds : loc.holds = true) : Releases s (.audioSync i) .observerMutex
  | pop {k : Kind} {i : Nat} {loc : DecodeLoc} (here : (s.decode k)[i]? = some loc)
      (alive : loc ≠ .exited) : Releases s (.decode k i) (.packetRoom k)
  | push {i : Nat} {loc : DemuxLoc} (here : s.demux[i]? = some loc) (alive : loc ≠ .exited)
      (k : Kind) : Releases s (.demux i) (.packet k)
  | popFrame {k : Kind} {t : Thread} (shows : s.Shows k t) : Releases s t (.frameRoom k)
  | pushFrame {k : Kind} {i : Nat} {loc : DecodeLoc} (here : (s.decode k)[i]? = some loc)
      (alive : loc ≠ .exited) : Releases s (.decode k i) (.frameRoom k)
  | getData {i : Nat} {loc : CallbackLoc} (here : s.callback[i]? = some loc)
      (alive : loc ≠ .exited) : Releases s (.callback i) .pcmRoom
  | update {i : Nat} {loc : AudioLoc} (here : s.audioSync[i]? = some loc) (alive : loc ≠ .exited) :
      Releases s (.audioSync i) .pcm
  | call {n : Nat} {c : Call} {stmt : Stmt} {r : Resource} (part : stmt ∈ body c)
      (releases : stmt.releases r = true) : Releases s (.ui n) r

/-- A UI call itself blocked on `MediaPlayer::mutex`, which another thread has. -/
def Blocked (s : State) : Thread → Prop
  | .ui n => ∃ m rest, s.caller = some (m, rest) ∧ m ≠ n
  | _ => False

/-- The threads of the player and what they wait for. -/
def waitFor (s : State) : WaitFor Thread Resource := ⟨Waits s, Releases s, Blocked s⟩

/-- A lock, or room in a queue or in the list of PCM frames. A decoder at the end of the file waits for
a packet for ever, and is not deadlocked by that alone. -/
def Resource.contended : Resource → Bool
  | .playerMutex | .demuxMutex | .observerMutex | .packetRoom _ | .frameRoom _ | .pcmRoom => true
  | .packet _ | .pcm | .resumed | .view => false

/-- **A deadlock**: each thread of the set waits for something that only the others can release, and one
of them does so for a lock or for room. -/
def UiDeadlock (s : State) (S : Set Thread) : Prop :=
  (waitFor s).Deadlocked S ∧ ∃ t ∈ S, ∃ r, Waits s t r ∧ r.contended = true

/-! ### When a call may begin -/

/-- On its way to a push into the packet queue of `k`, with the mutex; `pushPacket` drops the packet
after `stop`. -/
def DemuxLoc.bound (abortRequest : Bool) (k : Kind) : DemuxLoc → Bool
  | .reading => !abortRequest
  | .routing j => j = k && !abortRequest
  | .pushing j | .pushWaiting j => j = k
  | _ => false

/-- The calls of `IAudioPlay::update` ahead of an audio thread that comes upon a pause. -/
def AudioLoc.left (observers : Nat) : AudioLoc → Nat
  | .looking | .updating | .notifying => observers
  | .putting n => n
  | .putWaiting n | .putWoken n => n + 1
  | _ => 0

/-- Those whose check for room is still to come. -/
def AudioLoc.fresh (observers : Nat) : AudioLoc → Nat
  | .looking | .updating | .notifying => observers
  | .putting n | .putWaiting n | .putWoken n => n
  | _ => 0

def AudioLoc.isPutWaiting : AudioLoc → Bool
  | .putWaiting _ => true
  | _ => false

/-- The callback takes one more PCM frame before it comes upon the pause. -/
def takes (pauseRequest : Bool) : CallbackLoc → Bool
  | .getting | .getWaiting | .getWoken => true
  | .pausing => !pauseRequest
  | _ => false

namespace State

/-- `pause` or `stop` was called. -/
def halted (s : State) : Bool := s.pauseRequest || s.abortRequest

/-- A demux thread with the mutex is about to push into a full queue nobody takes a packet of. -/
def Clogged (s : State) (k : Kind) : Prop :=
  packetQueueSize ≤ s.packets k ∧ .popping ∉ s.decode k ∧
    ∃ loc ∈ s.demux, loc.bound s.abortRequest k = true

/-- The player plays, and OpenSL takes nothing. -/
def Mute (s : State) : Prop := s.halted = false ∧ s.callback = [] ∧ s.audioSync ≠ []

/-- The player plays, and has no view to render its frames to. -/
def Dark (s : State) : Prop := s.halted = false ∧ s.view = false ∧ s.videoSync ≠ []

/-- **`FFDemux::mutex` may never be free again.** -/
def DemuxJam (s : State) : Prop :=
  s.halted = true ∧ (s.Clogged .audio ∨ s.Clogged .video) ∨
    (s.Mute ∨ s.Dark) ∧ ∃ loc ∈ s.demux, loc ≠ .exited

/-- `stop` leaves a demux thread in a push that no decoder makes room for. -/
def Stranding (s : State) : Prop :=
  { s with abortRequest := true }.Clogged .audio ∨ { s with abortRequest := true }.Clogged .video

/-- The calls of `IAudioPlay::update` that are still to come. -/
def puts (s : State) : Nat := (s.audioSync.map (AudioLoc.left s.observers)).sum

def freshPuts (s : State) : Nat := (s.audioSync.map (AudioLoc.fresh s.observers)).sum

/-- The calls of `getData` that are still to come, and take a frame. -/
def takers (s : State) : Nat :=
  if s.playExit then 0 else s.callback.countP (takes s.pauseRequest)

/-- The last of the calls of `update` finds no room, or the one that waits is not woken. -/
def Overfull (s : State) : Prop :=
  s.audioSync.any AudioLoc.isPutWaiting = true ∧ s.takers = 0 ∨
    0 < s.freshPuts ∧ maxFrameBuffer + 1 + s.takers < s.pcm + s.puts

/-- **`IObserver::mutex` may never be free again.** -/
def ObserverJam (s : State) : Prop := s.halted = true ∧ s.Overfull ∨ s.Mute

/-- `FFDemux::mutex` is locked by one of the statements. -/
def needsDemux (s : State) (rest : List Stmt) : Bool := rest.any s.locksDemux

instance (s : State) (k : Kind) : Decidable (s.Clogged k) := by
  unfold Clogged
  infer_instance

instance (s : State) : Decidable s.Mute := by
  unfold Mute
  infer_instance

instance (s : State) : Decidable s.Dark := by
  unfold Dark
  infer_instance

instance (s : State) : Decidable s.Stranding := by
  unfold Stranding
  infer_instance

instance (s : State) : Decidable s.DemuxJam := by
  unfold DemuxJam
  infer_instance

instance (s : State) : Decidable s.Overfull := by
  unfold Overfull
  infer_instance

instance (s : State) : Decidable s.ObserverJam := by
  unfold ObserverJam
  infer_instance

/-- Neither mutex the statements lock is jammed. -/
def Clear (s : State) (rest : List Stmt) : Prop :=
  (s.needsDemux rest = true → ¬s.DemuxJam) ∧ (.addObserver ∈ rest → ¬s.ObserverJam)

instance (s : State) (rest : List Stmt) : Decidable (s.Clear rest) := by
  unfold Clear
  infer_instance

end State

/-- **The steps that lead into no deadlock**, by the state before the step: a call takes
`MediaPlayer::mutex` when neither of the mutexes it locks next is jammed, and `stop` sets
`abortRequest` when no demux thread is left in a push by it. -/
def Careful (s : State) : Label → Prop
  | .lock n =>
    match s.asked n with
    | some c => s.Clear (body c)
    | none => True
  | .exec _ =>
    match s.caller with
    | some (_, .setAbort :: _) => ¬s.Stranding
    | _ => True
  | _ => True

instance (s : State) (l : Label) : Decidable (Careful s l) := by
  unfold Careful
  split
  · split <;> infer_instance
  · split <;> infer_instance
  · infer_instance

end Xplay.UiCalls
