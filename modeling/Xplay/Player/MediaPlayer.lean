/-
**The public calls of `MediaPlayer`, with every pointer optional.**

A call either returns the next state or fails with the pointer it dereferenced while it was null.
What FFmpeg answers during a call (how the container opens, what its streams are, whether a decoder
is found and opened) comes with the call. A pointer to what FFmpeg allocated is the value it points
to; `window` is whatever the constructor left there.
-/

import Xplay.Demux.ReadPacket

namespace Xplay

/-- The pointers that the calls dereference. -/
inductive Pointer
  | playerState
  | audioDecode
  | videoDecode
  | resample
  | videoView
  | audioPlay
  | formatContext
  | streams
  | stream
  | parameters
  | codecContext
  | formatCtx
  deriving DecidableEq

/-- What a pointer points to. -/
def deref {α : Type} (pointer : Pointer) : Option α → Except Pointer α
  | some a => .ok a
  | none => .error pointer

@[simp] theorem deref_some {α : Type} (pointer : Pointer) (a : α) :
    deref pointer (some a) = .ok a := rfl

@[simp] theorem deref_none {α : Type} (pointer : Pointer) :
    deref pointer (none : Option α) = .error pointer := rfl

/-- `AVCodecParameters`, as far as `XParameter` and `FFResample::open` read it. -/
structure AVCodecParameters where
  channels : Int
  sample_rate : Int
  format : Int

/-- `XParameter`. -/
structure XParameter where
  parameters : Option AVCodecParameters
  channels : Int
  sampleRate : Int

/-- A new `XParameter`. -/
def XParameter.new : XParameter := ⟨none, 2, 44100⟩

/-- `AVCodecContext`. -/
structure AVCodecContext where
  codec_type : AVMediaType
  width : Int
  height : Int
  time_base : AVRational

/-- `avcodec_find_decoder`, then `avcodec_open2` on a context allocated for it. -/
inductive Decoder
  | notFound
  | allocated (context : AVCodecContext) (re : Int)

/-- What FFmpeg answers while a container is opened and its decoders are. -/
structure Source where
  opening : Opening
  codecpar : Nat → AVCodecParameters
  duration : Int
  video : Decoder
  audio : Decoder

/-- `FFDemux` to the calls, with the rest of its container. -/
structure Demux where
  base : FFDemux
  codecpar : Nat → AVCodecParameters
  duration : Int

namespace Demux

/-- `FFDemux::open`; it returns false unless the container and its streams are opened. -/
def openUrl (d : Demux) (source : Source) : Demux × Bool :=
  (⟨d.base.openUrl source.opening, source.codecpar, source.duration⟩,
    match source.opening with
    | .opened _ => true
    | _ => false)

/-- `FFDemux::getVideoParameter`: what it returns. -/
def getVideoParameter (d : Demux) : XParameter :=
  match d.base.formatContext.bind fun c => c.best .video with
  | none => .new
  | some videoIndex => { XParameter.new with parameters := some (d.codecpar videoIndex) }

/-- `FFDemux::getAudioParameter`: what it returns. -/
def getAudioParameter (d : Demux) : XParameter :=
  match d.base.formatContext.bind fun c => c.best .audio with
  | none => .new
  | some audioIndex =>
    ⟨some (d.codecpar audioIndex), (d.codecpar audioIndex).channels,
      (d.codecpar audioIndex).sample_rate⟩

/-- `formatContext->streams[index]`; `streams` is null while there is no stream. -/
def stream (d : Demux) (index : Nat) : Except Pointer (Option AVStream) := do
  let c ← deref .formatContext d.base.formatContext
  if c.streams.isEmpty then .error .streams else return c.streams[index]?

/-- `FFDemux::getVideoStream`. -/
def getVideoStream (d : Demux) : Except Pointer (Option AVStream) :=
  d.stream d.base.videoStreamIndex

/-- `FFDemux::getAudioStream`. -/
def getAudioStream (d : Demux) : Except Pointer (Option AVStream) :=
  d.stream d.base.audioStreamIndex

/-- `demux->formatContext`, as `openDecode` gets it. -/
def context (d : Demux) : Option Int := d.base.formatContext.map fun _ => d.duration

end Demux

/-- `IDecode`: what `openDecode` sets. `formatCtx` points to the demuxer's container, of which the
calls read the duration. -/
structure IDecoder where
  pStream : Option AVStream
  codecContext : Option AVCodecContext
  formatCtx : Option Int

/-- The end of `IDecode::openDecode`: a video stream's metadata are read once the decoder is open. -/
def openedCodec (context : AVCodecContext) (re : Int) (stream : Option AVStream) :
    Except Pointer Unit :=
  if re < 0 then .ok ()
  else if context.codec_type = .video then (deref .stream stream).map fun _ => ()
  else .ok ()

/-- `IDecode::openDecode`; its result is only logged. -/
def IDecoder.openDecode (d : IDecoder) (parameter : XParameter) (stream : Option AVStream)
    (formatContext : Option Int) (decoder : Decoder) : Except Pointer IDecoder :=
  match parameter.parameters with
  | none => .ok d
  | some _ =>
    match decoder with
    | .notFound => .ok { d with formatCtx := formatContext, pStream := stream }
    | .allocated context re => do
      openedCodec context re stream
      return ⟨stream, some context, formatContext⟩

/-- `FFResample::open`: the channels it reads. Its result is only logged. -/
def FFResample.openResample (input out : XParameter) : Except Pointer Int := do
  let parameters ← deref .parameters input.parameters
  let _ ← deref .parameters out.parameters
  return parameters.channels

/-- `PlayerState`. -/
structure PlayerState where
  url : String
  abortRequest : Bool
  pauseRequest : Bool

/-- `MediaPlayer`. Of the components without fields here, and of `window` and `jniListener`, the
calls only ask whether they are there. -/
structure MediaPlayer where
  playerState : Option PlayerState
  mediaSync : Option Unit
  demux : Option Demux
  audioDecode : Option IDecoder
  videoDecode : Option IDecoder
  resample : Option Int
  videoView : Option Unit
  audioPlay : Option Unit
  audioOutParam : XParameter
  jniListener : Option Unit
  window : Option Unit

namespace MediaPlayer

/-- `IPlayerBuilder::buildPlayer`. -/
def buildPlayer (window jniListener : Option Unit) : MediaPlayer where
  playerState := some ⟨"", false, false⟩
  mediaSync := none
  demux := some ⟨FFDemux.new, fun _ => ⟨0, 0, 0⟩, 0⟩
  audioDecode := some ⟨none, none, none⟩
  videoDecode := some ⟨none, none, none⟩
  resample := some 2
  videoView := some ()
  audioPlay := some ()
  audioOutParam := .new
  jniListener := jniListener
  window := window

/-- `videoDecode->openDecode(demux->getVideoParameter(), ...)`, when there is a `videoDecode`. -/
def openVideo (m : MediaPlayer) (demux : Demux) (decoder : Decoder) :
    Except Pointer MediaPlayer :=
  match m.videoDecode with
  | none => .ok m
  | some videoDecode => do
    let stream ← demux.getVideoStream
    let opened ← videoDecode.openDecode demux.getVideoParameter stream demux.context decoder
    return { m with videoDecode := some opened }

/-- `audioDecode->openDecode(demux->getAudioParameter(), ...)`, when there is an `audioDecode`. -/
def openAudio (m : MediaPlayer) (demux : Demux) (decoder : Decoder) :
    Except Pointer MediaPlayer :=
  match m.audioDecode with
  | none => .ok m
  | some audioDecode => do
    let stream ← demux.getAudioStream
    let opened ← audioDecode.openDecode demux.getAudioParameter stream demux.context decoder
    return { m with audioDecode := some opened }

/-- `MediaPlayer::setDataSource`. -/
def setDataSource (m : MediaPlayer) (url : String) (source : Source) :
    Except Pointer MediaPlayer := do
  let playerState ← deref .playerState m.playerState
  let m := { m with playerState := some { playerState with url := url } }
  match m.demux with
  | none => return m
  | some demux =>
    let opened := demux.openUrl source
    let m := { m with demux := some opened.1 }
    if opened.2 then
      let m ← m.openVideo opened.1 source.video
      let _ ← deref .videoDecode m.videoDecode
      let m ← m.openAudio opened.1 source.audio
      let _ ← deref .audioDecode m.audioDecode
      return m
    else return m

/-- `resample->open(...)`, when there is a `resample`. -/
def openResample (m : MediaPlayer) (demux : Demux) : Except Pointer MediaPlayer :=
  match m.resample with
  | none => .ok m
  | some _ => do
    let outChannels ← FFResample.openResample demux.getAudioParameter m.audioOutParam
    return { m with resample := some outChannels }

/-- `videoView->setRender(window)`, when there is a window. -/
def setWindow (m : MediaPlayer) : Except Pointer MediaPlayer :=
  match m.window with
  | none => .ok m
  | some _ => do
    let _ ← deref .videoView m.videoView
    return m

/-- `MediaPlayer::openSource`. -/
def openSource (m : MediaPlayer) (source : Source) : Except Pointer MediaPlayer := do
  let playerState ← deref .playerState m.playerState
  if playerState.url = "" then return m
  else match m.demux with
    | none => return m
    | some demux =>
      let opened := demux.openUrl source
      let m := { m with demux := some opened.1 }
      if opened.2 then
        let m ← m.openVideo opened.1 source.video
        let m ← m.openAudio opened.1 source.audio
        let m := { m with audioOutParam := opened.1.getAudioParameter }
        let m ← m.openResample opened.1
        m.setWindow
      else return m

/-- `MediaPlayer::start`. -/
def start (m : MediaPlayer) : Except Pointer MediaPlayer :=
  match m.demux with
  | none => .ok m
  | some demux => do
    let _ ← deref .audioDecode m.audioDecode
    let m := if m.audioOutParam.sampleRate ≤ 0 then
      { m with audioOutParam := demux.getAudioParameter } else m
    let _ ← deref .audioPlay m.audioPlay
    let _ ← deref .resample m.resample
    let _ ← deref .videoDecode m.videoDecode
    return { m with mediaSync := some () }

/-- `MediaPlayer::initView`. -/
def initView (m : MediaPlayer) (window : Option Unit) : MediaPlayer := { m with window := window }

/-- `MediaPlayer::pause` and `MediaPlayer::resume`. -/
def setPause (m : MediaPlayer) (pauseRequest : Bool) : Except Pointer MediaPlayer := do
  let playerState ← deref .playerState m.playerState
  return { m with playerState := some { playerState with pauseRequest := pauseRequest } }

/-- `MediaPlayer::stop`; it asks for every component before it stops it. -/
def stop (m : MediaPlayer) : Except Pointer MediaPlayer := do
  let playerState ← deref .playerState m.playerState
  return { m with playerState := some { playerState with abortRequest := true } }

/-- `MediaPlayer::getVideoWidth`. -/
def getVideoWidth (m : MediaPlayer) : Except Pointer Int :=
  match m.videoDecode with
  | none => .ok 0
  | some videoDecode => do
    let codecContext ← deref .codecContext videoDecode.codecContext
    return codecContext.width

/-- `MediaPlayer::getVideoHeight`. -/
def getVideoHeight (m : MediaPlayer) : Except Pointer Int :=
  match m.videoDecode with
  | none => .ok 0
  | some videoDecode => do
    let codecContext ← deref .codecContext videoDecode.codecContext
    return codecContext.height

/-- `MediaPlayer::getDuration`: it computes the duration, and returns the height. -/
def getDuration (m : MediaPlayer) : Except Pointer Int :=
  match m.videoDecode with
  | none => .ok 0
  | some videoDecode => do
    let _ ← deref .formatCtx videoDecode.formatCtx
    let codecContext ← deref .codecContext videoDecode.codecContext
    return codecContext.height

/-- `MediaPlayer::release`; the destructors ask for every pointer they use. -/
def release (m : MediaPlayer) : MediaPlayer :=
  { m with
    mediaSync := none
    demux := none
    audioDecode := none
    videoDecode := none
    resample := none
    videoView := none
    audioPlay := none
    playerState := none
    window := none
    jniListener := none }

/-- A public call, with what it is given. -/
inductive Call
  | setDataSource (url : String) (source : Source)
  | initView (window : Option Unit)
  | openSource (source : Source)
  | start
  | pause
  | resume
  | stop
  | getVideoWidth
  | getVideoHeight
  | getDuration
  | release

/-- The state a call leaves behind. -/
def call (m : MediaPlayer) : Call → Except Pointer MediaPlayer
  | .setDataSource url source => m.setDataSource url source
  | .initView window => .ok (m.initView window)
  | .openSource source => m.openSource source
  | .start => m.start
  | .pause => m.setPause true
  | .resume => m.setPause false
  | .stop => m.stop
  | .getVideoWidth => m.getVideoWidth.map fun _ => m
  | .getVideoHeight => m.getVideoHeight.map fun _ => m
  | .getDuration => m.getDuration.map fun _ => m
  | .release => .ok m.release

/-- The state after a sequence of calls, or the pointer that one of them found null. -/
def calls (m : MediaPlayer) : List Call → Except Pointer MediaPlayer
  | [] => .ok m
  | c :: cs => do
    let m ← m.call c
    m.calls cs

end MediaPlayer

end Xplay
