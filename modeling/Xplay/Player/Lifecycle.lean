/-
**Which sequences of calls a `MediaPlayer` survives.**

`Lifecycle` is what a caller has to remember: whether the player was released, whether it has a url,
and whether a decoder was ever found for a video stream. `allows` says which calls are in order then.
`Follows` relates it to the player's pointers: a call dereferences a null pointer exactly when it is
out of order (`Follows.call`), and so does a sequence of calls. What the threads that `start` spawns
and `handleMessage` dereference later (`pStream`, `formatContext`, `jniListener`) is left out.
-/

import Xplay.Player.MediaPlayer

namespace Xplay

/-! ### What the caller has to remember -/

namespace Source

/-- The container that is opened, if one is. -/
def container (source : Source) : Option AVFormatContext :=
  match source.opening with
  | .opened c => some c
  | _ => none

/-- What is opened has a stream at all. -/
def hasStreams (source : Source) : Bool := source.container.all fun c => !c.streams.isEmpty

/-- What is opened has an audio stream. -/
def hasAudio (source : Source) : Bool := source.container.all fun c => (c.best .audio).isSome

/-- What is opened has a video stream, and a decoder for it is found. -/
def findsVideo (source : Source) : Bool :=
  source.container.any (fun c => (c.best .video).isSome) && source.video matches .allocated ..

end Source

/-- A player's life so far. -/
structure Lifecycle where
  released : Bool
  hasUrl : Bool
  hasVideo : Bool
  deriving DecidableEq

namespace Lifecycle

/-- The player was just built. -/
def built : Lifecycle := ⟨false, false, false⟩

/-- **The calls that are in order.** -/
def allows (l : Lifecycle) : MediaPlayer.Call → Bool
  | .setDataSource _ source => !l.released && source.hasStreams
  | .openSource source => !l.released && (!l.hasUrl || source.hasAudio)
  | .pause | .resume | .stop => !l.released
  | .getVideoWidth | .getVideoHeight | .getDuration => l.released || l.hasVideo
  | .initView _ | .start | .release => true

/-- What a call changes. -/
def after (l : Lifecycle) : MediaPlayer.Call → Lifecycle
  | .setDataSource url source =>
    { l with hasUrl := url ≠ "", hasVideo := l.hasVideo || source.findsVideo }
  | .openSource source => { l with hasVideo := l.hasVideo || l.hasUrl && source.findsVideo }
  | .release => ⟨true, false, false⟩
  | _ => l

/-- Every call of the sequence is in order. -/
def allowsAll (l : Lifecycle) : List MediaPlayer.Call → Bool
  | [] => true
  | c :: cs => l.allows c && (l.after c).allowsAll cs

end Lifecycle

namespace MediaPlayer

/-! ### Opening a source -/

/-- A decoder that was allocated has the context of its container. -/
def Ready (d : IDecoder) : Prop := d.codecContext.isSome = true → d.formatCtx.isSome = true

variable {source : Source} {c : AVFormatContext} {demux : Demux}

/-- The demuxer after `open` has the container. -/
theorem openUrl_opened (demux : Demux) (opened : source.container = some c) :
    (demux.openUrl source).2 = true ∧
      (demux.openUrl source).1.base.formatContext = some c ∧
      (∀ i, c.best .video = some i → (demux.openUrl source).1.base.videoStreamIndex = i) ∧
      (∀ i, c.best .audio = some i → (demux.openUrl source).1.base.audioStreamIndex = i) := by
  have opening : source.opening = .opened c := by
    unfold Source.container at opened
    split at opened
    · next c' same => rw [same, Option.some.inj opened]
    · cases opened
  simp only [Demux.openUrl, opening, FFDemux.openUrl, true_and]
  unfold FFDemux.getAudioParameter FFDemux.getVideoParameter FFDemux.close
  cases video : c.best .video <;> cases audio : c.best .audio <;> simp [video, audio]

theorem openUrl_failed (demux : Demux) (failed : source.container = none) :
    (demux.openUrl source).2 = false := by
  unfold Source.container at failed
  unfold Demux.openUrl
  cases opening : source.opening <;> simp_all

/-- A selected stream is one of the container's. -/
theorem stream_of_best {kind : AVMediaType} {i : Nat} (best : c.best kind = some i) :
    ∃ stream, c.streams[i]? = some stream := by
  have typed := c.best_type kind i best
  cases found : c.streams[i]? with
  | none =>
    rw [found] at typed
    cases typed
  | some stream => exact ⟨stream, rfl⟩

/-- A container with a stream of some kind has streams. -/
theorem streams_of_best {kind : AVMediaType} (best : (c.best kind).isSome = true) :
    c.streams.isEmpty = false := by
  obtain ⟨i, best⟩ := Option.isSome_iff_exists.mp best
  obtain ⟨stream, found⟩ := stream_of_best best
  cases streams : c.streams with
  | nil =>
    rw [streams] at found
    cases found
  | cons first rest => rfl

theorem openedCodec_ok (context : AVCodecContext) (re : Int) (stream : AVStream) :
    openedCodec context re (some stream) = .ok () := by
  unfold openedCodec
  split_ifs <;> rfl

/-- **The decoder after `openDecode`**: its stream is there whenever it is read. -/
theorem openDecode_spec (d : IDecoder) {parameter : XParameter} {stream : Option AVStream}
    (formatContext : Option Int) (decoder : Decoder)
    (present : parameter.parameters.isSome = true → stream.isSome = true) :
    ∃ d', d.openDecode parameter stream formatContext decoder = .ok d' ∧
      (d'.codecContext.isSome = true ↔ d.codecContext.isSome = true ∨
        parameter.parameters.isSome = true ∧ decoder matches .allocated ..) ∧
      (formatContext.isSome = true → Ready d → Ready d') := by
  unfold IDecoder.openDecode
  cases parameters : parameter.parameters with
  | none => exact ⟨d, rfl, by simp, fun _ ready => ready⟩
  | some found =>
    obtain ⟨stream, rfl⟩ := Option.isSome_iff_exists.mp (present (by rw [parameters]; rfl))
    cases decoder with
    | notFound => exact ⟨_, rfl, by simp, fun there _ => fun _ => there⟩
    | allocated context re =>
      refine ⟨⟨some stream, some context, formatContext⟩, ?_, by simp, fun there _ => fun _ => there⟩
      simp only [openedCodec_ok]
      rfl

/-- The stream that goes with the parameters, when the container has streams. -/
theorem stream_spec {index : Nat} (context : demux.base.formatContext = some c) :
    (c.streams.isEmpty = true → demux.stream index = .error .streams) ∧
      (c.streams.isEmpty = false → demux.stream index = .ok c.streams[index]?) := by
  unfold Demux.stream
  rw [context]
  constructor
  · intro empty
    simp only [deref_some, bind, Except.bind, empty, if_true]
  · intro streams
    simp only [deref_some, bind, Except.bind, streams, Bool.false_eq_true, if_false]
    rfl

section Opened

variable {m : MediaPlayer} {d : IDecoder} {decoder : Decoder}

theorem context_isSome (context : demux.base.formatContext = some c) :
    demux.context.isSome = true := by
  rw [Demux.context, context]
  rfl

/-- A container without streams has no `streams` to look into. -/
theorem openVideo_empty (there : m.videoDecode = some d)
    (context : demux.base.formatContext = some c) (empty : c.streams.isEmpty = true) :
    m.openVideo demux decoder = .error .streams := by
  rw [openVideo, there, Demux.getVideoStream]
  simp only [(stream_spec context).1 empty]
  rfl

/-- The video decoder after it was opened. -/
theorem openVideo_spec (decoder : Decoder) (there : m.videoDecode = some d)
    (context : demux.base.formatContext = some c) (streams : c.streams.isEmpty = false)
    (index : ∀ i, c.best .video = some i → demux.base.videoStreamIndex = i) :
    ∃ d', m.openVideo demux decoder = .ok { m with videoDecode := some d' } ∧
      (d'.codecContext.isSome = true ↔ d.codecContext.isSome = true ∨
        (c.best .video).isSome = true ∧ decoder matches .allocated ..) ∧
      (Ready d → Ready d') := by
  have parameters : demux.getVideoParameter.parameters.isSome = (c.best .video).isSome := by
    rw [Demux.getVideoParameter, context, Option.bind_some]
    cases c.best .video <;> rfl
  have present : demux.getVideoParameter.parameters.isSome = true →
      (c.streams[demux.base.videoStreamIndex]?).isSome = true := by
    rw [parameters]
    intro best
    obtain ⟨i, best⟩ := Option.isSome_iff_exists.mp best
    obtain ⟨stream, found⟩ := stream_of_best best
    rw [index i best, found]
    rfl
  obtain ⟨d', opened, allocated, ready⟩ := openDecode_spec d demux.context decoder present
  refine ⟨d', ?_, parameters ▸ allocated, ready (context_isSome context)⟩
  rw [openVideo, there, Demux.getVideoStream]
  simp only [(stream_spec context).2 streams, bind, Except.bind, opened]
  rfl

/-- The audio decoder after it was opened. -/
theorem openAudio_spec (decoder : Decoder) (there : m.audioDecode = some d)
    (context : demux.base.formatContext = some c) (streams : c.streams.isEmpty = false)
    (index : ∀ i, c.best .audio = some i → demux.base.audioStreamIndex = i) :
    ∃ d', m.openAudio demux decoder = .ok { m with audioDecode := some d' } := by
  have present : demux.getAudioParameter.parameters.isSome = true →
      (c.streams[demux.base.audioStreamIndex]?).isSome = true := by
    rw [Demux.getAudioParameter, context, Option.bind_some]
    cases best : c.best .audio with
    | none => rintro ⟨⟩
    | some i =>
      obtain ⟨stream, found⟩ := stream_of_best best
      rw [index i best, found]
      exact fun _ => rfl
  obtain ⟨d', opened, -⟩ := openDecode_spec d demux.context decoder present
  refine ⟨d', ?_⟩
  rw [openAudio, there, Demux.getAudioStream]
  simp only [(stream_spec context).2 streams, bind, Except.bind, opened]
  rfl

/-- `FFResample::open` reads the parameters of the audio stream. -/
theorem openResample_spec {r : Int} (there : m.resample = some r)
    (context : demux.base.formatContext = some c)
    (out : m.audioOutParam = demux.getAudioParameter) :
    ((c.best .audio).isSome = true →
        ∃ channels, m.openResample demux = .ok { m with resample := some channels }) ∧
      ((c.best .audio).isSome = false → m.openResample demux = .error .parameters) := by
  have parameters : demux.getAudioParameter.parameters =
      (c.best .audio).map fun i => demux.codecpar i := by
    rw [Demux.getAudioParameter, context, Option.bind_some]
    cases c.best .audio <;> rfl
  rw [openResample, there]
  simp only [FFResample.openResample, out, parameters]
  cases c.best .audio with
  | none => exact ⟨by rintro ⟨⟩, fun _ => rfl⟩
  | some i => exact ⟨fun _ => ⟨_, rfl⟩, by rintro ⟨⟩⟩

end Opened

/-! ### The calls -/

/-- The player was not released: every part is there. -/
structure Alive (l : Lifecycle) (m : MediaPlayer) : Prop where
  released : l.released = false
  playerState : ∃ playerState, m.playerState = some playerState ∧
    l.hasUrl = decide (playerState.url ≠ "")
  demux : ∃ demux, m.demux = some demux
  audioDecode : ∃ d, m.audioDecode = some d
  videoDecode : ∃ d, m.videoDecode = some d ∧ Ready d ∧ d.codecContext.isSome = l.hasVideo
  resample : ∃ r, m.resample = some r
  videoView : m.videoView = some ()
  audioPlay : m.audioPlay = some ()

/-- The player was released. -/
structure Gone (l : Lifecycle) (m : MediaPlayer) : Prop where
  released : l.released = true
  playerState : m.playerState = none
  demux : m.demux = none
  videoDecode : m.videoDecode = none

/-- **The pointers follow the player's life.** -/
def Follows (l : Lifecycle) (m : MediaPlayer) : Prop := Alive l m ∨ Gone l m

theorem follows_built (window jniListener : Option Unit) :
    Follows .built (buildPlayer window jniListener) :=
  Or.inl ⟨rfl, ⟨_, rfl, rfl⟩, ⟨_, rfl⟩, ⟨_, rfl⟩, ⟨_, rfl, fun there => there, rfl⟩, ⟨_, rfl⟩, rfl, rfl⟩

/-- What a call does to a player in this life. -/
structure Meets (l : Lifecycle) (m : MediaPlayer) (c : Call) : Prop where
  returns : l.allows c = true → ∃ m', m.call c = .ok m' ∧ Follows (l.after c) m'
  crashes : l.allows c = false → ∃ pointer, m.call c = .error pointer

variable {l : Lifecycle} {m : MediaPlayer}

/-- **After `release`** the calls that ask for nothing still return. -/
theorem Gone.meets (gone : Gone l m) (c : Call) : Meets l m c := by
  obtain ⟨released, playerState, demux, videoDecode⟩ := gone
  have crash : ∀ {f : PlayerState → Except Pointer MediaPlayer},
      ∃ pointer, (deref .playerState m.playerState >>= f) = .error pointer := fun {f} => by
    rw [playerState]
    exact ⟨.playerState, rfl⟩
  have stays : Follows l m := Or.inr ⟨released, playerState, demux, videoDecode⟩
  cases c with
  | setDataSource url source =>
    exact ⟨by simp [Lifecycle.allows, released], fun _ => crash⟩
  | openSource source => exact ⟨by simp [Lifecycle.allows, released], fun _ => crash⟩
  | pause => exact ⟨by simp [Lifecycle.allows, released], fun _ => crash⟩
  | resume => exact ⟨by simp [Lifecycle.allows, released], fun _ => crash⟩
  | stop => exact ⟨by simp [Lifecycle.allows, released], fun _ => crash⟩
  | initView window =>
    exact ⟨fun _ => ⟨_, rfl, Or.inr ⟨released, playerState, demux, videoDecode⟩⟩, by rintro ⟨⟩⟩
  | start => exact ⟨fun _ => ⟨m, by rw [call, start, demux], stays⟩, by rintro ⟨⟩⟩
  | release => exact ⟨fun _ => ⟨_, rfl, Or.inr ⟨rfl, rfl, rfl, rfl⟩⟩, by rintro ⟨⟩⟩
  | getVideoWidth =>
    refine ⟨fun _ => ⟨m, ?_, stays⟩, by simp [Lifecycle.allows, released]⟩
    rw [call, getVideoWidth, videoDecode]
    rfl
  | getVideoHeight =>
    refine ⟨fun _ => ⟨m, ?_, stays⟩, by simp [Lifecycle.allows, released]⟩
    rw [call, getVideoHeight, videoDecode]
    rfl
  | getDuration =>
    refine ⟨fun _ => ⟨m, ?_, stays⟩, by simp [Lifecycle.allows, released]⟩
    rw [call, getDuration, videoDecode]
    rfl

/-- A video decoder without a context stops the getters. -/
theorem Alive.getters (alive : Alive l m) {get : MediaPlayer → Except Pointer Int} {c : Call}
    (calls : m.call c = (get m).map fun _ => m) (same : l.after c = l)
    (order : l.allows c = l.hasVideo)
    (reads : ∀ d, m.videoDecode = some d →
      (d.formatCtx.isSome = true → d.codecContext.isSome = true → ∃ n, get m = .ok n) ∧
        (d.codecContext.isSome = false → ∃ pointer, get m = .error pointer)) :
    Meets l m c := by
  obtain ⟨d, there, ready, video⟩ := alive.videoDecode
  constructor
  · intro allowed
    have allocated : d.codecContext.isSome = true := by rw [video, ← order, allowed]
    obtain ⟨n, value⟩ := (reads d there).1 (ready allocated) allocated
    exact ⟨m, by rw [calls, value]; rfl, by rw [same]; exact Or.inl alive⟩
  · intro refused
    obtain ⟨pointer, null⟩ := (reads d there).2 (by rw [video, ← order, refused])
    exact ⟨pointer, by rw [calls, null]; rfl⟩

/-- The getters of a field of the video decoder's context. -/
theorem Alive.contextGetter (alive : Alive l m) {get : MediaPlayer → Except Pointer Int}
    {c : Call} (field : AVCodecContext → Int) (calls : m.call c = (get m).map fun _ => m)
    (same : l.after c = l) (order : l.allows c = l.hasVideo)
    (reads : ∀ d, m.videoDecode = some d →
      get m = do
        let codecContext ← deref .codecContext d.codecContext
        return field codecContext) : Meets l m c := by
  refine alive.getters calls same order fun d there =>
    ⟨fun _ allocated => ?_, fun null => ⟨.codecContext, ?_⟩⟩
  · obtain ⟨context, found⟩ := Option.isSome_iff_exists.mp allocated
    refine ⟨field context, ?_⟩
    rw [reads d there, found]
    rfl
  · rw [Option.isSome_eq_false_iff, Option.isNone_iff_eq_none] at null
    rw [reads d there, null]
    rfl

/-- Setting a flag keeps the player's url. -/
theorem Alive.setFlags (alive : Alive l m) {playerState : PlayerState}
    (there : m.playerState = some playerState) {playerState' : PlayerState}
    (url : playerState'.url = playerState.url) :
    Alive l { m with playerState := some playerState' } := by
  obtain ⟨state, known, hasUrl⟩ := alive.playerState
  rw [there] at known
  cases known
  exact ⟨alive.released, ⟨_, rfl, by rw [url, hasUrl]⟩, alive.demux, alive.audioDecode,
    alive.videoDecode, alive.resample, alive.videoView, alive.audioPlay⟩

/-- The calls that only write a flag. -/
theorem Alive.flag (alive : Alive l m) {c : Call} {write : PlayerState → PlayerState}
    (calls : m.call c = do
      let playerState ← deref .playerState m.playerState
      return { m with playerState := some (write playerState) })
    (url : ∀ playerState, (write playerState).url = playerState.url) (same : l.after c = l)
    (order : l.allows c = !l.released) : Meets l m c := by
  obtain ⟨playerState, there, -⟩ := alive.playerState
  constructor
  · intro _
    refine ⟨_, ?_, by rw [same]; exact Or.inl (alive.setFlags there (url playerState))⟩
    rw [calls, there]
    rfl
  · intro refused
    rw [order, alive.released] at refused
    cases refused

/-- `start` asks for parts that are there. -/
theorem Alive.start (alive : Alive l m) : Meets l m .start := by
  rcases m with ⟨playerState, mediaSync, demux, audioDecode, videoDecode, resample, videoView,
    audioPlay, out, listener, window⟩
  obtain ⟨released, state, ⟨demux, rfl⟩, ⟨audio, rfl⟩, ⟨video, rfl, decoder⟩, ⟨channels, rfl⟩, view,
    rfl⟩ := alive
  refine ⟨fun _ => ?_, by rintro ⟨⟩⟩
  unfold call MediaPlayer.start
  simp only [deref_some, bind, Except.bind]
  split_ifs
  · exact ⟨_, rfl, Or.inl ⟨released, state, ⟨_, rfl⟩, ⟨_, rfl⟩, ⟨_, rfl, decoder⟩, ⟨_, rfl⟩, view,
      rfl⟩⟩
  · exact ⟨_, rfl, Or.inl ⟨released, state, ⟨_, rfl⟩, ⟨_, rfl⟩, ⟨_, rfl, decoder⟩, ⟨_, rfl⟩, view,
      rfl⟩⟩

/-- **Both decoders are opened when the container has streams**, and one of them crashes else. -/
theorem Alive.decoders (alive : Alive l m) (demux : Demux) (opened : source.container = some c) :
    (c.streams.isEmpty = true →
        ∃ pointer, m.openVideo (demux.openUrl source).1 source.video = .error pointer) ∧
      (c.streams.isEmpty = false → ∃ m₁ m₂,
        m.openVideo (demux.openUrl source).1 source.video = .ok m₁ ∧
          m₁.openAudio (demux.openUrl source).1 source.audio = .ok m₂ ∧
          Alive { l with hasVideo := l.hasVideo || source.findsVideo } m₁ ∧
          Alive { l with hasVideo := l.hasVideo || source.findsVideo } m₂ ∧
          m₂.audioOutParam = m.audioOutParam) := by
  obtain ⟨-, context, videoIndex, audioIndex⟩ := openUrl_opened demux opened
  obtain ⟨video, thereVideo, ready, decoder⟩ := alive.videoDecode
  obtain ⟨audio, thereAudio⟩ := alive.audioDecode
  refine ⟨fun empty => ⟨_, openVideo_empty thereVideo context empty⟩, fun streams => ?_⟩
  obtain ⟨video', openedVideo, allocated, ready'⟩ := openVideo_spec source.video (m := m)
    thereVideo context streams videoIndex
  obtain ⟨audio', openedAudio⟩ := openAudio_spec source.audio
    (m := { m with videoDecode := some video' }) thereAudio context streams audioIndex
  have found : source.findsVideo = true ↔
      (c.best .video).isSome = true ∧ source.video matches .allocated .. := by
    simp only [Source.findsVideo, opened, Option.any_some, Bool.and_eq_true]
  have video : video'.codecContext.isSome = (l.hasVideo || source.findsVideo) := by
    rw [Bool.eq_iff_iff, allocated, Bool.or_eq_true, found, decoder]
  exact ⟨_, _, openedVideo, openedAudio, ⟨alive.released, alive.playerState, alive.demux,
    alive.audioDecode, ⟨_, rfl, ready' ready, video⟩, alive.resample, alive.videoView,
    alive.audioPlay⟩, ⟨alive.released, alive.playerState, alive.demux, ⟨_, rfl⟩,
    ⟨_, rfl, ready' ready, video⟩, alive.resample, alive.videoView, alive.audioPlay⟩, rfl⟩

theorem Alive.withDemux (alive : Alive l m) (demux : Demux) :
    Alive l { m with demux := some demux } :=
  ⟨alive.released, alive.playerState, ⟨_, rfl⟩, alive.audioDecode, alive.videoDecode,
    alive.resample, alive.videoView, alive.audioPlay⟩

theorem Alive.withUrl (alive : Alive l m) (playerState : PlayerState) (url : String) :
    Alive { l with hasUrl := url ≠ "" }
      { m with playerState := some { playerState with url := url } } :=
  ⟨alive.released, ⟨_, rfl, rfl⟩, alive.demux, alive.audioDecode, alive.videoDecode,
    alive.resample, alive.videoView, alive.audioPlay⟩

/-- What is not opened has no video. -/
theorem findsVideo_failed (failed : source.container = none) : source.findsVideo = false := by
  rw [Source.findsVideo, failed]
  rfl

/-- **`setDataSource`** looks into `streams`. -/
theorem Alive.setDataSource (alive : Alive l m) (url : String) (source : Source) :
    Meets l m (.setDataSource url source) := by
  obtain ⟨playerState, thereState, -⟩ := alive.playerState
  obtain ⟨demux, thereDemux⟩ := alive.demux
  have with_url : Alive _ _ := (alive.withUrl playerState url).withDemux
    (demux.openUrl source).1
  have order : l.allows (.setDataSource url source) = source.hasStreams := by
    rw [Lifecycle.allows, alive.released]
    rfl
  cases opened : source.container with
  | none =>
    have failed := openUrl_failed demux opened
    have nothing : source.hasStreams = true := by
      rw [Source.hasStreams, opened]
      rfl
    refine ⟨fun _ => ?_, fun refused => by rw [order, nothing] at refused; cases refused⟩
    unfold call MediaPlayer.setDataSource
    simp only [thereState, deref_some, bind, Except.bind, thereDemux, failed, Bool.false_eq_true,
      if_false]
    refine ⟨_, rfl, Or.inl ?_⟩
    simpa only [Lifecycle.after, findsVideo_failed opened, Bool.or_false] using with_url
  | some c =>
    obtain ⟨success, -⟩ := openUrl_opened demux opened
    have streams : source.hasStreams = !c.streams.isEmpty := by
      rw [Source.hasStreams, opened]
      rfl
    obtain ⟨crash, decoders⟩ := with_url.decoders demux opened
    constructor
    · intro allowed
      rw [order, streams, Bool.not_eq_true'] at allowed
      obtain ⟨m₁, m₂, video, audio, alive₁, alive₂, -⟩ := decoders allowed
      obtain ⟨_, thereVideo, -⟩ := alive₁.videoDecode
      obtain ⟨_, thereAudio⟩ := alive₂.audioDecode
      refine ⟨m₂, ?_, Or.inl alive₂⟩
      unfold call MediaPlayer.setDataSource
      simp only [thereState, deref_some, bind, Except.bind, thereDemux, success, if_true, video,
        thereVideo, audio, thereAudio]
      rfl
    · intro refused
      rw [order, streams, Bool.not_eq_false'] at refused
      obtain ⟨pointer, video⟩ := crash refused
      refine ⟨pointer, ?_⟩
      unfold call MediaPlayer.setDataSource
      simp only [thereState, deref_some, bind, Except.bind, thereDemux, success, if_true, video]

/-- The window is set on a view that is there. -/
theorem Alive.setWindow (alive : Alive l m) : m.setWindow = .ok m := by
  unfold MediaPlayer.setWindow
  rw [alive.videoView]
  cases m.window <;> rfl

/-- A source without video, or without a url, changes nothing in a player's life. -/
theorem after_openSource_same (nothing : (l.hasUrl && source.findsVideo) = false) :
    l.after (.openSource source) = l := by
  rw [Lifecycle.after, nothing, Bool.or_false]

/-- Without a url, `openSource` does nothing. -/
theorem Alive.openSource_withoutUrl (alive : Alive l m) (source : Source)
    (order : l.allows (.openSource source) = (!l.hasUrl || source.hasAudio))
    {playerState : PlayerState} (thereState : m.playerState = some playerState)
    (empty : playerState.url = "") (none : l.hasUrl = false) : Meets l m (.openSource source) := by
  have same : l.after (.openSource source) = l :=
    after_openSource_same (by rw [none, Bool.false_and])
  refine ⟨fun _ => ⟨_, ?_, Or.inl (same.symm ▸ alive)⟩, fun refused => by
    rw [order, none] at refused
    cases refused⟩
  unfold call MediaPlayer.openSource
  simp only [thereState, deref_some, bind, Except.bind, empty, if_true]
  rfl

/-- A source that does not open leaves the player as it was. -/
theorem Alive.openSource_failed (alive : Alive l m) (source : Source)
    (order : l.allows (.openSource source) = (!l.hasUrl || source.hasAudio))
    {playerState : PlayerState} (thereState : m.playerState = some playerState)
    (url : ¬playerState.url = "") (opened : source.container = none) :
    Meets l m (.openSource source) := by
  rcases m with ⟨state, mediaSync, demux, audioDecode, videoDecode, resample, videoView, audioPlay,
    out, listener, window⟩
  cases thereState
  obtain ⟨demux, rfl⟩ : ∃ d, demux = some d := alive.demux
  have failed := openUrl_failed demux opened
  have nothing : source.hasAudio = true := by
    rw [Source.hasAudio, opened]
    rfl
  refine ⟨fun _ => ?_, fun refused => by
    rw [order, nothing, Bool.or_true] at refused
    cases refused⟩
  unfold call MediaPlayer.openSource
  simp only [deref_some, bind, Except.bind, url, if_false, failed,
    Bool.false_eq_true]
  refine ⟨_, rfl, Or.inl ?_⟩
  rw [after_openSource_same (by rw [findsVideo_failed opened, Bool.and_false])]
  exact alive.withDemux (demux.openUrl source).1

/-- A source that opens is asked for its audio parameters after the decoders are open. -/
theorem Alive.openSource_opened (alive : Alive l m) (source : Source)
    (order : l.allows (.openSource source) = (!l.hasUrl || source.hasAudio))
    {playerState : PlayerState} (thereState : m.playerState = some playerState)
    (url : ¬playerState.url = "") (some_url : l.hasUrl = true) {c : AVFormatContext}
    (opened : source.container = some c) : Meets l m (.openSource source) := by
  rcases m with ⟨state, mediaSync, demux, audioDecode, videoDecode, resample, videoView, audioPlay,
    out, listener, window⟩
  cases thereState
  obtain ⟨demux, rfl⟩ : ∃ d, demux = some d := alive.demux
  obtain ⟨success, context, -⟩ := openUrl_opened demux opened
  have audio : source.hasAudio = (c.best .audio).isSome := by
    rw [Source.hasAudio, opened]
    rfl
  obtain ⟨crash, decoders⟩ := (alive.withDemux (demux.openUrl source).1).decoders demux opened
  by_cases streams : c.streams.isEmpty = true
  · have refused : ¬(c.best .audio).isSome = true := fun best => by
      rw [streams_of_best best] at streams
      cases streams
    refine ⟨fun allowed => ?_, fun _ => ?_⟩
    · rw [order, some_url, audio] at allowed
      exact absurd allowed refused
    · obtain ⟨pointer, video⟩ := crash streams
      refine ⟨pointer, ?_⟩
      unfold call MediaPlayer.openSource
      simp only [deref_some, bind, Except.bind, url, if_false, success,
        if_true, video]
  obtain ⟨m₁, m₂, openedVideo, openedAudio, alive₁, alive₂, -⟩ :=
    decoders (eq_false_of_ne_true streams)
  obtain ⟨r, thereResample⟩ := alive₂.resample
  obtain ⟨resampled, fails⟩ := openResample_spec
    (m := { m₂ with audioOutParam := (demux.openUrl source).1.getAudioParameter })
    thereResample context rfl
  constructor
  · intro allowed
    rw [order, some_url, audio] at allowed
    obtain ⟨channels, resample⟩ := resampled allowed
    have alive₃ : Alive { l with hasVideo := l.hasVideo || source.findsVideo }
        { m₂ with
          audioOutParam := (demux.openUrl source).1.getAudioParameter
          resample := some channels } :=
      ⟨alive₂.released, alive₂.playerState, alive₂.demux, alive₂.audioDecode, alive₂.videoDecode,
        ⟨_, rfl⟩, alive₂.videoView, alive₂.audioPlay⟩
    have same : l.after (.openSource source) =
        { l with hasVideo := l.hasVideo || source.findsVideo } := by
      simp only [Lifecycle.after, some_url, Bool.true_and]
    refine ⟨_, ?_, Or.inl (same.symm ▸ alive₃)⟩
    unfold call MediaPlayer.openSource
    simp only [deref_some, bind, Except.bind, url, if_false, success,
      if_true, openedVideo, openedAudio, resample]
    exact alive₃.setWindow
  · intro refused
    rw [order, some_url, audio] at refused
    refine ⟨.parameters, ?_⟩
    unfold call MediaPlayer.openSource
    simp only [deref_some, bind, Except.bind, url, if_false, success,
      if_true, openedVideo, openedAudio, fails refused]

/-- **`openSource`** reads the parameters of the audio stream. -/
theorem Alive.openSource (alive : Alive l m) (source : Source) :
    Meets l m (.openSource source) := by
  have order : l.allows (.openSource source) = (!l.hasUrl || source.hasAudio) := by
    rw [Lifecycle.allows, alive.released]
    rfl
  obtain ⟨playerState, thereState, url⟩ := alive.playerState
  by_cases empty : playerState.url = ""
  · have none : l.hasUrl = false := by
      rw [url]
      exact decide_eq_false (not_not.mpr empty)
    exact alive.openSource_withoutUrl source order thereState empty none
  · have some_url : l.hasUrl = true := by
      rw [url]
      exact decide_eq_true empty
    cases opened : source.container with
    | none => exact alive.openSource_failed source order thereState empty opened
    | some c => exact alive.openSource_opened source order thereState empty some_url opened

/-- **Every call** of a player that was not released. -/
theorem Alive.meets (alive : Alive l m) (c : Call) : Meets l m c := by
  cases c with
  | setDataSource url source => exact alive.setDataSource url source
  | openSource source => exact alive.openSource source
  | start => exact alive.start
  | initView window =>
    exact ⟨fun _ => ⟨_, rfl, Or.inl ⟨alive.released, alive.playerState, alive.demux,
      alive.audioDecode, alive.videoDecode, alive.resample, alive.videoView, alive.audioPlay⟩⟩,
      by rintro ⟨⟩⟩
  | release => exact ⟨fun _ => ⟨_, rfl, Or.inr ⟨rfl, rfl, rfl, rfl⟩⟩, by rintro ⟨⟩⟩
  | pause =>
    have calls : m.call .pause = do
        let playerState ← deref .playerState m.playerState
        return { m with playerState := some { playerState with pauseRequest := true } } := rfl
    exact alive.flag calls (fun _ => rfl) rfl rfl
  | resume =>
    have calls : m.call .resume = do
        let playerState ← deref .playerState m.playerState
        return { m with playerState := some { playerState with pauseRequest := false } } := rfl
    exact alive.flag calls (fun _ => rfl) rfl rfl
  | stop =>
    have calls : m.call .stop = do
        let playerState ← deref .playerState m.playerState
        return { m with playerState := some { playerState with abortRequest := true } } := rfl
    exact alive.flag calls (fun _ => rfl) rfl rfl
  | getVideoWidth =>
    exact alive.contextGetter (·.width) rfl rfl (by rw [Lifecycle.allows, alive.released]; rfl)
      fun d there => by rw [getVideoWidth, there]
  | getVideoHeight =>
    exact alive.contextGetter (·.height) rfl rfl (by rw [Lifecycle.allows, alive.released]; rfl)
      fun d there => by rw [getVideoHeight, there]
  | getDuration =>
    refine alive.getters rfl rfl (by rw [Lifecycle.allows, alive.released]; rfl) fun d there =>
      ⟨fun container allocated => ?_, fun none => ?_⟩
    · obtain ⟨duration, known⟩ := Option.isSome_iff_exists.mp container
      obtain ⟨context, found⟩ := Option.isSome_iff_exists.mp allocated
      exact ⟨context.height, by rw [getDuration, there]; simp only [known, found]; rfl⟩
    · rw [Option.isSome_eq_false_iff, Option.isNone_iff_eq_none] at none
      rw [getDuration, there]
      simp only [none]
      cases d.formatCtx with
      | none => exact ⟨.formatCtx, rfl⟩
      | some duration => exact ⟨.codecContext, rfl⟩

/-! ### The main result -/

/-- **A call crashes exactly when it is out of order.** -/
theorem Follows.meets (follows : Follows l m) (c : Call) : Meets l m c :=
  follows.elim (fun alive => alive.meets c) fun gone => gone.meets c

/-- No call of the sequence dereferences a null pointer. -/
def NullSafe (m : MediaPlayer) (cs : List Call) : Prop := ∃ m', m.calls cs = .ok m'

/-- A sequence of calls from any point of a player's life. -/
theorem Follows.nullSafe_iff (follows : Follows l m) (cs : List Call) :
    m.NullSafe cs ↔ l.allowsAll cs = true := by
  induction cs generalizing l m with
  | nil => exact iff_of_true ⟨m, rfl⟩ rfl
  | cons c cs ih =>
    obtain ⟨returns, crashes⟩ := follows.meets c
    rw [Lifecycle.allowsAll, NullSafe, calls]
    cases order : l.allows c with
    | true =>
      obtain ⟨m', called, follows'⟩ := returns order
      simp only [called, bind, Except.bind, Bool.true_and]
      exact ih follows'
    | false =>
      obtain ⟨pointer, null⟩ := crashes order
      simp only [null, bind, Except.bind, Bool.false_and]
      exact iff_of_false (by rintro ⟨_, ⟨⟩⟩) Bool.false_ne_true

/-- **A new player survives exactly the sequences of calls that are in order.** -/
theorem mediaPlayer_nullSafe_iff (window jniListener : Option Unit) (cs : List Call) :
    (buildPlayer window jniListener).NullSafe cs ↔ Lifecycle.built.allowsAll cs = true :=
  (follows_built window jniListener).nullSafe_iff cs

/-- A container with one video stream, for which no decoder is found. -/
def videoOnly : Source where
  opening := .opened
    { streams := [⟨.video, ⟨1, 1000⟩, ⟨25, 1⟩⟩]
      best := fun kind => if kind = .video then some 0 else none
      best_type := by
        intro kind i best
        split_ifs at best with video
        cases best
        rw [video]
        rfl }
  codecpar _ := ⟨0, 0, 0⟩
  duration := 0
  video := .notFound
  audio := .notFound

/-- **Three ways to a null pointer**: a getter of a player without a source, a source after
`release`, and a container without audio. -/
theorem mediaPlayer_crashes :
    (buildPlayer none none).calls [.getVideoWidth] = .error .codecContext ∧
      (buildPlayer none none).calls [.release, .setDataSource "a.mp4" videoOnly] =
        .error .playerState ∧
      (buildPlayer none none).calls [.setDataSource "a.mp4" videoOnly, .openSource videoOnly] =
        .error .parameters :=
  ⟨rfl, rfl, rfl⟩

end MediaPlayer

end Xplay
