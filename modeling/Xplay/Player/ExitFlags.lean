/-
**A player that was stopped does not play again.**

`stop()` sets `abortRequest` and the exit flag of every part. `start()` clears the flags of the
threads it starts (`XThread::start`, `MediaSync2::start`), but the audio player is not one of them,
and nothing clears `abortRequest`: `PlayerState::reset` has it commented out.

`running_iff`: after a `start()` at the end of any sequence of calls, with `readPacket` ending the
demuxer at end of file anywhere in between, the parts are allowed to run exactly when the player was
never stopped.
-/

import Xplay.Player.Lifecycle

namespace Xplay

/-- The exit flags: `isExit` of the parts, and `isExist` of the current `MediaSync2`. -/
structure ExitFlags where
  demux : Bool
  audioDecode : Bool
  videoDecode : Bool
  resample : Bool
  audioPlay : Bool
  mediaSync : Bool
  deriving DecidableEq

namespace ExitFlags

/-- A new part is not asked to exit. -/
def new : ExitFlags := ⟨false, false, false, false, false, false⟩

/-- `MediaPlayer::start`: `XThread::start` of the threads, and a new `MediaSync2`. The audio player
is started by `startPlay`, which does not touch its flag. -/
def start (f : ExitFlags) : ExitFlags :=
  { f with
    demux := false, audioDecode := false, videoDecode := false, resample := false
    mediaSync := false }

/-- `MediaPlayer::stop`: every part that is there is stopped. -/
def stop (f : ExitFlags) (m : MediaPlayer) : ExitFlags where
  demux := f.demux || m.demux.isSome
  audioDecode := f.audioDecode || m.audioDecode.isSome
  videoDecode := f.videoDecode || m.videoDecode.isSome
  resample := f.resample || m.resample.isSome
  audioPlay := f.audioPlay || m.audioPlay.isSome
  mediaSync := f.mediaSync || m.mediaSync.isSome

/-- The flags after a call that returned. -/
def after (f : ExitFlags) (m : MediaPlayer) : MediaPlayer.Call → ExitFlags
  | .start => if m.demux.isSome then f.start else f
  | .stop => f.stop m
  | .setDataSource .. | .initView _ | .openSource _ | .pause | .resume | .getVideoWidth
  | .getVideoHeight | .getDuration | .release => f

end ExitFlags

/-- A player, and the flags of its parts. -/
structure Playback where
  player : MediaPlayer
  flags : ExitFlags

namespace Playback

/-- A call, or the end of the file: `readPacket` stops its own demuxer. -/
inductive Event
  | call (c : MediaPlayer.Call)
  | endOfFile

/-- The event is a `stop()`. -/
def Event.stops : Event → Bool
  | .call .stop => true
  | _ => false

/-- A new player. -/
def built (window jniListener : Option Unit) : Playback :=
  ⟨MediaPlayer.buildPlayer window jniListener, .new⟩

/-- What an event leaves behind, or the pointer that a call found null. -/
def event (p : Playback) : Event → Except Pointer Playback
  | .call c => do
    let player ← p.player.call c
    return ⟨player, p.flags.after p.player c⟩
  | .endOfFile => .ok { p with flags := { p.flags with demux := true } }

/-- A sequence of events. -/
def events (p : Playback) : List Event → Except Pointer Playback
  | [] => .ok p
  | e :: es => do
    let p ← p.event e
    p.events es

/-- **The parts are allowed to run.** -/
structure Running (p : Playback) : Prop where
  abortRequest : p.player.playerState.map PlayerState.abortRequest = some false
  mediaSync : p.player.mediaSync.isSome
  flags : p.flags = .new

/-! ### What a call does to the flags -/

theorem ok_of_bind {α β : Type} {x : Except Pointer α} {f : α → Except Pointer β} {b : β}
    (returned : (x >>= f) = .ok b) : ∃ a, x = .ok a ∧ f a = .ok b := by
  cases x with
  | error pointer => cases returned
  | ok a => exact ⟨a, rfl, returned⟩

theorem known_of_deref {α : Type} {pointer : Pointer} {x : Option α} {a : α}
    (there : deref pointer x = .ok a) : x = some a := by
  cases x with
  | none => cases there
  | some b =>
    cases there
    rfl

section Opening

variable {m m' : MediaPlayer} {demux : Demux}

/-- Opening the decoders, the resampler and the window leaves `playerState` alone. -/
theorem openVideo_playerState {decoder : Decoder} (returned : m.openVideo demux decoder = .ok m') :
    m'.playerState = m.playerState := by
  unfold MediaPlayer.openVideo at returned
  split at returned
  · cases returned
    rfl
  · obtain ⟨_, -, returned⟩ := ok_of_bind returned
    obtain ⟨_, -, returned⟩ := ok_of_bind returned
    cases returned
    rfl

theorem openAudio_playerState {decoder : Decoder} (returned : m.openAudio demux decoder = .ok m') :
    m'.playerState = m.playerState := by
  unfold MediaPlayer.openAudio at returned
  split at returned
  · cases returned
    rfl
  · obtain ⟨_, -, returned⟩ := ok_of_bind returned
    obtain ⟨_, -, returned⟩ := ok_of_bind returned
    cases returned
    rfl

theorem openResample_playerState (returned : m.openResample demux = .ok m') :
    m'.playerState = m.playerState := by
  unfold MediaPlayer.openResample at returned
  split at returned
  · cases returned
    rfl
  · obtain ⟨_, -, returned⟩ := ok_of_bind returned
    cases returned
    rfl

theorem setWindow_playerState (returned : m.setWindow = .ok m') :
    m'.playerState = m.playerState := by
  unfold MediaPlayer.setWindow at returned
  split at returned
  · cases returned
    rfl
  · obtain ⟨_, -, returned⟩ := ok_of_bind returned
    cases returned
    rfl

theorem setDataSource_abortRequest {url : String} {source : Source}
    (returned : m.setDataSource url source = .ok m') :
    m'.playerState.map PlayerState.abortRequest =
      m.playerState.map PlayerState.abortRequest := by
  unfold MediaPlayer.setDataSource at returned
  obtain ⟨playerState, there, returned⟩ := ok_of_bind returned
  rw [known_of_deref there]
  dsimp only at returned
  split at returned
  · cases returned
    rfl
  · split at returned
    · obtain ⟨m₁, video, returned⟩ := ok_of_bind returned
      obtain ⟨_, -, returned⟩ := ok_of_bind returned
      obtain ⟨m₂, audio, returned⟩ := ok_of_bind returned
      obtain ⟨_, -, returned⟩ := ok_of_bind returned
      cases returned
      rw [openAudio_playerState audio, openVideo_playerState video]
      rfl
    · cases returned
      rfl

theorem openSource_playerState {source : Source} (returned : m.openSource source = .ok m') :
    m'.playerState = m.playerState := by
  unfold MediaPlayer.openSource at returned
  obtain ⟨playerState, -, returned⟩ := ok_of_bind returned
  split at returned
  · cases returned
    rfl
  · split at returned
    · cases returned
      rfl
    · dsimp only at returned
      split at returned
      · obtain ⟨m₁, video, returned⟩ := ok_of_bind returned
        obtain ⟨m₂, audio, returned⟩ := ok_of_bind returned
        obtain ⟨m₃, resample, returned⟩ := ok_of_bind returned
        rw [setWindow_playerState returned, openResample_playerState resample]
        show m₂.playerState = _
        rw [openAudio_playerState audio, openVideo_playerState video]
      · cases returned
        rfl

end Opening

/-- `start` makes a `MediaSync2`, and leaves `playerState` alone. -/
theorem start_spec {m m' : MediaPlayer} (returned : m.start = .ok m') :
    m'.playerState = m.playerState ∧ (m.demux.isSome → m'.mediaSync.isSome) := by
  unfold MediaPlayer.start at returned
  split at returned
  · next none =>
    cases returned
    exact ⟨rfl, fun there => by rw [none] at there; cases there⟩
  · obtain ⟨_, -, returned⟩ := ok_of_bind returned
    obtain ⟨_, -, returned⟩ := ok_of_bind returned
    obtain ⟨_, -, returned⟩ := ok_of_bind returned
    obtain ⟨_, -, returned⟩ := ok_of_bind returned
    cases returned
    refine ⟨?_, fun _ => rfl⟩
    dsimp only
    split <;> rfl

/-! ### What a stopped player keeps -/

/-- **The invariant**: the player is there, and `abortRequest` and the flag of the audio player tell
whether it was ever stopped. -/
structure Stopped (p : Playback) (stopped : Bool) : Prop where
  follows : ∃ l, MediaPlayer.Alive l p.player
  abortRequest : p.player.playerState.map PlayerState.abortRequest = some stopped
  audioPlay : p.flags.audioPlay = stopped

theorem stopped_built (window jniListener : Option Unit) :
    Stopped (built window jniListener) false where
  follows := by
    rcases MediaPlayer.follows_built window jniListener with alive | gone
    · exact ⟨_, alive⟩
    · cases gone.released
  abortRequest := rfl
  audioPlay := rfl

/-- Only `release` releases. -/
theorem after_released {l : Lifecycle} {c : MediaPlayer.Call} (kept : c ≠ .release) :
    (l.after c).released = l.released := by
  cases c <;> first | rfl | exact absurd rfl kept

/-- A call that returns leaves a player that was not released there. -/
theorem alive_call {l : Lifecycle} {m m' : MediaPlayer} {c : MediaPlayer.Call}
    (alive : MediaPlayer.Alive l m) (kept : c ≠ .release) (returned : m.call c = .ok m') :
    ∃ l', MediaPlayer.Alive l' m' := by
  obtain ⟨returns, crashes⟩ := alive.meets c
  cases allowed : l.allows c with
  | false =>
    obtain ⟨pointer, null⟩ := crashes allowed
    cases returned.symm.trans null
  | true =>
    obtain ⟨m'', same, follows⟩ := returns allowed
    cases returned.symm.trans same
    rcases follows with alive' | gone
    · exact ⟨_, alive'⟩
    · cases gone.released.symm.trans ((after_released kept).trans alive.released)

/-- The calls that write neither `abortRequest` nor the flag of the audio player. -/
theorem call_abortRequest {m m' : MediaPlayer} {c : MediaPlayer.Call} (kept : c ≠ .release)
    (other : c ≠ .stop) (returned : m.call c = .ok m') :
    m'.playerState.map PlayerState.abortRequest =
      m.playerState.map PlayerState.abortRequest := by
  have flag : ∀ {pauseRequest : Bool}, m.setPause pauseRequest = .ok m' →
      m'.playerState.map PlayerState.abortRequest =
        m.playerState.map PlayerState.abortRequest := by
    intro pauseRequest returned
    obtain ⟨playerState, there, returned⟩ := ok_of_bind returned
    rw [known_of_deref there]
    cases returned
    rfl
  have getter : ∀ {get : Except Pointer Int}, (get.map fun _ => m) = .ok m' → m' = m := by
    intro get returned
    cases get <;> cases returned
    rfl
  cases c with
  | setDataSource url source => exact setDataSource_abortRequest returned
  | openSource source => rw [openSource_playerState returned]
  | start => rw [(start_spec returned).1]
  | pause => exact flag returned
  | resume => exact flag returned
  | getVideoWidth => rw [getter returned]
  | getVideoHeight => rw [getter returned]
  | getDuration => rw [getter returned]
  | initView window =>
    cases returned
    rfl
  | stop => exact absurd rfl other
  | release => exact absurd rfl kept

theorem stops_eq_false {e : Event} : e.stops = false ↔ e ≠ .call .stop := by
  rcases e with c | _
  · cases c <;> simp [Event.stops]
  · simp [Event.stops]

theorem after_audioPlay {f : ExitFlags} {m : MediaPlayer} {c : MediaPlayer.Call}
    (other : c ≠ .stop) : (f.after m c).audioPlay = f.audioPlay := by
  cases c <;> first | rfl | exact absurd rfl other | skip
  unfold ExitFlags.after
  dsimp only
  split <;> rfl

/-- **The step lemma**: `stop()` stops the player for good, and nothing else does. -/
theorem Stopped.event {p p' : Playback} {stopped : Bool} {e : Event} (before : Stopped p stopped)
    (kept : e ≠ .call .release) (returned : p.event e = .ok p') :
    Stopped p' (stopped || e.stops) := by
  cases e with
  | endOfFile =>
    cases returned
    have same : (stopped || Event.endOfFile.stops) = stopped := Bool.or_false stopped
    rw [same]
    exact ⟨before.follows, before.abortRequest, before.audioPlay⟩
  | call c =>
    obtain ⟨m', called, returned⟩ := ok_of_bind returned
    cases returned
    have kept : c ≠ .release := fun same => kept (by rw [same])
    obtain ⟨l, alive⟩ := before.follows
    refine ⟨alive_call alive kept called, ?_, ?_⟩
    · by_cases other : c = .stop
      · subst other
        obtain ⟨playerState, -, called⟩ := ok_of_bind called
        cases called
        exact congrArg some (Bool.or_true stopped).symm
      · rw [stops_eq_false.mpr fun same => other (Event.call.inj same), Bool.or_false]
        exact (call_abortRequest kept other called).trans before.abortRequest
    · by_cases other : c = .stop
      · subst other
        show (p.flags.audioPlay || p.player.audioPlay.isSome) = (stopped || true)
        rw [alive.audioPlay, Option.isSome_some, Bool.or_true, Bool.or_true]
      · rw [stops_eq_false.mpr fun same => other (Event.call.inj same), Bool.or_false]
        exact (after_audioPlay other).trans before.audioPlay

/-- **The run lemma.** -/
theorem Stopped.events {p p' : Playback} {stopped : Bool} {es : List Event}
    (before : Stopped p stopped) (kept : .call .release ∉ es) (returned : p.events es = .ok p') :
    Stopped p' (stopped || es.any Event.stops) := by
  induction es generalizing p stopped with
  | nil =>
    cases returned
    rw [List.any_nil, Bool.or_false]
    exact before
  | cons e es ih =>
    obtain ⟨p₁, first, rest⟩ := ok_of_bind returned
    obtain ⟨kept, later⟩ := not_or.mp (List.mem_cons.not.mp kept)
    rw [List.any_cons, ← Bool.or_assoc]
    exact ih (before.event (Ne.symm kept) first) later rest

theorem events_append {p : Playback} {es es' : List Event} :
    p.events (es ++ es') = (p.events es >>= fun p => p.events es') := by
  induction es generalizing p with
  | nil => rfl
  | cons e es ih =>
    show (p.event e >>= fun p => p.events (es ++ es')) = (p.event e >>= _) >>= _
    cases p.event e with
    | error pointer => rfl
    | ok p₁ => exact ih

/-! ### The main result -/

/-- **After a `start()` the parts are allowed to run exactly when the player was never stopped**,
however often it was opened, paused, started or came to the end of its file, and whatever the last
`openSource()` opened. -/
theorem running_iff (window jniListener : Option Unit) (es : List Event) (p : Playback)
    (kept : .call .release ∉ es)
    (returned : (built window jniListener).events (es ++ [.call .start]) = .ok p) :
    Running p ↔ .call .stop ∉ es := by
  rw [events_append] at returned
  obtain ⟨q, returned, started⟩ := ok_of_bind returned
  obtain ⟨q', start, same⟩ := ok_of_bind started
  cases same
  obtain ⟨⟨l, alive⟩, abortRequest, audioPlay⟩ :=
    (stopped_built window jniListener).events kept returned
  obtain ⟨m', called, same⟩ := ok_of_bind start
  cases same
  obtain ⟨playerState, mediaSync⟩ := start_spec called
  obtain ⟨demux, there⟩ := alive.demux
  have stopped : (false || es.any Event.stops) = false ↔ .call .stop ∉ es := by
    simp only [Bool.false_or, List.any_eq_false, Bool.not_eq_true, stops_eq_false]
    exact ⟨fun none member => none _ member rfl, fun absent e member same => absent (same ▸ member)⟩
  have flags : q.flags.after q.player .start = q.flags.start := by
    show (if q.player.demux.isSome then q.flags.start else q.flags) = _
    rw [there]
    rfl
  rw [← stopped]
  constructor
  · intro running
    have cleared : q.flags.after q.player .start = ExitFlags.new := running.flags
    rw [flags] at cleared
    exact audioPlay.symm.trans (congrArg ExitFlags.audioPlay cleared)
  · intro never
    rw [never] at abortRequest audioPlay
    refine ⟨(congrArg _ playerState).trans abortRequest, mediaSync (by rw [there]; rfl), ?_⟩
    show q.flags.after q.player .start = _
    rw [flags, ExitFlags.start, audioPlay]
    rfl

/-- A container with a video and an audio stream. -/
def movie : Source where
  opening := .opened
    { streams := [⟨.video, ⟨1, 1000⟩, ⟨25, 1⟩⟩, ⟨.audio, ⟨1, 1000⟩, ⟨0, 1⟩⟩]
      best := fun kind => if kind = .video then some 0 else if kind = .audio then some 1 else none
      best_type := by
        intro kind i best
        split_ifs at best with video audio
        · cases best
          rw [video]
          rfl
        · cases best
          rw [audio]
          rfl }
  codecpar _ := ⟨2, 44100, 1⟩
  duration := 0
  video := .notFound
  audio := .notFound

/-- **Stopped once**: the movie is opened again and started, and every loop leaves at once. -/
theorem stopped_forever :
    ¬∀ p, (built none none).events (.call (.setDataSource "a.mp4" movie) :: .call .stop ::
      .call (.openSource movie) :: [.call .start]) = .ok p → Running p := by
  intro allowed
  have running := allowed _ rfl
  cases running.abortRequest

/-- The theorem applied to a player that is opened and started. -/
theorem started_runs : ∃ p, (built none none).events (.call (.setDataSource "a.mp4" movie) ::
    .call (.openSource movie) :: [.call .start]) = .ok p ∧ Running p :=
  ⟨_, rfl, (running_iff none none [.call (.setDataSource "a.mp4" movie),
    .call (.openSource movie)] _ (by simp) rfl).mpr (by simp)⟩

end Playback

end Xplay
