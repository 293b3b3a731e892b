/-
**A call goes through, when no mutex ahead of it is jammed.**

Whoever has one of the mutexes has a way to its `unlock`. Each link of the chain to it has a count of
the steps ahead, which some run of the workers lowers:

* `observer_advances` — of the audio threads, while one of them has `IObserver::mutex`.
* `decoder_woken` — of the decoders, when one of them waits for room and the player plays.
* `demux_advances` — of the demux threads, while one of them has `FFDemux::mutex`.
* `completes_caller` — so the call in progress ends, and after it whoever waits for it.
-/

import Xplay.Player.UiCallsClear

namespace Xplay.UiCalls

open Lib

variable {s t : State} {l : Label}

/-! ### Steps of the workers -/

/-- A step of a worker. -/
def Label.works : Label → Bool
  | .ask _ _ | .lock _ | .exec _ => false
  | _ => true

/-- A step of a worker behind the frame queues. -/
def Label.plays : Label → Bool
  | .audioSync _ _ | .videoSync _ _ | .callback _ => true
  | _ => false

/-- Some run of the workers leads there. -/
def Leads (s t : State) : Prop := system.ReachesBy (fun l => l.works = true) s t

/-- So does one of those behind the frame queues. -/
def Plays (s t : State) : Prop := system.ReachesBy (fun l => l.plays = true) s t

theorem works_of_plays (plays : l.plays = true) : l.works = true := by
  cases l <;> first | rfl | cases plays

theorem Plays.leads (reach : Plays s t) : Leads s t := reach.imp fun _ => works_of_plays

theorem not_exec_of_works (works : l.works = true) : ∀ ok, l ≠ .exec ok := by
  rintro ok rfl
  cases works

theorem not_lock_of_works (works : l.works = true) : ∀ n, l ≠ .lock n := by
  rintro n rfl
  cases works

theorem next_demux {i : Nat} {read : Read} {loc loc' : DemuxLoc} (here : s.demux[i]? = some loc)
    (moves : s.demuxNext read loc = some (t, loc')) :
    system.next s (.demux i read) = some { t with demux := t.demux.set i loc' } := by
  change next s (.demux i read) = _
  simp [next, here, moves]

theorem next_decode {k : Kind} {i : Nat} {made : Bool} {loc loc' : DecodeLoc}
    (here : (s.decode k)[i]? = some loc) (moves : s.decodeNext k made loc = some (t, loc')) :
    system.next s (.decode k i made) = some (t.setDecode k ((t.decode k).set i loc')) := by
  change next s (.decode k i made) = _
  simp [next, here, moves]

theorem next_audioSync {i : Nat} {got : Bool} {loc loc' : AudioLoc}
    (here : s.audioSync[i]? = some loc) (moves : s.audioNext got loc = some (t, loc')) :
    system.next s (.audioSync i got) = some { t with audioSync := t.audioSync.set i loc' } := by
  change next s (.audioSync i got) = _
  simp [next, here, moves]

theorem next_videoSync {i : Nat} {got : Bool} {loc loc' : VideoLoc}
    (here : s.videoSync[i]? = some loc) (moves : s.videoNext got loc = some (t, loc')) :
    system.next s (.videoSync i got) = some { t with videoSync := t.videoSync.set i loc' } := by
  change next s (.videoSync i got) = _
  simp [next, here, moves]

theorem next_callback {i : Nat} {loc loc' : CallbackLoc} (here : s.callback[i]? = some loc)
    (moves : s.callbackNext loc = some (t, loc')) :
    system.next s (.callback i) = some { t with callback := t.callback.set i loc' } := by
  change next s (.callback i) = _
  simp [next, here, moves]

/-! ### `IObserver::mutex` -/

/-- The steps of an audio thread to the end of its round. -/
def AudioLoc.ahead (observers : Nat) : AudioLoc → Nat
  | .exited | .popping => 0
  | .updating => 1
  | .looking => 2
  | .top => 3
  | .putting n => 3 * n + 1
  | .putWoken n => 3 * n + 2
  | .putWaiting n => 3 * n + 3
  | .notifying => 3 * observers + 4

/-- What is ahead of the audio threads; the first frame they pop makes no room. -/
def State.audioAhead (s : State) : Nat :=
  (s.audioSync.map (AudioLoc.ahead s.observers)).sum + if s.showIndex .audio then 0 else 4

theorem ahead_wakePut (observers : Nat) (loc : AudioLoc) :
    loc.wakePut.ahead observers ≤ loc.ahead observers := by
  cases loc <;> simp [AudioLoc.wakePut, AudioLoc.ahead]

theorem audioAhead_set {i : Nat} {loc loc' : AudioLoc} (here : s.audioSync[i]? = some loc)
    (less : loc'.ahead s.observers < loc.ahead s.observers) :
    { s with audioSync := s.audioSync.set i loc' }.audioAhead < s.audioAhead := by
  have sum := Crew.sum_map_set_add (AudioLoc.ahead s.observers) here loc'
  unfold State.audioAhead
  dsimp only
  omega

/-- An audio thread moves on. -/
theorem audioSync_advances {i : Nat} {got : Bool} {loc loc' : AudioLoc}
    (here : s.audioSync[i]? = some loc) (moves : s.audioNext got loc = some (s, loc'))
    (less : loc'.ahead s.observers < loc.ahead s.observers) :
    ∃ t, Plays s t ∧ t.audioAhead < s.audioAhead :=
  ⟨_, .single (l := .audioSync i got) rfl (next_audioSync here moves), audioAhead_set here less⟩

/-- One of them appends a PCM frame. -/
theorem put_advances {i n : Nat} {loc : AudioLoc} (here : s.audioSync[i]? = some loc)
    (moves : s.audioNext true loc = some (s.put, .putting n))
    (less : (AudioLoc.putting n).ahead s.observers < loc.ahead s.observers) :
    ∃ t, Plays s t ∧ t.audioAhead < s.audioAhead :=
  ⟨_, .single (l := .audioSync i true) rfl (next_audioSync here moves), audioAhead_set here less⟩

/-- A callback in `getData` takes a frame, and wakes the audio thread that waits for room. -/
theorem take_advances {i n : Nat} (waiting : .putWaiting n ∈ s.audioSync) (goes : s.playExit = false)
    (filled : s.pcm ≠ 0) {loc : CallbackLoc} (here : s.callback[i]? = some loc)
    (gets : loc = .getting ∨ loc = .getWoken) : ∃ t, Plays s t ∧ t.audioAhead < s.audioAhead := by
  have moves : s.callbackNext loc = some (s.take, .idle) := by
    rcases gets with rfl | rfl <;> simp [State.callbackNext, State.takeNext, goes, filled]
  refine ⟨_, .single (l := .callback i) rfl (next_callback here moves), ?_⟩
  have less := Crew.sum_map_wake_lt (f := AudioLoc.ahead s.observers) waiting
    (ahead_wakePut s.observers) (by simp [AudioLoc.wakePut, AudioLoc.ahead])
  exact Nat.add_lt_add_right less _

/-- So does one that is on its way there, and not held up by a pause. -/
theorem taker_advances {n : Nat} (buffered : Buffered s) (waiting : .putWaiting n ∈ s.audioSync)
    (goes : s.playExit = false) {loc : CallbackLoc} (member : loc ∈ s.callback)
    (taker : takes s.pauseRequest loc = true) : ∃ t, Plays s t ∧ t.audioAhead < s.audioAhead := by
  have filled : s.pcm ≠ 0 := Nat.ne_of_gt (Nat.zero_lt_of_lt (buffered.full n waiting))
  obtain ⟨i, here⟩ := List.getElem?_of_mem member
  cases loc with
  | getting => exact take_advances waiting goes filled here (.inl rfl)
  | getWoken => exact take_advances waiting goes filled here (.inr rfl)
  | getWaiting => exact absurd (buffered.empty member) filled
  | pausing =>
    have resumed : s.pauseRequest = false := by simpa [takes] using taker
    have moves : s.callbackNext .pausing = some (s, .getting) := by
      simp [State.callbackNext, resumed]
    have there : (s.callback.set i .getting)[i]? = some .getting := by
      obtain ⟨bound, -⟩ := List.getElem?_eq_some_iff.mp here
      rw [List.getElem?_set_self bound]
    obtain ⟨t, reach, less⟩ := take_advances (s := { s with callback := s.callback.set i .getting })
      waiting goes filled there (.inl rfl)
    exact ⟨t, .trans (.single (l := .callback i) rfl (next_callback here moves)) reach, less⟩
  | idle => cases taker
  | exited => cases taker

theorem mem_isPutWaiting {i n : Nat} (here : s.audioSync[i]? = some (.putWaiting n)) :
    s.audioSync.any AudioLoc.isPutWaiting = true :=
  List.any_eq_true.mpr ⟨_, List.mem_of_getElem? here, rfl⟩

theorem runs_of_plays (plays : s.halted = false) :
    s.pauseRequest = false ∧ s.abortRequest = false := by
  unfold State.halted at plays
  simpa using plays

/-- **While a callback is there and nothing is halted, somebody takes a frame.** -/
theorem callback_advances (sound : Sound s) (plays : s.halted = false) (sounds : s.callback ≠ [])
    {n : Nat} (waiting : .putWaiting n ∈ s.audioSync) :
    ∃ t, Plays s t ∧ t.audioAhead < s.audioAhead := by
  obtain ⟨resumed, goes⟩ := runs_of_plays plays
  have playing : s.playExit = false := by
    by_contra exit
    exact absurd (goes.symm.trans (sound.alive.exits (by simpa using exit))) (by simp)
  obtain ⟨loc, rest, callbacks⟩ := List.exists_cons_of_ne_nil sounds
  have member : loc ∈ s.callback := callbacks ▸ List.mem_cons_self
  by_cases idle : loc = .idle
  · subst idle
    have here : s.callback[0]? = some .idle := by rw [callbacks]; rfl
    have there : (s.callback.set 0 .getting)[0]? = some .getting := by rw [callbacks]; rfl
    have moves : s.callbackNext .idle = some (s, .getting) := by
      simp [State.callbackNext, resumed, goes, playing]
    have filled : s.pcm ≠ 0 := Nat.ne_of_gt (Nat.zero_lt_of_lt (sound.buffered.full n waiting))
    obtain ⟨t, reach, less⟩ := take_advances (s := { s with callback := s.callback.set 0 .getting })
      waiting playing filled there (.inl rfl)
    exact ⟨t, .trans (.single (l := .callback 0) rfl (next_callback here moves)) reach, less⟩
  · refine taker_advances sound.buffered waiting playing member ?_
    cases loc with
    | idle => exact absurd rfl idle
    | exited => exact absurd member (sound.alive.callback goes)
    | pausing => simp [takes, resumed]
    | _ => rfl

/-- **The audio thread with `IObserver::mutex` goes on**, when there is no jam. -/
theorem observer_advances (sound : Sound s) (clear : ¬s.ObserverJam) (held : s.observerHeld = true) :
    ∃ t, Plays s t ∧ t.audioAhead < s.audioAhead := by
  obtain ⟨loc, member, holds⟩ := List.any_eq_true.mp held
  obtain ⟨i, here⟩ := List.getElem?_of_mem member
  cases loc with
  | putting n =>
    cases n with
    | zero =>
      have moves : s.audioNext true (.putting 0) = some (s, .popping) := rfl
      exact audioSync_advances here moves (by simp [AudioLoc.ahead])
    | succ n =>
      by_cases full : maxFrameBuffer < s.pcm
      · have moves : s.audioNext true (.putting (n + 1)) = some (s, .putWaiting n) := if_pos full
        exact audioSync_advances here moves (by simp only [AudioLoc.ahead]; omega)
      · have moves : s.audioNext true (.putting (n + 1)) = some (s.put, .putting n) := if_neg full
        exact put_advances here moves (by simp only [AudioLoc.ahead]; omega)
  | putWoken n => exact put_advances here rfl (by simp [AudioLoc.ahead])
  | putWaiting n =>
    cases halted : s.halted with
    | true =>
      -- a callback that will take a frame
      have some : s.takers ≠ 0 := fun nobody =>
        clear (.inl ⟨halted, .inl ⟨mem_isPutWaiting here, nobody⟩⟩)
      unfold State.takers at some
      split_ifs at some with exit
      · exact absurd rfl some
      · obtain ⟨taker, inside, takesOne⟩ := List.countP_pos_iff.mp (Nat.pos_of_ne_zero some)
        exact taker_advances sound.buffered member (by simpa using exit) inside takesOne
    | false =>
      have sounds : s.callback ≠ [] := fun silent =>
        clear (.inr ⟨halted, silent, List.ne_nil_of_mem member⟩)
      exact callback_advances sound halted sounds member
  | _ => cases holds

theorem sound_next (sound : Sound s) (step : system.next s l = some t) : Sound t :=
  sound_step sound (steps_of_next step)

/-- **`IObserver::mutex` can be had.** -/
theorem observer_freed (sound : Sound s) (clear : ¬s.ObserverJam) :
    ∃ t, Plays s t ∧ (Sound t ∧ ¬t.ObserverJam) ∧ t.observerHeld = false := by
  refine System.reachesBy_final (I := fun s => Sound s ∧ ¬s.ObserverJam) State.audioAhead
    (fun s kept => ?_) s ⟨sound, clear⟩
  cases held : s.observerHeld with
  | false => exact .inl rfl
  | true =>
    obtain ⟨t, reach, less⟩ := observer_advances kept.1 kept.2 held
    refine .inr ⟨t, reach, ?_, less⟩
    exact System.invariant_reachesBy (I := fun s => Sound s ∧ ¬s.ObserverJam)
      (fun s l t kept plays step => ⟨sound_next kept.1 step, fun jam => kept.2
        (observerJam_back (steps_of_next step) (not_exec_of_works (works_of_plays plays)) jam)⟩)
      reach kept

/-! ### Room for a decoded frame -/

/-- The steps of a video thread to the end of its round. -/
def VideoLoc.ahead : VideoLoc → Nat
  | .exited | .popping => 0
  | .showing | .viewWaiting => 1
  | .looking => 2
  | .top => 3

/-- What is ahead of the video threads; the first frame they pop makes no room. -/
def State.videoAhead (s : State) : Nat :=
  (s.videoSync.map VideoLoc.ahead).sum + if s.showIndex .video then 0 else 4

/-- The steps of a decoder to its next pop. -/
def DecodeLoc.ahead : DecodeLoc → Nat
  | .exited | .popping => 0
  | .top | .popWaiting => 1
  | .filling | .decoding => 2
  | .peekWoken => 3
  | .peekWaiting => 4
  | .peeking => 5

/-- What is ahead of the decoders of `k`. -/
def State.decodeAhead (s : State) (k : Kind) : Nat := ((s.decode k).map DecodeLoc.ahead).sum

theorem ahead_wakePeek (loc : DecodeLoc) : loc.wakePeek.ahead ≤ loc.ahead := by
  cases loc <;> simp [DecodeLoc.wakePeek, DecodeLoc.ahead]

theorem decode_popFrame {k : Kind} (shown : s.showIndex k = true) :
    (s.popFrame k).decode k = (s.decode k).map DecodeLoc.wakePeek := by
  rw [State.popFrame, if_pos shown]
  change Function.update s.decode k _ k = _
  rw [Function.update_self]

theorem popFrame_kept {k : Kind} (kept : s.showIndex k = false) :
    s.popFrame k = { s with showIndex := Function.update s.showIndex k true } :=
  if_neg (by simp [kept])

/-- The player plays, and a demux thread has `FFDemux::mutex`, which is not jammed. -/
structure Goes (s : State) : Prop where
  sound : Sound s
  clear : ¬s.DemuxJam
  plays : s.halted = false
  held : s.demuxHeld = true
  spawned : ∀ n, s.caller ≠ some (n, [.startMediaSync])

namespace Goes

variable (goes : Goes s)
include goes

theorem loops : s.audioSync ≠ [] ∧ s.videoSync ≠ [] := by
  obtain ⟨loc, member, -⟩ := List.any_eq_true.mp goes.held
  refine (goes.sound.staffed.loops (List.ne_nil_of_mem member)).resolve_right ?_
  rintro ⟨n, spawning⟩
  exact goes.spawned n spawning

theorem alive : ∃ loc ∈ s.demux, loc ≠ .exited := by
  obtain ⟨loc, member, holds⟩ := List.any_eq_true.mp goes.held
  refine ⟨loc, member, ?_⟩
  rintro rfl
  cases holds

theorem sounds : s.callback ≠ [] := fun silent =>
  goes.clear (.inr ⟨.inl ⟨goes.plays, silent, goes.loops.1⟩, goes.alive⟩)

theorem lit : s.view = true := by
  by_contra dark
  exact goes.clear (.inr ⟨.inr ⟨goes.plays, by simpa using dark, goes.loops.2⟩, goes.alive⟩)

theorem observerClear : ¬s.ObserverJam := by
  rintro (⟨halted, -⟩ | mute)
  · exact absurd (goes.plays.symm.trans halted) (by simp)
  · exact goes.clear (.inr ⟨.inl mute, goes.alive⟩)

/-- A step of another worker keeps it. -/
theorem next (works : l.works = true) (step : system.next s l = some t)
    (demux : t.demux = s.demux) : Goes t where
  sound := sound_next goes.sound step
  clear jam := goes.clear (demuxJam_back goes.sound (steps_of_next step) (not_exec_of_works works) jam)
  plays := (stays_of_worker (steps_of_next step) (not_exec_of_works works)).halted.trans goes.plays
  held := by
    rw [State.demuxHeld, demux]
    exact goes.held
  spawned n := by
    rw [(caller_back (steps_of_next step) ⟨not_exec_of_works works, not_lock_of_works works⟩).1]
    exact goes.spawned n

/-- **An audio thread goes on**, or takes the frame that makes room. -/
theorem audio_advances : ∃ t, Plays s t ∧ (t.audioAhead < s.audioAhead ∨
    t.decode .audio = (s.decode .audio).map DecodeLoc.wakePeek) := by
  obtain ⟨resumed, running⟩ := runs_of_plays goes.plays
  by_cases held : s.observerHeld = true
  · obtain ⟨t, reach, less⟩ := observer_advances goes.sound goes.observerClear held
    exact ⟨t, reach, .inl less⟩
  have advance : ∀ {i : Nat} {got : Bool} {loc loc' : AudioLoc}, s.audioSync[i]? = some loc →
      s.audioNext got loc = some (s, loc') → loc'.ahead s.observers < loc.ahead s.observers →
        ∃ t, Plays s t ∧ (t.audioAhead < s.audioAhead ∨
          t.decode .audio = (s.decode .audio).map DecodeLoc.wakePeek) := by
    intro i got loc loc' here moves less
    obtain ⟨t, reach, less⟩ := audioSync_advances here moves less
    exact ⟨t, reach, .inl less⟩
  obtain ⟨loc, rest, loops⟩ := List.exists_cons_of_ne_nil goes.loops.1
  have member : loc ∈ s.audioSync := loops ▸ List.mem_cons_self
  have here : s.audioSync[0]? = some loc := by rw [loops]; rfl
  have free : loc.holds = false := by
    by_contra holds
    exact held (List.any_eq_true.mpr ⟨loc, member, by simpa using holds⟩)
  cases loc with
  | top =>
    have moves : s.audioNext true .top = some (s, .looking) := by
      simp [State.audioNext, resumed, running]
    exact advance here moves (by simp [AudioLoc.ahead])
  | looking =>
    have moves : s.audioNext true .looking = some (s, .updating) := rfl
    exact advance here moves (by simp [AudioLoc.ahead])
  | updating =>
    have moves : s.audioNext false .updating = some (s, .popping) := rfl
    exact advance here moves (by simp [AudioLoc.ahead])
  | notifying =>
    have moves : s.audioNext true .notifying = some (s, .putting s.observers) := if_neg held
    exact advance here moves (by simp only [AudioLoc.ahead]; omega)
  | popping =>
    have moves : s.audioNext true .popping = some (s.popFrame .audio, .top) := rfl
    refine ⟨_, .single (l := .audioSync 0 true) rfl (next_audioSync here moves), ?_⟩
    cases shown : s.showIndex .audio with
    | true => exact .inr (decode_popFrame shown)
    | false =>
      rw [popFrame_kept shown]
      have sum := Crew.sum_map_set_add (AudioLoc.ahead s.observers) here .top
      left
      simp only [State.audioAhead, AudioLoc.ahead, shown, Function.update_self, if_true,
        Bool.false_eq_true, if_false] at sum ⊢
      omega
  | exited => exact absurd member (goes.sound.alive.audioSync running)
  | _ => cases free

/-- **A video thread goes on**, or takes the frame that makes room. -/
theorem video_advances : ∃ t, Plays s t ∧ (t.videoAhead < s.videoAhead ∨
    t.decode .video = (s.decode .video).map DecodeLoc.wakePeek) := by
  obtain ⟨resumed, running⟩ := runs_of_plays goes.plays
  obtain ⟨loc, rest, loops⟩ := List.exists_cons_of_ne_nil goes.loops.2
  have member : loc ∈ s.videoSync := loops ▸ List.mem_cons_self
  have here : s.videoSync[0]? = some loc := by rw [loops]; rfl
  have advance : ∀ {loc' : VideoLoc}, s.videoNext true loc = some (s, loc') → loc'.ahead < loc.ahead →
      ∃ t, Plays s t ∧ (t.videoAhead < s.videoAhead ∨
        t.decode .video = (s.decode .video).map DecodeLoc.wakePeek) := by
    intro loc' moves less
    have sum := Crew.sum_map_set_add VideoLoc.ahead here loc'
    refine ⟨_, .single (l := .videoSync 0 true) rfl (next_videoSync here moves), .inl ?_⟩
    unfold State.videoAhead
    dsimp only
    omega
  cases loc with
  | top =>
    have moves : s.videoNext true .top = some (s, .looking) := by
      simp [State.videoNext, resumed, running]
    exact advance moves (by simp [VideoLoc.ahead])
  | looking =>
    have moves : s.videoNext true .looking = some (s, .showing) := rfl
    exact advance moves (by simp [VideoLoc.ahead])
  | showing =>
    have moves : s.videoNext true .showing = some (s, .popping) := by
      simp [State.videoNext, goes.lit]
    exact advance moves (by simp [VideoLoc.ahead])
  | popping =>
    have moves : s.videoNext true .popping = some (s.popFrame .video, .top) := rfl
    refine ⟨_, .single (l := .videoSync 0 true) rfl (next_videoSync here moves), ?_⟩
    cases shown : s.showIndex .video with
    | true => exact .inr (decode_popFrame shown)
    | false =>
      rw [popFrame_kept shown]
      have sum := Crew.sum_map_set_add VideoLoc.ahead here .top
      left
      simp only [State.videoAhead, VideoLoc.ahead, shown, Function.update_self, if_true,
        Bool.false_eq_true, if_false] at sum ⊢
      omega
  | viewWaiting => exact absurd (goes.lit.symm.trans (goes.sound.rendered.dark member)) (by simp)
  | exited => exact absurd member (goes.sound.alive.videoSync running)

end Goes

/-- The threads behind the frame queues leave the packets alone, and wake decoders, if anybody. -/
theorem beside_of_plays (plays : l.plays = true) (step : Steps s l t) :
    t.demux = s.demux ∧ t.packets = s.packets ∧ ∀ k, Woken (s.decode k) (t.decode k) := by
  cases step with
  | popAudio here wakes => exact ⟨rfl, rfl, wakes⟩
  | popVideo here wakes => exact ⟨rfl, rfl, wakes⟩
  | audioSync => exact ⟨rfl, rfl, fun _ => .inl rfl⟩
  | put => exact ⟨rfl, rfl, fun _ => .inl rfl⟩
  | videoSync => exact ⟨rfl, rfl, fun _ => .inl rfl⟩
  | callback => exact ⟨rfl, rfl, fun _ => .inl rfl⟩
  | take => exact ⟨rfl, rfl, fun _ => .inl rfl⟩
  | _ => cases plays

theorem ahead_of_woken {locs locs' : List DecodeLoc} (woken : Woken locs locs') :
    (locs'.map DecodeLoc.ahead).sum ≤ (locs.map DecodeLoc.ahead).sum := by
  rcases woken with rfl | rfl
  · exact Nat.le_refl _
  · exact Crew.sum_map_wake_le ahead_wakePeek

/-- **A decoder that waits for room is woken**, when the player plays. -/
theorem decoder_woken (goes : Goes s) {k : Kind} (waiting : .peekWaiting ∈ s.decode k) :
    ∃ t, Plays s t ∧ t.decodeAhead k < s.decodeAhead k := by
  have lower : ((s.decode k).map DecodeLoc.wakePeek |>.map DecodeLoc.ahead).sum < s.decodeAhead k :=
    Crew.sum_map_wake_lt waiting ahead_wakePeek (by simp [DecodeLoc.wakePeek, DecodeLoc.ahead])
  -- until then the decoders stay where they are
  have kept : ∀ {u v : State}, Plays u v →
      (Goes u ∧ (u.decode k = s.decode k ∨ u.decodeAhead k < s.decodeAhead k)) →
        Goes v ∧ (v.decode k = s.decode k ∨ v.decodeAhead k < s.decodeAhead k) := by
    intro u v reach
    refine System.invariant_reachesBy
      (I := fun u => Goes u ∧ (u.decode k = s.decode k ∨ u.decodeAhead k < s.decodeAhead k))
      (fun u l v holds plays step => ?_) reach
    obtain ⟨demux, -, wakes⟩ := beside_of_plays plays (steps_of_next step)
    refine ⟨holds.1.next (works_of_plays plays) step demux, ?_⟩
    rcases holds.2 with same | less
    · rcases wakes k with stays | woken
      · exact .inl (stays.trans same)
      · right
        rw [State.decodeAhead, woken, same]
        exact lower
    · exact .inr (Nat.lt_of_le_of_lt (ahead_of_woken (wakes k)) less)
  have advances : ∀ (ahead : State → Nat),
      (∀ u, Goes u → ∃ v, Plays u v ∧
        (ahead v < ahead u ∨ v.decode k = (u.decode k).map DecodeLoc.wakePeek)) →
      ∃ t, Plays s t ∧ t.decodeAhead k < s.decodeAhead k := by
    intro ahead goesOn
    obtain ⟨u, reach, -, v, rest, less⟩ := System.reachesBy_final
      (I := fun u => Goes u ∧ (u.decode k = s.decode k ∨ u.decodeAhead k < s.decodeAhead k))
      (F := fun u => ∃ v, Plays u v ∧ v.decodeAhead k < s.decodeAhead k) ahead
      (fun u holds => by
        rcases holds.2 with same | less
        · obtain ⟨v, reach, less | woken⟩ := goesOn u holds.1
          · exact .inr ⟨v, reach, kept reach holds, less⟩
          · refine .inl ⟨v, reach, ?_⟩
            rw [State.decodeAhead, woken, same]
            exact lower
        · exact .inl ⟨u, .refl u, less⟩)
      s ⟨goes, .inl rfl⟩
    exact ⟨v, reach.trans rest, less⟩
  cases k with
  | audio => exact advances State.audioAhead fun u goes => goes.audio_advances
  | video => exact advances State.videoAhead fun u goes => goes.video_advances

/-! ### `FFDemux::mutex` -/

/-- The steps of a demux thread to the end of its round, and those of a packet it pushes. -/
def DemuxLoc.ahead : DemuxLoc → Nat
  | .exited | .top => 0
  | .pushing _ => 2
  | .pushWaiting _ => 3
  | .routing _ => 4
  | .reading => 5
  | .checking => 6

/-- What is ahead of the demux threads, and of the packets. -/
def State.demuxAhead (s : State) : Nat :=
  (s.demux.map DemuxLoc.ahead).sum + s.packets .audio + s.packets .video

theorem ahead_wakePush (k : Kind) (loc : DemuxLoc) : (loc.wakePush k).ahead ≤ loc.ahead := by
  cases loc with
  | pushWaiting j => simp only [DemuxLoc.wakePush]; split_ifs <;> simp [DemuxLoc.ahead]
  | _ => exact Nat.le_refl _

/-- The packets after one of the counts was changed. -/
theorem packets_update (packets : Kind → Nat) (k : Kind) (n : Nat) :
    Function.update packets k n .audio + Function.update packets k n .video + packets k =
      packets .audio + packets .video + n := by
  cases k with
  | audio => simp; omega
  | video => simp; omega

theorem demuxAhead_set {i : Nat} {loc loc' : DemuxLoc} (here : s.demux[i]? = some loc)
    (less : loc'.ahead < loc.ahead) :
    { s with demux := s.demux.set i loc' }.demuxAhead < s.demuxAhead := by
  have sum := Crew.sum_map_set_add DemuxLoc.ahead here loc'
  unfold State.demuxAhead
  dsimp only
  omega

/-- A pop lowers what is ahead of the demux threads. -/
theorem pop_lowers {k : Kind} {i : Nat} (here : (s.decode k)[i]? = some .popping)
    (filled : s.packets k ≠ 0) : ∃ t, Leads s t ∧ t.demuxAhead < s.demuxAhead := by
  have moves : s.decodeNext k true .popping = some (s.popPacket k, .decoding) := if_neg filled
  refine ⟨_, .single (l := .decode k i true) rfl (next_decode here moves), ?_⟩
  have woken : ((s.demux.map (DemuxLoc.wakePush k)).map DemuxLoc.ahead).sum ≤
      (s.demux.map DemuxLoc.ahead).sum := Crew.sum_map_wake_le (ahead_wakePush k)
  have packets := packets_update s.packets k (s.packets k - 1)
  simp only [State.demuxAhead, State.setDecode, State.popPacket]
  omega

@[simp] theorem decodeAhead_setDecode (s : State) (k : Kind) (locs : List DecodeLoc) :
    (s.setDecode k locs).decodeAhead k = (locs.map DecodeLoc.ahead).sum := by
  change ((Function.update s.decode k locs k).map DecodeLoc.ahead).sum = _
  rw [Function.update_self]

/-- **A decoder goes on to its pop**, when the player plays. -/
theorem decoder_advances (goes : Goes s) {k : Kind} (filled : s.packets k ≠ 0) :
    (∃ t, Leads s t ∧ t.demuxAhead < s.demuxAhead) ∨ ∃ t, Leads s t ∧
      (Goes t ∧ t.demux = s.demux ∧ t.packets = s.packets) ∧ t.decodeAhead k < s.decodeAhead k := by
  obtain ⟨resumed, running⟩ := runs_of_plays goes.plays
  obtain ⟨_, busy, -⟩ := goes.alive
  obtain ⟨loc, rest, decoders⟩ :=
    List.exists_cons_of_ne_nil (goes.sound.staffed.decode (List.ne_nil_of_mem busy) k)
  have member : loc ∈ s.decode k := decoders ▸ List.mem_cons_self
  have here : (s.decode k)[0]? = some loc := by rw [decoders]; rfl
  have advance : ∀ {made : Bool} {loc' : DecodeLoc}, s.decodeNext k made loc = some (s, loc') →
      loc'.ahead < loc.ahead → ∃ t, Leads s t ∧
        (Goes t ∧ t.demux = s.demux ∧ t.packets = s.packets) ∧
          t.decodeAhead k < s.decodeAhead k := by
    intro made loc' moves less
    have step := next_decode here moves
    have sum := Crew.sum_map_set_add DecodeLoc.ahead here loc'
    refine ⟨_, .single (l := .decode k 0 made) rfl step, ⟨goes.next rfl step rfl, rfl, rfl⟩, ?_⟩
    rw [decodeAhead_setDecode, State.decodeAhead]
    omega
  cases loc with
  | popping => exact .inl (pop_lowers here filled)
  | popWaiting => exact absurd (goes.sound.queued.empty k member) filled
  | exited => exact absurd member (goes.sound.alive.decode running k)
  | top =>
    have moves : s.decodeNext k true .top = some (s, .popping) := by
      simp [State.decodeNext, resumed, running]
    exact .inr (advance moves (by simp [DecodeLoc.ahead]))
  | decoding =>
    have moves : s.decodeNext k false .decoding = some (s, .top) := rfl
    exact .inr (advance moves (by simp [DecodeLoc.ahead]))
  | peeking =>
    by_cases full : FRAME_QUEUE_SIZE ≤ s.frames k
    · have moves : s.decodeNext k true .peeking = some (s, .peekWaiting) := if_pos full
      exact .inr (advance moves (by simp [DecodeLoc.ahead]))
    · have moves : s.decodeNext k true .peeking = some (s, .filling) := if_neg full
      exact .inr (advance moves (by simp [DecodeLoc.ahead]))
  | peekWoken =>
    have moves : s.decodeNext k true .peekWoken = some (s, .filling) := rfl
    exact .inr (advance moves (by simp [DecodeLoc.ahead]))
  | peekWaiting =>
    obtain ⟨t, reach, less⟩ := decoder_woken goes member
    refine .inr ⟨t, reach.leads, ?_, less⟩
    refine System.invariant_reachesBy
      (I := fun t => Goes t ∧ t.demux = s.demux ∧ t.packets = s.packets)
      (fun u l v holds plays step => ?_) reach ⟨goes, rfl, rfl⟩
    obtain ⟨demux, packets, -⟩ := beside_of_plays plays (steps_of_next step)
    exact ⟨holds.1.next (works_of_plays plays) step demux, demux.trans holds.2.1,
      packets.trans holds.2.2⟩
  | filling =>
    have moves : s.decodeNext k true .filling = some (s.pushFrame k, .top) := rfl
    have step := next_decode here moves
    refine .inr ⟨_, .single (l := .decode k 0 true) rfl step, ⟨goes.next rfl step rfl, rfl, rfl⟩, ?_⟩
    have woken : ((s.decode k).map DecodeLoc.wakePeek)[0]? = some .filling := by
      rw [List.getElem?_map, here]
      rfl
    have sum := Crew.sum_map_set_add DecodeLoc.ahead woken .top
    have fewer : (((s.decode k).map DecodeLoc.wakePeek).map DecodeLoc.ahead).sum ≤
        ((s.decode k).map DecodeLoc.ahead).sum := Crew.sum_map_wake_le ahead_wakePeek
    have same : (s.pushFrame k).decode k = (s.decode k).map DecodeLoc.wakePeek :=
      Function.update_self ..
    rw [decodeAhead_setDecode, same, State.decodeAhead]
    simp only [DecodeLoc.ahead] at sum
    omega

/-- **A decoder comes to its pop**, when the player plays. -/
theorem decoder_pops (goes : Goes s) {k : Kind} (filled : s.packets k ≠ 0) :
    ∃ t, Leads s t ∧ t.demuxAhead < s.demuxAhead := by
  obtain ⟨u, reach, ⟨-, demux, packets⟩, t, rest, less⟩ := System.reachesBy_final
    (I := fun u => Goes u ∧ u.demux = s.demux ∧ u.packets = s.packets)
    (F := fun u => ∃ t, Leads u t ∧ t.demuxAhead < u.demuxAhead) (State.decodeAhead · k)
    (fun u holds => by
      rcases decoder_advances holds.1 (k := k) (holds.2.2 ▸ filled) with pops | advances
      · exact .inl pops
      · obtain ⟨t, reach, ⟨goes, demux, packets⟩, less⟩ := advances
        exact .inr ⟨t, reach, ⟨goes, demux.trans holds.2.1, packets.trans holds.2.2⟩, less⟩)
    s ⟨goes, rfl, rfl⟩
  refine ⟨t, reach.trans rest, ?_⟩
  have same : u.demuxAhead = s.demuxAhead := by
    unfold State.demuxAhead
    rw [demux, packets]
  exact same ▸ less

/-- After `pause` or `stop`, a full queue ahead of a demux thread has a decoder that is about to pop. -/
theorem popping_of_clear {k : Kind} {loc : DemuxLoc} (clear : ¬s.DemuxJam) (halted : s.halted = true)
    (full : packetQueueSize ≤ s.packets k) (member : loc ∈ s.demux)
    (bound : loc.bound s.abortRequest k = true) : .popping ∈ s.decode k := by
  by_contra nobody
  have clogged : s.Clogged k := ⟨full, nobody, loc, member, bound⟩
  refine clear (.inl ⟨halted, ?_⟩)
  cases k with
  | audio => exact .inl clogged
  | video => exact .inr clogged

/-- **The demux thread with `FFDemux::mutex` goes on**, when there is no jam. -/
theorem demux_advances (sound : Sound s) (clear : ¬s.DemuxJam) (held : s.demuxHeld = true)
    (spawned : ∀ n, s.caller ≠ some (n, [.startMediaSync])) :
    ∃ t, Leads s t ∧ t.demuxAhead < s.demuxAhead := by
  obtain ⟨loc, member, holds⟩ := List.any_eq_true.mp held
  obtain ⟨i, here⟩ := List.getElem?_of_mem member
  have advance : ∀ {loc' : DemuxLoc}, s.demuxNext .nothing loc = some (s, loc') →
      loc'.ahead < loc.ahead → ∃ t, Leads s t ∧ t.demuxAhead < s.demuxAhead := fun moves less =>
    ⟨_, .single (l := .demux i .nothing) rfl (next_demux here moves), demuxAhead_set here less⟩
  -- a full queue needs a decoder
  have pops : ∀ k, packetQueueSize ≤ s.packets k → loc.bound s.abortRequest k = true →
      ∃ t, Leads s t ∧ t.demuxAhead < s.demuxAhead := by
    intro k full bound
    have filled : s.packets k ≠ 0 := Nat.ne_of_gt (Nat.lt_of_lt_of_le (by decide) full)
    cases halted : s.halted with
    | true =>
      obtain ⟨j, there⟩ := List.getElem?_of_mem (popping_of_clear clear halted full member bound)
      exact pop_lowers there filled
    | false => exact decoder_pops ⟨sound, clear, halted, held, spawned⟩ filled
  cases loc with
  | checking =>
    by_cases exits : (s.abortRequest || s.demuxExit) = true
    · exact advance (if_pos exits) (by simp [DemuxLoc.ahead])
    · by_cases paused : s.pauseRequest = true
      · exact advance ((if_neg exits).trans (if_pos paused)) (by simp [DemuxLoc.ahead])
      · exact advance ((if_neg exits).trans (if_neg paused)) (by simp [DemuxLoc.ahead])
  | reading =>
    have moves : s.demuxNext .nothing .reading = some (s, .top) := rfl
    exact advance moves (by simp [DemuxLoc.ahead])
  | routing k =>
    have moves : s.demuxNext .nothing (.routing k) =
        some (s, if s.abortRequest then .top else .pushing k) := rfl
    refine advance moves ?_
    split_ifs <;> simp [DemuxLoc.ahead]
  | pushing k =>
    by_cases room : s.packets k < packetQueueSize
    · have moves : s.demuxNext .nothing (.pushing k) = some (s.pushPacket k, .top) := if_pos room
      refine ⟨_, .single (l := .demux i .nothing) rfl (next_demux here moves), ?_⟩
      have sum := Crew.sum_map_set_add DemuxLoc.ahead here .top
      have packets := packets_update s.packets k (s.packets k + 1)
      simp only [DemuxLoc.ahead] at sum
      simp only [State.demuxAhead, State.pushPacket, State.setDecode]
      omega
    · exact pops k (Nat.le_of_not_lt room) (by simp [DemuxLoc.bound])
  | pushWaiting k => exact pops k (sound.queued.full k member) (by simp [DemuxLoc.bound])
  | _ => cases holds

/-- **`FFDemux::mutex` can be had.** -/
theorem demux_freed (sound : Sound s) (clear : ¬s.DemuxJam)
    (spawned : ∀ n, s.caller ≠ some (n, [.startMediaSync])) :
    ∃ t, Leads s t ∧ Sound t ∧ t.demuxHeld = false := by
  obtain ⟨t, reach, ⟨kept, -, -⟩, free⟩ := System.reachesBy_final
    (I := fun s => Sound s ∧ ¬s.DemuxJam ∧ ∀ n, s.caller ≠ some (n, [.startMediaSync]))
    (F := fun s => s.demuxHeld = false) State.demuxAhead (fun u kept => by
      cases held : u.demuxHeld with
      | false => exact .inl rfl
      | true =>
        obtain ⟨t, reach, less⟩ := demux_advances kept.1 kept.2.1 held kept.2.2
        refine .inr ⟨t, reach, ?_, less⟩
        refine System.invariant_reachesBy
          (I := fun s => Sound s ∧ ¬s.DemuxJam ∧ ∀ n, s.caller ≠ some (n, [.startMediaSync]))
          (fun u l v kept works step => ?_) reach kept
        obtain ⟨caller, -⟩ := caller_back (steps_of_next step)
          ⟨not_exec_of_works works, not_lock_of_works works⟩
        exact ⟨sound_next kept.1 step, fun jam => kept.2.1 (demuxJam_back kept.1 (steps_of_next step)
          (not_exec_of_works works) jam), caller ▸ kept.2.2⟩)
    s ⟨sound, clear, spawned⟩
  exact ⟨t, reach, kept, free⟩

/-! ### The calls -/

/-- A step of a worker, or of the call in progress. -/
def Label.runs : Label → Bool
  | .ask _ _ | .lock _ => false
  | _ => true

/-- No new call. -/
def Label.goesOn : Label → Bool
  | .ask _ _ => false
  | _ => true

/-- The thread is in a call, or about to take `MediaPlayer::mutex` for one. -/
def State.Calls (s : State) (n : Nat) : Prop :=
  s.asked n ≠ none ∨ ∃ rest, s.caller = some (n, rest)

/-- **The call of a UI thread can complete**: some run without a further call ends it. -/
def Completes (s : State) (n : Nat) : Prop :=
  ∃ t, system.ReachesBy (fun l => l.goesOn = true) s t ∧ ¬t.Calls n

theorem runs_of_works (works : l.works = true) : l.runs = true := by
  cases l <;> first | rfl | cases works

theorem goesOn_of_runs (runs : l.runs = true) : l.goesOn = true := by
  cases l <;> first | rfl | cases runs

theorem careful_of_works (works : l.works = true) : Careful s l := by
  cases l <;> trivial

theorem asked_back (step : Steps s l t) (runs : l.runs = true) : t.asked = s.asked := by
  cases step with
  | ask => cases runs
  | lock => cases runs
  | exec => exact exec_asked ..
  | _ => rfl

/-- The workers leave the calls alone, and keep the mutexes ahead clear. -/
theorem kept_of_leads (reach : Leads s t) (sound : Sound s) (clears : Clears s) :
    Clears t ∧ t.caller = s.caller ∧ t.asked = s.asked := by
  obtain ⟨-, kept⟩ := System.invariant_reachesBy
    (I := fun t => Sound t ∧ Clears t ∧ t.caller = s.caller ∧ t.asked = s.asked)
    (fun u l v kept works step => by
      obtain ⟨sound, clears, caller, asked⟩ := kept
      have step := steps_of_next step
      obtain ⟨caller', -⟩ := caller_back step ⟨not_exec_of_works works, not_lock_of_works works⟩
      exact ⟨sound_step sound step, clears_step sound clears (careful_of_works works) step,
        caller'.trans caller, (asked_back step (runs_of_works works)).trans asked⟩)
    reach ⟨sound, clears, rfl, rfl⟩
  exact kept

/-- **The mutex of the next statement can be had.** -/
theorem unblocks (sound : Sound s) (clears : Clears s) {n : Nat} {stmt : Stmt} {rest : List Stmt}
    (here : s.caller = some (n, stmt :: rest)) :
    ∃ t, Leads s t ∧ Sound t ∧ t.blocks stmt = false := by
  cases blocked : s.blocks stmt with
  | false => exact ⟨s, .refl s, sound, blocked⟩
  | true =>
    rw [State.blocks, Bool.or_eq_true, Bool.and_eq_true, Bool.and_eq_true] at blocked
    rcases blocked with ⟨locks, -⟩ | ⟨same, -⟩
    · have needs : s.needsDemux (stmt :: rest) = true :=
        List.any_eq_true.mpr ⟨stmt, List.mem_cons_self, locks⟩
      obtain ⟨t, reach, kept, free⟩ := demux_freed sound ((clears n _ here).1 needs) (by
        rintro m spawning
        rw [here] at spawning
        cases spawning
        cases locks)
      have other : stmt ≠ .addObserver := by
        rintro rfl
        cases locks
      exact ⟨t, reach, kept, by simp [State.blocks, free, other]⟩
    · obtain rfl : stmt = .addObserver := of_decide_eq_true same
      obtain ⟨t, reach, ⟨kept, -⟩, free⟩ :=
        observer_freed sound ((clears n _ here).2 List.mem_cons_self)
      exact ⟨t, reach.leads, kept, by simp [State.blocks, State.locksDemux, free]⟩

/-- **The call in progress can complete**, by steps of its own and of the workers. -/
theorem completes_caller {n : Nat} {rest : List Stmt} (sound : Sound s) (clears : Clears s)
    (here : s.caller = some (n, rest)) : ∃ t, system.ReachesBy (fun l => l.runs = true) s t ∧
      Sound t ∧ t.caller = none ∧ t.asked = s.asked := by
  induction rest generalizing s with
  | nil =>
    have step : system.next s (.exec true) = some { s with caller := none } := by
      change next s (.exec true) = _
      simp [next, here]
    exact ⟨_, .single (l := .exec true) rfl step, sound_next sound step, rfl, rfl⟩
  | cons stmt rest ih =>
    obtain ⟨t, reach, sound', free⟩ := unblocks sound clears here
    obtain ⟨clears', caller, asked⟩ := kept_of_leads reach sound clears
    rw [here] at caller
    have goesOn : stmt.after true rest = rest := by cases stmt <;> rfl
    have step : system.next t (.exec true) =
        some { t.exec true stmt with caller := some (n, rest) } := by
      change next t (.exec true) = _
      simp [next, caller, free, goesOn]
    have clear : { t.exec true stmt with caller := some (n, stmt.after true rest) }.Clear
        (stmt.after true rest) := clear_exec (clears' _ _ caller) (sound'.calling.suffix _ _ caller)
    rw [goesOn] at clear
    obtain ⟨u, others, last, free', same⟩ := ih (sound_next sound' step)
      (fun _ _ own => by cases own; exact clear) rfl
    have own : system.ReachesBy (fun l => l.runs = true) t _ := .single (l := .exec true) rfl step
    refine ⟨u, (reach.imp fun _ => runs_of_works).trans (own.trans others), last, free', ?_⟩
    rw [same]
    exact (exec_asked ..).trans asked

/-- A call that locks neither of the other mutexes. -/
def Call.quick (c : Call) : Bool := (body c).all fun stmt => !stmt.locks

theorem clear_of_quick {c : Call} (quick : c.quick = true) : s.Clear (body c) := by
  have none : ∀ stmt ∈ body c, stmt.locks = false := by simpa [Call.quick] using quick
  refine ⟨fun needs => ?_, fun ahead => absurd (none _ ahead) (by simp [Stmt.locks])⟩
  obtain ⟨stmt, member, locks⟩ := List.any_eq_true.mp needs
  exact absurd ((none stmt member).symm.trans (locks_of_locksDemux locks)) (by simp)

/-- With `MediaPlayer::mutex` free such a call can complete. -/
theorem completes_quick {n : Nat} (sound : Sound s) (free : s.caller = none)
    (quick : ∀ c, s.asked n = some c → c.quick = true) : Completes s n := by
  cases asked : s.asked n with
  | none => exact ⟨s, .refl s, by simp [State.Calls, asked, free]⟩
  | some c =>
    have step : system.next s (.lock n) = some
        { s with asked := Function.update s.asked n none, caller := some (n, body c) } := by
      change next s (.lock n) = _
      simp [next, asked, free]
    obtain ⟨t, reach, -, free', same⟩ := completes_caller (sound_next sound step)
      (fun _ _ own => by cases own; exact clear_of_quick (quick c asked)) rfl
    have begun : system.ReachesBy (fun l => l.goesOn = true) s _ := .single (l := .lock n) rfl step
    refine ⟨t, begun.trans (reach.imp fun _ => goesOn_of_runs), ?_⟩
    simp [State.Calls, same, free']

/-- **Every call that was begun can complete, and every one that locks no other mutex.** -/
theorem completes {n : Nat} (sound : Sound s) (clears : Clears s)
    (quick : ∀ c, s.asked n = some c → c.quick = true) : Completes s n := by
  cases caller : s.caller with
  | none => exact completes_quick sound caller quick
  | some owner =>
    obtain ⟨m, rest⟩ := owner
    obtain ⟨t, reach, sound', free, same⟩ := completes_caller sound clears caller
    obtain ⟨u, rest', done⟩ := completes_quick (n := n) sound' free (same ▸ quick)
    exact ⟨u, (reach.imp fun _ => goesOn_of_runs).trans rest', done⟩

end Xplay.UiCalls
