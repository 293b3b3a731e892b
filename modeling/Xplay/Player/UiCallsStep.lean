/-
**What a step of the called player can do.**

`Steps` lists the steps with the conditions they are taken under. The moves of a thread that change
nothing but its own place are collected in one relation for each kind of thread.
-/

import Xplay.Lib.Crew
import Xplay.Player.UiCalls

namespace Xplay.UiCalls

open Lib

variable {s t : State}

/-! ### Moves -/

inductive DemuxMoves (s : State) : DemuxLoc → DemuxLoc → Prop
  | lock (free : s.demuxHeld = false) : DemuxMoves s .top .checking
  | exit : DemuxMoves s .checking .exited
  | pause : DemuxMoves s .checking .top
  | read (plays : s.halted = false) : DemuxMoves s .checking .reading
  | skip : DemuxMoves s .reading .top
  | route (k : Kind) : DemuxMoves s .reading (.routing k)
  | drop (k : Kind) : DemuxMoves s (.routing k) .top
  | push (k : Kind) (goes : s.abortRequest = false) : DemuxMoves s (.routing k) (.pushing k)
  | wait (k : Kind) (full : packetQueueSize ≤ s.packets k) :
      DemuxMoves s (.pushing k) (.pushWaiting k)

inductive DecodeMoves (s : State) (k : Kind) : DecodeLoc → DecodeLoc → Prop
  | exit (stopped : s.abortRequest = true) : DecodeMoves s k .top .exited
  | pause : DecodeMoves s k .top .top
  | begin (plays : s.halted = false) : DecodeMoves s k .top .popping
  | wait (empty : s.packets k = 0) : DecodeMoves s k .popping .popWaiting
  | made : DecodeMoves s k .decoding .peeking
  | unmade : DecodeMoves s k .decoding .top
  | full : DecodeMoves s k .peeking .peekWaiting
  | grant : DecodeMoves s k .peeking .filling
  | woken : DecodeMoves s k .peekWoken .filling

inductive AudioMoves (s : State) : AudioLoc → AudioLoc → Prop
  | exit (stopped : s.abortRequest = true) : AudioMoves s .top .exited
  | pause : AudioMoves s .top .top
  | begin (plays : s.halted = false) : AudioMoves s .top .looking
  | blind : AudioMoves s .looking .top
  | seen : AudioMoves s .looking .updating
  | lost : AudioMoves s .updating .popping
  | resampled : AudioMoves s .updating .notifying
  | lock (free : s.observerHeld = false) : AudioMoves s .notifying (.putting s.observers)
  | wait (n : Nat) (full : maxFrameBuffer < s.pcm) : AudioMoves s (.putting (n + 1)) (.putWaiting n)
  | unlock : AudioMoves s (.putting 0) .popping

inductive VideoMoves (s : State) : VideoLoc → VideoLoc → Prop
  | exit (stopped : s.abortRequest = true) : VideoMoves s .top .exited
  | pause : VideoMoves s .top .top
  | begin : VideoMoves s .top .looking
  | blind : VideoMoves s .looking .top
  | seen : VideoMoves s .looking .showing
  | shown : VideoMoves s .showing .popping
  | wait (dark : s.view = false) : VideoMoves s .showing .viewWaiting

inductive CallbackMoves (s : State) : CallbackLoc → CallbackLoc → Prop
  | exit (stopped : s.playExit = true ∨ s.abortRequest = true) : CallbackMoves s .idle .exited
  | pause (paused : s.pauseRequest = true) : CallbackMoves s .idle .pausing
  | begin : CallbackMoves s .idle .getting
  | stay (paused : s.pauseRequest = true) : CallbackMoves s .pausing .pausing
  | leave (paused : s.pauseRequest = true) (stopped : s.playExit = true ∨ s.abortRequest = true) :
      CallbackMoves s .pausing .exited
  | resume (resumed : s.pauseRequest = false) : CallbackMoves s .pausing .getting
  | wait (empty : s.pcm = 0) : CallbackMoves s .getting .getWaiting
  | quit {loc : CallbackLoc} (gets : loc = .getting ∨ loc = .getWoken) (exit : s.playExit = true) :
      CallbackMoves s loc .exited

/-! ### Steps -/

/-- The decoders that wait for room were woken, or not. -/
def Woken (locs locs' : List DecodeLoc) : Prop :=
  locs' = locs ∨ locs' = locs.map DecodeLoc.wakePeek

/-- **The steps.** -/
inductive Steps (s : State) : Label → State → Prop
  | ask {n : Nat} {c : Call} (idle : s.asked n = none) (other : s.caller.map Prod.fst ≠ some n) :
      Steps s (.ask n c) { s with asked := Function.update s.asked n (some c) }
  | lock {n : Nat} {c : Call} (asked : s.asked n = some c) (free : s.caller = none) :
      Steps s (.lock n)
        { s with asked := Function.update s.asked n none, caller := some (n, body c) }
  | unlock {n : Nat} {ok : Bool} (here : s.caller = some (n, [])) :
      Steps s (.exec ok) { s with caller := none }
  | exec {n : Nat} {stmt : Stmt} {rest : List Stmt} {ok : Bool}
      (here : s.caller = some (n, stmt :: rest)) (runs : s.blocks stmt = false) :
      Steps s (.exec ok) { s.exec ok stmt with caller := some (n, stmt.after ok rest) }
  | demux {i : Nat} {read : Read} {loc loc' : DemuxLoc} (here : s.demux[i]? = some loc)
      (moves : DemuxMoves s loc loc') : Steps s (.demux i read) { s with demux := s.demux.set i loc' }
  | endOfFile {i : Nat} {read : Read} (here : s.demux[i]? = some .reading) :
      Steps s (.demux i read) { s with demuxExit := true, demux := s.demux.set i .exited }
  | push {i : Nat} {read : Read} {k : Kind} (here : s.demux[i]? = some (.pushing k))
      (room : s.packets k < packetQueueSize) :
      Steps s (.demux i read) { s.pushPacket k with demux := s.demux.set i .top }
  | decode {k : Kind} {i : Nat} {made : Bool} {loc loc' : DecodeLoc}
      (here : (s.decode k)[i]? = some loc) (moves : DecodeMoves s k loc loc') :
      Steps s (.decode k i made) (s.setDecode k ((s.decode k).set i loc'))
  | pop {k : Kind} {i : Nat} {made : Bool} (here : (s.decode k)[i]? = some .popping)
      (filled : s.packets k ≠ 0) :
      Steps s (.decode k i made) ((s.popPacket k).setDecode k ((s.decode k).set i .decoding))
  | fill {k : Kind} {i : Nat} {made : Bool} (here : (s.decode k)[i]? = some .filling) :
      Steps s (.decode k i made) ((s.pushFrame k).setDecode k
        (((s.decode k).map DecodeLoc.wakePeek).set i .top))
  | audioSync {i : Nat} {got : Bool} {loc loc' : AudioLoc} (here : s.audioSync[i]? = some loc)
      (moves : AudioMoves s loc loc') :
      Steps s (.audioSync i got) { s with audioSync := s.audioSync.set i loc' }
  | put {i n : Nat} {got : Bool} {loc : AudioLoc} (here : s.audioSync[i]? = some loc)
      (puts : loc = .putting (n + 1) ∨ loc = .putWoken n) :
      Steps s (.audioSync i got) { s.put with audioSync := s.audioSync.set i (.putting n) }
  | popAudio {i : Nat} {got : Bool} {frames : Kind → Nat} {showIndex : Kind → Bool}
      {decode : Kind → List DecodeLoc} (here : s.audioSync[i]? = some .popping)
      (wakes : ∀ k, Woken (s.decode k) (decode k)) :
      Steps s (.audioSync i got) { s with
        frames := frames
        showIndex := showIndex
        decode := decode
        audioSync := s.audioSync.set i .top }
  | videoSync {i : Nat} {got : Bool} {loc loc' : VideoLoc} (here : s.videoSync[i]? = some loc)
      (moves : VideoMoves s loc loc') :
      Steps s (.videoSync i got) { s with videoSync := s.videoSync.set i loc' }
  | popVideo {i : Nat} {got : Bool} {frames : Kind → Nat} {showIndex : Kind → Bool}
      {decode : Kind → List DecodeLoc} (here : s.videoSync[i]? = some .popping)
      (wakes : ∀ k, Woken (s.decode k) (decode k)) :
      Steps s (.videoSync i got) { s with
        frames := frames
        showIndex := showIndex
        decode := decode
        videoSync := s.videoSync.set i .top }
  | callback {i : Nat} {loc loc' : CallbackLoc} (here : s.callback[i]? = some loc)
      (moves : CallbackMoves s loc loc') :
      Steps s (.callback i) { s with callback := s.callback.set i loc' }
  | take {i : Nat} {loc : CallbackLoc} (here : s.callback[i]? = some loc)
      (gets : loc = .getting ∨ loc = .getWoken) (goes : s.playExit = false)
      (filled : s.pcm ≠ 0) : Steps s (.callback i) { s.take with callback := s.callback.set i .idle }

/-- **`popFrame`** wakes decoders, if anybody. -/
theorem popFrame_eq (s : State) (k : Kind) : ∃ frames showIndex decode,
    s.popFrame k = { s with frames := frames, showIndex := showIndex, decode := decode } ∧
      ∀ j, Woken (s.decode j) (decode j) := by
  unfold State.popFrame
  split_ifs
  · refine ⟨_, s.showIndex, _, rfl, fun j => ?_⟩
    by_cases same : j = k
    · subst same
      exact .inr (Function.update_self ..)
    · exact .inl (Function.update_of_ne same ..)
  · exact ⟨s.frames, _, s.decode, rfl, fun j => .inl rfl⟩

theorem demux_cases {read : Read} {loc loc' : DemuxLoc} (step : s.demuxNext read loc = some (t, loc')) :
    DemuxMoves s loc loc' ∧ t = s ∨ loc = .reading ∧ loc' = .exited ∧ t = { s with demuxExit := true } ∨
      ∃ k, loc = .pushing k ∧ loc' = .top ∧ s.packets k < packetQueueSize ∧ t = s.pushPacket k := by
  cases loc with
  | top =>
    simp only [State.demuxNext] at step
    split_ifs at step with held
    cases step
    exact .inl ⟨.lock (by simpa using held), rfl⟩
  | checking =>
    simp only [State.demuxNext] at step
    split_ifs at step with stopped paused
    · cases step
      exact .inl ⟨.exit, rfl⟩
    · cases step
      exact .inl ⟨.pause, rfl⟩
    · cases step
      simp only [Bool.or_eq_true, not_or, Bool.not_eq_true] at stopped paused
      exact .inl ⟨.read (by simp [State.halted, stopped.1, paused]), rfl⟩
  | reading =>
    cases read with
    | endOfFile =>
      cases step
      exact .inr (.inl ⟨rfl, rfl, rfl⟩)
    | nothing =>
      cases step
      exact .inl ⟨.skip, rfl⟩
    | packet k =>
      cases step
      exact .inl ⟨.route k, rfl⟩
  | routing k =>
    simp only [State.demuxNext, Option.some.injEq, Prod.mk.injEq] at step
    obtain ⟨rfl, rfl⟩ := step
    split_ifs with stopped
    · exact .inl ⟨.drop k, rfl⟩
    · exact .inl ⟨.push k (by simpa using stopped), rfl⟩
  | pushing k =>
    simp only [State.demuxNext] at step
    split_ifs at step with room
    · cases step
      exact .inr (.inr ⟨k, rfl, rfl, room, rfl⟩)
    · cases step
      exact .inl ⟨.wait k (Nat.le_of_not_lt room), rfl⟩
  | pushWaiting k => cases step
  | exited => cases step

theorem decode_cases {k : Kind} {made : Bool} {loc loc' : DecodeLoc}
    (step : s.decodeNext k made loc = some (t, loc')) :
    DecodeMoves s k loc loc' ∧ t = s ∨
      loc = .popping ∧ loc' = .decoding ∧ s.packets k ≠ 0 ∧ t = s.popPacket k ∨
      loc = .filling ∧ loc' = .top ∧ t = s.pushFrame k := by
  cases loc with
  | top =>
    simp only [State.decodeNext] at step
    split_ifs at step with stopped paused
    · cases step
      exact .inl ⟨.exit stopped, rfl⟩
    · cases step
      exact .inl ⟨.pause, rfl⟩
    · cases step
      rw [Bool.not_eq_true] at stopped paused
      exact .inl ⟨.begin (by simp [State.halted, stopped, paused]), rfl⟩
  | popping =>
    simp only [State.decodeNext] at step
    split_ifs at step with empty
    · cases step
      exact .inl ⟨.wait empty, rfl⟩
    · cases step
      exact .inr (.inl ⟨rfl, rfl, empty, rfl⟩)
  | decoding =>
    simp only [State.decodeNext, Option.some.injEq, Prod.mk.injEq] at step
    obtain ⟨rfl, rfl⟩ := step
    cases made with
    | false => exact .inl ⟨.unmade, rfl⟩
    | true => exact .inl ⟨.made, rfl⟩
  | peeking =>
    simp only [State.decodeNext] at step
    split_ifs at step
    · cases step
      exact .inl ⟨.full, rfl⟩
    · cases step
      exact .inl ⟨.grant, rfl⟩
  | peekWoken =>
    cases step
    exact .inl ⟨.woken, rfl⟩
  | filling =>
    cases step
    exact .inr (.inr ⟨rfl, rfl, rfl⟩)
  | popWaiting => cases step
  | peekWaiting => cases step
  | exited => cases step

theorem audio_cases {got : Bool} {loc loc' : AudioLoc} (step : s.audioNext got loc = some (t, loc')) :
    AudioMoves s loc loc' ∧ t = s ∨
      (∃ n, (loc = .putting (n + 1) ∨ loc = .putWoken n) ∧ loc' = .putting n ∧ t = s.put) ∨
      loc = .popping ∧ loc' = .top ∧ t = s.popFrame .audio := by
  cases loc with
  | top =>
    simp only [State.audioNext] at step
    split_ifs at step with stopped paused
    · cases step
      exact .inl ⟨.exit stopped, rfl⟩
    · cases step
      exact .inl ⟨.pause, rfl⟩
    · cases step
      rw [Bool.not_eq_true] at stopped paused
      exact .inl ⟨.begin (by simp [State.halted, stopped, paused]), rfl⟩
  | looking =>
    cases got with
    | false =>
      cases step
      exact .inl ⟨.blind, rfl⟩
    | true =>
      cases step
      exact .inl ⟨.seen, rfl⟩
  | updating =>
    cases got with
    | false =>
      cases step
      exact .inl ⟨.lost, rfl⟩
    | true =>
      cases step
      exact .inl ⟨.resampled, rfl⟩
  | notifying =>
    simp only [State.audioNext] at step
    split_ifs at step with held
    cases step
    exact .inl ⟨.lock (by simpa using held), rfl⟩
  | putting n =>
    cases n with
    | zero =>
      cases step
      exact .inl ⟨.unlock, rfl⟩
    | succ n =>
      simp only [State.audioNext] at step
      split_ifs at step with full
      · cases step
        exact .inl ⟨.wait n full, rfl⟩
      · cases step
        exact .inr (.inl ⟨n, .inl rfl, rfl, rfl⟩)
  | putWoken n =>
    cases step
    exact .inr (.inl ⟨n, .inr rfl, rfl, rfl⟩)
  | popping =>
    cases step
    exact .inr (.inr ⟨rfl, rfl, rfl⟩)
  | putWaiting n => cases step
  | exited => cases step

theorem video_cases {got : Bool} {loc loc' : VideoLoc} (step : s.videoNext got loc = some (t, loc')) :
    VideoMoves s loc loc' ∧ t = s ∨ loc = .popping ∧ loc' = .top ∧ t = s.popFrame .video := by
  cases loc with
  | top =>
    simp only [State.videoNext] at step
    split_ifs at step with stopped
    · cases step
      exact .inl ⟨.exit stopped, rfl⟩
    · cases step
      exact .inl ⟨.pause, rfl⟩
    · cases step
      exact .inl ⟨.begin, rfl⟩
  | looking =>
    cases got with
    | false =>
      cases step
      exact .inl ⟨.blind, rfl⟩
    | true =>
      cases step
      exact .inl ⟨.seen, rfl⟩
  | showing =>
    simp only [State.videoNext, Option.some.injEq, Prod.mk.injEq] at step
    obtain ⟨rfl, rfl⟩ := step
    split_ifs with view
    · exact .inl ⟨.shown, rfl⟩
    · exact .inl ⟨.wait (by simpa using view), rfl⟩
  | popping =>
    cases step
    exact .inr ⟨rfl, rfl, rfl⟩
  | viewWaiting => cases step
  | exited => cases step

theorem take_cases {loc loc' : CallbackLoc} (gets : loc = .getting ∨ loc = .getWoken)
    (step : s.takeNext = some (t, loc')) :
    CallbackMoves s loc loc' ∧ t = s ∨
      loc' = .idle ∧ s.playExit = false ∧ s.pcm ≠ 0 ∧ t = s.take := by
  simp only [State.takeNext] at step
  split_ifs at step with exit empty
  · cases step
    exact .inl ⟨.quit gets exit, rfl⟩
  · cases step
    exact .inr ⟨rfl, by simpa using exit, empty, rfl⟩

theorem callback_cases {loc loc' : CallbackLoc} (step : s.callbackNext loc = some (t, loc')) :
    CallbackMoves s loc loc' ∧ t = s ∨ (loc = .getting ∨ loc = .getWoken) ∧
      loc' = .idle ∧ s.playExit = false ∧ s.pcm ≠ 0 ∧ t = s.take := by
  cases loc with
  | idle =>
    simp only [State.callbackNext] at step
    split_ifs at step with stopped paused
    · cases step
      exact .inl ⟨.exit (by simpa using stopped), rfl⟩
    · cases step
      exact .inl ⟨.pause paused, rfl⟩
    · cases step
      exact .inl ⟨.begin, rfl⟩
  | pausing =>
    simp only [State.callbackNext] at step
    split_ifs at step with paused stopped
    · cases step
      exact .inl ⟨.leave paused (by simpa using stopped), rfl⟩
    · cases step
      exact .inl ⟨.stay paused, rfl⟩
    · cases step
      exact .inl ⟨.resume (by simpa using paused), rfl⟩
  | getting =>
    simp only [State.callbackNext] at step
    split_ifs at step with empty
    · cases step
      exact .inl ⟨.wait empty, rfl⟩
    · exact (take_cases (.inl rfl) step).imp_right fun rest => ⟨.inl rfl, rest⟩
  | getWoken => exact (take_cases (.inr rfl) step).imp_right fun rest => ⟨.inr rfl, rest⟩
  | getWaiting => cases step
  | exited => cases step

/-- **Every step is one of them.** -/
theorem steps_of_next {l : Label} (step : system.next s l = some t) : Steps s l t := by
  change next s l = some t at step
  cases l with
  | ask n c =>
    simp only [next] at step
    split_ifs at step with idle
    cases step
    exact .ask idle.1 idle.2
  | lock n =>
    simp only [next] at step
    split at step
    case h_1 c asked free =>
      cases step
      exact .lock asked free
    case h_2 => cases step
  | exec ok =>
    simp only [next] at step
    split at step
    case h_1 => cases step
    case h_2 n here =>
      cases step
      exact .unlock here
    case h_3 n stmt rest here =>
      split_ifs at step with held
      cases step
      exact .exec here (by simpa using held)
  | demux i read =>
    simp only [next, Option.bind_eq_bind, Option.bind_eq_some_iff] at step
    obtain ⟨loc, here, ⟨u, loc'⟩, moved, rest⟩ := step
    cases rest
    rcases demux_cases moved with ⟨moves, rfl⟩ | ⟨rfl, rfl, rfl⟩ | ⟨k, rfl, rfl, room, rfl⟩
    · exact .demux here moves
    · exact .endOfFile here
    · exact .push here room
  | decode k i made =>
    simp only [next, Option.bind_eq_bind, Option.bind_eq_some_iff] at step
    obtain ⟨loc, here, ⟨u, loc'⟩, moved, rest⟩ := step
    cases rest
    rcases decode_cases moved with ⟨moves, rfl⟩ | ⟨rfl, rfl, filled, rfl⟩ | ⟨rfl, rfl, rfl⟩
    · exact .decode here moves
    · exact .pop here filled
    · have pushed : (s.pushFrame k).decode k = (s.decode k).map DecodeLoc.wakePeek :=
        Function.update_self ..
      dsimp only
      rw [pushed]
      exact .fill here
  | audioSync i got =>
    simp only [next, Option.bind_eq_bind, Option.bind_eq_some_iff] at step
    obtain ⟨loc, here, ⟨u, loc'⟩, moved, rest⟩ := step
    cases rest
    rcases audio_cases moved with ⟨moves, rfl⟩ | ⟨n, puts, rfl, rfl⟩ | ⟨rfl, rfl, rfl⟩
    · exact .audioSync here moves
    · exact .put here puts
    · obtain ⟨frames, showIndex, decode, same, wakes⟩ := popFrame_eq s .audio
      rw [same]
      exact .popAudio here wakes
  | videoSync i got =>
    simp only [next, Option.bind_eq_bind, Option.bind_eq_some_iff] at step
    obtain ⟨loc, here, ⟨u, loc'⟩, moved, rest⟩ := step
    cases rest
    rcases video_cases moved with ⟨moves, rfl⟩ | ⟨rfl, rfl, rfl⟩
    · exact .videoSync here moves
    · obtain ⟨frames, showIndex, decode, same, wakes⟩ := popFrame_eq s .video
      rw [same]
      exact .popVideo here wakes
  | callback i =>
    simp only [next, Option.bind_eq_bind, Option.bind_eq_some_iff] at step
    obtain ⟨loc, here, ⟨u, loc'⟩, moved, rest⟩ := step
    cases rest
    rcases callback_cases moved with ⟨moves, rfl⟩ | ⟨gets, rfl, goes, filled, rfl⟩
    · exact .callback here moves
    · exact .take here gets goes filled

end Xplay.UiCalls
