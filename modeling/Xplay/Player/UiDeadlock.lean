/-
**When no UI call deadlocks with the workers.**

In a run whose calls are careful, every UI call is free (`ui_frees`): what it waits for can be released
by a thread that moves, or by one that waits in turn for such a thread. The chain goes from the call to
the owner of `MediaPlayer::mutex`, from there to the demux thread or the audio thread that has the other
mutex, and on through the queue that thread waits at.

* While the player plays, every loop goes on, OpenSL takes the PCM frames, and the view the pictures.
* After `pause` or `stop` only what was begun is finished, and it is enough where no mutex was jammed.

With a UI thread that is free to call, every worker is free that waits for a lock or for room
(`frees_of_contended`): a call ends a pause and most of the waits, and `stop` left no demux thread in a
push. What is free can also complete (`completes`).
-/

import Xplay.Player.UiCompletes

namespace Xplay.UiCalls

open Lib WaitFor

variable {s : State}

/-! ### Waiting threads and steps -/

/-- The thread that a label is a step of. -/
def Label.thread (s : State) : Label → Option Thread
  | .ask _ _ => none
  | .lock n => some (.ui n)
  | .exec _ => s.caller.map fun c => .ui c.1
  | .demux i _ => some (.demux i)
  | .decode k i _ => some (.decode k i)
  | .audioSync i _ => some (.audioSync i)
  | .videoSync i _ => some (.videoSync i)
  | .callback i => some (.callback i)

/-- **A thread that waits takes no step**, but round its loop during a pause. -/
theorem blocked_of_waits (calling : Calling s) {t : Thread} {r : Resource} (waits : Waits s t r)
    (other : r ≠ .resumed) {l : Label} (own : l.thread s = some t) : system.next s l = none := by
  change next s l = none
  cases waits with
  | readPause => exact absurd rfl other
  | decodePause => exact absurd rfl other
  | audioPause => exact absurd rfl other
  | videoPause => exact absurd rfl other
  | playPause => exact absurd rfl other
  | @lock n asked taken =>
    obtain ⟨owner, caller⟩ := Option.ne_none_iff_exists'.mp taken
    cases l <;> simp [Label.thread] at own
    case lock =>
      subst own
      simp only [next, caller]
      split
      case h_1 free => cases free
      case h_2 => rfl
    case exec =>
      obtain ⟨rest, here⟩ := own
      exact absurd (calling.asked n rest here) asked
  | @«open» n stmt rest here locks held =>
    cases l <;> simp [Label.thread] at own
    case lock =>
      subst own
      simp only [next, calling.asked _ _ here]
    case exec => simp [next, here, State.blocks, locks, held]
  | @addObserver n rest here held =>
    cases l <;> simp [Label.thread] at own
    case lock =>
      subst own
      simp only [next, calling.asked _ _ here]
    case exec => simp [next, here, State.blocks, held]
  | readPacket here held =>
    cases l <;> simp [Label.thread] at own
    subst own
    simp [next, here, State.demuxNext, held]
  | push here =>
    cases l <;> simp [Label.thread] at own
    subst own
    simp [next, here, State.demuxNext]
  | pop here =>
    cases l <;> simp [Label.thread] at own
    obtain ⟨rfl, rfl⟩ := own
    simp [next, here, State.decodeNext]
  | peek here =>
    cases l <;> simp [Label.thread] at own
    obtain ⟨rfl, rfl⟩ := own
    simp [next, here, State.decodeNext]
  | notify here held =>
    cases l <;> simp [Label.thread] at own
    subst own
    simp [next, here, State.audioNext, held]
  | update here =>
    cases l <;> simp [Label.thread] at own
    subst own
    simp [next, here, State.audioNext]
  | render here =>
    cases l <;> simp [Label.thread] at own
    subst own
    simp [next, here, State.videoNext]
  | getData here =>
    cases l <;> simp [Label.thread] at own
    subst own
    simp [next, here, State.callbackNext]

/-- A thread that has something left to do; `front()` of an empty list is not counted. -/
def Busy (s : State) : Thread → Prop
  | .ui n => s.asked n ≠ none ∨ ∃ rest, s.caller = some (n, rest)
  | .demux i => ∃ loc, s.demux[i]? = some loc ∧ loc ≠ .exited
  | .decode k i => ∃ loc, (s.decode k)[i]? = some loc ∧ loc ≠ .exited
  | .audioSync i => ∃ loc, s.audioSync[i]? = some loc ∧ loc ≠ .exited
  | .videoSync i => ∃ loc, s.videoSync[i]? = some loc ∧ loc ≠ .exited
  | .callback i => ∃ loc, s.callback[i]? = some loc ∧ loc ≠ .exited ∧
      (loc = .getWoken → s.playExit = true ∨ s.pcm ≠ 0)

/-- A UI thread at a statement whose mutex nobody has goes on. -/
theorem blocks_of_idle {n : Nat} {stmt : Stmt} {rest : List Stmt}
    (here : s.caller = some (n, stmt :: rest)) (idle : ∀ r, ¬Waits s (.ui n) r) :
    s.blocks stmt = false := by
  by_contra blocked
  rw [Bool.not_eq_false, State.blocks, Bool.or_eq_true, Bool.and_eq_true, Bool.and_eq_true]
    at blocked
  rcases blocked with ⟨locks, held⟩ | ⟨same, held⟩
  · exact idle _ (.open here locks held)
  · exact idle _ (.addObserver (of_decide_eq_true same ▸ here) held)

theorem demuxNext_of_idle {i : Nat} {loc : DemuxLoc} (here : s.demux[i]? = some loc)
    (alive : loc ≠ .exited) (idle : ∀ r, ¬Waits s (.demux i) r) :
    ∃ u, s.demuxNext .nothing loc = some u := by
  cases loc with
  | top =>
    have free : s.demuxHeld = false := by
      by_contra held
      exact idle _ (.readPacket here (by simpa using held))
    simp [State.demuxNext, free]
  | pushWaiting k => exact absurd (.push here) (idle _)
  | exited => exact absurd rfl alive
  | checking => simp only [State.demuxNext]; split_ifs <;> exact ⟨_, rfl⟩
  | pushing k => simp only [State.demuxNext]; split_ifs <;> exact ⟨_, rfl⟩
  | _ => exact ⟨_, rfl⟩

theorem decodeNext_of_idle {k : Kind} {i : Nat} {loc : DecodeLoc}
    (here : (s.decode k)[i]? = some loc) (alive : loc ≠ .exited)
    (idle : ∀ r, ¬Waits s (.decode k i) r) : ∃ u, s.decodeNext k true loc = some u := by
  cases loc with
  | popWaiting => exact absurd (.pop here) (idle _)
  | peekWaiting => exact absurd (.peek here) (idle _)
  | exited => exact absurd rfl alive
  | top => simp only [State.decodeNext]; split_ifs <;> exact ⟨_, rfl⟩
  | popping => simp only [State.decodeNext]; split_ifs <;> exact ⟨_, rfl⟩
  | peeking => simp only [State.decodeNext]; split_ifs <;> exact ⟨_, rfl⟩
  | _ => exact ⟨_, rfl⟩

theorem audioNext_of_idle {i : Nat} {loc : AudioLoc} (here : s.audioSync[i]? = some loc)
    (alive : loc ≠ .exited) (idle : ∀ r, ¬Waits s (.audioSync i) r) :
    ∃ u, s.audioNext true loc = some u := by
  cases loc with
  | putWaiting n => exact absurd (.update here) (idle _)
  | exited => exact absurd rfl alive
  | notifying =>
    have free : s.observerHeld = false := by
      by_contra held
      exact idle _ (.notify here (by simpa using held))
    simp [State.audioNext, free]
  | top => simp only [State.audioNext]; split_ifs <;> exact ⟨_, rfl⟩
  | putting n =>
    cases n with
    | zero => exact ⟨_, rfl⟩
    | succ n => simp only [State.audioNext]; split_ifs <;> exact ⟨_, rfl⟩
  | _ => exact ⟨_, rfl⟩

theorem videoNext_of_idle {i : Nat} {loc : VideoLoc} (here : s.videoSync[i]? = some loc)
    (alive : loc ≠ .exited) (idle : ∀ r, ¬Waits s (.videoSync i) r) :
    ∃ u, s.videoNext true loc = some u := by
  cases loc with
  | viewWaiting => exact absurd (.render here) (idle _)
  | exited => exact absurd rfl alive
  | top => simp only [State.videoNext]; split_ifs <;> exact ⟨_, rfl⟩
  | _ => exact ⟨_, rfl⟩

theorem callbackNext_of_idle {i : Nat} {loc : CallbackLoc} (here : s.callback[i]? = some loc)
    (alive : loc ≠ .exited) (defined : loc = .getWoken → s.playExit = true ∨ s.pcm ≠ 0)
    (idle : ∀ r, ¬Waits s (.callback i) r) : ∃ u, s.callbackNext loc = some u := by
  cases loc with
  | getWaiting => exact absurd (.getData here) (idle _)
  | exited => exact absurd rfl alive
  | idle => simp only [State.callbackNext]; split_ifs <;> exact ⟨_, rfl⟩
  | pausing => simp only [State.callbackNext]; split_ifs <;> exact ⟨_, rfl⟩
  | getting =>
    simp only [State.callbackNext, State.takeNext]
    split_ifs <;> exact ⟨_, rfl⟩
  | getWoken =>
    simp only [State.callbackNext, State.takeNext]
    rcases defined rfl with exit | filled
    · exact ⟨_, if_pos exit⟩
    · split_ifs <;> exact ⟨_, rfl⟩

/-- **A thread that waits for nothing takes a step.** -/
theorem moves_of_idle {t : Thread} (busy : Busy s t) (idle : ∀ r, ¬Waits s t r) :
    ∃ l, l.thread s = some t ∧ (system.next s l).isSome = true := by
  change ∃ l, l.thread s = some t ∧ (next s l).isSome = true
  cases t with
  | ui n =>
    rcases busy with asked | ⟨rest, here⟩
    · obtain ⟨c, call⟩ := Option.ne_none_iff_exists'.mp asked
      have free : s.caller = none := by
        by_contra taken
        exact idle _ (.lock asked taken)
      exact ⟨.lock n, rfl, by simp [next, call, free]⟩
    · refine ⟨.exec true, by simp [Label.thread, here], ?_⟩
      cases rest with
      | nil => simp [next, here]
      | cons stmt rest => simp [next, here, blocks_of_idle here idle]
  | demux i =>
    obtain ⟨loc, here, alive⟩ := busy
    obtain ⟨u, moves⟩ := demuxNext_of_idle here alive idle
    exact ⟨.demux i .nothing, rfl, by simp [next, here, moves]⟩
  | decode k i =>
    obtain ⟨loc, here, alive⟩ := busy
    obtain ⟨u, moves⟩ := decodeNext_of_idle here alive idle
    exact ⟨.decode k i true, rfl, by simp [next, here, moves]⟩
  | audioSync i =>
    obtain ⟨loc, here, alive⟩ := busy
    obtain ⟨u, moves⟩ := audioNext_of_idle here alive idle
    exact ⟨.audioSync i true, rfl, by simp [next, here, moves]⟩
  | videoSync i =>
    obtain ⟨loc, here, alive⟩ := busy
    obtain ⟨u, moves⟩ := videoNext_of_idle here alive idle
    exact ⟨.videoSync i true, rfl, by simp [next, here, moves]⟩
  | callback i =>
    obtain ⟨loc, here, alive, defined⟩ := busy
    obtain ⟨u, moves⟩ := callbackNext_of_idle here alive defined idle
    exact ⟨.callback i, rfl, by simp [next, here, moves]⟩

/-! ### Threads that move -/

theorem not_paused (plays : s.halted = false) : ¬s.paused = true := by
  unfold State.halted at plays
  unfold State.paused
  simp_all

/-- A callback that is not held up by a pause, while there are PCM frames. -/
theorem callback_frees (buffered : Buffered s) (filled : s.pcm ≠ 0) {i : Nat} {loc : CallbackLoc}
    (here : s.callback[i]? = some loc) (goes : loc = .pausing → ¬s.paused = true) :
    (waitFor s).Frees (.callback i) := by
  refine .of_idle fun r waits => ?_
  cases waits with
  | playPause at_ paused =>
    rw [here] at at_
    exact goes (Option.some.inj at_) paused
  | getData at_ => exact filled (buffered.empty (List.mem_of_getElem? at_))

/-- An audio thread in `update` is woken by a callback. -/
theorem putWaiting_frees (buffered : Buffered s) {i n : Nat}
    (here : s.audioSync[i]? = some (.putWaiting n)) {j : Nat} {loc : CallbackLoc}
    (taker : s.callback[j]? = some loc) (alive : loc ≠ .exited)
    (goes : loc = .pausing → ¬s.paused = true) : (waitFor s).Frees (.audioSync i) := by
  have full := buffered.full n (List.mem_of_getElem? here)
  have filled : s.pcm ≠ 0 := by omega
  refine .of_wait (r := .pcmRoom) (fun r waits => ?_) (.getData taker alive) id
    (callback_frees buffered filled taker goes)
  cases waits with
  | audioPause at_ => rw [here] at at_; cases at_
  | notify at_ => rw [here] at at_; cases at_
  | update at_ => rfl

/-- An audio thread that has `IObserver::mutex` is in `update`, or moves. -/
theorem observerHolder_frees (buffered : Buffered s) {i : Nat} {loc : AudioLoc}
    (here : s.audioSync[i]? = some loc) (holds : loc.holds = true)
    (taker : loc.isPutWaiting = true → ∃ (j : Nat) (at_ : CallbackLoc),
      s.callback[j]? = some at_ ∧ at_ ≠ .exited ∧ (at_ = .pausing → ¬s.paused = true)) :
    (waitFor s).Frees (.audioSync i) := by
  by_cases waiting : loc.isPutWaiting = true
  · obtain ⟨j, at_, there, alive, goes⟩ := taker waiting
    cases loc with
    | putWaiting n => exact putWaiting_frees buffered here there alive goes
    | _ => cases waiting
  · refine .of_idle fun r waits => ?_
    cases waits with
    | audioPause at_ =>
      rw [here] at at_
      cases at_
      cases holds
    | notify at_ =>
      rw [here] at at_
      cases at_
      cases holds
    | update at_ =>
      rw [here] at at_
      cases at_
      exact waiting rfl

/-- Threads that stand somewhere. -/
theorem exists_getElem? {α : Type} {locs : List α} (nonempty : locs ≠ []) :
    ∃ (i : Nat) (loc : α), locs[i]? = some loc := by
  cases locs with
  | nil => exact absurd rfl nonempty
  | cons loc locs => exact ⟨0, loc, rfl⟩

theorem exists_of_any {α : Type} {locs : List α} {p : α → Bool} (any : locs.any p = true) :
    ∃ (i : Nat) (loc : α), locs[i]? = some loc ∧ p loc = true := by
  obtain ⟨loc, member, holds⟩ := List.any_eq_true.mp any
  obtain ⟨i, here⟩ := List.getElem?_of_mem member
  exact ⟨i, loc, here, holds⟩

/-! ### The playing player -/

theorem goes_of_plays (plays : s.halted = false) : s.abortRequest = false := by
  unfold State.halted at plays
  simp_all

/-- **Every video thread goes on**, with a view to render to. -/
theorem video_frees (rendered : Rendered s) (plays : s.halted = false) (lit : s.view = true) {i : Nat} :
    (waitFor s).Frees (.videoSync i) := by
  refine .of_idle fun r waits => ?_
  cases waits with
  | videoPause at_ paused => exact not_paused plays paused
  | render at_ =>
    exact absurd (lit.symm.trans (rendered.dark (List.mem_of_getElem? at_))) (by simp)

section Playing

variable (sound : Sound s) (plays : s.halted = false)
include sound plays

/-- A callback is there, and takes frames. -/
theorem taker_of_plays (sounds : s.callback ≠ []) : ∃ (j : Nat) (loc : CallbackLoc),
    s.callback[j]? = some loc ∧ loc ≠ .exited ∧ (loc = .pausing → ¬s.paused = true) := by
  obtain ⟨j, loc, here⟩ := exists_getElem? sounds
  refine ⟨j, loc, here, ?_, fun _ => not_paused plays⟩
  rintro rfl
  exact sound.alive.callback (goes_of_plays plays) (List.mem_of_getElem? here)

/-- **Every audio thread goes on.** -/
theorem audio_frees (sounds : s.callback ≠ []) {i : Nat} {loc : AudioLoc}
    (here : s.audioSync[i]? = some loc) : (waitFor s).Frees (.audioSync i) := by
  have taker := taker_of_plays sound plays sounds
  by_cases holds : loc.holds = true
  · exact observerHolder_frees sound.buffered here holds fun _ => taker
  · by_cases notifies : loc = .notifying ∧ s.observerHeld = true
    · obtain ⟨rfl, held⟩ := notifies
      obtain ⟨j, at_, there, owns⟩ := exists_of_any held
      refine .of_wait (r := .observerMutex) (fun r waits => ?_) (.observerMutex there owns) id
        (observerHolder_frees sound.buffered there owns fun _ => taker)
      cases waits with
      | audioPause at_ paused => exact absurd paused (not_paused plays)
      | notify => rfl
      | update at_ =>
        rw [here] at at_
        cases at_
    · refine .of_idle fun r waits => ?_
      cases waits with
      | audioPause at_ paused => exact not_paused plays paused
      | notify at_ held =>
        rw [here] at at_
        exact notifies ⟨Option.some.inj at_, held⟩
      | update at_ =>
        rw [here] at at_
        cases at_
        exact holds rfl

/-- **Every decoder with packets goes on.** -/
theorem decode_frees (sounds : s.callback ≠ []) (lit : s.view = true)
    (loops : s.audioSync ≠ [] ∧ s.videoSync ≠ []) {k : Kind} (filled : s.packets k ≠ 0) {i : Nat}
    {loc : DecodeLoc} (here : (s.decode k)[i]? = some loc) : (waitFor s).Frees (.decode k i) := by
  by_cases waiting : loc = .peekWaiting
  · subst waiting
    have only : ∀ r, (waitFor s).Waits (.decode k i) r → r = .frameRoom k := by
      intro r waits
      cases waits with
      | decodePause at_ paused => exact absurd paused (not_paused plays)
      | pop at_ =>
        rw [here] at at_
        cases at_
      | peek => rfl
    have goes := goes_of_plays plays
    cases k with
    | audio =>
      obtain ⟨j, at_, there⟩ := exists_getElem? loops.1
      have alive : at_ ≠ .exited := by
        rintro rfl
        exact sound.alive.audioSync goes (List.mem_of_getElem? there)
      exact .of_wait (u := .audioSync j) only (.popFrame ⟨at_, there, alive⟩) id
        (audio_frees sound plays sounds there)
    | video =>
      obtain ⟨j, at_, there⟩ := exists_getElem? loops.2
      have alive : at_ ≠ .exited := by
        rintro rfl
        exact sound.alive.videoSync goes (List.mem_of_getElem? there)
      exact .of_wait (u := .videoSync j) only (.popFrame ⟨at_, there, alive⟩) id
        (video_frees sound.rendered plays lit)
  · refine .of_idle fun r waits => ?_
    cases waits with
    | decodePause at_ paused => exact not_paused plays paused
    | pop at_ => exact filled (sound.queued.empty k (List.mem_of_getElem? at_))
    | peek at_ =>
      rw [here] at at_
      exact waiting (Option.some.inj at_)

end Playing

/-! ### The calls -/

/-- **The demux thread with `FFDemux::mutex` goes on**, when there is no jam. -/
theorem demux_frees (sound : Sound s) (clear : ¬s.DemuxJam) (held : s.demuxHeld = true)
    (spawned : ∀ n, s.caller ≠ some (n, [.startMediaSync])) {i : Nat} {loc : DemuxLoc}
    (here : s.demux[i]? = some loc) (holds : loc.holds = true) :
    (waitFor s).Frees (.demux i) := by
  by_cases waiting : ∃ k, loc = .pushWaiting k
  · obtain ⟨k, rfl⟩ := waiting
    have member := List.mem_of_getElem? here
    have full := sound.queued.full k member
    have only : ∀ r, (waitFor s).Waits (.demux i) r → r = .packetRoom k := by
      intro r waits
      cases waits with
      | readPacket at_ =>
        rw [here] at at_
        cases at_
      | readPause at_ =>
        rw [here] at at_
        cases at_
      | push at_ =>
        rw [here] at at_
        cases at_
        rfl
    cases halted : s.halted with
    | true =>
      -- a decoder that is about to pop
      have pops := popping_of_clear clear halted full member (by simp [DemuxLoc.bound])
      obtain ⟨j, there⟩ := List.getElem?_of_mem pops
      refine .of_wait only (.pop there (by simp)) id (.of_idle fun r waits => ?_)
      cases waits with
      | decodePause at_ =>
        rw [there] at at_
        cases at_
      | pop at_ =>
        rw [there] at at_
        cases at_
      | peek at_ =>
        rw [there] at at_
        cases at_
    | false =>
      have goes : Goes s := ⟨sound, clear, halted, held, spawned⟩
      obtain ⟨j, at_, there⟩ := exists_getElem? (sound.staffed.decode (List.ne_nil_of_mem member) k)
      have alive : at_ ≠ .exited := by
        rintro rfl
        exact sound.alive.decode (goes_of_plays halted) k (List.mem_of_getElem? there)
      have filled : s.packets k ≠ 0 := by
        intro empty
        rw [empty] at full
        exact absurd full (by decide)
      exact .of_wait only (.pop there alive) id
        (decode_frees sound halted goes.sounds goes.lit goes.loops filled there)
  · refine .of_idle fun r waits => ?_
    cases waits with
    | readPacket at_ =>
      rw [here] at at_
      cases at_
      cases holds
    | readPause at_ =>
      rw [here] at at_
      cases at_
      cases holds
    | push at_ =>
      rw [here] at at_
      exact waiting ⟨_, Option.some.inj at_⟩

/-- **The audio thread with `IObserver::mutex` goes on**, when there is no jam. -/
theorem observer_frees (sound : Sound s) (clear : ¬s.ObserverJam) {i : Nat} {loc : AudioLoc}
    (here : s.audioSync[i]? = some loc) (holds : loc.holds = true) :
    (waitFor s).Frees (.audioSync i) := by
  have member := List.mem_of_getElem? here
  refine observerHolder_frees sound.buffered here holds fun waiting => ?_
  cases halted : s.halted with
  | true =>
    -- a callback that will take a frame
    have some : s.takers ≠ 0 := fun nobody =>
      clear (.inl ⟨halted, .inl ⟨List.any_eq_true.mpr ⟨loc, member, waiting⟩, nobody⟩⟩)
    have taker : ∃ at_ ∈ s.callback, takes s.pauseRequest at_ = true := by
      unfold State.takers at some
      split_ifs at some
      · exact absurd rfl some
      · exact List.countP_pos_iff.mp (Nat.pos_of_ne_zero some)
    obtain ⟨at_, inside, takesOne⟩ := taker
    obtain ⟨j, there⟩ := List.getElem?_of_mem inside
    refine ⟨j, at_, there, ?_, ?_⟩
    · rintro rfl
      cases takesOne
    · rintro rfl paused
      simp [takes] at takesOne
      simp [State.paused, takesOne] at paused
  | false =>
    have nonempty : s.audioSync ≠ [] := List.ne_nil_of_mem member
    have sounds : s.callback ≠ [] := fun silent => clear (.inr ⟨halted, silent, nonempty⟩)
    exact taker_of_plays sound halted sounds

/-- **The call in progress is free.** -/
theorem caller_frees (sound : Sound s) (clears : Clears s) {n : Nat} {rest : List Stmt}
    (here : s.caller = some (n, rest)) : (waitFor s).Frees (.ui n) := by
  have unasked := sound.calling.asked n rest here
  have clear := clears n rest here
  by_cases demux : ∃ stmt tail, rest = stmt :: tail ∧ s.locksDemux stmt = true ∧ s.demuxHeld = true
  · obtain ⟨stmt, tail, rfl, locks, held⟩ := demux
    obtain ⟨i, loc, there, holds⟩ := exists_of_any held
    have spawned : ∀ m, s.caller ≠ some (m, [.startMediaSync]) := by
      rintro m spawning
      rw [here] at spawning
      cases spawning
      cases locks
    refine .of_wait (r := .demuxMutex) (fun r waits => ?_) (.demuxMutex there holds) id
      (demux_frees sound (clear.1 ?_) held spawned there holds)
    · cases waits with
      | lock asked => exact absurd unasked asked
      | «open» => rfl
      | addObserver at_ =>
        rw [here] at at_
        cases at_
        cases locks
    · exact List.any_eq_true.mpr ⟨stmt, List.mem_cons_self, locks⟩
  · by_cases observer : (∃ tail, rest = .addObserver :: tail) ∧ s.observerHeld = true
    · obtain ⟨⟨tail, rfl⟩, held⟩ := observer
      obtain ⟨i, loc, there, holds⟩ := exists_of_any held
      refine .of_wait (r := .observerMutex) (fun r waits => ?_) (.observerMutex there holds) id
        (observer_frees sound (clear.2 List.mem_cons_self) there holds)
      cases waits with
      | lock asked => exact absurd unasked asked
      | «open» at_ locks =>
        rw [here] at at_
        cases at_
        cases locks
      | addObserver => rfl
    · refine .of_idle fun r waits => ?_
      cases waits with
      | lock asked => exact asked unasked
      | «open» at_ locks held =>
        rw [here] at at_
        cases at_
        exact demux ⟨_, _, rfl, locks, held⟩
      | addObserver at_ held =>
        rw [here] at at_
        cases at_
        exact observer ⟨⟨_, rfl⟩, held⟩

/-- **Every UI call is free.** -/
theorem ui_frees (sound : Sound s) (clears : Clears s) (n : Nat) : (waitFor s).Frees (.ui n) := by
  by_cases calls : ∃ rest, s.caller = some (n, rest)
  · obtain ⟨rest, here⟩ := calls
    exact caller_frees sound clears here
  · cases caller : s.caller with
    | none =>
      refine .of_idle fun r waits => ?_
      cases waits with
      | lock asked taken => exact taken caller
      | «open» at_ => exact calls ⟨_, at_⟩
      | addObserver at_ => exact calls ⟨_, at_⟩
    | some owner =>
      obtain ⟨m, rest⟩ := owner
      refine .of_wait (r := .playerMutex) (fun r waits => ?_) (.unlock caller) ?_
        (caller_frees sound clears caller)
      · cases waits with
        | lock => rfl
        | «open» at_ => exact absurd ⟨_, at_⟩ calls
        | addObserver at_ => exact absurd ⟨_, at_⟩ calls
      · rintro ⟨m', rest', here, other⟩
        rw [caller] at here
        cases here
        exact other rfl

/-! ### Workers -/

/-- Some call ends a wait for it. -/
def Resource.byCall : Resource → Bool
  | .frameRoom _ | .pcmRoom | .pcm | .resumed | .view => true
  | .playerMutex | .demuxMutex | .observerMutex | .packetRoom _ | .packet _ => false

theorem releases_byCall (n : Nat) {r : Resource} (called : r.byCall = true) :
    Releases s (.ui n) r := by
  have by_stmt : ∀ (c : Call) (stmt : Stmt), stmt ∈ body c → stmt.releases r = true →
      Releases s (.ui n) r := fun c stmt part releases => .call part releases
  cases r with
  | frameRoom k =>
    exact by_stmt .start (.startDecode k) (by cases k <;> decide) (by simp [Stmt.releases])
  | pcmRoom => exact by_stmt .stop .notFull (by decide) rfl
  | pcm => exact by_stmt .stop .notEmpty (by decide) rfl
  | resumed => exact by_stmt .resume (.setPause false) (by decide) rfl
  | view => exact by_stmt (.initView true) .setRender (by decide) rfl
  | _ => cases called

/-- A UI thread that is free to call. -/
theorem exists_caller (sound : Sound s) (clears : Clears s) :
    ∃ n, ¬Blocked s (.ui n) ∧ (waitFor s).Frees (.ui n) := by
  cases caller : s.caller with
  | none =>
    refine ⟨0, ?_, ui_frees sound clears 0⟩
    rintro ⟨m, rest, here, -⟩
    rw [caller] at here
    cases here
  | some owner =>
    obtain ⟨n, rest⟩ := owner
    refine ⟨n, ?_, ui_frees sound clears n⟩
    rintro ⟨m, rest', here, other⟩
    rw [caller] at here
    cases here
    exact other rfl

/-- A push waits for a decoder that is still in its loop. -/
theorem exists_decoder (sound : Sound s) (pushes : Pushes s) {k : Kind}
    (waiting : .pushWaiting k ∈ s.demux) : ∃ (i : Nat) (loc : DecodeLoc),
      (s.decode k)[i]? = some loc ∧ loc ≠ .exited := by
  cases stopped : s.abortRequest with
  | false =>
    obtain ⟨i, loc, here⟩ := exists_getElem? (sound.staffed.decode (List.ne_nil_of_mem waiting) k)
    refine ⟨i, loc, here, ?_⟩
    rintro rfl
    exact sound.alive.decode stopped k (List.mem_of_getElem? here)
  | true =>
    have pops : .popping ∈ s.decode k := by
      by_contra nobody
      exact pushes stopped k ⟨sound.queued.full k waiting, nobody, _, waiting, by simp [DemuxLoc.bound]⟩
    obtain ⟨i, here⟩ := List.getElem?_of_mem pops
    exact ⟨i, _, here, by simp⟩

section Called

variable (sound : Sound s) (clears : Clears s)
include sound clears

/-- Whoever waits only for what a call ends is free. -/
theorem frees_byCall {t : Thread} (only : ∀ r, Waits s t r → r.byCall = true) :
    (waitFor s).Frees t := by
  obtain ⟨n, able, free⟩ := exists_caller sound clears
  exact .of_each fun r waits => ⟨.ui n, releases_byCall n (only r waits), able, free⟩

theorem decoder_frees {k : Kind} (filled : s.packets k ≠ 0) (i : Nat) :
    (waitFor s).Frees (.decode k i) := by
  refine frees_byCall sound clears fun r waits => ?_
  cases waits with
  | pop at_ => exact absurd (sound.queued.empty k (List.mem_of_getElem? at_)) filled
  | _ => rfl

theorem observerOwner_frees {i : Nat} {loc : AudioLoc} (here : s.audioSync[i]? = some loc)
    (holds : loc.holds = true) : (waitFor s).Frees (.audioSync i) := by
  refine frees_byCall sound clears fun r waits => ?_
  cases waits with
  | notify at_ =>
    rw [here] at at_
    cases at_
    cases holds
  | _ => rfl

theorem audioSync_frees (i : Nat) : (waitFor s).Frees (.audioSync i) := by
  by_cases notifies : s.audioSync[i]? = some .notifying ∧ s.observerHeld = true
  · obtain ⟨j, loc, there, owns⟩ := exists_of_any notifies.2
    refine .of_wait (r := .observerMutex) (fun r waits => ?_) (.observerMutex there owns) id
      (observerOwner_frees sound clears there owns)
    cases waits with
    | audioPause at_ =>
      rw [notifies.1] at at_
      cases at_
    | notify => rfl
    | update at_ =>
      rw [notifies.1] at at_
      cases at_
  · refine frees_byCall sound clears fun r waits => ?_
    cases waits with
    | notify at_ held => exact absurd ⟨at_, held⟩ notifies
    | _ => rfl

variable (pushes : Pushes s)
include pushes

theorem demuxOwner_frees {i : Nat} {loc : DemuxLoc} (here : s.demux[i]? = some loc)
    (holds : loc.holds = true) : (waitFor s).Frees (.demux i) := by
  refine .of_each fun r waits => ?_
  cases waits with
  | readPacket at_ =>
    rw [here] at at_
    cases at_
    cases holds
  | readPause at_ =>
    rw [here] at at_
    cases at_
    cases holds
  | @push _ k at_ =>
    have waiting := List.mem_of_getElem? at_
    have filled : s.packets k ≠ 0 := fun empty => by
      have full := sound.queued.full k waiting
      rw [empty] at full
      exact absurd full (by decide)
    obtain ⟨j, decoder, there, alive⟩ := exists_decoder sound pushes waiting
    exact ⟨.decode k j, .pop there alive, id, decoder_frees sound clears filled j⟩

theorem demuxThread_frees (i : Nat) : (waitFor s).Frees (.demux i) := by
  by_cases owner : ∃ loc, s.demux[i]? = some loc ∧ loc.holds = true
  · obtain ⟨loc, here, holds⟩ := owner
    exact demuxOwner_frees sound clears pushes here holds
  · obtain ⟨n, able, free⟩ := exists_caller sound clears
    refine .of_each fun r waits => ?_
    cases waits with
    | readPacket at_ held =>
      obtain ⟨j, loc, there, owns⟩ := exists_of_any held
      exact ⟨.demux j, .demuxMutex there owns, id, demuxOwner_frees sound clears pushes there owns⟩
    | readPause => exact ⟨.ui n, releases_byCall n rfl, able, free⟩
    | push at_ => exact absurd ⟨_, at_, rfl⟩ owner

/-- **Every thread that waits for a lock or for room is free.** -/
theorem frees_of_contended {t : Thread} {r : Resource} (waits : Waits s t r)
    (contended : r.contended = true) : (waitFor s).Frees t := by
  cases waits with
  | @lock n => exact ui_frees sound clears n
  | @«open» n => exact ui_frees sound clears n
  | @addObserver n => exact ui_frees sound clears n
  | @readPacket i => exact demuxThread_frees sound clears pushes i
  | @push i => exact demuxThread_frees sound clears pushes i
  | @peek k i at_ =>
    refine frees_byCall sound clears fun r' waits => ?_
    cases waits with
    | pop there =>
      rw [at_] at there
      cases there
    | _ => rfl
  | @notify i => exact audioSync_frees sound clears i
  | @update i => exact audioSync_frees sound clears i
  | _ => cases contended

end Called

/-! ### Runs -/

/-- A call of UI thread `n`, with `k` of its statements. -/
def callSteps (n : Nat) (c : Call) (k : Nat) : List Label :=
  [.ask n c, .lock n] ++ List.replicate k (.exec true)

/-- One packet is read, and pushed. -/
def readPacket (i : Nat) (k : Kind) : List Label :=
  [.demux i .nothing, .demux i .nothing, .demux i (.packet k), .demux i .nothing, .demux i .nothing]

/-- A player that was given a view, opened and started. -/
def openAndStart : List Label :=
  callSteps 0 (.initView true) 3 ++ callSteps 0 .openSource 11 ++ callSteps 0 .start 8

/-- A pause between two packets, and another `openSource`, with `resume` behind it. -/
def openedAgain : List Label :=
  openAndStart ++ readPacket 0 .audio ++ [.demux 0 .nothing, .demux 0 .nothing] ++
    callSteps 1 .pause 2 ++ callSteps 1 .openSource 1 ++ [.ask 2 .resume]

/-- A hundred packets are pushed, and the push of the next one waits, while the audio decoder stands
at its flags. -/
def fillAudio : List Label := (List.replicate 101 (readPacket 0 .audio)).flatten

/-- `openSource` during a pause, with `resume` behind it. -/
def openPaused : List Label :=
  openAndStart ++ fillAudio ++ callSteps 0 .pause 2 ++ callSteps 0 .openSource 1 ++ [.ask 1 .resume]

/-- The four threads of `openPaused`. -/
def cycle : Set Thread := {.ui 0, .ui 1, .demux 0, .decode .audio 0}

/-- What the four wait for, they can only release themselves. -/
theorem cycle_deadlocked {stmt : Stmt} {rest : List Stmt} (caller : s.caller = some (0, stmt :: rest))
    (locks : s.locksDemux stmt = true) (asked : s.asked 1 = some .resume)
    (demux : s.demux = [.pushWaiting .audio]) (decode : s.decode .audio = [.top])
    (paused : s.paused = true) : UiDeadlock s cycle := by
  have held : s.demuxHeld = true := by
    rw [State.demuxHeld, demux]
    rfl
  refine ⟨?_, .ui 0, by simp [cycle], .demuxMutex, .open caller locks held, rfl⟩
  have taken : s.caller ≠ none := by
    rw [caller]
    exact Option.some_ne_none _
  rintro t (rfl | rfl | rfl | rfl)
  · refine ⟨.demuxMutex, .open caller locks held, fun u releases => .inl ?_⟩
    cases releases with
    | @demuxMutex i loc here holds =>
      rw [demux] at here
      cases i with
      | zero => simp [cycle]
      | succ i => cases here
    | call part releases => cases ‹Stmt› <;> cases releases
  · refine ⟨.playerMutex, .lock (by rw [asked]; exact Option.some_ne_none _) taken,
      fun u releases => .inl ?_⟩
    cases releases with
    | unlock here =>
      rw [caller] at here
      cases here
      simp [cycle]
    | call part releases => cases ‹Stmt› <;> cases releases
  · refine ⟨.packetRoom .audio, .push (by rw [demux]; rfl), fun u releases => .inl ?_⟩
    cases releases with
    | @pop k i loc here alive =>
      rw [decode] at here
      cases i with
      | zero => simp [cycle]
      | succ i => cases here
    | call part releases => cases ‹Stmt› <;> cases releases
  · refine ⟨.resumed, .decodePause (by rw [decode]; rfl) paused, fun u releases => ?_⟩
    cases releases with
    | @call n =>
      by_cases owner : n = 0
      · exact .inl (by simp [cycle, owner])
      · exact .inr ⟨0, _, caller, fun same => owner same.symm⟩

end Xplay.UiCalls
