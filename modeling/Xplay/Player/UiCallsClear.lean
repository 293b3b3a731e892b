/-
**A mutex that is not jammed does not become so while a call needs it.**

Whoever has `MediaPlayer::mutex` is the only one to set a flag or to add a thread, and does neither
before the last mutex of the call is behind it. Until then `pauseRequest` and `abortRequest` stand
still, so a jam of `FFDemux::mutex` or of `IObserver::mutex` was one before the step already
(`demuxJam_back`, `observerJam_back`).

* `Clears` — the mutexes ahead of the call in progress are not jammed.
* `clears_step` — a careful step keeps it.
* `Pushes` — after `stop` no demux thread is left in a push into a full queue without a decoder.
* `pushes_step` — a careful step keeps that, too.
-/

import Xplay.Player.UiCallsSound

namespace Xplay.UiCalls

open Lib

variable {s t : State} {l : Label}

/-- The mutexes ahead of the call in progress are not jammed. -/
def Clears (s : State) : Prop := ∀ n rest, s.caller = some (n, rest) → s.Clear rest

/-! ### Back over a step -/

/-- What a jam depends on, but for the queues: the flags and the view stand still, no callback goes, and
no loop is added. -/
structure Stays (s t : State) : Prop where
  halted : t.halted = s.halted
  view : t.view = s.view
  callback : t.callback = [] → s.callback = []
  audioSync : t.audioSync ≠ [] → s.audioSync ≠ []
  videoSync : t.videoSync ≠ [] → s.videoSync ≠ []

theorem Stays.mute (stays : Stays s t) (mute : t.Mute) : s.Mute :=
  ⟨stays.halted ▸ mute.1, stays.callback mute.2.1, stays.audioSync mute.2.2⟩

theorem Stays.dark (stays : Stays s t) (dark : t.Dark) : s.Dark :=
  ⟨stays.halted ▸ dark.1, stays.view ▸ dark.2.1, stays.videoSync dark.2.2⟩

/-- **A step of a worker, or of a UI thread at `MediaPlayer::mutex`.** -/
theorem stays_of_worker (step : Steps s l t) (worker : ∀ ok, l ≠ .exec ok) : Stays s t := by
  cases step with
  | unlock => exact absurd rfl (worker _)
  | exec => exact absurd rfl (worker _)
  | audioSync here moves => exact ⟨rfl, rfl, id, by simp, id⟩
  | put here puts => exact ⟨rfl, rfl, by simp [State.put], by simp, id⟩
  | popAudio here wakes => exact ⟨rfl, rfl, id, by simp, id⟩
  | videoSync here moves => exact ⟨rfl, rfl, id, id, by simp⟩
  | popVideo here wakes => exact ⟨rfl, rfl, id, id, by simp⟩
  | callback here moves => exact ⟨rfl, rfl, by simp, id, id⟩
  | take here gets goes filled => exact ⟨rfl, rfl, by simp, by simp [State.take], id⟩
  | _ => exact ⟨rfl, rfl, id, id, id⟩

theorem demuxJam_of (jam : t.DemuxJam) (stays : Stays s t)
    (live : (∃ loc ∈ t.demux, loc ≠ .exited) → ∃ loc ∈ s.demux, loc ≠ .exited)
    (clogged : s.halted = true → ∀ k, t.Clogged k → s.Clogged k) : s.DemuxJam := by
  rcases jam with ⟨stands, clogs⟩ | ⟨silent, lives⟩
  · rw [stays.halted] at stands
    exact .inl ⟨stands, clogs.imp (clogged stands _) (clogged stands _)⟩
  · exact .inr ⟨silent.imp stays.mute stays.dark, live lives⟩

theorem observerJam_of (jam : t.ObserverJam) (stays : Stays s t)
    (overfull : s.halted = true → t.Overfull → s.Overfull) : s.ObserverJam := by
  rcases jam with ⟨stands, full⟩ | silent
  · rw [stays.halted] at stands
    exact .inl ⟨stands, overfull stands full⟩
  · exact .inr (stays.mute silent)

/-- Threads that leave the packet queues alone. -/
theorem clogged_of {k : Kind} (clogged : t.Clogged k) (abortRequest : t.abortRequest = s.abortRequest)
    (packets : t.packets = s.packets) (demux : t.demux = s.demux)
    (popping : .popping ∈ s.decode k → .popping ∈ t.decode k) : s.Clogged k := by
  obtain ⟨full, nobody, bound⟩ := clogged
  rw [packets] at full
  rw [demux, abortRequest] at bound
  exact ⟨full, fun member => nobody (popping member), bound⟩

/-- A pushing thread was on its way before. -/
theorem bound_of_moves {loc loc' : DemuxLoc} {k : Kind} (moves : DemuxMoves s loc loc')
    (halted : s.halted = true) (bound : loc'.bound s.abortRequest k = true) :
    loc.bound s.abortRequest k = true := by
  cases moves with
  | read plays => exact absurd (plays.symm.trans halted) (by simp)
  | route j =>
    simp only [DemuxLoc.bound, Bool.and_eq_true] at bound ⊢
    exact bound.2
  | push j goes =>
    simp only [DemuxLoc.bound, Bool.and_eq_true, goes] at bound ⊢
    exact ⟨bound, rfl⟩
  | wait j full => exact bound
  | _ => cases bound

theorem holds_of_bound {loc : DemuxLoc} {abortRequest : Bool} {k : Kind}
    (bound : loc.bound abortRequest k = true) : loc.holds = true := by
  cases loc <;> simp_all [DemuxLoc.bound, DemuxLoc.holds]

@[simp] theorem bound_wakePush (abortRequest : Bool) (j k : Kind) (loc : DemuxLoc) :
    (loc.wakePush j).bound abortRequest k = loc.bound abortRequest k := by
  cases loc with
  | pushWaiting i => simp only [DemuxLoc.wakePush]; split_ifs <;> rfl
  | _ => rfl

/-- A thread that moves was in its loop. -/
theorem live_back (step : Steps s l t) (worker : ∀ ok, l ≠ .exec ok) :
    (∃ loc ∈ t.demux, loc ≠ .exited) → ∃ loc ∈ s.demux, loc ≠ .exited := by
  cases step with
  | unlock => exact absurd rfl (worker _)
  | exec => exact absurd rfl (worker _)
  | @demux i _ loc loc' here moves =>
    exact fun _ => ⟨loc, List.mem_of_getElem? here, by cases moves <;> simp⟩
  | endOfFile here => exact fun _ => ⟨_, List.mem_of_getElem? here, by simp⟩
  | push here room => exact fun _ => ⟨_, List.mem_of_getElem? here, by simp⟩
  | pop here filled =>
    rintro ⟨x, member, alive⟩
    obtain ⟨y, inside, rfl⟩ := List.mem_map.mp member
    exact ⟨y, inside, fun exited => alive (by rw [exited]; rfl)⟩
  | _ => exact id

/-- **After `pause` or `stop` a clogged queue was clogged before the step.** -/
theorem clogged_back (sound : Sound s) (step : Steps s l t) (worker : ∀ ok, l ≠ .exec ok)
    (halted : s.halted = true) {k : Kind} (clogged : t.Clogged k) : s.Clogged k := by
  cases step with
  | unlock => exact absurd rfl (worker _)
  | exec => exact absurd rfl (worker _)
  | @demux i _ loc loc' here moves =>
    obtain ⟨full, nobody, x, member, bound⟩ := clogged
    refine ⟨full, nobody, ?_⟩
    rcases List.mem_or_eq_of_mem_set member with member | rfl
    · exact ⟨x, member, bound⟩
    · exact ⟨loc, List.mem_of_getElem? here, bound_of_moves moves halted bound⟩
  | @endOfFile i _ here =>
    obtain ⟨full, nobody, x, member, bound⟩ := clogged
    rcases List.mem_or_eq_of_mem_set member with member | rfl
    · exact ⟨full, nobody, x, member, bound⟩
    · cases bound
  | @push i _ j here room =>
    -- the thread that pushed was the one with the mutex
    obtain ⟨-, -, x, member, bound⟩ := clogged
    have count := Crew.countP_set_add DemuxLoc.holds here .top
    have holder := sound.queued.holder
    simp only [DemuxLoc.holds, Bool.false_eq_true, if_false, if_true] at count
    have some : 0 < (s.demux.set i .top).countP DemuxLoc.holds :=
      List.countP_pos_iff.mpr ⟨x, member, holds_of_bound bound⟩
    omega
  | @decode j i _ loc loc' here moves =>
    obtain ⟨full, nobody, bound⟩ := clogged
    refine ⟨full, fun member => nobody ?_, bound⟩
    by_cases same : k = j
    · subst same
      rw [show (s.setDecode k _).decode k = _ from Function.update_self ..]
      refine Crew.mem_set_of_ne member here ?_ _
      rintro rfl
      cases moves with
      | wait empty =>
        have filled : packetQueueSize ≤ s.packets k := full
        rw [empty] at filled
        exact absurd filled (by decide)
    · rwa [show (s.setDecode j _).decode k = _ from Function.update_of_ne same ..]
  | @pop j i _ here filled =>
    obtain ⟨full, nobody, x, member, bound⟩ := clogged
    have apart : k ≠ j := by
      rintro rfl
      have room := sound.queued.room k
      have left : packetQueueSize ≤ Function.update s.packets k (s.packets k - 1) k := full
      rw [Function.update_self] at left
      omega
    obtain ⟨y, inside, rfl⟩ := List.mem_map.mp member
    rw [bound_wakePush] at bound
    refine ⟨full.trans (Function.update_of_ne apart _ s.packets).le, fun member => nobody ?_,
      y, inside, bound⟩
    rwa [show ((s.popPacket j).setDecode j _).decode k = _ from Function.update_of_ne apart ..]
  | @fill j i _ here =>
    refine clogged_of clogged rfl rfl rfl fun member => ?_
    by_cases same : k = j
    · subst same
      rw [show ((s.pushFrame k).setDecode k _).decode k = _ from Function.update_self ..]
      have woken : ((s.decode k).map DecodeLoc.wakePeek)[i]? = some .filling := by
        rw [List.getElem?_map, here]
        rfl
      exact Crew.mem_set_of_ne ((mem_wakePeek (by simp) (by simp)).mpr member) woken (by simp) _
    · rw [show ((s.pushFrame j).setDecode j _).decode k = _ from Function.update_of_ne same ..]
      rwa [show (s.pushFrame j).decode k = _ from Function.update_of_ne same ..]
  | popAudio here wakes =>
    exact clogged_of clogged rfl rfl rfl (mem_of_woken (wakes k) (by simp) (by simp)).mpr
  | popVideo here wakes =>
    exact clogged_of clogged rfl rfl rfl (mem_of_woken (wakes k) (by simp) (by simp)).mpr
  | _ => exact clogged

/-- **A jam of `FFDemux::mutex` was one before the step.** -/
theorem demuxJam_back (sound : Sound s) (step : Steps s l t) (worker : ∀ ok, l ≠ .exec ok)
    (jam : t.DemuxJam) : s.DemuxJam :=
  demuxJam_of jam (stays_of_worker step worker) (live_back step worker) fun halted _ =>
    clogged_back sound step worker halted

/-! ### The calls of `update` and of `getData` -/

/-- A backlog that does not grow. -/
theorem overfull_of (overfull : t.Overfull)
    (waits : t.audioSync.any AudioLoc.isPutWaiting = true →
      s.audioSync.any AudioLoc.isPutWaiting = true)
    (takers : s.takers ≤ t.takers) (fresh : t.freshPuts ≤ s.freshPuts)
    (backlog : t.pcm + t.puts + s.takers ≤ s.pcm + s.puts + t.takers) : s.Overfull := by
  rcases overfull with ⟨waiting, nobody⟩ | ⟨some, exceeds⟩
  · exact .inl ⟨waits waiting, by omega⟩
  · exact .inr ⟨by omega, by omega⟩

theorem isPutWaiting_of_set {locs : List AudioLoc} {i : Nat} {loc : AudioLoc}
    (other : loc.isPutWaiting = false)
    (waiting : (locs.set i loc).any AudioLoc.isPutWaiting = true) :
    locs.any AudioLoc.isPutWaiting = true := by
  obtain ⟨x, member, waits⟩ := List.any_eq_true.mp waiting
  rcases List.mem_or_eq_of_mem_set member with member | rfl
  · exact List.any_eq_true.mpr ⟨x, member, waits⟩
  · exact absurd (other.symm.trans waits) (by simp)

@[simp] theorem left_wakePut (observers : Nat) (loc : AudioLoc) :
    loc.wakePut.left observers = loc.left observers := by
  cases loc <;> rfl

@[simp] theorem fresh_wakePut (observers : Nat) (loc : AudioLoc) :
    loc.wakePut.fresh observers = loc.fresh observers := by
  cases loc <;> rfl

@[simp] theorem takes_wakeGet (pauseRequest : Bool) (loc : CallbackLoc) :
    takes pauseRequest loc.wakeGet = takes pauseRequest loc := by
  cases loc <;> rfl

/-- An audio thread that goes on under a pause has no more calls of `update` ahead than before. -/
theorem left_of_moves {loc loc' : AudioLoc} (moves : AudioMoves s loc loc')
    (halted : s.halted = true) :
    loc'.left s.observers ≤ loc.left s.observers ∧ loc'.fresh s.observers ≤ loc.fresh s.observers := by
  cases moves with
  | begin plays => exact absurd (plays.symm.trans halted) (by simp)
  | _ => simp [AudioLoc.left, AudioLoc.fresh]

/-- A callback that goes on takes as many frames as it would have. -/
theorem takes_of_moves {loc loc' : CallbackLoc} (moves : CallbackMoves s loc loc')
    (goes : s.playExit = false) (taken : takes s.pauseRequest loc = true) :
    takes s.pauseRequest loc' = true := by
  cases moves with
  | quit gets exit => exact absurd (goes.symm.trans exit) (by simp)
  | leave paused stopped => simp [takes, paused] at taken
  | stay paused => exact taken
  | resume resumed => rfl
  | wait empty => rfl
  | _ => simp [takes] at taken

theorem takers_of_moves {i : Nat} {loc loc' : CallbackLoc} (here : s.callback[i]? = some loc)
    (moves : CallbackMoves s loc loc') :
    s.takers ≤ { s with callback := s.callback.set i loc' }.takers := by
  unfold State.takers
  cases exit : s.playExit with
  | true => simp
  | false =>
    have count := Crew.countP_set_add (takes s.pauseRequest) here loc'
    simp only [Bool.false_eq_true, if_false]
    by_cases taken : takes s.pauseRequest loc = true
    · rw [if_pos taken, if_pos (takes_of_moves moves exit taken)] at count
      omega
    · rw [if_neg taken] at count
      omega

/-- A put that finds no room, when nobody will take a frame, was one too many. -/
theorem overfull_of_wait {i n : Nat} (here : s.audioSync[i]? = some (.putting (n + 1)))
    (full : maxFrameBuffer < s.pcm)
    (overfull : { s with audioSync := s.audioSync.set i (.putWaiting n) }.Overfull) :
    s.Overfull := by
  have puts := Crew.sum_map_set_add (AudioLoc.left s.observers) here (.putWaiting n)
  have fresh := Crew.sum_map_set_add (AudioLoc.fresh s.observers) here (.putWaiting n)
  simp only [AudioLoc.left, AudioLoc.fresh] at puts fresh
  rcases overfull with ⟨-, nobody⟩ | ⟨some, exceeds⟩
  · have none : s.takers = 0 := nobody
    refine .inr ⟨?_, ?_⟩
    · unfold State.freshPuts
      omega
    · have one := Crew.sum_map_set_add (AudioLoc.left s.observers) here .top
      simp only [AudioLoc.left] at one
      unfold State.puts
      omega
  · have exceeds' : maxFrameBuffer + 1 + s.takers <
        s.pcm + ((s.audioSync.set i (.putWaiting n)).map (AudioLoc.left s.observers)).sum := exceeds
    have some' : 0 < ((s.audioSync.set i (.putWaiting n)).map (AudioLoc.fresh s.observers)).sum :=
      some
    refine .inr ⟨?_, ?_⟩
    · unfold State.freshPuts
      omega
    · unfold State.puts
      omega

/-- **A jam of `IObserver::mutex` was one before the step.** -/
theorem observerJam_back (step : Steps s l t) (worker : ∀ ok, l ≠ .exec ok)
    (jam : t.ObserverJam) : s.ObserverJam := by
  refine observerJam_of jam (stays_of_worker step worker) fun halted overfull => ?_
  cases step with
  | unlock => exact absurd rfl (worker _)
  | exec => exact absurd rfl (worker _)
  | @audioSync i _ loc loc' here moves =>
    by_cases waits : loc'.isPutWaiting = true
    · cases moves with
      | wait n full => exact overfull_of_wait here full overfull
      | _ => cases waits
    · have puts := Crew.sum_map_set_add (AudioLoc.left s.observers) here loc'
      have fresh := Crew.sum_map_set_add (AudioLoc.fresh s.observers) here loc'
      obtain ⟨fewer, fewer'⟩ := left_of_moves moves halted
      refine overfull_of overfull (isPutWaiting_of_set (by simpa using waits)) (Nat.le_refl _) ?_ ?_
      · simp only [State.freshPuts]
        omega
      · simp only [State.puts, State.takers]
        omega
  | @put i n _ loc here puts =>
    have left := Crew.sum_map_set_add (AudioLoc.left s.observers) here (.putting n)
    have fresh := Crew.sum_map_set_add (AudioLoc.fresh s.observers) here (.putting n)
    have same : (s.callback.map CallbackLoc.wakeGet).countP (takes s.pauseRequest) =
        s.callback.countP (takes s.pauseRequest) := Crew.countP_map_eq (takes_wakeGet _)
    refine overfull_of overfull (isPutWaiting_of_set rfl) ?_ ?_ ?_
    · simp [State.takers, State.put, same]
    · rcases puts with rfl | rfl <;> simp only [AudioLoc.fresh] at fresh <;>
        simp only [State.freshPuts, State.put] <;> omega
    · rcases puts with rfl | rfl <;> simp only [AudioLoc.left] at left <;>
        simp only [State.puts, State.takers, State.put, same] <;> omega
  | @popAudio i _ _ _ _ here wakes =>
    have left := Crew.sum_map_set_add (AudioLoc.left s.observers) here .top
    have fresh := Crew.sum_map_set_add (AudioLoc.fresh s.observers) here .top
    simp only [AudioLoc.left, AudioLoc.fresh] at left fresh
    refine overfull_of overfull (isPutWaiting_of_set rfl) (Nat.le_refl _) ?_ ?_
    · simp only [State.freshPuts]
      omega
    · simp only [State.puts, State.takers]
      omega
  | callback here moves =>
    have more := takers_of_moves here moves
    exact overfull_of overfull id more (Nat.le_refl _) (Nat.add_le_add_left more _)
  | @take i loc here gets goes filled =>
    have count := Crew.countP_set_add (takes s.pauseRequest) here .idle
    have left : s.take.puts = s.puts := Crew.sum_map_map (left_wakePut _)
    have fresh : s.take.freshPuts = s.freshPuts := Crew.sum_map_map (fresh_wakePut _)
    -- everybody is woken, and the frame that is taken makes up for the callback that took it
    have nobody : (s.audioSync.map AudioLoc.wakePut).any AudioLoc.isPutWaiting = false := by
      rw [List.any_map, List.any_eq_false]
      intro x _
      cases x <;> simp [AudioLoc.wakePut, AudioLoc.isPutWaiting]
    have taken : takes s.pauseRequest loc = true := by rcases gets with rfl | rfl <;> rfl
    rw [if_pos taken, if_neg (by simp [takes])] at count
    rcases overfull with ⟨waiting, -⟩ | ⟨some, exceeds⟩
    · exact absurd (nobody.symm.trans waiting) (by simp)
    · have some' : 0 < s.take.freshPuts := some
      have exceeds' : maxFrameBuffer + 1 + (if s.playExit then 0 else
          (s.callback.set i .idle).countP (takes s.pauseRequest)) < s.pcm - 1 + s.take.puts := exceeds
      rw [goes, if_neg (by simp)] at exceeds'
      refine .inr ⟨fresh ▸ some', ?_⟩
      rw [State.takers, goes, if_neg (by simp)]
      omega
  | _ => exact overfull

/-! ### The call in progress -/

/-- The statements of a call before its last mutex. -/
def Stmt.early : Stmt → Bool
  | .checkUrl | .close | .openInput | .getVideoParameter | .getAudioParameter | .setAudioOutParam |
    .checkSampleRate | .startPlay => true
  | .startDecode k => k = .audio
  | _ => false

/-- The statement locks `FFDemux::mutex`, whatever the sample rate is, or `IObserver::mutex`. -/
def Stmt.locks : Stmt → Bool
  | .close | .openInput | .getVideoParameter | .getAudioParameter | .setAudioOutParam |
    .checkSampleRate | .addObserver => true
  | _ => false

theorem early_of_ahead {stmt other : Stmt} {rest : List Stmt}
    (suffix : ∃ c, stmt :: rest <:+ body c) (ahead : other ∈ rest) (locks : other.locks = true) :
    stmt.early = true := by
  have ordered : ∀ c, (body c).Pairwise fun stmt other =>
      other.locks = true → stmt.early = true := by
    intro c
    rcases c with ⟨_ | _⟩ | _ <;> decide
  exact ordered_of_suffix ordered suffix _ ahead locks

/-- `start` looks at the sample rate next to first. -/
theorem first_of_checkSampleRate {stmt : Stmt} {rest : List Stmt}
    (suffix : ∃ c, stmt :: rest <:+ body c) (ahead : .checkSampleRate ∈ rest) :
    stmt = .startDecode .audio := by
  have ordered : ∀ c, (body c).Pairwise fun stmt other =>
      other = .checkSampleRate → stmt = .startDecode .audio := by
    intro c
    rcases c with ⟨_ | _⟩ | _ <;> decide
  exact ordered_of_suffix ordered suffix _ ahead rfl

theorem locks_of_locksDemux {stmt : Stmt} (locks : s.locksDemux stmt = true) :
    stmt.locks = true := by
  cases stmt <;> first | rfl | cases locks

/-- A mutex ahead after a statement was ahead before it. -/
theorem locksDemux_back {stmt other : Stmt} {rest : List Stmt} {ok : Bool}
    (suffix : ∃ c, stmt :: rest <:+ body c) (ahead : other ∈ rest)
    (locks : (s.exec ok stmt).locksDemux other = true) : s.locksDemux other = true := by
  cases other with
  | checkSampleRate =>
    rw [first_of_checkSampleRate suffix ahead] at locks
    exact locks
  | close => rfl
  | openInput => rfl
  | getVideoParameter => rfl
  | getAudioParameter => rfl
  | setAudioOutParam => rfl
  | _ => cases locks

/-- A statement clogs no queue, but for the setting of `abortRequest`. -/
theorem clogged_exec {ok : Bool} {stmt : Stmt} {caller : Option (Nat × List Stmt)} {k : Kind}
    (stands : (s.exec ok stmt).abortRequest = s.abortRequest)
    (clogged : { s.exec ok stmt with caller := caller }.Clogged k) : s.Clogged k := by
  cases stmt with
  | startDecode j =>
    refine clogged_of clogged rfl rfl rfl fun member => ?_
    by_cases same : k = j
    · subst same
      rw [show (s.exec ok (.startDecode k)).decode k = _ from Function.update_self ..]
      exact List.mem_append_left _ ((mem_wakePeek (by simp) (by simp)).mpr member)
    · rwa [show (s.exec ok (.startDecode j)).decode k = _ from Function.update_of_ne same ..]
  | startDemux =>
    obtain ⟨full, nobody, x, member, bound⟩ := clogged
    rcases List.mem_append.mp member with inside | added
    · exact ⟨full, nobody, x, inside, bound⟩
    · rw [List.mem_singleton.mp added] at bound
      cases bound
  | setAbort => exact clogged_of clogged stands rfl rfl id
  | startPlay => cases ok <;> exact clogged
  | checkWindow =>
    rcases exec_checkWindow ok s with same | same
    · rw [same] at clogged
      exact clogged
    · rw [same] at clogged
      exact clogged
  | _ => exact clogged

/-- **The statements before the last mutex of a call jam none.** -/
theorem demuxJam_exec {ok : Bool} {stmt : Stmt} {caller : Option (Nat × List Stmt)}
    (early : stmt.early = true)
    (jam : { s.exec ok stmt with caller := caller }.DemuxJam) : s.DemuxJam := by
  cases stmt with
  | startDecode j =>
    exact demuxJam_of jam ⟨rfl, rfl, id, id, id⟩ id fun _ _ => clogged_exec rfl
  | startPlay =>
    cases ok with
    | false => exact jam
    | true =>
      exact demuxJam_of jam ⟨rfl, rfl, by simp [State.exec], id, id⟩ id fun _ _ => clogged_exec rfl
  | checkUrl => exact jam
  | close => exact jam
  | openInput => exact jam
  | getVideoParameter => exact jam
  | getAudioParameter => exact jam
  | setAudioOutParam => exact jam
  | checkSampleRate => exact jam
  | _ => cases early

theorem observerJam_exec {ok : Bool} {stmt : Stmt} {caller : Option (Nat × List Stmt)}
    (early : stmt.early = true)
    (jam : { s.exec ok stmt with caller := caller }.ObserverJam) : s.ObserverJam := by
  cases stmt with
  | startDecode j => exact jam
  | startPlay =>
    cases ok with
    | false => exact jam
    | true =>
      refine observerJam_of jam ⟨rfl, rfl, by simp [State.exec], id, id⟩ fun _ overfull => ?_
      have same : s.takers = { s.exec true .startPlay with caller := caller }.takers := by
        simp [State.takers, State.exec, List.countP_append, takes]
      exact overfull_of overfull id same.le (Nat.le_refl _) (Nat.add_le_add_left same.le _)
  | checkUrl => exact jam
  | close => exact jam
  | openInput => exact jam
  | getVideoParameter => exact jam
  | getAudioParameter => exact jam
  | setAudioOutParam => exact jam
  | checkSampleRate => exact jam
  | _ => cases early

theorem clear_exec {n : Nat} {stmt : Stmt} {rest : List Stmt} {ok : Bool}
    (clear : s.Clear (stmt :: rest)) (suffix : ∃ c, stmt :: rest <:+ body c) :
    { s.exec ok stmt with caller := some (n, stmt.after ok rest) }.Clear (stmt.after ok rest) := by
  refine ⟨fun needs jam => ?_, fun ahead jam => ?_⟩
  · obtain ⟨other, ahead, locks⟩ := List.any_eq_true.mp needs
    rw [after_eq_of_mem ahead] at ahead
    have locks : s.locksDemux other = true := locksDemux_back suffix ahead locks
    refine clear.1 (List.any_eq_true.mpr ⟨other, List.mem_cons_of_mem _ ahead, locks⟩) ?_
    exact demuxJam_exec (early_of_ahead suffix ahead (locks_of_locksDemux locks)) jam
  · rw [after_eq_of_mem ahead] at ahead
    refine clear.2 (List.mem_cons_of_mem _ ahead) ?_
    exact observerJam_exec (early_of_ahead suffix ahead rfl) jam

/-- A step of a worker, or of a UI thread that waits, leaves the call alone. -/
theorem caller_back (step : Steps s l t) (worker : (∀ ok, l ≠ .exec ok) ∧ ∀ n, l ≠ .lock n) :
    t.caller = s.caller ∧ t.sampleRate = s.sampleRate := by
  cases step with
  | lock => exact absurd rfl (worker.2 _)
  | unlock => exact absurd rfl (worker.1 _)
  | exec => exact absurd rfl (worker.1 _)
  | _ => exact ⟨rfl, rfl⟩

/-- **A careful step keeps the mutexes ahead clear.** -/
theorem clears_step (sound : Sound s) (clears : Clears s) (careful : Careful s l)
    (step : Steps s l t) : Clears t := by
  have others : (∀ ok, l ≠ .exec ok) → (∀ n, l ≠ .lock n) → Clears t := by
    intro noExec noLock n rest here
    obtain ⟨caller, sampleRate⟩ := caller_back step ⟨noExec, noLock⟩
    obtain ⟨demux, observer⟩ := clears n rest (caller ▸ here)
    refine ⟨fun needs jam => demux ?_ (demuxJam_back sound step noExec jam),
      fun ahead jam => observer ahead (observerJam_back step noExec jam)⟩
    have same : t.locksDemux = s.locksDemux := by
      funext stmt
      cases stmt <;> simp [State.locksDemux, sampleRate]
    rwa [State.needsDemux, same] at needs
  cases step with
  | @lock n c asked free =>
    intro m rest here
    cases here
    simp only [Careful, asked] at careful
    exact careful
  | unlock here =>
    intro _ _ none
    cases none
  | @exec n stmt rest ok here runs =>
    intro m rest' same
    cases same
    exact clear_exec (clears _ _ here) (sound.calling.suffix _ _ here)
  | _ => exact others (by simp) (by simp)

/-! ### After `stop` -/

/-- After `stop` no queue is clogged. -/
def Pushes (s : State) : Prop := s.abortRequest = true → ∀ k, ¬s.Clogged k

theorem not_clogged_of (fits : ¬s.Stranding) (k : Kind) :
    ¬{ s with abortRequest := true }.Clogged k := by
  intro clogged
  cases k with
  | audio => exact fits (.inl clogged)
  | video => exact fits (.inr clogged)

/-- Only `setAbort` sets `abortRequest`. -/
theorem exec_abortRequest (ok : Bool) (s : State) {stmt : Stmt} (other : stmt ≠ .setAbort) :
    (s.exec ok stmt).abortRequest = s.abortRequest := by
  cases stmt with
  | setAbort => exact absurd rfl other
  | startPlay => cases ok <;> rfl
  | checkWindow =>
    rcases exec_checkWindow ok s with same | same
    · rw [same]
      rfl
    · rw [same]
  | _ => rfl

/-- **A careful step leaves no demux thread in a push after `stop`.** -/
theorem pushes_step (sound : Sound s) (pushes : Pushes s) (careful : Careful s l)
    (step : Steps s l t) : Pushes t := by
  have others : (∀ ok, l ≠ .exec ok) → t.abortRequest = s.abortRequest → Pushes t := by
    intro noExec stands stopped k clogged
    rw [stands] at stopped
    refine pushes stopped k (clogged_back sound step noExec ?_ clogged)
    simp [State.halted, stopped]
  cases step with
  | unlock => exact pushes
  | @exec n stmt rest ok here runs =>
    intro stopped k clogged
    by_cases aborts : stmt = .setAbort
    · subst aborts
      simp only [Careful, here] at careful
      exact not_clogged_of careful k clogged
    · have stands := exec_abortRequest ok s aborts
      exact pushes (stands ▸ stopped) k (clogged_exec stands clogged)
  | _ => exact others (by simp) rfl

end Xplay.UiCalls
