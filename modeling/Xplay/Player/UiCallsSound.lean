/-
**What every state of the called player satisfies.**

* `Calling` — the statements left of the call in progress are the end of one of the calls.
* `Queued` — a thread waits at a packet queue that is full, or empty, and one thread has
  `FFDemux::mutex`.
* `Buffered` — the same of the list of PCM frames.
* `Alive` — before `stop` no thread leaves its loop but the demux threads.
* `Staffed` — where a demux thread is, all other kinds of workers are.
* `Rendered` — a thread waits for a view while there is none.

Each is kept by every step, whoever takes it.
-/

import Xplay.Player.UiCallsStep

namespace Xplay.UiCalls

open Lib

variable {s t : State} {l : Label}

/-! ### Notifications -/

theorem mem_wakePeek {locs : List DecodeLoc} {loc : DecodeLoc} (fixed : loc ≠ .peekWaiting)
    (other : loc ≠ .peekWoken) : loc ∈ locs.map DecodeLoc.wakePeek ↔ loc ∈ locs := by
  refine Crew.mem_map_wake (by cases loc <;> simp_all [DecodeLoc.wakePeek]) fun b woken => ?_
  cases b <;> simp_all [DecodeLoc.wakePeek]

theorem exited_mem_wakePop {locs : List DecodeLoc} :
    .exited ∈ locs.map DecodeLoc.wakePop ↔ .exited ∈ locs :=
  Crew.mem_map_wake rfl fun b woken => by cases b <;> simp_all [DecodeLoc.wakePop]

theorem popWaiting_not_mem_wakePop {locs : List DecodeLoc} :
    .popWaiting ∉ locs.map DecodeLoc.wakePop := by
  intro member
  obtain ⟨b, -, woken⟩ := List.mem_map.mp member
  cases b <;> cases woken

theorem pushWaiting_mem_wakePush {locs : List DemuxLoc} {j k : Kind}
    (member : .pushWaiting j ∈ locs.map (DemuxLoc.wakePush k)) :
    j ≠ k ∧ .pushWaiting j ∈ locs := by
  obtain ⟨b, inside, woken⟩ := List.mem_map.mp member
  cases b with
  | pushWaiting i =>
    simp only [DemuxLoc.wakePush] at woken
    split_ifs at woken with same
    cases woken
    exact ⟨same, inside⟩
  | _ => cases woken

@[simp] theorem holds_wakePush (k : Kind) (loc : DemuxLoc) :
    (loc.wakePush k).holds = loc.holds := by
  cases loc with
  | pushWaiting j => simp only [DemuxLoc.wakePush]; split_ifs <;> rfl
  | _ => rfl

@[simp] theorem wakePush_eq_exited {k : Kind} {loc : DemuxLoc} :
    loc.wakePush k = .exited ↔ loc = .exited := by
  cases loc with
  | pushWaiting j => simp only [DemuxLoc.wakePush]; split_ifs <;> simp
  | _ => simp [DemuxLoc.wakePush]

theorem exited_mem_wakePut {locs : List AudioLoc} :
    .exited ∈ locs.map AudioLoc.wakePut ↔ .exited ∈ locs :=
  Crew.mem_map_wake rfl fun b woken => by cases b <;> simp_all [AudioLoc.wakePut]

theorem putWaiting_not_mem_wakePut {locs : List AudioLoc} (n : Nat) :
    .putWaiting n ∉ locs.map AudioLoc.wakePut := by
  intro member
  obtain ⟨b, -, woken⟩ := List.mem_map.mp member
  cases b <;> cases woken

theorem exited_mem_wakeGet {locs : List CallbackLoc} :
    .exited ∈ locs.map CallbackLoc.wakeGet ↔ .exited ∈ locs :=
  Crew.mem_map_wake rfl fun b woken => by cases b <;> simp_all [CallbackLoc.wakeGet]

theorem getWaiting_not_mem_wakeGet {locs : List CallbackLoc} :
    .getWaiting ∉ locs.map CallbackLoc.wakeGet := by
  intro member
  obtain ⟨b, -, woken⟩ := List.mem_map.mp member
  cases b <;> cases woken

theorem exited_mem_wakeRender {locs : List VideoLoc} :
    .exited ∈ locs.map VideoLoc.wakeRender ↔ .exited ∈ locs :=
  Crew.mem_map_wake rfl fun b woken => by cases b <;> simp_all [VideoLoc.wakeRender]

theorem viewWaiting_not_mem_wakeRender {locs : List VideoLoc} :
    .viewWaiting ∉ locs.map VideoLoc.wakeRender := by
  intro member
  obtain ⟨b, -, woken⟩ := List.mem_map.mp member
  cases b <;> cases woken

theorem mem_of_woken {locs locs' : List DecodeLoc} {loc : DecodeLoc}
    (woken : Woken locs locs') (fixed : loc ≠ .peekWaiting)
    (other : loc ≠ .peekWoken) : loc ∈ locs' ↔ loc ∈ locs := by
  rcases woken with rfl | rfl
  · exact Iff.rfl
  · exact mem_wakePeek fixed other

/-! ### The call in progress -/

structure Calling (s : State) : Prop where
  asked : ∀ n rest, s.caller = some (n, rest) → s.asked n = none
  suffix : ∀ n rest, s.caller = some (n, rest) → ∃ c, rest <:+ body c

/-- A call goes on with the rest, or is over. -/
theorem after_cases (ok : Bool) (stmt : Stmt) (rest : List Stmt) :
    stmt.after ok rest = rest ∨ stmt.after ok rest = [] := by
  cases stmt <;> cases ok <;> simp [Stmt.after]

theorem after_suffix (ok : Bool) (stmt : Stmt) (rest : List Stmt) :
    stmt.after ok rest <:+ stmt :: rest := by
  rcases after_cases ok stmt rest with same | none
  · rw [same]
    exact List.suffix_cons ..
  · rw [none]
    exact List.nil_suffix

theorem after_eq_of_mem {ok : Bool} {stmt other : Stmt} {rest : List Stmt}
    (member : other ∈ stmt.after ok rest) : stmt.after ok rest = rest :=
  (after_cases ok stmt rest).resolve_right fun none => by simp [none] at member

/-- What holds between a statement of a call and every later one. -/
theorem ordered_of_suffix {R : Stmt → Stmt → Prop} (ordered : ∀ c, (body c).Pairwise R)
    {stmt : Stmt} {rest : List Stmt} (suffix : ∃ c, stmt :: rest <:+ body c) :
    ∀ other ∈ rest, R stmt other := by
  obtain ⟨c, suffix⟩ := suffix
  exact fun other => List.rel_of_pairwise_cons ((ordered c).sublist suffix.sublist)

/-- `checkWindow` is `setRender`, or nothing. -/
theorem exec_checkWindow (ok : Bool) (s : State) :
    s.exec ok .checkWindow = s.exec ok .setRender ∨ s.exec ok .checkWindow = s := by
  simp only [State.exec]
  split_ifs
  · exact .inl rfl
  · exact .inr rfl

/-- A statement leaves the callers alone. -/
theorem exec_asked (ok : Bool) (s : State) (stmt : Stmt) : (s.exec ok stmt).asked = s.asked := by
  cases stmt <;> first | rfl | (simp only [State.exec]; split_ifs <;> rfl)

theorem Calling.step (calling : Calling s) (step : Steps s l t) : Calling t := by
  cases step with
  | @ask n c idle other =>
    refine ⟨fun m rest here => ?_, calling.suffix⟩
    have apart : m ≠ n := by
      rintro rfl
      exact other (by rw [show s.caller = _ from here]; rfl)
    exact (Function.update_of_ne apart ..).trans (calling.asked m rest here)
  | @lock n c asked free =>
    refine ⟨fun m rest here => ?_, fun m rest here => ?_⟩
    · cases here
      exact Function.update_self ..
    · cases here
      exact ⟨c, List.suffix_refl _⟩
  | unlock here => exact ⟨fun _ _ none => (nomatch none), fun _ _ none => (nomatch none)⟩
  | @exec n stmt rest ok here runs =>
    refine ⟨fun m rest' new => ?_, fun m rest' new => ?_⟩
    · cases new
      rw [exec_asked]
      exact calling.asked _ _ here
    · cases new
      obtain ⟨c, suffix⟩ := calling.suffix _ _ here
      exact ⟨c, (after_suffix ok stmt rest).trans suffix⟩
  | _ => exact ⟨calling.asked, calling.suffix⟩

/-! ### The packet queues -/

structure Queued (s : State) : Prop where
  room : ∀ k, s.packets k ≤ packetQueueSize
  full : ∀ k, .pushWaiting k ∈ s.demux → packetQueueSize ≤ s.packets k
  empty : ∀ k, .popWaiting ∈ s.decode k → s.packets k = 0
  holder : s.demux.countP DemuxLoc.holds ≤ 1

theorem Queued.of_same (queued : Queued s) (packets : t.packets = s.packets)
    (demux : t.demux = s.demux)
    (empty : ∀ k, .popWaiting ∈ t.decode k → .popWaiting ∈ s.decode k) : Queued t where
  room k := packets ▸ queued.room k
  full k member := packets ▸ queued.full k (demux ▸ member)
  empty k member := packets ▸ queued.empty k (empty k member)
  holder := demux ▸ queued.holder

/-- The decoders of one kind change. -/
theorem mem_update {decode : Kind → List DecodeLoc} {k j : Kind} {locs : List DecodeLoc}
    {loc : DecodeLoc} (member : loc ∈ Function.update decode k locs j) :
    j = k ∧ loc ∈ locs ∨ j ≠ k ∧ loc ∈ decode j := by
  by_cases same : j = k
  · subst same
    exact .inl ⟨rfl, by rwa [Function.update_self] at member⟩
  · exact .inr ⟨same, by rwa [Function.update_of_ne same] at member⟩

theorem countP_holds_of_free (free : s.demuxHeld = false) : s.demux.countP DemuxLoc.holds = 0 := by
  rw [List.countP_eq_zero]
  intro loc member holds
  have held : s.demuxHeld = true := List.any_eq_true.mpr ⟨loc, member, holds⟩
  exact Bool.false_ne_true (free.symm.trans held)

theorem Queued.exec (queued : Queued s) (ok : Bool) (stmt : Stmt)
    (caller : Option (Nat × List Stmt)) : Queued { s.exec ok stmt with caller := caller } := by
  cases stmt with
  | startDecode k =>
    refine queued.of_same rfl rfl fun j member => ?_
    rcases mem_update member with ⟨rfl, member⟩ | ⟨-, member⟩
    · simpa [mem_wakePeek] using member
    · exact member
  | startDemux =>
    refine ⟨queued.room, fun k member => queued.full k ?_, queued.empty, ?_⟩
    · simpa [State.exec] using member
    · simpa [State.exec, List.countP_append, DemuxLoc.holds] using queued.holder
  | startPlay =>
    simp only [State.exec]
    split_ifs <;> exact ⟨queued.room, queued.full, queued.empty, queued.holder⟩
  | checkWindow =>
    simp only [State.exec]
    split_ifs <;> exact ⟨queued.room, queued.full, queued.empty, queued.holder⟩
  | _ => exact ⟨queued.room, queued.full, queued.empty, queued.holder⟩

/-- A demux thread moves. -/
theorem Queued.demux (queued : Queued s) {i : Nat} {loc loc' : DemuxLoc}
    (here : s.demux[i]? = some loc) (moves : DemuxMoves s loc loc') :
    Queued { s with demux := s.demux.set i loc' } := by
  refine ⟨queued.room, fun k member => ?_, queued.empty, ?_⟩
  · rcases List.mem_or_eq_of_mem_set member with member | same
    · exact queued.full k member
    · cases moves <;> cases same
      assumption
  · have count := Crew.countP_set_add DemuxLoc.holds here loc'
    have holder := queued.holder
    cases moves with
    | lock free =>
      have nobody := countP_holds_of_free free
      simp only [DemuxLoc.holds] at count ⊢
      simp only [Bool.false_eq_true, if_false, if_true] at count
      omega
    | _ =>
      simp only [DemuxLoc.holds, Bool.false_eq_true, if_false, if_true] at count
      exact Nat.le_trans (by simp only; omega) holder

theorem Queued.step (queued : Queued s) (step : Steps s l t) : Queued t := by
  cases step with
  | exec here runs => exact queued.exec ..
  | demux here moves => exact queued.demux here moves
  | @endOfFile i _ here =>
    refine ⟨queued.room, fun k member => ?_, queued.empty, ?_⟩
    · exact queued.full k ((List.mem_or_eq_of_mem_set member).resolve_right (by simp))
    · have count := Crew.countP_set_add DemuxLoc.holds here .exited
      have holder := queued.holder
      simp only [DemuxLoc.holds, Bool.false_eq_true, if_false, if_true] at count
      exact Nat.le_trans (by simp only; omega) holder
  | @push i _ k here room =>
    refine ⟨fun j => ?_, fun j member => ?_, fun j member => ?_, ?_⟩
    · by_cases same : j = k
      · subst same
        exact (Function.update_self j _ s.packets).le.trans room
      · exact (Function.update_of_ne same _ s.packets).le.trans (queued.room j)
    · have full := queued.full j ((List.mem_or_eq_of_mem_set member).resolve_right (by simp))
      have apart : j ≠ k := by
        rintro rfl
        omega
      exact full.trans (Function.update_of_ne apart _ s.packets).ge
    · rcases mem_update member with ⟨rfl, member⟩ | ⟨apart, member⟩
      · exact absurd member popWaiting_not_mem_wakePop
      · exact (Function.update_of_ne apart _ s.packets).trans (queued.empty j member)
    · have count := Crew.countP_set_add DemuxLoc.holds here .top
      have holder := queued.holder
      simp only [DemuxLoc.holds, Bool.false_eq_true, if_false, if_true] at count
      exact Nat.le_trans (by simp only; omega) holder
  | @decode k i _ loc loc' here moves =>
    refine ⟨queued.room, queued.full, fun j member => ?_, queued.holder⟩
    rcases mem_update member with ⟨rfl, member⟩ | ⟨-, member⟩
    · rcases List.mem_or_eq_of_mem_set member with member | same
      · exact queued.empty j member
      · cases moves <;> cases same
        assumption
    · exact queued.empty j member
  | @pop k i _ here filled =>
    refine ⟨fun j => ?_, fun j member => ?_, fun j member => ?_, ?_⟩
    · by_cases same : j = k
      · subst same
        exact (Function.update_self j _ s.packets).le.trans
          ((Nat.sub_le _ _).trans (queued.room j))
      · exact (Function.update_of_ne same _ s.packets).le.trans (queued.room j)
    · obtain ⟨apart, waits⟩ := pushWaiting_mem_wakePush member
      exact (queued.full j waits).trans (Function.update_of_ne apart _ s.packets).ge
    · rcases mem_update member with ⟨rfl, member⟩ | ⟨apart, member⟩
      · have waits := (List.mem_or_eq_of_mem_set member).resolve_right (by simp)
        exact absurd (queued.empty j waits) filled
      · exact (Function.update_of_ne apart _ s.packets).trans (queued.empty j member)
    · exact (Crew.countP_map_eq (holds_wakePush k)).le.trans queued.holder
  | @fill k i _ here =>
    refine queued.of_same rfl rfl fun j member => ?_
    rcases mem_update member with ⟨rfl, member⟩ | ⟨apart, member⟩
    · have waits := (List.mem_or_eq_of_mem_set member).resolve_right (by simp)
      exact (mem_wakePeek (by simp) (by simp)).mp waits
    · rcases mem_update member with ⟨same, -⟩ | ⟨-, member⟩
      · exact absurd same apart
      · exact member
  | popAudio here wakes =>
    exact queued.of_same rfl rfl fun k => (mem_of_woken (wakes k) (by simp) (by simp)).mp
  | popVideo here wakes =>
    exact queued.of_same rfl rfl fun k => (mem_of_woken (wakes k) (by simp) (by simp)).mp
  | _ => exact ⟨queued.room, queued.full, queued.empty, queued.holder⟩

/-! ### The list of PCM frames -/

structure Buffered (s : State) : Prop where
  full : ∀ n, .putWaiting n ∈ s.audioSync → maxFrameBuffer < s.pcm
  empty : .getWaiting ∈ s.callback → s.pcm = 0

theorem Buffered.exec (buffered : Buffered s) (ok : Bool) (stmt : Stmt)
    (caller : Option (Nat × List Stmt)) : Buffered { s.exec ok stmt with caller := caller } := by
  cases stmt with
  | startPlay =>
    cases ok with
    | false => exact ⟨buffered.full, buffered.empty⟩
    | true => exact ⟨buffered.full, fun member => buffered.empty (by simpa [State.exec] using member)⟩
  | startMediaSync =>
    exact ⟨fun n member => buffered.full n (by simpa [State.exec] using member), buffered.empty⟩
  | checkWindow =>
    simp only [State.exec]
    split_ifs <;> exact ⟨buffered.full, buffered.empty⟩
  | notEmpty => exact ⟨buffered.full, fun member => absurd member getWaiting_not_mem_wakeGet⟩
  | notFull => exact ⟨fun n member => absurd member (putWaiting_not_mem_wakePut n), buffered.empty⟩
  | _ => exact ⟨buffered.full, buffered.empty⟩

theorem Buffered.step (buffered : Buffered s) (step : Steps s l t) : Buffered t := by
  cases step with
  | exec here runs => exact buffered.exec ..
  | audioSync here moves =>
    refine ⟨fun n member => ?_, buffered.empty⟩
    rcases List.mem_or_eq_of_mem_set member with member | same
    · exact buffered.full n member
    · cases moves <;> cases same
      assumption
  | put here puts =>
    refine ⟨fun n member => ?_, fun member => absurd member getWaiting_not_mem_wakeGet⟩
    have full := buffered.full n ((List.mem_or_eq_of_mem_set member).resolve_right (by simp))
    exact full.trans (Nat.lt_succ_self _)
  | popAudio here wakes =>
    exact ⟨fun n member => buffered.full n
      ((List.mem_or_eq_of_mem_set member).resolve_right (by simp)), buffered.empty⟩
  | callback here moves =>
    refine ⟨buffered.full, fun member => ?_⟩
    rcases List.mem_or_eq_of_mem_set member with member | same
    · exact buffered.empty member
    · cases moves <;> cases same
      assumption
  | take here gets goes filled =>
    refine ⟨fun n member => absurd member (putWaiting_not_mem_wakePut n), fun member => ?_⟩
    have empty := buffered.empty ((List.mem_or_eq_of_mem_set member).resolve_right (by simp))
    exact absurd empty filled
  | _ => exact ⟨buffered.full, buffered.empty⟩

/-! ### Threads that are there -/

structure Alive (s : State) : Prop where
  exits : s.playExit = true → s.abortRequest = true
  stopping : ∀ n rest, s.caller = some (n, rest) → .setPlayExit ∈ rest →
    .setAbort ∈ rest ∨ s.abortRequest = true
  decode : s.abortRequest = false → ∀ k, .exited ∉ s.decode k
  audioSync : s.abortRequest = false → .exited ∉ s.audioSync
  videoSync : s.abortRequest = false → .exited ∉ s.videoSync
  callback : s.abortRequest = false → .exited ∉ s.callback

/-- `stop` sets `abortRequest` first. -/
theorem setAbort_first {rest : List Stmt} (suffix : ∃ c, .setPlayExit :: rest <:+ body c) :
    .setAbort ∉ rest := by
  have ordered : ∀ c, (body c).Pairwise fun stmt other => stmt = .setPlayExit → other ≠ .setAbort := by
    intro c
    rcases c with ⟨_ | _⟩ | _ <;> decide
  exact fun member => ordered_of_suffix ordered suffix _ member rfl rfl

theorem Alive.exec (alive : Alive s) {n : Nat} {stmt : Stmt} {rest : List Stmt}
    (here : s.caller = some (n, stmt :: rest)) (suffix : ∃ c, stmt :: rest <:+ body c) (ok : Bool) :
    Alive { s.exec ok stmt with caller := some (n, stmt.after ok rest) } := by
  have stopping : ∀ m rest', some (n, stmt.after ok rest) = some (m, rest') →
      .setPlayExit ∈ rest' → .setAbort ∈ rest' ∨ s.abortRequest = true ∨ stmt = .setAbort := by
    rintro m rest' same ahead
    cases same
    have goesOn := after_eq_of_mem ahead
    rw [goesOn] at ahead ⊢
    rcases alive.stopping _ _ here (List.mem_cons_of_mem _ ahead) with first | done
    · exact (List.mem_cons.mp first).elim (fun same => .inr (.inr same.symm)) .inl
    · exact .inr (.inl done)
  have kept : ∀ m rest', some (n, stmt.after ok rest) = some (m, rest') →
      .setPlayExit ∈ rest' → stmt ≠ .setAbort → .setAbort ∈ rest' ∨ s.abortRequest = true :=
    fun m rest' same ahead other =>
      (stopping m rest' same ahead).imp_right fun done => done.resolve_right other
  cases stmt with
  | setAbort =>
    exact ⟨fun _ => rfl, fun _ _ _ _ => .inr rfl, fun goes => (nomatch goes),
      fun goes => (nomatch goes), fun goes => (nomatch goes), fun goes => (nomatch goes)⟩
  | setPlayExit =>
    have first := (alive.stopping _ _ here List.mem_cons_self).resolve_left fun first =>
      setAbort_first suffix ((List.mem_cons.mp first).resolve_left (by simp))
    exact ⟨fun _ => first, fun m rest' same ahead => kept m rest' same ahead (by simp), alive.decode,
      alive.audioSync, alive.videoSync, alive.callback⟩
  | startDecode k =>
    refine ⟨alive.exits, fun m rest' same ahead => kept m rest' same ahead (by simp),
      fun goes j member => ?_, alive.audioSync, alive.videoSync, alive.callback⟩
    rcases mem_update member with ⟨rfl, member⟩ | ⟨-, member⟩
    · exact alive.decode goes j (by simpa [mem_wakePeek] using member)
    · exact alive.decode goes j member
  | startPlay =>
    cases ok with
    | false =>
      exact ⟨alive.exits, fun m rest' same ahead => kept m rest' same ahead (by simp), alive.decode,
        alive.audioSync, alive.videoSync, alive.callback⟩
    | true =>
      exact ⟨alive.exits, fun m rest' same ahead => kept m rest' same ahead (by simp), alive.decode,
        alive.audioSync, alive.videoSync, fun goes member =>
          alive.callback goes (by simpa [State.exec] using member)⟩
  | startMediaSync =>
    exact ⟨alive.exits, fun m rest' same ahead => kept m rest' same ahead (by simp), alive.decode,
      fun goes member => alive.audioSync goes (by simpa [State.exec] using member),
      fun goes member => alive.videoSync goes (by simpa [State.exec] using member), alive.callback⟩
  | setRender =>
    exact ⟨alive.exits, fun m rest' same ahead => kept m rest' same ahead (by simp), alive.decode,
      alive.audioSync, fun goes member => alive.videoSync goes (exited_mem_wakeRender.mp member),
      alive.callback⟩
  | checkWindow =>
    simp only [State.exec]
    split_ifs
    · exact ⟨alive.exits, fun m rest' same ahead => kept m rest' same ahead (by simp), alive.decode,
        alive.audioSync, fun goes member => alive.videoSync goes (exited_mem_wakeRender.mp member),
        alive.callback⟩
    · exact ⟨alive.exits, fun m rest' same ahead => kept m rest' same ahead (by simp), alive.decode,
        alive.audioSync, alive.videoSync, alive.callback⟩
  | notEmpty =>
    exact ⟨alive.exits, fun m rest' same ahead => kept m rest' same ahead (by simp), alive.decode,
      alive.audioSync, alive.videoSync, fun goes member =>
        alive.callback goes (exited_mem_wakeGet.mp member)⟩
  | notFull =>
    exact ⟨alive.exits, fun m rest' same ahead => kept m rest' same ahead (by simp), alive.decode,
      fun goes member => alive.audioSync goes (exited_mem_wakePut.mp member), alive.videoSync,
      alive.callback⟩
  | _ =>
    exact ⟨alive.exits, fun m rest' same ahead => kept m rest' same ahead (by simp), alive.decode,
      alive.audioSync, alive.videoSync, alive.callback⟩

theorem Alive.step (alive : Alive s) (calling : Calling s) (step : Steps s l t) : Alive t := by
  cases step with
  | @lock n c asked free =>
    refine { alive with stopping := fun m rest same ahead => ?_ }
    cases same
    refine .inl ?_
    cases c <;> simp [body, openStmts] at ahead ⊢
  | unlock here => exact { alive with stopping := fun _ _ none => (nomatch none) }
  | exec here runs => exact alive.exec here (calling.suffix _ _ here) _
  | @push i _ k here room =>
    refine { alive with decode := fun goes j member => ?_ }
    rcases mem_update member with ⟨rfl, member⟩ | ⟨-, member⟩
    · exact alive.decode goes j (exited_mem_wakePop.mp member)
    · exact alive.decode goes j member
  | @decode k i _ loc loc' here moves =>
    refine { alive with decode := fun goes j member => ?_ }
    rcases mem_update member with ⟨rfl, member⟩ | ⟨-, member⟩
    · rcases List.mem_or_eq_of_mem_set member with member | same
      · exact alive.decode goes j member
      · cases moves with
        | exit stopped => exact absurd (stopped.symm.trans goes) (by simp)
        | _ => cases same
    · exact alive.decode goes j member
  | @pop k i _ here filled =>
    refine { alive with decode := fun goes j member => ?_ }
    rcases mem_update member with ⟨rfl, member⟩ | ⟨-, member⟩
    · exact alive.decode goes j ((List.mem_or_eq_of_mem_set member).resolve_right (by simp))
    · exact alive.decode goes j member
  | @fill k i _ here =>
    refine { alive with decode := fun goes j member => ?_ }
    rcases mem_update member with ⟨rfl, member⟩ | ⟨apart, member⟩
    · have left := (List.mem_or_eq_of_mem_set member).resolve_right (by simp)
      exact alive.decode goes j ((mem_wakePeek (by simp) (by simp)).mp left)
    · rcases mem_update member with ⟨same, -⟩ | ⟨-, member⟩
      · exact absurd same apart
      · exact alive.decode goes j member
  | audioSync here moves =>
    refine { alive with audioSync := fun goes member => ?_ }
    rcases List.mem_or_eq_of_mem_set member with member | same
    · exact alive.audioSync goes member
    · cases moves with
      | exit stopped => exact absurd (stopped.symm.trans goes) (by simp)
      | _ => cases same
  | put here puts =>
    exact { alive with
      audioSync := fun goes member =>
        alive.audioSync goes ((List.mem_or_eq_of_mem_set member).resolve_right (by simp))
      callback := fun goes member => alive.callback goes (exited_mem_wakeGet.mp member) }
  | popAudio here wakes =>
    exact { alive with
      decode := fun goes k member =>
        alive.decode goes k ((mem_of_woken (wakes k) (by simp) (by simp)).mp member)
      audioSync := fun goes member =>
        alive.audioSync goes ((List.mem_or_eq_of_mem_set member).resolve_right (by simp)) }
  | videoSync here moves =>
    refine { alive with videoSync := fun goes member => ?_ }
    rcases List.mem_or_eq_of_mem_set member with member | same
    · exact alive.videoSync goes member
    · cases moves with
      | exit stopped => exact absurd (stopped.symm.trans goes) (by simp)
      | _ => cases same
  | popVideo here wakes =>
    exact { alive with
      decode := fun goes k member =>
        alive.decode goes k ((mem_of_woken (wakes k) (by simp) (by simp)).mp member)
      videoSync := fun goes member =>
        alive.videoSync goes ((List.mem_or_eq_of_mem_set member).resolve_right (by simp)) }
  | callback here moves =>
    refine { alive with callback := fun goes member => ?_ }
    rcases List.mem_or_eq_of_mem_set member with member | same
    · exact alive.callback goes member
    · have goesOn : ¬(s.playExit = true ∨ s.abortRequest = true) := by
        rintro (exit | stopped)
        · exact absurd ((alive.exits exit).symm.trans goes) (by simp)
        · exact absurd (stopped.symm.trans goes) (by simp)
      cases moves with
      | exit stopped => exact goesOn stopped
      | leave paused stopped => exact goesOn stopped
      | quit gets exit => exact goesOn (.inl exit)
      | _ => cases same
  | take here gets goes filled =>
    exact { alive with
      audioSync := fun goes member => alive.audioSync goes (exited_mem_wakePut.mp member)
      callback := fun goes member =>
        alive.callback goes ((List.mem_or_eq_of_mem_set member).resolve_right (by simp)) }
  | _ => exact { alive with }

/-! ### Threads of every kind -/

structure Staffed (s : State) : Prop where
  begun : ∀ n rest, s.caller = some (n, rest) → .startDemux ∈ rest →
    ∀ k, .startDecode k ∈ rest ∨ s.decode k ≠ []
  decode : s.demux ≠ [] → ∀ k, s.decode k ≠ []
  loops : s.demux ≠ [] →
    s.audioSync ≠ [] ∧ s.videoSync ≠ [] ∨ ∃ n, s.caller = some (n, [.startMediaSync])

theorem Staffed.of_same (staffed : Staffed s) (caller : t.caller = s.caller)
    (demux : t.demux ≠ [] → s.demux ≠ []) (decode : ∀ k, s.decode k ≠ [] → t.decode k ≠ [])
    (audioSync : s.audioSync ≠ [] → t.audioSync ≠ [])
    (videoSync : s.videoSync ≠ [] → t.videoSync ≠ []) : Staffed t where
  begun n rest here ahead k := (staffed.begun n rest (caller ▸ here) ahead k).imp_right (decode k)
  decode some k := decode k (staffed.decode (demux some) k)
  loops some := (staffed.loops (demux some)).imp (.imp audioSync videoSync) fun spawning =>
    caller ▸ spawning

/-- `start` spawns the demux thread next to last. -/
theorem startDemux_last {rest : List Stmt} (suffix : ∃ c, .startDemux :: rest <:+ body c) :
    rest = [.startMediaSync] := by
  obtain ⟨c, suffix⟩ := suffix
  cases c <;> simp [body, openStmts, List.suffix_cons_iff] at suffix
  exact suffix

theorem Woken.ne_nil {locs locs' : List DecodeLoc} (woken : Woken locs locs') (some : locs ≠ []) :
    locs' ≠ [] := by
  rcases woken with rfl | rfl
  · exact some
  · simpa using some

/-- A statement takes no thread away. -/
theorem exec_decode_ne_nil (ok : Bool) (stmt : Stmt) (k : Kind)
    (some : s.decode k ≠ [] ∨ stmt = .startDecode k) : (s.exec ok stmt).decode k ≠ [] := by
  cases stmt with
  | startDecode j =>
    by_cases same : k = j
    · subst same
      simp [State.exec, State.setDecode]
    · have kept := some.resolve_right (by simpa using Ne.symm same)
      simpa [State.exec, State.setDecode, Function.update_of_ne same] using kept
  | startPlay => cases ok <;> exact some.resolve_right (by simp)
  | checkWindow =>
    rcases exec_checkWindow ok s with same | same <;>
    · rw [same]
      exact some.resolve_right (by simp)
  | _ => exact some.resolve_right (by simp)

theorem Staffed.exec (staffed : Staffed s) {n : Nat} {stmt : Stmt} {rest : List Stmt}
    (here : s.caller = some (n, stmt :: rest)) (suffix : ∃ c, stmt :: rest <:+ body c) (ok : Bool) :
    Staffed { s.exec ok stmt with caller := some (n, stmt.after ok rest) } := by
  have begun : ∀ m rest', some (n, stmt.after ok rest) = some (m, rest') → .startDemux ∈ rest' →
      ∀ k, .startDecode k ∈ rest' ∨ (s.exec ok stmt).decode k ≠ [] := by
    rintro m rest' same ahead k
    cases same
    have goesOn := after_eq_of_mem ahead
    rw [goesOn] at ahead ⊢
    rcases staffed.begun _ _ here (List.mem_cons_of_mem _ ahead) k with next | some
    · rcases List.mem_cons.mp next with now | later
      · exact .inr (exec_decode_ne_nil ok stmt k (.inr now.symm))
      · exact .inl later
    · exact .inr (exec_decode_ne_nil ok stmt k (.inl some))
  by_cases spawns : stmt = .startDemux ∨ stmt = .startMediaSync
  · rcases spawns with rfl | rfl
    · have last := startDemux_last suffix
      subst last
      refine ⟨begun, fun _ k => ?_, fun _ => .inr ⟨n, rfl⟩⟩
      exact (staffed.begun _ _ here List.mem_cons_self k).resolve_left (by simp)
    · exact ⟨begun, staffed.decode, fun _ => .inl ⟨by simp [State.exec], by simp [State.exec]⟩⟩
  · have same : (s.exec ok stmt).demux = s.demux ∧
        (s.audioSync ≠ [] → (s.exec ok stmt).audioSync ≠ []) ∧
          (s.videoSync ≠ [] → (s.exec ok stmt).videoSync ≠ []) := by
      cases stmt with
      | startDemux => exact absurd (.inl rfl) spawns
      | startMediaSync => exact absurd (.inr rfl) spawns
      | startPlay => cases ok <;> exact ⟨rfl, id, id⟩
      | notFull => exact ⟨rfl, fun some => by simpa [State.exec] using some, id⟩
      | setRender => exact ⟨rfl, id, fun some => by simpa [State.exec, State.setRender] using some⟩
      | checkWindow =>
        rcases exec_checkWindow ok s with same | same
        · rw [same]
          exact ⟨rfl, id, fun some => by simpa [State.exec, State.setRender] using some⟩
        · rw [same]
          exact ⟨rfl, id, id⟩
      | _ => exact ⟨rfl, id, id⟩
    refine ⟨begun, fun some k => ?_, fun some => .inl ?_⟩
    · rw [same.1] at some
      exact exec_decode_ne_nil ok stmt k (.inl (staffed.decode some k))
    · rw [same.1] at some
      rcases staffed.loops some with loops | ⟨m, spawning⟩
      · exact ⟨same.2.1 loops.1, same.2.2 loops.2⟩
      · rw [here] at spawning
        cases spawning
        exact absurd (.inr rfl) spawns

theorem Staffed.step (staffed : Staffed s) (calling : Calling s) (step : Steps s l t) :
    Staffed t := by
  have updated : ∀ {k : Kind} {locs : List DecodeLoc}, (s.decode k ≠ [] → locs ≠ []) →
      ∀ j, s.decode j ≠ [] → Function.update s.decode k locs j ≠ [] := by
    intro k locs kept j some
    by_cases same : j = k
    · subst same
      rw [Function.update_self]
      exact kept some
    · rwa [Function.update_of_ne same]
  cases step with
  | @lock n c asked free =>
    refine ⟨fun m rest same ahead k => ?_, staffed.decode, fun some => .inl ?_⟩
    · cases same
      refine .inl ?_
      cases c <;> simp [body, openStmts] at ahead ⊢
      cases k <;> simp
    · refine (staffed.loops some).resolve_right fun spawning => ?_
      obtain ⟨m, here⟩ := spawning
      rw [free] at here
      cases here
  | unlock here =>
    refine ⟨fun _ _ none => (nomatch none), staffed.decode, fun some => .inl ?_⟩
    refine (staffed.loops some).resolve_right fun spawning => ?_
    obtain ⟨m, spawning⟩ := spawning
    rw [here] at spawning
    cases spawning
  | exec here runs => exact staffed.exec here (calling.suffix _ _ here) _
  | demux here moves => exact staffed.of_same rfl (by simp) (fun _ => id) id id
  | endOfFile here => exact staffed.of_same rfl (by simp) (fun _ => id) id id
  | push here room => exact staffed.of_same rfl (by simp) (updated (by simp)) id id
  | decode here moves => exact staffed.of_same rfl id (updated (by simp)) id id
  | pop here filled =>
    exact staffed.of_same rfl (by simp [State.popPacket, State.setDecode]) (updated (by simp)) id id
  | @fill k i _ here =>
    refine staffed.of_same rfl id (fun j some => ?_) id id
    by_cases same : j = k
    · subst same
      simpa [State.setDecode] using some
    · simpa [State.setDecode, State.pushFrame, Function.update_of_ne same] using some
  | audioSync here moves => exact staffed.of_same rfl id (fun _ => id) (by simp) id
  | put here puts => exact staffed.of_same rfl id (fun _ => id) (by simp) id
  | popAudio here wakes => exact staffed.of_same rfl id (fun k => (wakes k).ne_nil) (by simp) id
  | videoSync here moves => exact staffed.of_same rfl id (fun _ => id) id (by simp)
  | popVideo here wakes => exact staffed.of_same rfl id (fun k => (wakes k).ne_nil) id (by simp)
  | take here gets goes filled =>
    exact staffed.of_same rfl id (fun _ => id) (by simp [State.take]) id
  | _ => exact ⟨staffed.begun, staffed.decode, staffed.loops⟩

/-! ### The view -/

structure Rendered (s : State) : Prop where
  dark : .viewWaiting ∈ s.videoSync → s.view = false

theorem Rendered.exec (rendered : Rendered s) (ok : Bool) (stmt : Stmt)
    (caller : Option (Nat × List Stmt)) : Rendered { s.exec ok stmt with caller := caller } := by
  cases stmt with
  | startPlay => cases ok <;> exact ⟨rendered.dark⟩
  | startMediaSync => exact ⟨fun member => rendered.dark (by simpa [State.exec] using member)⟩
  | setRender => exact ⟨fun member => absurd member viewWaiting_not_mem_wakeRender⟩
  | checkWindow =>
    rcases exec_checkWindow ok s with same | same
    · rw [same]
      exact ⟨fun member => absurd member viewWaiting_not_mem_wakeRender⟩
    · rw [same]
      exact ⟨rendered.dark⟩
  | _ => exact ⟨rendered.dark⟩

theorem Rendered.step (rendered : Rendered s) (step : Steps s l t) : Rendered t := by
  cases step with
  | exec here runs => exact rendered.exec ..
  | videoSync here moves =>
    refine ⟨fun member => ?_⟩
    rcases List.mem_or_eq_of_mem_set member with member | same
    · exact rendered.dark member
    · cases moves with
      | wait dark => exact dark
      | _ => cases same
  | popVideo here wakes =>
    exact ⟨fun member =>
      rendered.dark ((List.mem_or_eq_of_mem_set member).resolve_right (by simp))⟩
  | _ => exact ⟨rendered.dark⟩

/-! ### All of it -/

structure Sound (s : State) : Prop where
  calling : Calling s
  queued : Queued s
  buffered : Buffered s
  alive : Alive s
  staffed : Staffed s
  rendered : Rendered s

theorem sound_step (sound : Sound s) (step : Steps s l t) : Sound t where
  calling := sound.calling.step step
  queued := sound.queued.step step
  buffered := sound.buffered.step step
  alive := sound.alive.step sound.calling step
  staffed := sound.staffed.step sound.calling step
  rendered := sound.rendered.step step

theorem sound_start : Sound start where
  calling := ⟨fun _ _ none => (nomatch none), fun _ _ none => (nomatch none)⟩
  queued := ⟨fun _ => Nat.zero_le _, fun _ none => (nomatch none), fun _ none => (nomatch none),
    Nat.zero_le _⟩
  buffered := ⟨fun _ none => (nomatch none), fun none => (nomatch none)⟩
  alive := ⟨fun exit => (nomatch exit), fun _ _ none => (nomatch none), fun _ _ none => (nomatch none),
    fun _ none => (nomatch none), fun _ none => (nomatch none), fun _ none => (nomatch none)⟩
  staffed := ⟨fun _ _ none => (nomatch none), fun none => absurd rfl none,
    fun none => absurd rfl none⟩
  rendered := ⟨fun none => (nomatch none)⟩

end Xplay.UiCalls
