/-
**Who is not done gets to use the part that was released under it.**

`GetsTo` says that a run leads on to a step that uses a part whose alive flag is cleared. Each user
that is not done gets to its own part: its waits end, those on a quit queue with `false`, and from
every other place it comes back to a statement that reads the part.

* `use_of_careless` — so a part that was not at rest is used after it was deleted.
* `release_leavesNothing` — both directions, about every run.
-/

import Xplay.Player.ReleaseUse

set_option linter.unusedSectionVars false

namespace Xplay

open Lib

namespace Releasing

variable {output : Kind → FrameOutput} {s t : Releasing} {l : Label} {part : Part}

/-- **A run leads on to a step that uses the part, which was released.** -/
def GetsTo (output : Kind → FrameOutput) (s : Releasing) (part : Part) : Prop :=
  ∃ u l v, (system output).Reaches s u ∧ (system output).next u l = some v ∧ part ∈ u.uses l ∧
    ¬u.Alive part

theorem GetsTo.now (dead : ¬s.Alive part) (uses : part ∈ s.uses l)
    (enabled : ∃ t, s.next output l = some t) : GetsTo output s part := by
  obtain ⟨t, step⟩ := enabled
  exact ⟨s, l, t, .refl s, step, uses, dead⟩

theorem GetsTo.of_step (step : s.next output l = some t) (gets : GetsTo output t part) :
    GetsTo output s part := by
  obtain ⟨u, l', v, reach, next, uses, dead⟩ := gets
  exact ⟨u, l', v, .head step reach, next, uses, dead⟩

theorem next_player {l : Player.Label} {player : Player}
    (moves : s.playerNext output l = some player) :
    s.next output (.player l) = some { s with player := player, report := s.reported l } := by
  simp only [next, moves, Option.map_some]

theorem enabled_player {l : Player.Label} (moves : ∃ player, s.playerNext output l = some player) :
    ∃ t, s.next output (.player l) = some t := by
  obtain ⟨player, moves⟩ := moves
  exact ⟨_, next_player moves⟩

theorem next_spurious {w : Player.Waiter} {player : Player}
    (woken : s.player.spurious w = some player) :
    s.next output (.spurious w) = some { s with player := player } := by
  simp only [next, woken, Option.map_some]

/-! ### The threads of `MediaSync2` -/

theorem video_gets (dead : ¬s.Alive .mediaSync) (busy : s.player.videoSync ≠ .exited) :
    GetsTo output s .mediaSync := by
  refine .now (l := .player .videoSync) dead ?_ (enabled_player ?_)
  · show Part.mediaSync ∈ s.videoUses
    unfold videoUses
    split
    case h_5 here => exact absurd here busy
    all_goals exact List.mem_cons_self
  · show ∃ player, s.player.videoNext = some player
    unfold Player.videoNext
    split
    case h_5 here => exact absurd here busy
    all_goals (try split_ifs) <;> exact ⟨_, rfl⟩

theorem audio_uses_now (dead : ¬s.Alive .mediaSync)
    (here : s.player.audioSync = .top ∨ s.player.audioSync = .looking ∨
      s.player.audioSync = .updating ∨ s.player.audioSync = .popping) :
    GetsTo output s .mediaSync := by
  refine .now (l := .player (.audioSync true)) dead ?_ (enabled_player ?_)
  · show Part.mediaSync ∈ s.audioUses
    rcases here with here | here | here | here <;> simp only [audioUses, here] <;>
      exact List.mem_cons_self
  · show ∃ player, s.player.audioNext true = some player
    rcases here with here | here | here | here <;> simp only [Player.audioNext, here] <;>
      (try split_ifs) <;> exact ⟨_, rfl⟩

theorem putWoken_gets (dead : ¬s.Alive .mediaSync) (here : s.player.audioSync = .putWoken) :
    GetsTo output s .mediaSync := by
  have moves : s.playerNext output (.audioSync true) = some s.player.put := by
    simp only [playerNext, Player.next, Player.audioNext, here]
  exact .of_step (next_player moves) (audio_uses_now dead (.inr (.inr (.inr rfl))))

theorem putWaiting_gets (dead : ¬s.Alive .mediaSync) (here : s.player.audioSync = .putWaiting) :
    GetsTo output s .mediaSync := by
  have woken : s.player.spurious .put = some { s.player with audioSync := .putWoken } := by
    simp only [Player.spurious, here]
  exact .of_step (next_spurious woken) (putWoken_gets dead rfl)

/-- The audio thread comes back to `audioPlay` from `IAudioPlay::update`. -/
theorem audio_gets (dead : ¬s.Alive .mediaSync) (busy : s.player.audioSync ≠ .exited) :
    GetsTo output s .mediaSync := by
  cases here : s.player.audioSync with
  | top => exact audio_uses_now dead (.inl here)
  | looking => exact audio_uses_now dead (.inr (.inl here))
  | updating => exact audio_uses_now dead (.inr (.inr (.inl here)))
  | popping => exact audio_uses_now dead (.inr (.inr (.inr here)))
  | putWoken => exact putWoken_gets dead here
  | putWaiting => exact putWaiting_gets dead here
  | putting =>
    by_cases full : maxFrameBuffer < s.player.frames.length
    · have moves : s.playerNext output (.audioSync true) =
          some { s.player with audioSync := .putWaiting } := by
        simp only [playerNext, Player.next, Player.audioNext, here, if_pos full]
      exact .of_step (next_player moves) (putWaiting_gets dead rfl)
    · have moves : s.playerNext output (.audioSync true) = some s.player.put := by
        simp only [playerNext, Player.next, Player.audioNext, here, if_neg full]
      exact .of_step (next_player moves) (audio_uses_now dead (.inr (.inr (.inr rfl))))
  | exited => exact absurd here busy

/-! ### The callback on its way through `audioCallBack` -/

theorem report_uses_now (dead : ¬s.Alive .mediaSync) {r : Report} (here : s.report = some r)
    (loc : r.loc = .clock ∨ r.loc = .testing ∨ r.loc = .positioning) :
    GetsTo output s .mediaSync := by
  refine .now (l := .report) dead ?_ ?_
  · show Part.mediaSync ∈ s.report.elim [] reportUses
    rw [here]
    rcases loc with loc | loc | loc <;> simp only [Option.elim, reportUses, loc] <;>
      exact List.mem_cons_self
  · show ∃ t, s.reportNext = some t
    rcases loc with loc | loc | loc <;> simp only [reportNext, here, Option.bind_some, loc] <;>
      exact ⟨_, rfl⟩

theorem report_gets (dead : ¬s.Alive .mediaSync) {r : Report} (here : s.report = some r)
    (early : r.loc.early = true) : GetsTo output s .mediaSync := by
  have calling : ∀ {s : Releasing}, ¬s.Alive .mediaSync →
      s.report = some { r with loc := .calling } → GetsTo output s .mediaSync := by
    intro s dead here
    have step : s.next output .report =
        some { s with report := some { r with loc := .clock } } := by
      simp only [next, reportNext, here, Option.bind_some]
    exact .of_step step (report_uses_now dead rfl (.inl rfl))
  cases loc : r.loc with
  | copying =>
    have step : s.next output .report =
        some { s with report := some { r with loc := .calling } } := by
      simp only [next, reportNext, here, Option.bind_some, loc]
    exact .of_step step (calling dead rfl)
  | calling => exact calling dead (loc ▸ here)
  | clock => exact report_uses_now dead here (.inl loc)
  | testing => exact report_uses_now dead here (.inr (.inl loc))
  | positioning => exact report_uses_now dead here (.inr (.inr loc))
  | sending =>
    rw [loc] at early
    cases early
  | dropping =>
    rw [loc] at early
    cases early

/-! ### The last statement of `threadMain` -/

theorem threadMain_gets (dead : ¬s.Alive part) (returned : s.Returned part)
    (runs : s.isRunning part = true) : GetsTo output s part :=
  .now (l := .threadMain part) dead (List.mem_singleton_self _)
    ⟨_, if_pos (And.intro returned runs)⟩

/-! ### A decoder thread -/

variable {k : Kind}

theorem decode_uses_now (dead : ¬s.Alive (.decode k))
    (here : (s.player.decode k).loc = .top ∨ (∃ frame, (s.player.decode k).loc = .decoding frame) ∨
      (s.player.decode k).loc = .pushing) : GetsTo output s (.decode k) := by
  refine .now (l := .player (.decode k true)) dead ?_ (enabled_player ?_)
  · show Part.decode k ∈ s.decodeUses k
    rcases here with here | ⟨frame, here⟩ | here <;> simp only [decodeUses, here] <;>
      exact List.mem_cons_self
  · show ∃ player, s.decodeNext (output k) k true = some player
    rcases here with here | ⟨frame, here⟩ | here <;>
      simp only [decodeNext, Player.decodeNext, here] <;> (try split_ifs) <;> exact ⟨_, rfl⟩

/-- The decoder that a step leaves in the state. -/
theorem decode_setDecode (s : Player) (k : Kind) (d : IDecode) : (s.setDecode k d).decode k = d :=
  Function.update_self ..

/-- The decoder thread moves to a place from which it gets there. -/
theorem goto_gets (dead : ¬s.Alive (.decode k)) {loc : DecodeLoc}
    (moves : s.playerNext output (.decode k true) =
      some (s.player.setDecode k ((s.player.decode k).goto loc)))
    (gets : ∀ t : Releasing, ¬t.Alive (.decode k) → (t.player.decode k).loc = loc →
      GetsTo output t (.decode k)) : GetsTo output s (.decode k) :=
  .of_step (next_player moves) (gets _ dead (congrArg IDecode.loc (decode_setDecode ..)))

theorem top_gets (dead : ¬s.Alive (.decode k)) (here : (s.player.decode k).loc = .top) :
    GetsTo output s (.decode k) := decode_uses_now dead (.inl here)

theorem filling_gets {frame : AVFrame} {j : Nat} (dead : ¬s.Alive (.decode k))
    (here : (s.player.decode k).loc = .filling frame j) : GetsTo output s (.decode k) := by
  have moves : s.playerNext output (.decode k true) =
      some (s.player.setDecode k ((s.player.decode k).fill (output k) frame j)) := by
    simp only [playerNext, decodeNext, Player.decodeNext, here]
  refine .of_step (next_player moves) (decode_uses_now dead (.inr (.inr ?_)))
  exact congrArg IDecode.loc (decode_setDecode ..)

theorem peekWoken_gets {frame : AVFrame} (dead : ¬s.Alive (.decode k))
    (here : (s.player.decode k).loc = .peekWoken frame) : GetsTo output s (.decode k) := by
  cases slot : (s.player.decode k).frameQueue.peekAfterWait with
  | slot j =>
    exact @goto_gets _ _ _ dead (.filling frame j)
      (by simp only [playerNext, decodeNext, Player.decodeNext, here, slot]) fun _ => filling_gets
  | _ =>
    exact goto_gets dead
      (by simp only [playerNext, decodeNext, Player.decodeNext, here, slot]) fun _ => top_gets

theorem peekWaiting_gets {frame : AVFrame} (dead : ¬s.Alive (.decode k))
    (here : (s.player.decode k).loc = .peekWaiting frame) : GetsTo output s (.decode k) := by
  have woken : s.player.spurious (.peek k) =
      some (s.player.setDecode k ((s.player.decode k).goto (.peekWoken frame))) := by
    simp only [Player.spurious, here]
  have there : ((s.player.setDecode k
      ((s.player.decode k).goto (.peekWoken frame))).decode k).loc = .peekWoken frame :=
    congrArg IDecode.loc (decode_setDecode ..)
  exact .of_step (next_spurious woken) (peekWoken_gets dead there)

theorem peeking_gets {frame : AVFrame} (dead : ¬s.Alive (.decode k))
    (here : (s.player.decode k).loc = .peeking frame) : GetsTo output s (.decode k) := by
  cases peek : (s.player.decode k).frameQueue.peekWritable with
  | slot j =>
    exact @goto_gets _ _ _ dead (.filling frame j)
      (by simp only [playerNext, decodeNext, Player.decodeNext, here, peek]) fun _ => filling_gets
  | wait =>
    exact @goto_gets _ _ _ dead (.peekWaiting frame)
      (by simp only [playerNext, decodeNext, Player.decodeNext, here, peek])
      fun _ => peekWaiting_gets
  | null =>
    exact goto_gets dead
      (by simp only [playerNext, decodeNext, Player.decodeNext, here, peek]) fun _ => top_gets

theorem popping_gets (dead : ¬s.Alive (.decode k)) (here : (s.player.decode k).loc = .popping) :
    GetsTo output s (.decode k) := by
  have quit : s.Quit k := dead
  exact goto_gets dead (by simp only [playerNext, decodeNext, here, if_pos quit]) fun _ => top_gets

theorem popWaiting_gets (dead : ¬s.Alive (.decode k))
    (here : (s.player.decode k).loc = .popWaiting) : GetsTo output s (.decode k) := by
  have woken : s.player.spurious (.pop k) =
      some (s.player.setDecode k ((s.player.decode k).goto .popping)) := by
    simp only [Player.spurious, here]
  refine .of_step (next_spurious woken) (popping_gets dead ?_)
  exact congrArg IDecode.loc (decode_setDecode ..)

/-- **A decoder thread comes back to its loop**, and from there to the end of `threadMain`. -/
theorem decode_gets (dead : ¬s.Alive (.decode k)) (busy : ¬s.Done (.decode k)) :
    GetsTo output s (.decode k) := by
  cases here : (s.player.decode k).loc with
  | top => exact top_gets dead here
  | popping => exact popping_gets dead here
  | popWaiting => exact popWaiting_gets dead here
  | decoding frame => exact decode_uses_now dead (.inr (.inl ⟨frame, here⟩))
  | peeking frame => exact peeking_gets dead here
  | peekWaiting frame => exact peekWaiting_gets dead here
  | peekWoken frame => exact peekWoken_gets dead here
  | filling frame j => exact filling_gets dead here
  | pushing => exact decode_uses_now dead (.inr (.inr here))
  | exited =>
    exact threadMain_gets dead here (Bool.eq_true_of_not_eq_false fun ended => busy ⟨here, ended⟩)

/-! ### The demux thread -/

theorem demux_uses_now (dead : ¬s.Alive .demux)
    (here : s.player.demux = .top ∨ ∃ p, s.player.demux = .routing p ∨
      s.player.demux = .pushing p ∧ s.Quit p.kind) : GetsTo output s .demux := by
  refine .now (l := .player .demux) dead ?_ (enabled_player ?_)
  · show Part.demux ∈ s.demuxUses
    rcases here with here | ⟨p, here | ⟨here, quit⟩⟩
    · simp only [demuxUses, here]
      exact List.mem_cons_self
    · simp only [demuxUses, here]
      exact List.mem_cons_self
    · simp only [demuxUses, here, if_pos (Or.inl quit)]
      exact List.mem_cons_self
  · show ∃ player, s.demuxNext = some player
    rcases here with here | ⟨p, here | ⟨here, quit⟩⟩
    · simp only [demuxNext, Player.demuxNext, here]
      split_ifs
      · exact ⟨_, rfl⟩
      · exact ⟨_, rfl⟩
      · cases s.player.file <;> exact ⟨_, rfl⟩
    · simp only [demuxNext, Player.demuxNext, here]
      split_ifs <;> exact ⟨_, rfl⟩
    · simp only [demuxNext, here, if_pos quit]
      exact ⟨_, rfl⟩

theorem next_release {rest : List Part} (returned : s.player.stop = .returned)
    (here : s.unreleased = part :: rest) : s.next output .release =
      some { s with player := s.player.destroy part, unreleased := rest } := by
  simp only [next, releaseNext, returned, here, if_true]

/-- Where the demux thread stands when both packet queues were quit. -/
theorem wakePush_both (loc : DemuxLoc) (p : Packet) :
    (loc.wakePush .audio).wakePush .video ≠ .pushWaiting p := by
  cases loc with
  | pushWaiting q =>
    cases kind : q.kind <;> simp [DemuxLoc.wakePush, kind]
  | _ => rintro ⟨⟩

/-- **The demux thread comes back to its loop**, at the latest when the decoders are deleted. -/
theorem demux_gets {rest : List Part} (dead : ¬s.Alive .demux)
    (returned : s.player.stop = .returned)
    (here : s.unreleased = .decode .audio :: .decode .video :: rest)
    (last : ∀ k, .decode k ∉ rest) (busy : ¬s.Done .demux) : GetsTo output s .demux := by
  by_cases left : s.player.demux = .exited
  · exact threadMain_gets dead left (Bool.eq_true_of_not_eq_false fun ended => busy ⟨left, ended⟩)
  refine .of_step (next_release returned here) (.of_step (next_release returned rfl) ?_)
  have gone : .demux ∉ rest := fun member => dead (by
    rw [Alive, here]
    exact List.mem_cons_of_mem _ (List.mem_cons_of_mem _ member))
  generalize place : (s.player.demux.wakePush .audio).wakePush .video = loc
  refine demux_uses_now gone ?_
  show (s.player.demux.wakePush .audio).wakePush .video = .top ∨ ∃ p,
    (s.player.demux.wakePush .audio).wakePush .video = .routing p ∨
      (s.player.demux.wakePush .audio).wakePush .video = .pushing p ∧ .decode p.kind ∉ rest
  have left : (s.player.demux.wakePush .audio).wakePush .video ≠ .exited := by
    cases at_ : s.player.demux with
    | exited => exact absurd at_ left
    | pushWaiting p => cases kind : p.kind <;> simp [DemuxLoc.wakePush, kind]
    | _ => rintro ⟨⟩
  rw [place] at left ⊢
  cases loc with
  | top => exact .inl rfl
  | routing p => exact .inr ⟨p, .inl rfl⟩
  | pushing p => exact .inr ⟨p, .inr ⟨rfl, last p.kind⟩⟩
  | pushWaiting p => exact absurd place (wakePush_both _ p)
  | exited => exact absurd rfl left

/-! ### The callback -/

theorem callback_uses_now (dead : ¬s.Alive .audioPlay) (stopped : s.player.playExit = true)
    (silent : s.report = none) (here : s.player.callback ≠ .exited)
    (other : s.player.callback ≠ .getWaiting) : GetsTo output s .audioPlay := by
  refine .now (l := .player .callback) dead ?_ (enabled_player ?_)
  · show Part.audioPlay ∈ s.callbackUses
    unfold callbackUses
    split
    case h_5 at_ => exact absurd at_ other
    case h_6 at_ => exact absurd at_ here
    all_goals exact List.mem_cons_self
  · show ∃ player, (if s.report.isSome then none else s.player.callbackNext) = some player
    simp only [silent, Option.isSome_none, Bool.false_eq_true, if_false]
    have takes : s.player.take = some { s.player with callback := .exited } := if_pos stopped
    unfold Player.callbackNext
    split
    case h_5 at_ => exact absurd at_ other
    case h_6 at_ => exact absurd at_ here
    all_goals
      try rw [takes]
      try split_ifs
      all_goals exact ⟨_, rfl⟩

/-- The callback that is to be called, or is in `getData`. -/
theorem called_gets (dead : ¬s.Alive .audioPlay) (stopped : s.player.playExit = true)
    (silent : s.report = none) (here : s.player.callback ≠ .exited) :
    GetsTo output s .audioPlay := by
  by_cases waits : s.player.callback = .getWaiting
  · have woken : s.player.spurious .get = some { s.player with callback := .getWoken } := by
      simp only [Player.spurious, waits]
    exact .of_step (next_spurious woken)
      (callback_uses_now dead stopped silent (by rintro ⟨⟩) (by rintro ⟨⟩))
  · exact callback_uses_now dead stopped silent here waits

/-- The end of `playCall`, with a buffer enqueued. -/
theorem dropping_gets (dead : ¬s.Alive .audioPlay) (stopped : s.player.playExit = true)
    (idle : s.player.callback = .idle) {r : Report} (here : s.report = some r)
    (loc : r.loc = .dropping) : GetsTo output s .audioPlay := by
  have step : s.next output .report = some { s with report := none } := by
    simp only [next, reportNext, here, Option.bind_some, loc]
  exact .of_step step (called_gets dead stopped rfl (by rw [idle]; rintro ⟨⟩))

theorem sending_gets (dead : ¬s.Alive .audioPlay) (stopped : s.player.playExit = true)
    (idle : s.player.callback = .idle) {r : Report} (here : s.report = some r)
    (loc : r.loc = .sending) (room : s.messages < messageQueueSize) :
    GetsTo output s .audioPlay := by
  have step : s.next output .report = some
      { s with messages := s.messages + 1, report := some { r with loc := .dropping } } := by
    simp only [next, reportNext, here, Option.bind_some, loc, if_pos room]
  exact .of_step step (dropping_gets dead stopped idle rfl rfl)

/-- The looper thread makes room for the message. -/
theorem popped_gets (dead : ¬s.Alive .audioPlay) (stopped : s.player.playExit = true)
    (idle : s.player.callback = .idle) {r : Report} (here : s.report = some r)
    (loc : r.loc = .sending) (within : s.messages ≤ messageQueueSize) (free : s.handling = false) :
    GetsTo output s .audioPlay := by
  by_cases room : s.messages < messageQueueSize
  · exact sending_gets dead stopped idle here loc room
  · have waits : 0 < s.messages := by
      unfold messageQueueSize at room
      omega
    have step : s.next output .pop =
        some { s with messages := s.messages - 1, handling := true } :=
      if_pos ⟨free, waits⟩
    refine .of_step step (sending_gets dead stopped idle here loc ?_)
    show s.messages - 1 < messageQueueSize
    omega

/-- **The callback is called again**, after it has sent the position. -/
theorem callback_gets (dead : ¬s.Alive .audioPlay) (stopped : s.player.playExit = true)
    (idles : ∀ r, s.report = some r → s.player.callback = .idle)
    (within : s.messages ≤ messageQueueSize) (past : s.Done .report) (busy : ¬s.Done .callback) :
    GetsTo output s .audioPlay := by
  cases here : s.report with
  | none => exact called_gets dead stopped here fun gone => busy ⟨gone, here⟩
  | some r =>
    have idle := idles r here
    have early : r.loc.early = false := past r here
    cases loc : r.loc with
    | sending =>
      cases free : s.handling with
      | false => exact popped_gets dead stopped idle here loc within free
      | true =>
        have step : s.next output .handleMessage = some { s with handling := false } :=
          if_pos free
        exact .of_step step (popped_gets dead stopped idle here loc within rfl)
    | dropping => exact dropping_gets dead stopped idle here loc
    | _ => exact nomatch (loc ▸ early)

/-! ### The looper thread -/

theorem looper_gets (dead : ¬s.Alive .jniListener) (called : s.Done .callback)
    (busy : ¬s.Done .looper) : GetsTo output s .jniListener := by
  have handles : ∀ {s : Releasing}, ¬s.Alive .jniListener → s.handling = true →
      GetsTo output s .jniListener := fun {s} dead handling =>
    .now (l := .handleMessage) dead (List.mem_singleton_self _)
      ⟨{ s with handling := false }, if_pos handling⟩
  cases free : s.handling with
  | true => exact handles dead free
  | false =>
    have waits : 0 < s.messages := Nat.pos_of_ne_zero fun none => busy ⟨called, none, free⟩
    have step : s.next output .pop =
        some { s with messages := s.messages - 1, handling := true } := if_pos ⟨free, waits⟩
    exact .of_step step (handles dead rfl)

/-! ### The main result -/

/-- A decoder thread that is not done outlasts the destructor. -/
theorem busy_destroy {k : Kind} {rest : List Part} (busy : ¬s.Done (.decode k)) :
    ¬({ s with player := s.player.destroy (.decode k), unreleased := rest } : Releasing).Done
      (.decode k) := by
  rintro ⟨exited, ended⟩
  refine busy ⟨?_, ended⟩
  have same : (s.player.destroy (.decode k)).decode k = (s.player.decode k).destroy :=
    decode_setDecode ..
  have exited : ((s.player.destroy (.decode k)).decode k).loc = .exited := exited
  rw [same] at exited
  exact (Player.destroy_exited _).mp exited

/-- **A part that is not at rest is used after it was deleted.** The parts deleted before it are at
rest, so the user that is not done is one whose first part it is. -/
theorem use_of_careless (sound : s.Sound) (step : Step output s .release t)
    (careless : ¬s.Careful .release) : ∃ part, GetsTo output t part := by
  cases step with
  | release part rest returned next =>
    have stopped := sound.exits returned
    obtain ⟨w, user, busy⟩ : ∃ w ∈ users part, ¬s.Done w := by
      by_contra all
      refine careless fun part' first => ?_
      rw [next] at first
      cases first
      intro w user
      by_contra busy
      exact all ⟨w, user, busy⟩
    have done : ∀ earlier, earlier ∉ s.unreleased → w ∉ users earlier :=
      fun earlier gone user => busy (sound.rest earlier gone w user)
    refine ⟨part, ?_⟩
    have order := sound.order
    rw [next] at order done
    have dead : part ∉ rest :=
      (List.nodup_cons.mp (order.sublist.nodup (by decide : releaseOrder.Nodup))).1
    simp only [releaseOrder, List.suffix_cons_iff, List.suffix_nil] at order
    rcases order with ⟨⟨⟩, rfl⟩ | ⟨⟨⟩, rfl⟩ | ⟨⟨⟩, rfl⟩ | ⟨⟨⟩, rfl⟩ | ⟨⟨⟩, rfl⟩ | ⟨⟨⟩, rfl⟩ |
      ⟨⟨⟩, rfl⟩ | ⟨⟨⟩, rfl⟩ | ⟨⟨⟩, rfl⟩ | ⟨⟨⟩⟩
    · -- `mediaSync`
      simp only [users, List.mem_cons, List.not_mem_nil, or_false] at user
      rcases user with rfl | rfl | rfl
      · exact audio_gets dead busy
      · exact video_gets dead busy
      · have reports : ∃ r, s.report = some r ∧ r.loc.early = true := by
          by_contra silent
          refine busy fun r here => Bool.eq_false_of_not_eq_true fun early => ?_
          exact silent ⟨r, here, early⟩
        obtain ⟨r, here, early⟩ := reports
        exact report_gets dead here early
    · -- `demux`
      cases List.mem_singleton.mp user
      exact demux_gets dead returned rfl (by intro k; cases k <;> decide) busy
    · -- `audioDecode`
      simp only [users, List.mem_cons, List.not_mem_nil, or_false] at user
      rcases user with rfl | rfl | rfl
      · exact decode_gets dead (busy_destroy busy)
      · exact absurd (by decide) (done .demux (by decide))
      · exact absurd (by decide) (done .mediaSync (by decide))
    · -- `videoDecode`
      simp only [users, List.mem_cons, List.not_mem_nil, or_false] at user
      rcases user with rfl | rfl | rfl | rfl
      · exact decode_gets dead (busy_destroy busy)
      · exact absurd (by decide) (done .demux (by decide))
      · exact absurd (by decide) (done .mediaSync (by decide))
      · exact absurd (by decide) (done .mediaSync (by decide))
    · -- `resample`
      simp only [users, List.mem_cons, List.not_mem_nil, or_false] at user
      rcases user with rfl | rfl
      · exact threadMain_gets dead trivial
          (Bool.eq_true_of_not_eq_false fun ended => busy ended)
      · exact absurd (by decide) (done .mediaSync (by decide))
    · -- `videoView`
      cases List.mem_singleton.mp user
      exact absurd (by decide) (done .mediaSync (by decide))
    · -- `audioPlay`
      simp only [users, List.mem_cons, List.not_mem_nil, or_false] at user
      rcases user with rfl | rfl
      · have past : s.Done .report :=
          sound.rest .mediaSync (by rw [Alive, next]; decide) _ (by decide)
        exact callback_gets dead stopped sound.idle sound.messages past busy
      · exact absurd (by decide) (done .mediaSync (by decide))
    · -- `playerState`
      simp only [users, List.mem_cons, List.not_mem_nil, or_false] at user
      rcases user with rfl | rfl | rfl | rfl | rfl | rfl | rfl
      · exact absurd (by decide) (done .demux (by decide))
      · exact absurd (by decide) (done (.decode .audio) (by decide))
      · exact absurd (by decide) (done (.decode .video) (by decide))
      · exact absurd (by decide) (done .mediaSync (by decide))
      · exact absurd (by decide) (done .mediaSync (by decide))
      · exact absurd (by decide) (done .audioPlay (by decide))
      · exact absurd (by decide) (done .mediaSync (by decide))
    · -- `jniListener`
      cases List.mem_singleton.mp user
      have called : s.Done .callback :=
        sound.rest .audioPlay (by rw [Alive, next]; decide) _ (by decide)
      exact looper_gets dead called busy

/-- **`release` leaves nothing running on released parts where it deletes only parts at rest.** In
every run in which it does, no step of a worker, of the callback or of the looper thread uses a part
whose alive flag is cleared; and a run in which it deletes another one goes on to such a step. -/
theorem release_leavesNothing (output : Kind → FrameOutput) (file : List Packet)
    (labels : List Label) (s : Releasing) (run : (system output).run (start file) labels = some s)
    (careful : (system output).Guarded (fun s l => s.Careful l) (start file) labels) :
    (∀ l t, (system output).next s l = some t → ∀ part ∈ s.uses l, s.Alive part) ∧
      (∀ t, (system output).next s .release = some t → ¬s.Careful .release →
        ∃ part u l v, (system output).Reaches t u ∧ (system output).next u l = some v ∧
          part ∈ u.uses l ∧ ¬u.Alive part) := by
  have sound : s.Sound := System.invariant_guarded (I := Sound)
    (fun _ _ _ sound careful step => sound_step sound careful (step_of_next step)) careful run
    (sound_start file)
  constructor
  · intro l t step part uses
    exact alive_of_careful sound (step_of_next step) uses
  · intro t step careless
    exact use_of_careless sound (step_of_next step) careless

/-- An empty file; `stop` returns, every thread ends, and then `release` is called. -/
def afterAll : List Label :=
  List.replicate 8 (.player .stop) ++
    [.player .demux, .threadMain .demux, .player (.decode .audio true),
      .threadMain (.decode .audio), .player (.decode .video true), .threadMain (.decode .video),
      .player (.audioSync true), .player .videoSync, .player .callback, .threadMain .resample] ++
    List.replicate 9 .release

theorem release_leavesNothing_afterAll :
    ∃ s, (system (decoders ⟨1, 1000⟩ ⟨25, 1⟩)).run (start []) afterAll = some s ∧
      s.unreleased = [] ∧ ∀ l t, (system (decoders ⟨1, 1000⟩ ⟨25, 1⟩)).next s l = some t →
        ∀ part ∈ s.uses l, s.Alive part :=
  ⟨_, rfl, rfl, (release_leavesNothing _ [] afterAll _ rfl (by decide +kernel)).1⟩

/-- The same file; `release` is called as soon as `stop` has returned, with the video thread at the
top of its loop. -/
def atOnce : List Label := List.replicate 8 (.player .stop) ++ [.release]

/-- **The video thread reads `isExist` of a `MediaSync2` that was deleted.** -/
theorem release_leavesThread :
    ∃ s t, (system (decoders ⟨1, 1000⟩ ⟨25, 1⟩)).run (start []) atOnce = some s ∧
      (system (decoders ⟨1, 1000⟩ ⟨25, 1⟩)).next s (.player .videoSync) = some t ∧
      Part.mediaSync ∈ s.uses (.player .videoSync) ∧ ¬s.Alive .mediaSync :=
  ⟨_, _, rfl, rfl, List.mem_cons_self, by decide⟩

end Releasing

end Xplay
