/-
**On every other file a playing player gets stuck.**

The threads are scheduled so that the audio thread comes last: it takes a frame only when the demux
thread, the decoders and the video thread have nothing to do (`Advance`). Each such turn lowers
`work`, so the player comes to rest (`rests_reached`).

* A frame without size is never shown (`sized_of_deadlockFree`).
* Behind a closed gate (`Trap`) the audio that was pushed keeps ahead of the audio that was shown by
  what the player holds, so the demux thread never gets past the gate (`trap_of_deadlockFree`).

With `deadlockFree_of_flows` this decides every file: `player_deadlockFree_iff`.
-/

import Xplay.Player.PlayerDeadlock

namespace Xplay

open Lib

/-! ### What is left to do -/

/-- The steps a demux thread has before it reads on, with those its packet makes for a decoder. -/
def DemuxLoc.work : DemuxLoc → Nat
  | exited => 0
  | top => 1
  | routing _ => 15
  | pushing _ => 14
  | pushWaiting _ => 13

/-- The steps a decoder thread has before it waits for a packet, with those its frame makes for a
consumer. -/
def DecodeLoc.work : DecodeLoc → Nat
  | popWaiting | exited => 0
  | popping => 1
  | top => 2
  | pushing => 3
  | filling _ _ => 7
  | peekWaiting _ | peekWoken _ => 8
  | peeking _ => 9
  | decoding _ => 10

theorem DemuxLoc.work_wakePush (loc : DemuxLoc) (k : Kind) :
    (loc.wakePush k).work ≤ loc.work + 1 := by
  cases loc with
  | pushWaiting p =>
    show (if p.kind = k then DemuxLoc.pushing p else .pushWaiting p).work ≤ 14
    split
    · exact Nat.le_refl 14
    · exact Nat.le_succ 13
  | _ => exact Nat.le_succ _

theorem DecodeLoc.work_wakePop (loc : DecodeLoc) : loc.wakePop.work ≤ loc.work + 1 := by
  cases loc <;> simp [wakePop, work]

@[simp] theorem DecodeLoc.work_wakePeek (loc : DecodeLoc) : loc.wakePeek.work = loc.work := by
  cases loc <;> rfl

def IDecode.work (d : IDecode) : Nat :=
  11 * d.packetQueue.length + d.loc.work + 3 * d.unshown.length

/-- A frame that is popped is work done. -/
theorem IDecode.work_popFrame {d : IDecode} {frame : AVFrame} {rest : List AVFrame}
    (unshown : d.unshown = frame :: rest) : d.popFrame.work < d.work := by
  have same : d.popFrame.loc.work = d.loc.work := by
    unfold popFrame
    split <;> simp
  unfold work
  rw [same]
  simp only [popFrame, unshown, List.tail_cons, List.length_cons]
  omega

namespace Player

def work (s : Player) : Nat :=
  15 * s.file.length + s.demux.work + (s.decode .audio).work + (s.decode .video).work

variable {output : Kind → FrameOutput} {file before : List Packet} {s t : Player}

theorem work_setDecode (s : Player) (k : Kind) (d : IDecode) :
    (s.setDecode k d).work + (s.decode k).work = s.work + d.work := by
  have keep : (s.setDecode k d).file = s.file ∧ (s.setDecode k d).demux = s.demux := ⟨rfl, rfl⟩
  unfold work
  rw [keep.1, keep.2, setDecode_decode, setDecode_decode]
  cases k with
  | audio =>
    rw [if_pos rfl, if_neg (by decide)]
    omega
  | video =>
    rw [if_neg (by decide), if_pos rfl]
    omega

/-! ### One turn -/

/-- The `MediaSync2` threads are at the top of their loops. -/
def Polls (s : Player) : Prop := s.audioSync = .top ∧ s.videoSync = .top

/-- **One turn of the schedule**: a frame that is shown has a size, and the audio thread shows one
only while the others wait. -/
structure Advance (output : Kind → FrameOutput) (s t : Player) : Prop where
  reach : (system output).ReachesBy Playing s t
  polls : Polls t
  less : t.work < s.work
  shown : ∀ k, (t.decode k).shown = (s.decode k).shown ∨
    ∃ frame, (output k).size frame ≠ 0 ∧ (t.decode k).shown = (s.decode k).shown ++ [frame]
  last : (t.decode .audio).shown = (s.decode .audio).shown ∨
    Waiting s ∧ s.lastFramePts ≠ some 0

/-- A turn that shows nothing. -/
theorem advance_same (reach : (system output).ReachesBy Playing s t) (polls : Polls t)
    (less : t.work < s.work) (shown : ∀ k, (t.decode k).shown = (s.decode k).shown) :
    Advance output s t :=
  ⟨reach, polls, less, fun k => .inl (shown k), .inl (shown .audio)⟩

theorem shown_setDecode {k : Kind} {d : IDecode} (same : d.shown = (s.decode k).shown) (k' : Kind) :
    ((s.setDecode k d).decode k').shown = (s.decode k').shown :=
  setDecode_same IDecode.shown same k'

/-- **A turn of the demux thread.** -/
theorem demux_advance (flow : Flow output file s) (polls : Polls s)
    (enabled : s.demuxNext = some t) : Advance output s t := by
  have reach : (system output).ReachesBy Playing s t := .single (l := .demux) trivial enabled
  have step : Step output s .demux t := demux_step enabled
  cases step with
  | demuxMove move =>
    refine advance_same reach polls ?_ fun _ => rfl
    cases move with
    | poll here pause => simp [flow.calm.pauseRequest] at pause
    | quit here flag =>
      rcases flag with flag | flag
      · simp [flow.calm.abortRequest] at flag
      · simp [flow.calm.demuxExit flag] at here
    | drop p here flag => simp [flow.calm.isExit, flow.calm.abortRequest] at flag
    | route p here clear => simp [work, here, DemuxLoc.work]
    | full p here full => simp [work, here, DemuxLoc.work]
  | demuxEof here nothing =>
    exact advance_same reach polls (by simp [work, here, DemuxLoc.work]) fun _ => rfl
  | demuxRead p rest here front clear =>
    refine advance_same reach polls ?_ fun _ => rfl
    simp only [work, here, front, DemuxLoc.work, List.length_cons]
    omega
  | demuxPush p here room =>
    refine advance_same reach polls ?_ (shown_setDecode rfl)
    have total := work_setDecode s p.kind ((s.decode p.kind).pushPacket p)
    have woken := DecodeLoc.work_wakePop (s.decode p.kind).loc
    have pushed : ((s.decode p.kind).pushPacket p).work ≤ (s.decode p.kind).work + 12 := by
      simp only [IDecode.work, IDecode.pushPacket, List.length_append, List.length_singleton]
      omega
    simp only [work, setDecode, here, DemuxLoc.work] at total ⊢
    omega

theorem work_goto {d : IDecode} {loc : DecodeLoc} (less : loc.work < d.loc.work) :
    (d.goto loc).work < d.work := by
  simp only [IDecode.work, IDecode.goto]
  omega

/-- A playing decoder thread that takes no packet works. -/
theorem work_decodeStep (calm : Calm s) {k : Kind} {made : Bool} {d : IDecode}
    (own : DecodeStep (output k) s (s.decode k) made d) : d.work < (s.decode k).work := by
  cases own with
  | move move =>
    refine work_goto ?_
    cases move with
    | poll here pause => simp [calm.pauseRequest] at pause
    | quit here flag => simp [calm.isExit, calm.abortRequest] at flag
    | null frame here aborted => rcases here with here | here <;> simp [here, DecodeLoc.work]
    | pop here | empty here | wait frame here | grant frame here | woken frame here =>
      simp [here, DecodeLoc.work]
  | make frame here makes => exact work_goto (by simp [here, DecodeLoc.work])
  | skip frame here skips => exact work_goto (by simp [here, DecodeLoc.work])
  | fill frame j here =>
    simp only [IDecode.work, IDecode.fill, here, DecodeLoc.work, List.length_append,
      List.length_singleton]
    omega
  | push here => simp [IDecode.work, IDecode.pushFrame, here, DecodeLoc.work]

/-- **A turn of a decoder thread.** -/
theorem decode_advance (flow : Flow output file s) (polls : Polls s) {k : Kind}
    (enabled : decodeNext (output k) k true s = some t) : Advance output s t := by
  have reach : (system output).ReachesBy Playing s t := .single (l := .decode k true) rfl enabled
  have step : Step output s (.decode k true) t := decode_step enabled
  cases step with
  | @decodeStep _ _ d own =>
    refine advance_same reach polls ?_ (shown_setDecode own.shown)
    have total := work_setDecode s k d
    have less := work_decodeStep flow.calm own
    omega
  | decodePop k made p rest here front =>
    refine advance_same reach polls ?_ (shown_setDecode rfl)
    have total := work_setDecode s k ((s.decode k).popPacket p rest)
    have woken := DemuxLoc.work_wakePush s.demux k
    have popped : ((s.decode k).popPacket p rest).work + 2 = (s.decode k).work := by
      simp only [IDecode.work, IDecode.popPacket, here, front, DecodeLoc.work, List.length_cons]
      omega
    simp only [work, setDecode] at total ⊢
    omega

/-- **A frame that is seen is popped.** -/
theorem pop_shows (sound : Sound output s) {k : Kind}
    (saw : (s.decode k).frameQueue.currentFrame.size ≠ 0) :
    (s.setDecode k (s.decode k).popFrame).work < s.work ∧
      ∃ frame, (output k).size frame ≠ 0 ∧
        (s.decode k).popFrame.shown = (s.decode k).shown ++ [frame] := by
  obtain ⟨stored, held⟩ := sound.held k
  rcases held.current with ⟨frame, rest, unshown, size, -⟩ | ⟨-, blank⟩
  · have total := work_setDecode s k (s.decode k).popFrame
    have less := IDecode.work_popFrame unshown
    exact ⟨by omega, frame, size ▸ saw, by simp [IDecode.popFrame, unshown]⟩
  · exact absurd blank saw

/-- **A turn of the video thread.** -/
theorem video_advance (sound : Sound output s) (flow : Flow output file s) (polls : Polls s)
    (saw : ¬s.Dark) : ∃ t, Advance output s t := by
  obtain ⟨less, shows⟩ := pop_shows sound saw
  refine ⟨{ s.setDecode .video (s.decode .video).popFrame with
    lastFramePts := (s.decode .video).frameQueue.currentFrame.pts
    videoSync := .top }, ?_, ⟨polls.1, rfl⟩, less, ?_, .inl rfl⟩
  · refine ⟨List.replicate 4 .videoSync, by simp [Playing], ?_⟩
    have saw : (s.decode .video).frameQueue.currentFrame.size ≠ 0 := saw
    simp [List.replicate, System.run_cons, system, next, videoNext, polls.2, saw, flow.calm.isExist,
      flow.calm.abortRequest, flow.calm.pauseRequest, setDecode]
  · intro k
    cases k with
    | audio => exact .inl rfl
    | video => exact .inr shows

/-- **A turn of the audio thread**, which takes a frame that the resampler loses. -/
theorem audio_advance (sound : Sound output s) (flow : Flow output file s) (polls : Polls s)
    (waiting : Waiting s) (hears : ¬s.Deaf) : ∃ t, Advance output s t := by
  obtain ⟨saw, opens⟩ := not_or.mp hears
  obtain ⟨less, shows⟩ := pop_shows sound saw
  refine ⟨{ s.setDecode .audio (s.decode .audio).popFrame with audioSync := .top }, ?_,
    ⟨rfl, polls.2⟩, less, ?_, .inr ⟨waiting, opens⟩⟩
  · refine ⟨List.replicate 4 (.audioSync false), by simp [Playing], ?_⟩
    simp [List.replicate, System.run_cons, system, next, audioNext, polls.1, saw, opens,
      flow.calm.isExist, flow.calm.abortRequest, flow.calm.pauseRequest, setDecode]
  · intro k
    cases k with
    | audio => exact .inr shows
    | video => exact .inl rfl

/-- **A player without a turn is at rest.** -/
theorem rests_of_not_advance (sound : Sound output s) (flow : Flow output file s) (polls : Polls s)
    (stays : ¬∃ t, Advance output s t) : Rests s := by
  have waiting : Waiting s := by
    refine ⟨?_, fun k => ?_, by rw [polls.2]; rfl, ?_⟩
    · by_contra moves
      obtain ⟨gone, waits⟩ := not_or.mp moves
      obtain ⟨t, enabled⟩ := demux_enabled (not_exists.mp waits) gone
      exact stays ⟨t, demux_advance flow polls enabled⟩
    · by_contra moves
      obtain ⟨pops, peeks⟩ := not_or.mp moves
      obtain ⟨t, enabled⟩ := decode_enabled pops (not_exists.mp peeks) (flow.alive.decode k)
      exact stays ⟨t, decode_advance flow polls enabled⟩
    · by_contra saw
      exact stays (video_advance sound flow polls saw)
  refine ⟨waiting, by rw [polls.1]; rfl, ?_⟩
  by_contra hears
  exact stays (audio_advance sound flow polls waiting hears)

/-- **The player comes to rest**, with what every turn keeps. -/
theorem rests_reached (output : Kind → FrameOutput) (file : List Packet) (Keeps : Player → Prop)
    (begins : Keeps (start file))
    (keeps : ∀ s t, Sound output s → Flow output file s → Keeps s → Advance output s t → Keeps t) :
    ∃ s, (system output).ReachesBy Playing (start file) s ∧ Sound output s ∧ Flow output file s ∧
      Keeps s ∧ Rests s := by
  obtain ⟨s, reach, ⟨sound, flow, -, kept⟩, rests⟩ := System.reachesBy_final
    (I := fun s => Sound output s ∧ Flow output file s ∧ Polls s ∧ Keeps s) (F := Rests) work
    (fun s ⟨sound, flow, polls, kept⟩ => by
      by_cases stays : ∃ t, Advance output s t
      · obtain ⟨t, turn⟩ := stays
        obtain ⟨sound', flow'⟩ := flow_run sound flow turn.reach
        exact .inr ⟨t, turn.reach, ⟨sound', flow', turn.polls, keeps s t sound flow kept turn⟩,
          turn.less⟩
      · exact .inl (rests_of_not_advance sound flow polls stays))
    (start file) ⟨sound_start file, flow_start output file, ⟨rfl, rfl⟩, begins⟩
  exact ⟨s, reach, sound, flow, kept, rests⟩

/-! ### Files that do not flow -/

/-- A player whose threads wait and that has not shown all of a stream has something left. -/
theorem left_of_stream (waiting : Waiting s) (sound : Sound output s) {k : Kind}
    (more : (s.decode k).stream ≠ (s.decode k).shown) : s.Left := by
  by_contra nothing
  obtain ⟨-, nothing⟩ := not_or.mp nothing
  obtain ⟨-, nothing⟩ := not_or.mp nothing
  obtain ⟨packets, nothing⟩ := not_or.mp (not_exists.mp nothing k)
  obtain ⟨hand, frames⟩ := not_or.mp nothing
  have size := waiting.unshown_size sound k
  have unshown : (s.decode k).unshown = [] := List.length_eq_zero_iff.mp (by omega)
  refine more ?_
  unfold IDecode.stream
  rw [not_not.mp packets, not_not.mp hand, unshown]
  simp

/-- A demux thread that waits has a packet left. -/
theorem left_of_pushWaiting {p : Packet} (waits : s.demux = .pushWaiting p) : s.Left :=
  .inr (.inl (by rw [waits]; exact List.cons_ne_nil _ _))

/-- **A frame without size gets a player stuck**: no turn shows it. -/
theorem sized_of_deadlockFree (free : DeadlockFree output file) : Sized output file := by
  intro p inside blank
  obtain ⟨s, reach, sound, flow, sized, rests⟩ := rests_reached output file
    (fun s => ∀ k, ∀ frame ∈ (s.decode k).shown, (output k).size frame ≠ 0)
    (fun k frame shown => absurd shown List.not_mem_nil)
    (fun s t _ _ sized turn k frame shown => by
      rcases turn.shown k with same | ⟨last, some, more⟩
      · exact sized k frame (same ▸ shown)
      · rw [more] at shown
        rcases List.mem_append.mp shown with old | new
        · exact sized k frame old
        · rw [List.mem_singleton.mp new]
          exact some)
  have left : s.Left := by
    rcases rests.demux with gone | ⟨q, waits⟩
    · refine left_of_stream rests.toWaiting sound (k := p.kind) fun same => ?_
      have given : p.frame ∈ framesOf p.kind s.pushed := by
        rw [(pushed_all flow gone).2]
        exact List.mem_map.mpr ⟨p, List.mem_filter.mpr ⟨inside, decide_eq_true rfl⟩, rfl⟩
      rw [← flow.stream, same] at given
      exact sized p.kind p.frame given blank
    · exact left_of_pushWaiting waits
  exact (not_moves_iff sound flow).mpr rests (free s reach left)

/-- Audio behind a closed gate: some of it is left when the file ends there, or the demux thread
comes to a packet there is no room for. -/
structure Trap (output : Kind → FrameOutput) (file before : List Packet) : Prop where
  closed : GateClosed output before
  crowd : file = before ∧ framesOf .audio file ≠ [] ∨
    ∃ p after, file = before ++ p :: after ∧ p.kind = .audio ∧
      audioRoom ≤ (framesOf .audio before).length

namespace Trap

/-- **The audio keeps ahead**: of the audio before the trap, the player has shown none, or less than
all by what it holds. -/
def Ahead (before : List Packet) (s : Player) : Prop :=
  (s.decode .audio).shown = [] ∨
    (s.decode .audio).shown.length + audioRoom ≤ (framesOf .audio before).length + 1

theorem within (trap : Trap output file before) : before <+: file := by
  rcases trap.crowd with ⟨whole, -⟩ | ⟨p, after, split, -⟩
  · exact whole ▸ List.prefix_rfl
  · exact ⟨p :: after, split.symm⟩

/-- **The demux thread does not get past the trap.** -/
theorem pushed_before (trap : Trap output file before) (sound : Sound output s)
    (flow : Flow output file s) (ahead : Ahead before s) : s.pushed <+: before := by
  have read : s.pushed <+: file := by
    rw [← flow.order, List.append_assoc]
    exact List.prefix_append _ _
  rcases trap.crowd with ⟨whole, -⟩ | ⟨p, after, split, kind, many⟩
  · exact whole ▸ read
  refine (List.prefix_or_prefix_of_prefix read trap.within).elim id fun past => ?_
  obtain ⟨more, past⟩ := past
  cases more with
  | nil =>
    rw [List.append_nil] at past
    exact past ▸ List.prefix_rfl
  | cons q rest =>
    -- it would have pushed one audio packet too many
    rw [← past, split] at read
    obtain ⟨rfl, -⟩ := List.cons_prefix_cons.mp ((List.prefix_append_right_inj before).mp read)
    have holds := pushed_le sound flow .audio
    rw [← past, framesOf_append, framesOf_cons kind, List.length_append, List.length_cons] at holds
    rcases ahead with none | ahead
    · rw [none, List.length_nil] at holds
      omega
    · omega

/-- **Every turn keeps the audio ahead.** -/
theorem ahead_step (trap : Trap output file before) (sized : Sized output file)
    (sound : Sound output s) (flow : Flow output file s) (ahead : Ahead before s)
    (turn : Advance output s t) : Ahead before t := by
  rcases turn.last with same | ⟨waiting, opens⟩
  · unfold Ahead
    rwa [same]
  have within := trap.pushed_before sound flow ahead
  -- the gate is open, so the demux thread has not come to the trap
  have short : s.pushed ≠ before := by
    rintro rfl
    exact opens ((waiting.gate sound flow sized).trans trap.closed)
  rcases waiting.demux with gone | ⟨q, waits⟩
  · have whole := (pushed_all flow gone).2
    exact absurd (within.eq_of_length_le (whole ▸ trap.within.length_le)) short
  obtain ⟨more, rfl⟩ := within
  obtain ⟨kind, -, many⟩ := waiting.crowded sound flow sized waits
  cases more with
  | nil => exact absurd (List.append_nil _).symm short
  | cons q' rest =>
    have next := trap.within
    rw [pushed_next flow waits] at next
    obtain ⟨rfl, -⟩ :=
      List.cons_prefix_cons.mp ((List.prefix_append_right_inj s.pushed).mp next)
    have shown : (t.decode .audio).shown.length ≤ (s.decode .audio).shown.length + 1 := by
      rcases turn.shown .audio with same | ⟨frame, -, more⟩
      · rw [same]
        exact Nat.le_succ _
      · rw [more, List.length_append]
        exact Nat.le_refl _
    unfold Ahead
    rw [framesOf_append, framesOf_cons kind, List.length_append, List.length_cons]
    omega

/-- **A trap gets a player stuck.** -/
theorem not_deadlockFree (trap : Trap output file before) (sized : Sized output file) :
    ¬DeadlockFree output file := by
  intro free
  obtain ⟨s, reach, sound, flow, ahead, rests⟩ := rests_reached output file (Ahead before) (.inl rfl)
    (fun s t sound flow ahead turn => trap.ahead_step sized sound flow ahead turn)
  have left : s.Left := by
    rcases rests.demux with gone | ⟨p, waits⟩
    · have whole := (pushed_all flow gone).2
      have within := trap.pushed_before sound flow ahead
      refine left_of_stream rests.toWaiting sound (k := .audio) fun same => ?_
      rw [flow.stream, whole] at same
      rcases trap.crowd with ⟨rfl, some⟩ | ⟨p, after, split, -⟩
      · rcases ahead with none | ahead
        · exact some (same.trans none)
        · rw [← same] at ahead
          unfold audioRoom packetQueueSize at ahead
          omega
      · have length := within.length_le
        rw [whole, split, List.length_append, List.length_cons] at length
        omega
    · exact left_of_pushWaiting waits
  exact (not_moves_iff sound flow).mpr rests (free s reach left)

end Trap

/-- **A file no player gets stuck on flows.** -/
theorem flows_of_deadlockFree (free : DeadlockFree output file) : Flows output file := by
  have sized := sized_of_deadlockFree free
  refine ⟨sized, fun before p after split kind closed => ?_, fun closed => ?_⟩
  · by_contra many
    exact Trap.not_deadlockFree
      ⟨closed, .inr ⟨p, after, split, kind, Nat.le_of_not_lt many⟩⟩ sized free
  · by_contra some
    exact Trap.not_deadlockFree ⟨closed, .inl ⟨rfl, some⟩⟩ sized free

/-- **The files a player never gets stuck on are those that flow.** -/
theorem player_deadlockFree_iff (output : Kind → FrameOutput) (file : List Packet) :
    DeadlockFree output file ↔ Flows output file :=
  ⟨flows_of_deadlockFree, deadlockFree_of_flows⟩

/-- An audio packet one second into the file. -/
def audioPacket : Packet :=
  ⟨.audio, { AVFrame.blank with
    format := 1, nb_samples := 1024, sample_rate := 44100, pts := some 44100 }⟩

/-- The audio packet goes through its decoder; the demux thread reads the end of the file, the video
decoder waits for a packet, the callback for a PCM frame. -/
def stickingRun : List Label :=
  List.replicate 4 .demux ++ List.replicate 8 (.decode .audio true) ++
    List.replicate 2 (.decode .video true) ++ [.callback, .callback]

/-- **A file of one audio packet gets a player stuck**: its frame stays behind the gate. -/
theorem player_sticks : Sized (decoders ⟨1, 25⟩ ⟨25, 1⟩) [audioPacket] ∧
    ¬DeadlockFree (decoders ⟨1, 25⟩ ⟨25, 1⟩) [audioPacket] := by
  refine ⟨by unfold Sized; decide, fun free => ?_⟩
  obtain ⟨s, run, rests, size⟩ : ∃ s,
      (system (decoders ⟨1, 25⟩ ⟨25, 1⟩)).run (start [audioPacket]) stickingRun = some s ∧
        Rests s ∧ (s.decode .audio).frameQueue.getFrameSize = 1 :=
    ⟨_, rfl, ⟨⟨.inl rfl, fun k => by cases k <;> exact .inl rfl, rfl, rfl⟩, rfl, .inr rfl⟩, rfl⟩
  have reach : (system (decoders ⟨1, 25⟩ ⟨25, 1⟩)).ReachesBy Playing (start [audioPacket]) s :=
    ⟨stickingRun, by simp [stickingRun, Playing], run⟩
  obtain ⟨sound, flow⟩ := flow_run (sound_start _) (flow_start _ _) reach
  exact (not_moves_iff sound flow).mpr rests
    (free s reach (.inr (.inr ⟨.audio, .inr (.inr (by omega))⟩)))

end Player

end Xplay
