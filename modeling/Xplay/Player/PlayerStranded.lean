/-
**A blocking call that is not attended to when `stop` returns can be left waiting for ever.**

The thread goes on to its wait, and its peer past it.

* `decode_arrives`, `due_arrives`, `gate_arrives` — a decoder with a frame gets to the frame queue, its
  frame to the consumer, and a pts to the gate of the audio thread.
* `mayStick_of_not_attended` — so from a state in which some blocking call is not attended to, a
  schedule leaves a worker stuck.
-/

import Xplay.Player.PlayerStuck

namespace Xplay

open Lib

namespace Player

variable {output : Kind → FrameOutput} {s s' t : Player} {l : Label}

/-! ### Schedules that leave a thread behind -/

/-- Some schedule leaves a worker stuck. -/
def MayStick (output : Kind → FrameOutput) (s : Player) : Prop :=
  ∃ t w, (system output).Reaches s t ∧ Halted output t ∧ Stuck t w

theorem mayStick_now (halted : Halted output s) {w : Worker} (stuck : Stuck s w) :
    MayStick output s :=
  ⟨s, w, .refl s, halted, stuck⟩

theorem mayStick_reaches (reach : (system output).Reaches s t) (may : MayStick output t) :
    MayStick output s := by
  obtain ⟨u, w, rest, stuck⟩ := may
  exact ⟨u, w, reach.trans rest, stuck⟩

theorem mayStick_step (enabled : (system output).next s l = some t) (may : MayStick output t) :
    MayStick output s :=
  mayStick_reaches (.single enabled) may

theorem Halted.next (halted : Halted output s) (enabled : (system output).next s l = some t) :
    Halted output t :=
  halted.step (step_of_next enabled)

/-- An audio thread whose frame the resampler loses pops it and gets to its flag check. -/
theorem audio_pops (halted : Halted output s)
    (here : s.audioSync = .updating ∨ s.audioSync = .popping) :
    ∃ t, (system output).Reaches s t ∧ Halted output t ∧ t.audioSync = .top ∧
      t.callback = s.callback ∧ t.decode .audio = (s.decode .audio).popFrame := by
  have pops : ∀ t, Halted output t → t.audioSync = .popping →
      ∃ u, (system output).Reaches t u ∧ Halted output u ∧ u.audioSync = .top ∧
        u.callback = t.callback ∧ u.decode .audio = (t.decode .audio).popFrame := by
    intro t halted popping
    have enabled : (system output).next t (.audioSync false) =
        some { t.setDecode .audio (t.decode .audio).popFrame with audioSync := .top } := by
      simp [system, next, audioNext, popping]
    exact ⟨_, .single enabled, halted.next enabled, rfl, rfl, rfl⟩
  rcases here with updating | popping
  · have enabled : (system output).next s (.audioSync false) =
        some { s with audioSync := .popping } := by
      simp [system, next, audioNext, updating]
    obtain ⟨t, reach, rest⟩ := pops _ (halted.next enabled) rfl
    exact ⟨t, .head enabled reach, rest⟩
  · exact pops s halted popping

/-- The audio thread puts no PCM frame any more, so a callback that waits for one is left behind. -/
theorem getWaiting_sticks (halted : Halted output s) (here : s.callback = .getWaiting)
    (quiet : s.audioSync ≠ .putting ∧ s.audioSync ≠ .putWoken) : MayStick output s := by
  have updates : ∀ t, Halted output t → t.callback = .getWaiting →
      t.audioSync = .updating ∨ t.audioSync = .popping → MayStick output t := by
    intro t halted here pops
    obtain ⟨u, reach, halted, top, callback, -⟩ := audio_pops halted pops
    exact mayStick_reaches reach (mayStick_now halted (.get (callback.trans here) (.inl top)))
  cases loc : s.audioSync with
  | top => exact mayStick_now halted (.get here (.inl loc))
  | exited => exact mayStick_now halted (.get here (.inr loc))
  | putWaiting => exact mayStick_now halted (.put loc)
  | putting => exact absurd loc quiet.1
  | putWoken => exact absurd loc quiet.2
  | updating => exact updates s halted here (.inl loc)
  | popping => exact updates s halted here (.inr loc)
  | looking =>
    by_cases deaf : (s.decode .audio).frameQueue.currentFrame.size = 0 ∨ s.lastFramePts = some 0
    · have enabled : (system output).next s (.audioSync false) =
          some { s with audioSync := .top } := by
        simp [system, next, audioNext, loc, deaf]
      exact mayStick_step enabled (mayStick_now (halted.next enabled) (.get here (.inl rfl)))
    · have enabled : (system output).next s (.audioSync false) =
          some { s with audioSync := .updating } := by
        simp [system, next, audioNext, loc, deaf]
      exact mayStick_step enabled (updates _ (halted.next enabled) here (.inl rfl))

/-- **A `getData` that is not attended to.** -/
theorem get_sticks (halted : Halted output s)
    (here : s.callback = .pausing ∨ s.callback = .getting ∨ s.callback = .getWaiting)
    (nothing : s.frames = []) (quiet : s.audioSync ≠ .putting ∧ s.audioSync ≠ .putWoken) :
    MayStick output s := by
  have gets : ∀ t, Halted output t → t.callback = .getting → t.frames = [] →
      t.audioSync ≠ .putting ∧ t.audioSync ≠ .putWoken → MayStick output t := by
    intro t halted getting nothing quiet
    have enabled : (system output).next t .callback = some { t with callback := .getWaiting } := by
      simp [system, next, callbackNext, getting, nothing]
    exact mayStick_step enabled (getWaiting_sticks (halted.next enabled) rfl quiet)
  rcases here with pausing | getting | waiting
  · -- `resume`, and the callback goes on to `getData`
    have resumed : (system output).next s (.pause false) = some { s with pauseRequest := false } := by
      simp [system, next, halted.returned]
    have enabled : (system output).next { s with pauseRequest := false } .callback =
        some { s with pauseRequest := false, callback := .getting } := by
      simp [system, next, callbackNext, pausing]
    refine mayStick_step resumed (mayStick_step enabled ?_)
    exact gets _ ((halted.next resumed).next enabled) rfl nothing quiet
  · exact gets s halted getting nothing quiet
  · exact getWaiting_sticks halted waiting quiet

/-- **An `IAudioPlay::update` that is not attended to.** -/
theorem put_sticks (halted : Halted output s)
    (here : s.audioSync = .updating ∨ s.audioSync = .putting)
    (full : maxFrameBuffer < s.frames.length) : MayStick output s := by
  have puts : ∀ t, Halted output t → t.audioSync = .putting → maxFrameBuffer < t.frames.length →
      MayStick output t := by
    intro t halted putting full
    have enabled : (system output).next t (.audioSync true) =
        some { t with audioSync := .putWaiting } := by
      simp [system, next, audioNext, putting, full]
    exact mayStick_step enabled (mayStick_now (halted.next enabled) (.put rfl))
  rcases here with updating | putting
  · have enabled : (system output).next s (.audioSync true) =
        some { s with audioSync := .putting } := by
      simp [system, next, audioNext, updating]
    exact mayStick_step enabled (puts _ (halted.next enabled) rfl full)
  · exact puts s halted putting full

/-! ### A decoder that goes on with its frame -/

/-- Only the decoder of `k`, and a demux thread that pushes to it, went on. -/
structure Beside (k : Kind) (s t : Player) : Prop where
  decode : ∀ k', k' ≠ k → t.decode k' = s.decode k'
  nextPacket : ∀ k', k' ≠ k → t.nextPacket k' = s.nextPacket k'
  lastFramePts : t.lastFramePts = s.lastFramePts
  audioSync : t.audioSync = s.audioSync
  videoSync : t.videoSync = s.videoSync
  frames : t.frames = s.frames

/-- It went on to the frame queue, with the same frame. -/
structure GoesOn (k : Kind) (s t : Player) : Prop extends Beside k s t where
  frameQueue : (t.decode k).frameQueue = (s.decode k).frameQueue
  unshown : (t.decode k).unshown = (s.decode k).unshown
  coming : t.coming k = s.coming k

theorem Beside.refl (k : Kind) (s : Player) : Beside k s s :=
  ⟨fun _ _ => rfl, fun _ _ => rfl, rfl, rfl, rfl, rfl⟩

theorem Beside.trans {k : Kind} {u : Player} (first : Beside k s t) (second : Beside k t u) :
    Beside k s u where
  decode k' other := (second.decode k' other).trans (first.decode k' other)
  nextPacket k' other := (second.nextPacket k' other).trans (first.nextPacket k' other)
  lastFramePts := second.lastFramePts.trans first.lastFramePts
  audioSync := second.audioSync.trans first.audioSync
  videoSync := second.videoSync.trans first.videoSync
  frames := second.frames.trans first.frames

/-- The other decoder's frames come as before. -/
theorem Beside.due {k k' : Kind} (beside : Beside k s t) (other : k' ≠ k) : t.due k' = s.due k' := by
  unfold Player.due coming
  rw [beside.decode k' other, beside.nextPacket k' other]

/-- The video thread may take over the same pts. -/
theorem Beside.maySet (beside : Beside .audio s t) {pts : Option ℚ} (set : s.MaySet output pts) :
    t.MaySet output pts := by
  obtain ⟨frame, due, carries, stands⟩ := set
  exact ⟨frame, (beside.due (by decide)).trans due, carries, by rwa [beside.videoSync]⟩

theorem GoesOn.refl (k : Kind) (s : Player) : GoesOn k s s := ⟨.refl k s, rfl, rfl, rfl⟩

theorem GoesOn.trans {k : Kind} {u : Player} (first : GoesOn k s t) (second : GoesOn k t u) :
    GoesOn k s u :=
  ⟨first.toBeside.trans second.toBeside, second.frameQueue.trans first.frameQueue,
    second.unshown.trans first.unshown, second.coming.trans first.coming⟩

/-- Its consumer was bound to pop if it is. -/
theorem GoesOn.willPop {k : Kind} (goesOn : GoesOn k s t) (will : t.WillPop output k) :
    s.WillPop output k := by
  cases k with
  | audio =>
    rcases will with bound | ⟨looking, saw, gate, opens⟩
    · exact .inl (by rwa [← goesOn.audioSync])
    · exact .inr ⟨by rwa [← goesOn.audioSync], by rwa [← goesOn.frameQueue],
        by rwa [← goesOn.lastFramePts], fun pts set => opens pts (goesOn.toBeside.maySet set)⟩
  | video =>
    rcases will with bound | ⟨looking, saw⟩
    · exact .inl (by rwa [← goesOn.videoSync])
    · exact .inr ⟨by rwa [← goesOn.videoSync], by rwa [← goesOn.frameQueue]⟩

theorem beside_setDecode (s : Player) (k : Kind) {d : IDecode} : Beside k s (s.setDecode k d) := by
  have same : ∀ k', k' ≠ k → (s.setDecode k d).decode k' = s.decode k' := by
    intro k' other
    rw [setDecode_decode, if_neg other]
  refine ⟨same, fun k' other => ?_, rfl, rfl, rfl, rfl⟩
  unfold nextPacket
  rw [same k' other]
  rfl

/-- A decoder's move that keeps its frame. -/
theorem goesOn_goto {k : Kind} {loc : DecodeLoc}
    (coming : loc.coming (s.nextPacket k) = (s.decode k).loc.coming (s.nextPacket k)) :
    GoesOn k s (s.setDecode k ((s.decode k).goto loc)) := by
  have own : (s.setDecode k ((s.decode k).goto loc)).decode k = (s.decode k).goto loc := by
    rw [setDecode_decode, if_pos rfl]
  refine ⟨beside_setDecode s k, by rw [own]; rfl, by rw [own]; rfl, ?_⟩
  unfold Player.coming nextPacket
  rw [own]
  exact coming

/-- A demux thread that offers a packet pushes it into an empty queue. -/
theorem push_goesOn {k : Kind} {p : Packet} (here : s.demux = .pushing p) (kind : p.kind = k)
    (empty : (s.decode k).packetQueue = [])
    (waits : (s.decode k).loc = .popping ∨ (s.decode k).loc = .popWaiting) :
    ∃ t, (system output).next s .demux = some t ∧ GoesOn k s t ∧ t.left < s.left := by
  subst kind
  have room : (s.decode p.kind).packetQueue.length < packetQueueSize := by
    rw [empty]
    decide
  refine ⟨{ s.setDecode p.kind ((s.decode p.kind).pushPacket p) with
    demux := .top
    pushed := s.pushed ++ [p] }, by simp [system, next, demuxNext, here, room], ?_, ?_⟩
  · refine ⟨⟨fun k' other => ?_, fun k' other => ?_, rfl, rfl, rfl, rfl⟩, ?_, ?_, ?_⟩
    · simp only [setDecode_decode, if_neg other]
    · unfold nextPacket
      simp only [setDecode_decode, if_neg other, here]
      exact congrArg _ (if_neg (Ne.symm other)).symm
    · simp only [setDecode_decode, if_true]
      rfl
    · simp only [setDecode_decode, if_true]
      rfl
    · simp only [Player.coming, nextPacket, setDecode_decode, if_true, IDecode.pushPacket, here,
        empty, DemuxLoc.offers]
      rcases waits with waits | waits <;> rw [waits] <;> rfl
  · exact left_push here

/-- A step of the decoder that keeps its frame and comes nearer to the queue. -/
theorem goto_goesOn {k : Kind} (loc : DecodeLoc)
    (enabled : (system output).next s (.decode k true) =
      some (s.setDecode k ((s.decode k).goto loc)))
    (coming : loc.coming (s.nextPacket k) = (s.decode k).loc.coming (s.nextPacket k))
    (less : loc.left < (s.decode k).loc.left) :
    ∃ l t, l ≠ .videoSync ∧ (system output).next s l = some t ∧ GoesOn k s t ∧ t.left < s.left := by
  have moved := left_setDecode s k ((s.decode k).goto loc)
  have less : ((s.decode k).goto loc).loc.left < (s.decode k).loc.left := less
  exact ⟨.decode k true, _, by simp, enabled, goesOn_goto coming, by omega⟩

/-- A decoder takes the packet it goes on with. -/
theorem pop_goesOn {k : Kind} {p : Packet} {rest : List Packet} (loc : (s.decode k).loc = .popping)
    (front : (s.decode k).packetQueue = p :: rest) :
    ∃ l t, l ≠ .videoSync ∧ (system output).next s l = some t ∧ GoesOn k s t ∧ t.left < s.left := by
  refine ⟨.decode k true, { s.setDecode k ((s.decode k).popPacket p rest) with
    demux := s.demux.wakePush k }, by simp, by simp [system, next, decodeNext, loc, front], ?_, ?_⟩
  · refine ⟨⟨fun k' other => ?_, fun k' other => ?_, rfl, rfl, rfl, rfl⟩, ?_, ?_, ?_⟩
    · simp only [setDecode_decode, if_neg other]
    · unfold nextPacket
      simp only [setDecode_decode, if_neg other]
      exact congrArg _ (offers_wakePush (Ne.symm other) _)
    · simp only [setDecode_decode, if_true]
      rfl
    · simp only [setDecode_decode, if_true]
      rfl
    · simp only [Player.coming, nextPacket, setDecode_decode, if_true, loc, front]
      rfl
  · exact left_pop loc p rest

/-- The demux thread brings the packet that a decoder without packets goes on with. -/
theorem brings_goesOn {k : Kind} {frame : AVFrame} (coming : s.coming k = some frame)
    (empty : (s.decode k).packetQueue = [])
    (waits : (s.decode k).loc = .popping ∨ (s.decode k).loc = .popWaiting) :
    ∃ l t, l ≠ .videoSync ∧ (system output).next s l = some t ∧ GoesOn k s t ∧ t.left < s.left := by
  have offers : s.demux.offers k ≠ none := by
    intro nothing
    unfold Player.coming nextPacket at coming
    rw [empty, nothing] at coming
    rcases waits with waits | waits <;> rw [waits] at coming <;> cases coming
  cases demux : s.demux with
  | pushing p =>
    rw [demux] at offers
    by_cases kind : p.kind = k
    · obtain ⟨t, pushed⟩ := push_goesOn demux kind empty waits
      exact ⟨.demux, t, by simp, pushed⟩
    · exact absurd (if_neg kind) offers
  | _ =>
    rw [demux] at offers
    exact absurd rfl offers

/-- **A decoder with a frame goes on** until it fills it in or waits for room; the video thread takes
no part in it. -/
theorem decode_goesOn (halted : Halted output s) {k : Kind} {frame : AVFrame}
    (coming : s.coming k = some frame) :
    ((s.decode k).loc = .peekWaiting frame ∨ ∃ j, (s.decode k).loc = .filling frame j) ∨
      ∃ l t, l ≠ .videoSync ∧ (system output).next s l = some t ∧ GoesOn k s t ∧
        t.left < s.left := by
  obtain ⟨stored, held⟩ := halted.sound.held k
  have claims := held.claims
  cases loc : (s.decode k).loc with
  | popping =>
    right
    cases front : (s.decode k).packetQueue with
    | nil => exact brings_goesOn coming front (.inl loc)
    | cons p rest => exact pop_goesOn loc front
  | popWaiting =>
    rw [loc] at claims
    exact .inr (brings_goesOn coming claims (.inr loc))
  | decoding f =>
    exact .inr (goto_goesOn (.peeking f) (by simp [system, next, decodeNext, loc])
      (by rw [loc]; rfl) (by simp [loc, DecodeLoc.left]))
  | peeking f =>
    right
    by_cases room : (s.decode k).frameQueue.size < (s.decode k).frameQueue.maxSize
    · have granted := FrameQueue.peekWritable_of_room held.started room
      exact goto_goesOn (.filling f (s.decode k).frameQueue.windex)
        (by simp [system, next, decodeNext, loc, granted]) (by rw [loc]; rfl)
        (by simp [loc, DecodeLoc.left])
    · have full := FrameQueue.peekWritable_of_full held.started (Nat.not_lt.mp room)
      exact goto_goesOn (.peekWaiting f) (by simp [system, next, decodeNext, loc, full])
        (by rw [loc]; rfl) (by simp [loc, DecodeLoc.left])
  | peekWoken f =>
    right
    refine goto_goesOn (.filling f (s.decode k).frameQueue.windex) ?_ (by rw [loc]; rfl)
      (by simp [loc, DecodeLoc.left])
    simp [system, next, decodeNext, loc, FrameQueue.peekAfterWait, held.started]
  | peekWaiting f =>
    unfold Player.coming at coming
    rw [loc] at coming
    exact .inl (.inl (congrArg _ (Option.some.inj coming)))
  | filling f j =>
    unfold Player.coming at coming
    rw [loc] at coming
    cases coming
    exact .inl (.inr ⟨j, rfl⟩)
  | top | pushing | exited =>
    unfold Player.coming at coming
    rw [loc] at coming
    cases coming

/-- **It gets there.** -/
theorem decode_arrives (halted : Halted output s) {k : Kind} {frame : AVFrame}
    (coming : s.coming k = some frame) :
    ∃ t, (system output).ReachesBy (· ≠ .videoSync) s t ∧ Halted output t ∧ GoesOn k s t ∧
      ((t.decode k).loc = .peekWaiting frame ∨ ∃ j, (t.decode k).loc = .filling frame j) := by
  have arrives : ∃ t, (system output).ReachesBy (· ≠ .videoSync) s t ∧
      (Halted output t ∧ GoesOn k s t) ∧
      ((t.decode k).loc = .peekWaiting frame ∨ ∃ j, (t.decode k).loc = .filling frame j) := by
    refine System.reachesBy_final left (fun t here => ?_) s ⟨halted, .refl k s⟩
    obtain ⟨halted, goesOn⟩ := here
    rcases decode_goesOn halted (goesOn.coming.trans coming) with
      arrived | ⟨l, u, other, enabled, on, less⟩
    · exact .inl arrived
    · exact .inr ⟨u, .single other enabled, ⟨halted.next enabled, goesOn.trans on⟩, less⟩
  obtain ⟨t, reach, ⟨halted, goesOn⟩, arrived⟩ := arrives
  exact ⟨t, reach, halted, goesOn, arrived⟩

/-- **A frame that is due gets to the front of the frame queue.** -/
theorem due_arrives (halted : Halted output s) {k : Kind} {frame : AVFrame}
    (due : s.due k = some frame) :
    ∃ t, (system output).ReachesBy (· ≠ .videoSync) s t ∧ Halted output t ∧ Beside k s t ∧
      (t.decode k).unshown.head? = some frame := by
  cases unshown : (s.decode k).unshown with
  | cons first rest =>
    unfold Player.due at due
    rw [unshown] at due
    exact ⟨s, .refl s, halted, .refl k s, by rw [unshown]; exact due⟩
  | nil =>
    unfold Player.due at due
    rw [unshown] at due
    obtain ⟨t, reach, halted, goesOn, arrived⟩ := decode_arrives halted due
    have blank := goesOn.unshown.trans unshown
    obtain ⟨stored, held⟩ := halted.sound.held k
    have claims := held.claims
    rcases arrived with waits | ⟨j, fills⟩
    · rw [waits] at claims
      exact absurd blank (held.unshown_of_full claims)
    · have enabled : (system output).next t (.decode k true) =
          some (t.setDecode k ((t.decode k).fill (output k) frame j)) := by
        simp [system, next, decodeNext, fills]
      refine ⟨_, reach.trans (.single (by simp) enabled), halted.next enabled,
        goesOn.toBeside.trans (beside_setDecode t k), ?_⟩
      rw [setDecode_decode, if_pos rfl]
      simp [IDecode.fill, blank]

/-- What the consumer of an unshown frame sees. -/
theorem current_of_head (halted : Halted output s) {k : Kind} {frame : AVFrame}
    (front : (s.decode k).unshown.head? = some frame) :
    (s.decode k).frameQueue.currentFrame.size = (output k).size frame ∧
      (s.decode k).frameQueue.currentFrame.pts = (output k).pts frame := by
  obtain ⟨stored, held⟩ := halted.sound.held k
  rcases held.current with ⟨first, rest, unshown, size, pts⟩ | ⟨nothing, -⟩
  · rw [unshown] at front
    cases front
    exact ⟨size, pts⟩
  · rw [nothing] at front
    cases front

/-- **A pts the video thread may take over gets to the gate**, while the audio thread stays. -/
theorem gate_arrives (halted : Halted output s) {pts : Option ℚ} (set : s.MaySet output pts) :
    ∃ t, (system output).Reaches s t ∧ Halted output t ∧ t.lastFramePts = pts ∧
      t.decode .audio = s.decode .audio ∧ t.audioSync = s.audioSync ∧ t.frames = s.frames := by
  have shows : ∀ t, Halted output t → t.videoSync = .showing →
      ∃ u, (system output).next t .videoSync = some u ∧ Halted output u ∧
        u.lastFramePts = (t.decode .video).frameQueue.currentFrame.pts ∧ u.decode = t.decode ∧
        u.audioSync = t.audioSync ∧ u.frames = t.frames := by
    intro t halted showing
    have enabled : (system output).next t .videoSync = some { t with
        lastFramePts := (t.decode .video).frameQueue.currentFrame.pts
        videoSync := .popping } := by
      simp [system, next, videoNext, showing]
    exact ⟨_, enabled, halted.next enabled, rfl, rfl, rfl, rfl⟩
  obtain ⟨frame, due, rfl, stands⟩ := set
  obtain ⟨t, reach, halted, beside, front⟩ := due_arrives halted due
  obtain ⟨size, pts⟩ := current_of_head halted front
  have audio := beside.decode .audio (by decide)
  rcases stands with showing | ⟨looking, sized⟩
  · obtain ⟨u, enabled, halted, last, decode, sync, frames⟩ :=
      shows t halted (beside.videoSync.trans showing)
    exact ⟨u, reach.reaches.trans (.single enabled), halted, last.trans pts, by rw [decode, audio],
      sync.trans beside.audioSync, frames.trans beside.frames⟩
  · have saw : (system output).next t .videoSync = some { t with videoSync := .showing } := by
      simp [system, next, videoNext, beside.videoSync.trans looking, size, sized]
    obtain ⟨u, enabled, halted, last, decode, sync, frames⟩ :=
      shows { t with videoSync := .showing } (halted.next saw) rfl
    exact ⟨u, reach.reaches.trans (.head saw (.single enabled)), halted, last.trans pts,
      by rw [decode]; exact audio, sync.trans beside.audioSync, frames.trans beside.frames⟩

/-- **An `IAudioPlay::update` the audio thread may still get to.** -/
theorem update_sticks (halted : Halted output s) (may : s.MayUpdate output)
    (full : maxFrameBuffer < s.frames.length) : MayStick output s := by
  have sees : ∀ t, Halted output t → t.audioSync = .looking →
      (t.decode .audio).frameQueue.currentFrame.size ≠ 0 → t.lastFramePts ≠ some 0 →
      maxFrameBuffer < t.frames.length → MayStick output t := by
    intro t halted looking saw gate full
    have enabled : (system output).next t (.audioSync true) =
        some { t with audioSync := .updating } := by
      simp [system, next, audioNext, looking, saw, gate]
    exact mayStick_step enabled (put_sticks (halted.next enabled) (.inl rfl) full)
  obtain ⟨looking, ⟨frame, due, size⟩, gate⟩ := may
  obtain ⟨t, reach, halted, beside, front⟩ := due_arrives halted due
  have saw := (current_of_head halted front).1.trans_ne size
  have looking := beside.audioSync.trans looking
  have full : maxFrameBuffer < t.frames.length := by rwa [beside.frames]
  refine mayStick_reaches reach.reaches ?_
  rcases gate with opens | ⟨pts, set, opens⟩
  · exact sees t halted looking saw (by rwa [beside.lastFramePts]) full
  · obtain ⟨u, later, halted, last, decode, sync, frames⟩ :=
      gate_arrives halted (beside.maySet set)
    refine mayStick_reaches later (sees u halted (sync.trans looking) ?_ (by rwa [last]) ?_)
    · rwa [decode]
    · rwa [frames]

/-! ### A decoder whose consumer leaves -/

/-- A first `popFrame` wakes no decoder. -/
theorem popFrame_loc_first (halted : Halted output s) {k : Kind}
    (first : (s.decode k).frameQueue.showIndex = 0) :
    (s.decode k).popFrame.loc = (s.decode k).loc := by
  obtain ⟨stored, held⟩ := halted.sound.held k
  exact if_pos (held.clears_iff.mpr first)

/-- **The video decoder waits**, and the video thread makes no room. -/
theorem video_sticks (halted : Halted output s) {frame : AVFrame}
    (here : (s.decode .video).loc = .peekWaiting frame)
    (first : s.WillPop output .video → (s.decode .video).frameQueue.showIndex = 0) :
    MayStick output s := by
  have pops : ∀ t, Halted output t → t.decode .video = s.decode .video → t.videoSync = .popping →
      (s.decode .video).frameQueue.showIndex = 0 → MayStick output t := by
    intro t halted same popping first
    have enabled : (system output).next t .videoSync =
        some { t.setDecode .video (t.decode .video).popFrame with videoSync := .top } := by
      simp [system, next, videoNext, popping]
    have waits : (t.decode .video).popFrame.loc = .peekWaiting frame := by
      rw [popFrame_loc_first halted (by rwa [same]), same, here]
    refine mayStick_step enabled (mayStick_now (halted.next enabled)
      (.peek .video frame ?_ (.inl rfl)))
    simpa using waits
  have shows : ∀ t, Halted output t → t.decode .video = s.decode .video → t.videoSync = .showing →
      (s.decode .video).frameQueue.showIndex = 0 → MayStick output t := by
    intro t halted same showing first
    have enabled : (system output).next t .videoSync = some { t with
        lastFramePts := (t.decode .video).frameQueue.currentFrame.pts
        videoSync := .popping } := by
      simp [system, next, videoNext, showing]
    exact mayStick_step enabled (pops _ (halted.next enabled) same rfl first)
  cases loc : s.videoSync with
  | top => exact mayStick_now halted (.peek .video frame here (.inl loc))
  | exited => exact mayStick_now halted (.peek .video frame here (.inr loc))
  | popping => exact pops s halted rfl loc (first (.inl (by rw [loc]; rfl)))
  | showing => exact shows s halted rfl loc (first (.inl (by rw [loc]; rfl)))
  | looking =>
    by_cases dark : (s.decode .video).frameQueue.currentFrame.size = 0
    · have enabled : (system output).next s .videoSync = some { s with videoSync := .top } := by
        simp [system, next, videoNext, loc, dark]
      exact mayStick_step enabled (mayStick_now (halted.next enabled)
        (.peek .video frame here (.inl rfl)))
    · have enabled : (system output).next s .videoSync = some { s with videoSync := .showing } := by
        simp [system, next, videoNext, loc, dark]
      exact mayStick_step enabled (shows _ (halted.next enabled) rfl rfl (first (.inr ⟨loc, dark⟩)))

/-- **The audio decoder waits**, and the audio thread makes no room. -/
theorem audio_sticks (halted : Halted output s) {frame : AVFrame}
    (here : (s.decode .audio).loc = .peekWaiting frame)
    (first : s.WillPop output .audio → (s.decode .audio).frameQueue.showIndex = 0) :
    MayStick output s := by
  have pops : ∀ t, Halted output t → t.decode .audio = s.decode .audio →
      t.audioSync = .updating ∨ t.audioSync = .popping →
      (s.decode .audio).frameQueue.showIndex = 0 → MayStick output t := by
    intro t halted same pops first
    have waits : (t.decode .audio).popFrame.loc = .peekWaiting frame := by
      rw [popFrame_loc_first halted (by rwa [same]), same, here]
    obtain ⟨u, reach, halted, top, -, popped⟩ := audio_pops halted pops
    exact mayStick_reaches reach
      (mayStick_now halted (.peek .audio frame (by rw [popped, waits]) (.inl top)))
  have blank : ∀ t, Halted output t → t.decode .audio = s.decode .audio → t.audioSync = .looking →
      (t.decode .audio).frameQueue.currentFrame.size = 0 ∨ t.lastFramePts = some 0 →
      MayStick output t := by
    intro t halted same looking deaf
    have enabled : (system output).next t (.audioSync false) = some { t with audioSync := .top } := by
      simp [system, next, audioNext, looking, deaf]
    exact mayStick_step enabled (mayStick_now (halted.next enabled)
      (.peek .audio frame (by show (t.decode .audio).loc = _; rw [same, here]) (.inl rfl)))
  cases loc : s.audioSync with
  | top => exact mayStick_now halted (.peek .audio frame here (.inl loc))
  | exited => exact mayStick_now halted (.peek .audio frame here (.inr loc))
  | putWaiting => exact mayStick_now halted (.put loc)
  | updating => exact pops s halted rfl (.inl loc) (first (.inl (by rw [loc]; rfl)))
  | popping => exact pops s halted rfl (.inr loc) (first (.inl (by rw [loc]; rfl)))
  | putWoken =>
    have enabled : (system output).next s (.audioSync false) = some s.put := by
      simp [system, next, audioNext, loc]
    exact mayStick_step enabled (pops _ (halted.next enabled) rfl (.inr rfl)
      (first (.inl (by rw [loc]; rfl))))
  | putting =>
    by_cases full : maxFrameBuffer < s.frames.length
    · exact put_sticks halted (.inr loc) full
    · have enabled : (system output).next s (.audioSync false) = some s.put := by
        simp [system, next, audioNext, loc, full]
      exact mayStick_step enabled (pops _ (halted.next enabled) rfl (.inr rfl)
        (first (.inl (by rw [loc]; rfl))))
  | looking =>
    by_cases deaf : (s.decode .audio).frameQueue.currentFrame.size = 0 ∨ s.lastFramePts = some 0
    · exact blank s halted rfl loc deaf
    · obtain ⟨saw, gate⟩ := not_or.mp deaf
      by_cases opens : ∀ pts, s.MaySet output pts → pts ≠ some 0
      · have enabled : (system output).next s (.audioSync false) =
            some { s with audioSync := .updating } := by
          simp [system, next, audioNext, loc, saw, gate]
        exact mayStick_step enabled (pops _ (halted.next enabled) rfl (.inl rfl)
          (first (.inr ⟨loc, saw, gate, opens⟩)))
      · -- the video thread closes the gate first
        obtain ⟨pts, shut⟩ := not_forall.mp opens
        obtain ⟨set, shut⟩ := Classical.not_imp.mp shut
        obtain ⟨t, reach, halted, last, decode, sync, -⟩ := gate_arrives halted set
        exact mayStick_reaches reach
          (blank t halted decode (sync.trans loc) (.inr (last.trans (not_not.mp shut))))

/-- **A `peekWritable` that is not attended to.** -/
theorem peek_sticks (halted : Halted output s) {k : Kind} (peeks : (s.decode k).loc.peeks = true)
    (full : (s.decode k).frameQueue.maxSize ≤ (s.decode k).frameQueue.size)
    (unattended : ¬((s.decode k).frameQueue.showIndex = 1 ∧ s.WillPop output k)) :
    MayStick output s := by
  cases coming : s.coming k with
  | none =>
    -- it is at a pop that no packet comes to
    unfold Player.coming at coming
    cases loc : (s.decode k).loc with
    | popping | popWaiting =>
      rw [loc] at coming
      exact mayStick_now halted (.pop k (by rw [loc]; simp) (Option.map_eq_none_iff.mp coming))
    | decoding f | peeking f | peekWaiting f | peekWoken f | filling f j =>
      rw [loc] at coming
      cases coming
    | top | pushing | exited =>
      rw [loc] at peeks
      cases peeks
  | some frame =>
    obtain ⟨t, reach, halted, goesOn, arrived⟩ := decode_arrives halted coming
    obtain ⟨stored, held⟩ := halted.sound.held k
    have claims := held.claims
    refine mayStick_reaches reach.reaches ?_
    rcases arrived with waits | ⟨j, fills⟩
    · have first : t.WillPop output k → (t.decode k).frameQueue.showIndex = 0 := by
        intro will
        refine held.shared.showIndex_cases.resolve_right fun past => unattended ⟨?_, ?_⟩
        · rwa [← goesOn.frameQueue]
        · exact goesOn.willPop will
      cases k with
      | audio => exact audio_sticks halted waits first
      | video => exact video_sticks halted waits first
    · rw [fills, goesOn.frameQueue] at claims
      exact absurd full (Nat.not_le.mpr claims.2)

/-! ### Returns of `stop` -/

/-- **Where some blocking call is not attended to, a worker can be left stuck.** -/
theorem mayStick_of_not_attended (halted : Halted output s) (unattended : ¬Attended output s) :
    MayStick output s := by
  by_contra stays
  refine unattended ⟨fun p here => ?_, fun k here nothing => ?_, fun k peeks => ?_, fun here => ?_,
    fun here => ?_, fun here => ?_⟩
  · by_contra alone
    obtain ⟨full, passed⟩ := not_or.mp alone
    exact stays (mayStick_now halted (.push p here (Nat.not_lt.mp full) passed))
  · exact stays (mayStick_now halted (.pop k here nothing))
  · by_contra alone
    obtain ⟨full, alone⟩ := not_or.mp alone
    exact stays (peek_sticks halted peeks (Nat.not_lt.mp full) alone)
  · by_contra full
    have full := Nat.not_le.mp full
    rcases here with updating | putting | may
    · exact stays (put_sticks halted (.inl updating) full)
    · exact stays (put_sticks halted (.inr putting) full)
    · exact stays (update_sticks halted may full)
  · exact stays (mayStick_now halted (.put here))
  · by_contra alone
    obtain ⟨nothing, quiet⟩ := not_or.mp alone
    exact stays (get_sticks halted here (not_not.mp nothing) (not_or.mp quiet))

/-- The last store of `stop` changes nothing a blocking call depends on. -/
theorem attended_of_return
    (attended : Attended output { s.stopDecode .video with stop := .returned }) :
    Attended output s where
  push p here := by
    have push := attended.push p here
    cases kind : p.kind <;> rw [kind] at push <;> exact push
  pop k here := by
    cases k with
    | audio => exact attended.pop .audio here
    | video => exact attended.pop .video here
  peek k peeks := by
    cases k with
    | audio => exact attended.peek .audio peeks
    | video => exact attended.peek .video peeks
  put here := attended.put here
  putWaiting := attended.putWaiting
  get here := attended.get here

/-- Every worker stands at its flag check. -/
structure AtChecks (s : Player) : Prop where
  demux : s.demux = .top
  decode : ∀ k, (s.decode k).loc = .top
  audioSync : s.audioSync = .top
  videoSync : s.videoSync = .top
  callback : s.callback = .idle

/-- **Workers at their flag checks need no attention.** -/
theorem AtChecks.attended (checks : AtChecks s) : Attended output s where
  push p pushes := by
    rw [checks.demux] at pushes
    rcases pushes with bad | bad <;> cases bad
  pop k pops := by
    rw [checks.decode k] at pops
    rcases pops with bad | bad <;> cases bad
  peek k peeks := by
    rw [checks.decode k] at peeks
    cases peeks
  put puts := by
    unfold MayUpdate at puts
    rw [checks.audioSync] at puts
    rcases puts with bad | bad | ⟨bad, -⟩ <;> cases bad
  putWaiting := by
    rw [checks.audioSync]
    exact nofun
  get gets := by
    rw [checks.callback] at gets
    rcases gets with bad | bad | bad <;> cases bad

/-- `stop` moves no worker from its flag check. -/
theorem AtChecks.step (checks : AtChecks s) (step : Step output s .stop s') : AtChecks s' := by
  obtain ⟨demux, decode, audio, video, callback⟩ := checks
  have flag : ∀ k k', ((s.stopDecode k).decode k').loc = .top := fun k k' =>
    setDecode_all (P := fun _ d => d.loc = .top) (d := { s.decode k with isExit := true }) (decode k)
      decode k'
  cases step with
  | stopNotEmpty here => exact ⟨demux, decode, audio, video, by simp [callback, CallbackLoc.wakeGet]⟩
  | stopNotFull here => exact ⟨demux, decode, by simp [audio, AudioLoc.wakePut], video, callback⟩
  | stopAudio here => exact ⟨demux, flag .audio, audio, video, callback⟩
  | stopVideo here => exact ⟨demux, flag .video, audio, video, callback⟩
  | _ => exact ⟨demux, decode, audio, video, callback⟩

end Player

end Xplay
