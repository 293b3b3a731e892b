/-
**What holds in every state of the player**, whatever is played and whenever it is stopped.

* `Held` — one decoder: its frame queue stores its unshown frames, the slot it was granted is free,
  and it waits on a queue only while there is nothing to take or no room.
* `Sound` — the player: both decoders are held, and every other wait has its reason. A thread in a
  wait set is therefore blocked by the very state its condition variable stands for.

`sound_run` is what the deadlock and the shutdown results start from.
-/

import Xplay.Player.PlayerStep
import Mathlib.Data.List.Forall2

namespace Xplay

open Lib

/-! ### Where a decoder stands -/

namespace DecodeLoc

/-- The frames that are filled and not pushed. -/
def ahead : DecodeLoc → Nat
  | pushing => 1
  | _ => 0

/-- **What a location says about the queues**: a granted slot is the free one at `windex`, a wait for
room finds the queue full, a wait for a packet finds none. -/
def Claims (q : FrameQueue) (packets : List Packet) : DecodeLoc → Prop
  | filling _ k => k = q.windex ∧ q.size < q.maxSize
  | peekWoken _ => q.size < q.maxSize
  | peekWaiting _ => q.maxSize ≤ q.size
  | popWaiting => packets = []
  | _ => True

@[simp] theorem ahead_wakePop (loc : DecodeLoc) : loc.wakePop.ahead = loc.ahead := by
  cases loc <;> rfl

@[simp] theorem ahead_wakePeek (loc : DecodeLoc) : loc.wakePeek.ahead = loc.ahead := by
  cases loc <;> rfl

/-- Nobody waits for a packet once `_empty` was notified. -/
theorem Claims.wakePop {q : FrameQueue} {packets packets' : List Packet} {loc : DecodeLoc}
    (claims : loc.Claims q packets) : loc.wakePop.Claims q packets' := by
  cases loc <;> trivial

/-- A `popFrame` that gives no place back. -/
theorem Claims.popFrame_first {q : FrameQueue} {packets : List Packet} {loc : DecodeLoc}
    (claims : loc.Claims q packets) (size : q.popFrame.size = q.size) :
    loc.Claims q.popFrame packets := by
  cases loc with
  | filling frame k =>
    obtain ⟨same, room⟩ := claims
    exact ⟨by rw [same, FrameQueue.popFrame_windex], by rwa [size, FrameQueue.popFrame_maxSize]⟩
  | peekWoken frame =>
    show q.popFrame.size < q.popFrame.maxSize
    rwa [size, FrameQueue.popFrame_maxSize]
  | peekWaiting frame =>
    show q.popFrame.maxSize ≤ q.popFrame.size
    rwa [size, FrameQueue.popFrame_maxSize]
  | popWaiting => exact claims
  | _ => trivial

/-- A `popFrame` that gives a place back, and notifies. -/
theorem Claims.popFrame_later {q : FrameQueue} {packets : List Packet} {loc : DecodeLoc}
    (claims : loc.Claims q packets) (fits : q.size ≤ q.maxSize)
    (size : q.popFrame.size + 1 = q.size) : loc.wakePeek.Claims q.popFrame packets := by
  have max := FrameQueue.popFrame_maxSize q
  cases loc with
  | filling frame k =>
    obtain ⟨same, room⟩ := claims
    exact ⟨by rw [same, FrameQueue.popFrame_windex], by omega⟩
  | peekWoken frame =>
    show q.popFrame.size < q.popFrame.maxSize
    omega
  | peekWaiting frame =>
    show q.popFrame.size < q.popFrame.maxSize
    omega
  | popWaiting => exact claims
  | _ => trivial

end DecodeLoc

/-! ### One decoder -/

namespace IDecode

/-- **The frame queue of a decoder and its thread**; the unshown slots carry the sizes and the pts
of the unshown frames. -/
structure Held (output : FrameOutput) (d : IDecode) (Bound : Prop) (stored : List XData) :
    Prop where
  shared : Shared d.frameQueue stored d.loc.ahead Bound
  unshown : List.Forall₂ (fun x frame => x.size = output.size frame ∧ x.pts = output.pts frame)
    (stored.drop d.frameQueue.showIndex) d.unshown
  started : d.frameQueue.abortRequest = false
  maxSize : d.frameQueue.maxSize = FRAME_QUEUE_SIZE
  claims : d.loc.Claims d.frameQueue d.packetQueue

namespace Held

variable {output : FrameOutput} {d : IDecode} {Bound : Prop} {stored : List XData}

theorem new : Held output IDecode.new False [] where
  shared := Shared.new (by decide)
  unshown := List.Forall₂.nil
  started := rfl
  maxSize := rfl
  claims := trivial

theorem imp (held : Held output d Bound stored) {Bound' : Prop} (weaker : Bound' → Bound) :
    Held output d Bound' stored :=
  { held with shared := held.shared.imp weaker }

/-- A decoder's flag says nothing about its queues. -/
theorem stop (held : Held output d Bound stored) :
    Held output { d with isExit := true } Bound stored :=
  ⟨held.shared, held.unshown, held.started, held.maxSize, held.claims⟩

/-- The unshown frames are the counted ones past the kept frame, and the one not counted yet. -/
theorem unshown_length (held : Held output d Bound stored) :
    d.unshown.length + d.frameQueue.showIndex = d.frameQueue.size + d.loc.ahead := by
  have same := held.unshown.length_eq
  have count := held.shared.ring.count
  have shown := held.shared.ring.shown
  rw [List.length_drop] at same
  omega

/-- A thread that is bound to pop has a frame to pop. -/
theorem unshown_ne_nil (held : Held output d Bound stored) (bound : Bound) : d.unshown ≠ [] := by
  intro nothing
  have length := held.unshown_length
  have least := held.shared.bound bound
  have count := held.shared.ring.count
  rw [nothing, List.length_nil] at length
  omega

/-- A full queue has a frame to show. -/
theorem unshown_of_full (held : Held output d Bound stored)
    (full : d.frameQueue.maxSize ≤ d.frameQueue.size) : d.unshown ≠ [] := by
  intro nothing
  have length := held.unshown_length
  have two := held.shared.two
  have one := held.shared.ring.showIndex_le
  rw [nothing, List.length_nil] at length
  omega

/-- **What the consumer sees**: the first unshown frame, or a blank slot. -/
theorem current (held : Held output d Bound stored) :
    (∃ frame rest, d.unshown = frame :: rest ∧
        d.frameQueue.currentFrame.size = output.size frame ∧
        d.frameQueue.currentFrame.pts = output.pts frame) ∨
      d.unshown = [] ∧ d.frameQueue.currentFrame.size = 0 := by
  have same := held.unshown
  rcases held.shared.current with ⟨x, rest, front, current⟩ | ⟨none, blank⟩
  · rw [front] at same
    cases unshown : d.unshown with
    | nil =>
      rw [unshown] at same
      cases same
    | cons frame left =>
      rw [unshown] at same
      obtain ⟨⟨size, pts⟩, -⟩ := List.forall₂_cons.mp same
      exact .inl ⟨frame, left, rfl, by rw [current, size], by rw [current, pts]⟩
  · rw [none] at same
    exact .inr ⟨List.forall₂_nil_left_iff.mp same, blank⟩

/-- Moving to a location whose claims hold. -/
theorem goto (held : Held output d Bound stored) {loc : DecodeLoc} (ahead : loc.ahead = d.loc.ahead)
    (claims : loc.Claims d.frameQueue d.packetQueue) : Held output (d.goto loc) Bound stored where
  shared := by
    show Shared d.frameQueue stored loc.ahead Bound
    rw [ahead]
    exact held.shared
  unshown := held.unshown
  started := held.started
  maxSize := held.maxSize
  claims := claims

theorem move {s : Player} {loc : DecodeLoc} (held : Held output d Bound stored)
    (move : Player.DecodeMove s d loc) : Held output (d.goto loc) Bound stored := by
  have claims := held.claims
  cases move with
  | poll here => exact held.goto (by rw [here]) trivial
  | quit here flag => exact held.goto (by rw [here]; rfl) trivial
  | pop here clear => exact held.goto (by rw [here]; rfl) trivial
  | empty here nothing => exact held.goto (by rw [here]; rfl) nothing
  | wait frame here full => exact held.goto (by rw [here]; rfl) full
  | grant frame here room => exact held.goto (by rw [here]; rfl) ⟨rfl, room⟩
  | woken frame here =>
    rw [here] at claims
    exact held.goto (by rw [here]; rfl) ⟨rfl, claims⟩
  | null frame here aborted =>
    rw [held.started] at aborted
    cases aborted

theorem make (held : Held output d Bound stored) {frame : AVFrame} (here : d.loc = .decoding frame) :
    Held output (d.goto (.peeking frame)) Bound stored :=
  held.goto (by rw [here]; rfl) trivial

theorem skip (held : Held output d Bound stored) {frame : AVFrame} (here : d.loc = .decoding frame) :
    Held output (d.goto .top) Bound stored :=
  held.goto (by rw [here]; rfl) trivial

theorem pushPacket (held : Held output d Bound stored) (p : Packet) :
    Held output (d.pushPacket p) Bound stored where
  shared := by
    show Shared d.frameQueue stored d.loc.wakePop.ahead Bound
    rw [DecodeLoc.ahead_wakePop]
    exact held.shared
  unshown := held.unshown
  started := held.started
  maxSize := held.maxSize
  claims := held.claims.wakePop

theorem popPacket (held : Held output d Bound stored) {p : Packet} {rest : List Packet}
    (here : d.loc = .popping) : Held output (d.popPacket p rest) Bound stored where
  shared := by
    have shared := held.shared
    rw [here] at shared
    exact shared
  unshown := held.unshown
  started := held.started
  maxSize := held.maxSize
  claims := trivial

/-- **Filling the granted slot.** -/
theorem fill (held : Held output d Bound stored) {frame : AVFrame} {k : Nat}
    (here : d.loc = .filling frame k) :
    Held output (d.fill output frame k) Bound
      (stored ++ [output.write frame (d.frameQueue.queue k)]) := by
  have claims := held.claims
  have shared := held.shared
  rw [here] at claims shared
  obtain ⟨rfl, room⟩ := claims
  refine ⟨shared.fill room _, ?_, held.started, held.maxSize, trivial⟩
  unfold IDecode.fill
  rw [FrameQueue.store_showIndex, shared.drop_fill]
  exact List.rel_append held.unshown
    (.cons ⟨output.write_size _ _, output.write_pts _ _⟩ .nil)

theorem pushFrame (held : Held output d Bound stored) (here : d.loc = .pushing) :
    Held output d.pushFrame Bound stored := by
  have shared := held.shared
  rw [here] at shared
  exact ⟨shared.push, held.unshown, held.started, held.maxSize, trivial⟩

theorem see (held : Held output d Bound stored) (saw : d.frameQueue.currentFrame.size ≠ 0)
    {Bound' : Prop} : Held output d Bound' stored :=
  { held with shared := held.shared.see saw }

/-- **The decoder's own steps.** -/
theorem step {s : Player} {d' : IDecode} {made : Bool} (held : Held output d Bound stored)
    (own : Player.DecodeStep output s d made d') : ∃ stored', Held output d' Bound stored' := by
  cases own with
  | move move => exact ⟨stored, held.move move⟩
  | make frame here makes => exact ⟨stored, held.make here⟩
  | skip frame here skips => exact ⟨stored, held.skip here⟩
  | fill frame j here => exact ⟨_, held.fill here⟩
  | push here => exact ⟨stored, held.pushFrame here⟩

/-- `popFrame` notifies from the second call on. -/
theorem clears_iff (held : Held output d Bound stored) :
    d.frameQueue.clears = none ↔ d.frameQueue.showIndex = 0 := by
  unfold FrameQueue.clears
  simp [held.shared.keepLast]

/-- **`popFrame` takes the first unshown frame**, and wakes the decoder when it makes room. -/
theorem popFrame (held : Held output d Bound stored) (bound : Bound) :
    ∃ stored', Held output d.popFrame False stored' := by
  obtain ⟨x, rest, stored', front, shared, left⟩ := held.shared.pop bound
  have unshown : List.Forall₂ (fun x frame => x.size = output.size frame ∧ x.pts = output.pts frame)
      (stored'.drop d.frameQueue.popFrame.showIndex) d.unshown.tail := by
    have same := held.unshown
    rw [front] at same
    rw [left]
    generalize d.unshown = frames at same
    cases same with
    | cons _ rest => exact rest
  refine ⟨stored', ?_, unshown, (FrameQueue.popFrame_abortRequest _).trans held.started,
    (FrameQueue.popFrame_maxSize _).trans held.maxSize, ?_⟩
  · unfold IDecode.popFrame
    split
    · exact shared
    · simp only [DecodeLoc.ahead_wakePeek]
      exact shared
  · unfold IDecode.popFrame
    split
    · next none =>
      have first := held.clears_iff.mp none
      exact held.claims.popFrame_first (held.shared.popFrame_size_first first)
    · next some =>
      have later := mt held.clears_iff.mpr some
      exact held.claims.popFrame_later (Nat.le_of_add_right_le held.shared.ring.size_le)
        (held.shared.popFrame_size_later bound later)

end Held

end IDecode

/-! ### The player -/

/-- The audio thread has looked and will pop. -/
def AudioLoc.bound : AudioLoc → Bool
  | updating | putting | putWaiting | putWoken | popping => true
  | _ => false

/-- The video thread has looked and will pop. -/
def VideoLoc.bound : VideoLoc → Bool
  | showing | popping => true
  | _ => false

@[simp] theorem AudioLoc.bound_wakePut (loc : AudioLoc) : loc.wakePut.bound = loc.bound := by
  cases loc <;> rfl

/-- How far `stop` has come. -/
def StopLoc.rank : StopLoc → Nat
  | idle => 0
  | mediaSync => 1
  | audioPlay => 2
  | notEmpty => 3
  | notFull => 4
  | demux => 5
  | audioDecode => 6
  | videoDecode => 7
  | returned => 8

namespace Player

/-- The `MediaSync2` thread of `k` has looked and will pop. -/
def Bound (s : Player) : Kind → Prop
  | .audio => s.audioSync.bound = true
  | .video => s.videoSync.bound = true

/-- **The invariant of every run.** -/
structure Sound (output : Kind → FrameOutput) (s : Player) : Prop where
  held : ∀ k, ∃ stored, (s.decode k).Held (output k) (s.Bound k) stored
  packets : ∀ k, (s.decode k).packetQueue.length ≤ packetQueueSize
  pushWaiting : ∀ p, s.demux = .pushWaiting p →
    packetQueueSize ≤ (s.decode p.kind).packetQueue.length
  putWaiting : s.audioSync = .putWaiting → maxFrameBuffer < s.frames.length
  getWaiting : s.callback = .getWaiting → s.frames = []
  getWoken : s.callback = .getWoken → s.frames ≠ [] ∨ s.playExit = true
  aborted : 1 ≤ s.stop.rank → s.abortRequest = true
  stopped : 3 ≤ s.stop.rank → s.playExit = true

variable {output : Kind → FrameOutput} {s s' : Player} {l : Label}

theorem sound_start (file : List Packet) : Sound output (start file) where
  held k := ⟨[], IDecode.Held.new.imp fun bound => by cases k <;> cases bound⟩
  packets k := Nat.zero_le _
  pushWaiting p here := by cases here
  putWaiting here := by cases here
  getWaiting here := by cases here
  getWoken here := by cases here
  aborted later := (Nat.not_succ_le_zero 0 later).elim
  stopped later := (Nat.not_succ_le_zero 2 later).elim

@[simp] theorem setDecode_decode (s : Player) (k : Kind) (d : IDecode) (k' : Kind) :
    (s.setDecode k d).decode k' = if k' = k then d else s.decode k' :=
  Function.update_apply _ _ _ _

/-- What holds of every decoder, and of one that takes the place of another, holds of all then. -/
theorem setDecode_all {P : Kind → IDecode → Prop} {k : Kind} {d : IDecode} (new : P k d)
    (all : ∀ k', P k' (s.decode k')) (k' : Kind) : P k' ((s.setDecode k d).decode k') := by
  rw [setDecode_decode]
  split
  · next same =>
    rw [same]
    exact new
  · exact all k'

/-- What a new decoder shares with the one before, all decoders share with those before. -/
theorem setDecode_same {α : Type} (part : IDecode → α) {k : Kind} {d : IDecode}
    (same : part d = part (s.decode k)) (k' : Kind) :
    part ((s.setDecode k d).decode k') = part (s.decode k') :=
  setDecode_all (P := fun k' d => part d = part (s.decode k')) same (fun _ => rfl) k'

/-- `popFrame` moves a decoder out of the wait for room at most. -/
theorem popFrame_loc (d : IDecode) : d.popFrame.loc = d.loc ∨ d.popFrame.loc = d.loc.wakePeek := by
  unfold IDecode.popFrame
  split
  · exact .inl rfl
  · exact .inr rfl

theorem popFrame_exited (d : IDecode) : d.popFrame.loc = .exited ↔ d.loc = .exited := by
  rcases popFrame_loc d with same | woken
  · rw [same]
  · rw [woken]
    cases d.loc <;> simp [DecodeLoc.wakePeek]

theorem popFrame_popping (d : IDecode) : d.popFrame.loc = .popping ↔ d.loc = .popping := by
  rcases popFrame_loc d with same | woken
  · rw [same]
  · rw [woken]
    cases d.loc <;> simp [DecodeLoc.wakePeek]

/-- A step that changes one decoder, and binds no other consumer. -/
theorem held_update {k : Kind} {d : IDecode} (sound : Sound output s)
    (new : ∃ stored, d.Held (output k) (s'.Bound k) stored)
    (decode : s'.decode = Function.update s.decode k d)
    (bound : ∀ k', k' ≠ k → s'.Bound k' → s.Bound k') (k' : Kind) :
    ∃ stored, (s'.decode k').Held (output k') (s'.Bound k') stored := by
  rw [decode]
  by_cases same : k' = k
  · subst same
    rw [Function.update_self]
    exact new
  · rw [Function.update_of_ne same]
    obtain ⟨stored, held⟩ := sound.held k'
    exact ⟨stored, held.imp (bound k' same)⟩

/-- A step that changes no decoder, and binds no consumer. -/
theorem held_same (sound : Sound output s) (decode : s'.decode = s.decode)
    (audio : s'.audioSync.bound = true → s.audioSync.bound = true)
    (video : s'.videoSync.bound = true → s.videoSync.bound = true) (k : Kind) :
    ∃ stored, (s'.decode k).Held (output k) (s'.Bound k) stored := by
  rw [decode]
  obtain ⟨stored, held⟩ := sound.held k
  cases k with
  | audio => exact ⟨stored, held.imp audio⟩
  | video => exact ⟨stored, held.imp video⟩

/-- **The decoders stay held.** -/
theorem held_step (sound : Sound output s) (step : Step output s l s') :
    ∀ k, ∃ stored, (s'.decode k).Held (output k) (s'.Bound k) stored := by
  cases step with
  | demuxPush p here room =>
    obtain ⟨stored, held⟩ := sound.held p.kind
    exact held_update sound ⟨stored, held.pushPacket p⟩ rfl fun _ _ bound => bound
  | decodeStep k made own =>
    obtain ⟨stored, held⟩ := sound.held k
    exact held_update sound (held.step own) rfl fun _ _ bound => bound
  | decodePop k made p rest here front =>
    obtain ⟨stored, held⟩ := sound.held k
    exact held_update sound ⟨stored, held.popPacket here⟩ rfl fun _ _ bound => bound
  | audioMove resampled move =>
    cases move with
    | see here saw gate =>
      intro k
      obtain ⟨stored, held⟩ := sound.held k
      cases k with
      | audio => exact ⟨stored, held.see saw⟩
      | video => exact ⟨stored, held⟩
    | poll here | quit here flag | look here clear | blank here closed =>
      exact held_same sound rfl (fun bound => by cases bound) fun bound => bound
    | resampled here | lost here | full here full =>
      exact held_same sound rfl (fun _ => by rw [here]; rfl) fun bound => bound
  | audioPut resampled here =>
    refine held_same sound rfl (fun _ => ?_) fun bound => bound
    rcases here with ⟨here, -⟩ | here <;> rw [here] <;> rfl
  | audioPop resampled here =>
    obtain ⟨stored, held⟩ := sound.held .audio
    have popped := held.popFrame (show s.Bound .audio by rw [Bound, here]; rfl)
    refine held_update sound (popped.imp fun _ held => held.imp fun bound => by cases bound) rfl ?_
    intro k other bound
    cases k with
    | audio => exact absurd rfl other
    | video => exact bound
  | videoMove move =>
    cases move with
    | see here saw =>
      intro k
      obtain ⟨stored, held⟩ := sound.held k
      cases k with
      | audio => exact ⟨stored, held⟩
      | video => exact ⟨stored, held.see saw⟩
    | poll here | quit here flag | look here clear | blank here none =>
      exact held_same sound rfl (fun bound => bound) fun bound => by cases bound
  | videoShow here =>
    exact held_same sound rfl (fun bound => bound) fun _ => by rw [here]; rfl
  | videoPop here =>
    obtain ⟨stored, held⟩ := sound.held .video
    have popped := held.popFrame (show s.Bound .video by rw [Bound, here]; rfl)
    refine held_update sound (popped.imp fun _ held => held.imp fun bound => by cases bound) rfl ?_
    intro k other bound
    cases k with
    | audio => exact bound
    | video => exact absurd rfl other
  | callbackTake x rest here front clear =>
    exact held_same sound rfl (fun bound => by rwa [AudioLoc.bound_wakePut] at bound)
      fun bound => bound
  | stopNotFull here =>
    exact held_same sound rfl (fun bound => by rwa [AudioLoc.bound_wakePut] at bound)
      fun bound => bound
  | stopAudio here =>
    obtain ⟨stored, held⟩ := sound.held .audio
    exact held_update sound ⟨stored, held.stop⟩ rfl fun _ _ bound => bound
  | stopVideo here =>
    obtain ⟨stored, held⟩ := sound.held .video
    exact held_update sound ⟨stored, held.stop⟩ rfl fun _ _ bound => bound
  | _ => exact held_same sound rfl (fun bound => bound) fun bound => bound

/-- **The packet queues respect their capacity.** -/
theorem packets_step (sound : Sound output s) (step : Step output s l s') (k : Kind) :
    (s'.decode k).packetQueue.length ≤ packetQueueSize := by
  have keep : ∀ k' d, d.packetQueue.length ≤ packetQueueSize →
      ((s.setDecode k' d).decode k).packetQueue.length ≤ packetQueueSize := fun k' d fits =>
    setDecode_all (P := fun _ d => d.packetQueue.length ≤ packetQueueSize) fits sound.packets k
  cases step with
  | demuxPush p here room =>
    refine keep p.kind _ ?_
    show ((s.decode p.kind).packetQueue ++ [p]).length ≤ packetQueueSize
    rw [List.length_append]
    exact room
  | decodePop k' made p rest here front =>
    have fits := sound.packets k'
    rw [front, List.length_cons] at fits
    exact keep k' _ (Nat.le_of_succ_le fits)
  | decodeStep k' made own => exact keep k' _ (own.packetQueue ▸ sound.packets k')
  | audioPop resampled here => exact keep .audio _ (sound.packets .audio)
  | videoPop here => exact keep .video _ (sound.packets .video)
  | stopAudio here => exact keep .audio _ (sound.packets .audio)
  | stopVideo here => exact keep .video _ (sound.packets .video)
  | _ => exact sound.packets k

/-- **A demux thread that waits finds the packet queue full.** -/
theorem pushWaiting_step (sound : Sound output s) (step : Step output s l s') :
    ∀ p, s'.demux = .pushWaiting p →
      packetQueueSize ≤ (s'.decode p.kind).packetQueue.length := by
  intro p waits
  have keep : ∀ k d, (k = p.kind → d.packetQueue = (s.decode k).packetQueue) →
      s.demux = .pushWaiting p →
      packetQueueSize ≤ ((s.setDecode k d).decode p.kind).packetQueue.length := by
    intro k d same here
    have full := sound.pushWaiting p here
    rw [setDecode_decode]
    split
    · next kind =>
      rw [same kind.symm, ← kind]
      exact full
    · exact full
  cases step with
  | demuxMove move =>
    cases move with
    | full q here full =>
      cases waits
      exact full
    | _ => cases waits
  | demuxPush q here room => cases waits
  | decodePop k made q rest here front =>
    -- the pop notifies `_fullQue`, so the thread waits on the other queue
    have other : s.demux = .pushWaiting p ∧ p.kind ≠ k := by
      have waits : s.demux.wakePush k = .pushWaiting p := waits
      unfold DemuxLoc.wakePush at waits
      split at waits
      · split at waits
        · cases waits
        · next q there differ =>
          cases waits
          exact ⟨there, differ⟩
      · next stays =>
        exact absurd waits (stays p)
    exact keep k _ (fun same => absurd same.symm other.2) other.1
  | decodeStep k made own => exact keep k _ (fun _ => own.packetQueue) waits
  | audioPop resampled here => exact keep .audio _ (fun _ => rfl) waits
  | videoPop here => exact keep .video _ (fun _ => rfl) waits
  | stopAudio here => exact keep .audio _ (fun _ => rfl) waits
  | stopVideo here => exact keep .video _ (fun _ => rfl) waits
  | demuxEof here nothing => cases waits
  | demuxRead q rest here front clear => cases waits
  | _ => exact sound.pushWaiting p waits

theorem wakePut_ne (loc : AudioLoc) : loc.wakePut ≠ .putWaiting := by
  cases loc <;> exact nofun

theorem wakeGet_ne (loc : CallbackLoc) : loc.wakeGet ≠ .getWaiting := by
  cases loc <;> exact nofun

/-- **An audio thread that waits finds too many PCM frames.** -/
theorem putWaiting_step (sound : Sound output s) (step : Step output s l s') :
    s'.audioSync = .putWaiting → maxFrameBuffer < s'.frames.length := by
  intro waits
  cases step with
  | audioMove resampled move =>
    cases move with
    | full here full => exact full
    | _ => cases waits
  | audioPut resampled here => cases waits
  | audioPop resampled here => cases waits
  | callbackTake x rest here front clear => exact absurd waits (wakePut_ne _)
  | stopNotFull here => exact absurd waits (wakePut_ne _)
  | _ => exact sound.putWaiting waits

/-- **A callback that waits finds no PCM frame.** -/
theorem getWaiting_step (sound : Sound output s) (step : Step output s l s') :
    s'.callback = .getWaiting → s'.frames = [] := by
  intro waits
  cases step with
  | callbackMove move =>
    cases move with
    | empty here nothing => exact nothing
    | _ => cases waits
  | audioPut resampled here => exact absurd waits (wakeGet_ne _)
  | callbackTake x rest here front clear => cases waits
  | stopNotEmpty here => exact absurd waits (wakeGet_ne _)
  | _ => exact sound.getWaiting waits

/-- **A callback that was woken finds a PCM frame**, or the flag that woke it. -/
theorem getWoken_step (sound : Sound output s) (step : Step output s l s') :
    s'.callback = .getWoken → s'.frames ≠ [] ∨ s'.playExit = true := by
  intro woken
  cases step with
  | callbackMove move => cases move <;> cases woken
  | audioPut resampled here => exact .inl (List.append_ne_nil_of_right_ne_nil _ (List.cons_ne_nil _ _))
  | callbackTake x rest here front clear => cases woken
  | stopPlay here => exact .inr rfl
  | stopNotEmpty here => exact .inr (sound.stopped (by rw [here]; exact Nat.le_refl 3))
  | _ => exact sound.getWoken woken

/-- `stop` sets `abortRequest` first, and nothing clears it. -/
theorem aborted_step (sound : Sound output s) (step : Step output s l s') :
    1 ≤ s'.stop.rank → s'.abortRequest = true := by
  intro later
  cases step with
  | stopAbort here => rfl
  | stopSync here => exact sound.aborted (by rw [here]; decide)
  | stopPlay here => exact sound.aborted (by rw [here]; decide)
  | stopNotEmpty here => exact sound.aborted (by rw [here]; decide)
  | stopNotFull here => exact sound.aborted (by rw [here]; decide)
  | stopDemux here => exact sound.aborted (by rw [here]; decide)
  | stopAudio here => exact sound.aborted (by rw [here]; decide)
  | stopVideo here => exact sound.aborted (by rw [here]; decide)
  | _ => exact sound.aborted later

/-- `stop` sets the flag of the audio output before it notifies, and nothing clears it. -/
theorem stopped_step (stopped : 3 ≤ s.stop.rank → s.playExit = true)
    (step : Step output s l s') : 3 ≤ s'.stop.rank → s'.playExit = true := by
  intro later
  cases step with
  | stopAbort here => exact absurd later (show ¬3 ≤ 1 by decide)
  | stopSync here => exact absurd later (show ¬3 ≤ 2 by decide)
  | stopPlay here => rfl
  | stopNotEmpty here => exact stopped (by rw [here]; decide)
  | stopNotFull here => exact stopped (by rw [here]; decide)
  | stopDemux here => exact stopped (by rw [here]; decide)
  | stopAudio here => exact stopped (by rw [here]; decide)
  | stopVideo here => exact stopped (by rw [here]; decide)
  | _ => exact stopped later

/-- **The step lemma.** -/
theorem sound_step (sound : Sound output s) (step : Step output s l s') : Sound output s' :=
  ⟨held_step sound step, packets_step sound step, pushWaiting_step sound step,
    putWaiting_step sound step, getWaiting_step sound step, getWoken_step sound step,
    aborted_step sound step, stopped_step sound.stopped step⟩

/-- **The run lemma.** -/
theorem sound_run {file : List Packet} {labels : List Label}
    (run : (system output).run (start file) labels = some s) : Sound output s :=
  System.invariant_run (I := Sound output)
    (fun _ _ _ sound enabled => sound_step sound (step_of_next enabled)) run (sound_start file)

end Player

end Xplay
