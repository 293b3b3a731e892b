/-
**The hand-off between a decoder and `MediaSync2` through a `FrameQueue`.**

The decoder repeats: receive a frame, `peekWritable`, fill the granted slot, `pushFrame`. The
`MediaSync2` thread repeats: `currentFrame`, and `popFrame` if the slot's `size` is not zero. It
never reads the counters, so it may take a frame that is filled and not pushed: `Safe` is the
invariant that relates the slots to the counters in every interleaving.

* `frameQueue_ringSafe` — the ring is safe although the consumer runs ahead of the counter.
* `frameQueue_handOff_iff` — what the consumer sees agrees with the counter exactly while the next
  frame it is due is counted and not empty, or not counted and not there to see (`InStep`).
-/

import Xplay.Decode.FrameOutput
import Xplay.Lib.System
import Xplay.Queue.FrameQueue

namespace Xplay.FrameQueue

open Lib

/-- Where the decoder stands. -/
inductive Producer
  | receiving
  | peeking (frame : AVFrame)
  | granted (frame : AVFrame) (k : Nat)
  | filled (k : Nat)
  deriving DecidableEq

/-- Where the `MediaSync2` thread stands; it pops only after it saw a frame. -/
inductive Consumer
  | looking
  | popping
  deriving DecidableEq

/-- The queue, its two threads, and what they did so far: the frames filled in, the `pushFrame`
and the `popFrame` calls. -/
structure HandOff where
  queue : FrameQueue
  producer : Producer
  consumer : Consumer
  written : List AVFrame
  pushes : Nat
  pops : Nat

namespace HandOff

/-- A step of either thread. -/
inductive Label
  | receive (ret : Int) (frame : AVFrame)
  | obtain
  | fill
  | push
  | look
  | pop
  deriving DecidableEq

/-- A started queue with `keep_last`, as both decoders construct it. -/
def start (maxSize : Nat) : HandOff :=
  ⟨(FrameQueue.new maxSize true).start, .receiving, .looking, [], 0, 0⟩

/-- The slot the decoder holds. -/
def held (s : HandOff) : Option Nat :=
  match s.producer with
  | .granted _ k | .filled k => some k
  | _ => none

/-- **One step**, of a decoder that hands frames on as `output` says. -/
def next (output : FrameOutput) (s : HandOff) : Label → Option HandOff
  | .receive ret frame =>
    if s.producer = .receiving then
      match output.received ret frame with
      | none => some s
      | some handed => some { s with producer := .peeking handed }
    else none
  | .obtain =>
    match s.producer with
    | .peeking frame =>
      match s.queue.peekWritable with
      | .slot k => some { s with producer := .granted frame k }
      | _ => none
    | _ => none
  | .fill =>
    match s.producer with
    | .granted frame k =>
      some { s with
        queue := s.queue.store k (output.write frame (s.queue.queue k))
        producer := .filled k
        written := s.written ++ [frame] }
    | _ => none
  | .push =>
    match s.producer with
    | .filled _ =>
      some { s with
        queue := s.queue.pushFrame
        producer := .receiving
        pushes := s.pushes + 1 }
    | _ => none
  | .look =>
    if s.consumer = .looking then
      some (if s.queue.currentFrame.size = 0 then s else { s with consumer := .popping })
    else none
  | .pop =>
    if s.consumer = .popping then
      some { s with queue := s.queue.popFrame, consumer := .looking, pops := s.pops + 1 }
    else none

def system (output : FrameOutput) : System HandOff Label := ⟨next output⟩

/-- What a step does, guards included. -/
inductive Step (output : FrameOutput) (s : HandOff) : HandOff → Prop
  | idle : Step output s s
  | receive (frame : AVFrame) (here : s.producer = .receiving) :
    Step output s { s with producer := .peeking frame }
  | obtain (frame : AVFrame) (here : s.producer = .peeking frame)
    (room : s.queue.size < s.queue.maxSize) :
    Step output s { s with producer := .granted frame s.queue.windex }
  | fill (frame : AVFrame) (k : Nat) (here : s.producer = .granted frame k) :
    Step output s
      { s with
        queue := s.queue.store k (output.write frame (s.queue.queue k))
        producer := .filled k
        written := s.written ++ [frame] }
  | push (k : Nat) (here : s.producer = .filled k) :
    Step output s
      { s with queue := s.queue.pushFrame, producer := .receiving, pushes := s.pushes + 1 }
  | look (here : s.consumer = .looking) (saw : s.queue.currentFrame.size ≠ 0) :
    Step output s { s with consumer := .popping }
  | pop (here : s.consumer = .popping) :
    Step output s
      { s with queue := s.queue.popFrame, consumer := .looking, pops := s.pops + 1 }

/-- **The inversion lemma.** -/
theorem step_of_next {output : FrameOutput} {s s' : HandOff} {l : Label}
    (enabled : next output s l = some s') : Step output s s' := by
  cases l with
  | receive ret frame =>
    simp only [next] at enabled
    split at enabled
    · next here =>
      split at enabled
      · cases enabled
        exact .idle
      · cases enabled
        exact .receive _ here
    · cases enabled
  | obtain =>
    simp only [next] at enabled
    split at enabled
    · next frame here =>
      split at enabled
      · next k peek =>
        obtain ⟨same, room⟩ := slot_of_peekWritable peek
        cases enabled
        rw [same]
        exact .obtain frame here room
      · cases enabled
    · cases enabled
  | fill =>
    simp only [next] at enabled
    split at enabled
    · next frame k here =>
      cases enabled
      exact .fill frame k here
    · cases enabled
  | push =>
    simp only [next] at enabled
    split at enabled
    · next k here =>
      cases enabled
      exact .push k here
    · cases enabled
  | look =>
    simp only [next] at enabled
    split at enabled
    · next here =>
      cases enabled
      split
      · exact .idle
      · next saw => exact .look here saw
    · cases enabled
  | pop =>
    simp only [next] at enabled
    split at enabled
    · next here =>
      cases enabled
      exact .pop here
    · cases enabled

/-! ### The invariant -/

/-- The frames that are filled and not pushed. -/
def ahead (s : HandOff) : Nat :=
  match s.producer with
  | .filled _ => 1
  | _ => 0

/-- **The invariant of every interleaving**: the unshown frames of the queue are the frames written
and not popped, in order, with the sizes they were written with. -/
structure Safe (output : FrameOutput) (s : HandOff) (stored : List XData) : Prop where
  shared : Shared s.queue stored s.ahead (s.consumer = .popping)
  granted : ∀ k, s.held = some k → k = s.queue.windex ∧ s.queue.size < s.queue.maxSize
  written : s.written.length = s.pushes + s.ahead
  popped : s.pops + (stored.drop s.queue.showIndex).length = s.written.length
  sizes : (stored.drop s.queue.showIndex).map XData.size = (s.written.drop s.pops).map output.size

variable {output : FrameOutput} {s : HandOff} {stored : List XData}

theorem safe_start {maxSize : Nat} (two : 2 ≤ maxSize) : Safe output (start maxSize) [] where
  shared := (Shared.new two).imp fun here => by cases here
  granted k holds := by cases holds
  written := rfl
  popped := rfl
  sizes := rfl

/-- The decoder moves and leaves the queue alone. -/
theorem Safe.produce (safe : Safe output s stored) {p : Producer}
    (same : { s with producer := p }.ahead = s.ahead)
    (granted : ∀ k, { s with producer := p }.held = some k →
      k = s.queue.windex ∧ s.queue.size < s.queue.maxSize) :
    Safe output { s with producer := p } stored where
  shared := by
    rw [same]
    exact safe.shared
  granted := granted
  written := by
    rw [same]
    exact safe.written
  popped := safe.popped
  sizes := safe.sizes

/-- **Filling the granted slot** shows the frame before it is counted. -/
theorem Safe.fill (safe : Safe output s stored) {frame : AVFrame} {k : Nat}
    (here : s.producer = .granted frame k) :
    Safe output
      { s with
        queue := s.queue.store k (output.write frame (s.queue.queue k))
        producer := .filled k
        written := s.written ++ [frame] }
      (stored ++ [output.write frame (s.queue.queue k)]) := by
  obtain ⟨rfl, room⟩ := safe.granted k (by rw [held, here])
  have none : s.ahead = 0 := by rw [ahead, here]
  have shared := safe.shared
  have written := safe.written
  have popped := safe.popped
  rw [none] at shared written
  refine ⟨shared.fill room _, fun j holds => ?_, ?_, ?_, ?_⟩
  · cases holds
    exact ⟨rfl, room⟩
  · rw [List.length_append, written]
    rfl
  · rw [store_showIndex, shared.drop_fill, List.length_append, List.length_append, ← popped,
      Nat.add_assoc]
    rfl
  · have within : s.pops ≤ s.written.length := by omega
    rw [store_showIndex, shared.drop_fill, List.drop_append_of_le_length within, List.map_append,
      List.map_append, safe.sizes, List.map_singleton, List.map_singleton, output.write_size]

theorem Safe.push (safe : Safe output s stored) {k : Nat} (here : s.producer = .filled k) :
    Safe output
      { s with queue := s.queue.pushFrame, producer := .receiving, pushes := s.pushes + 1 }
      stored := by
  have one : s.ahead = 1 := by rw [ahead, here]
  have shared := safe.shared
  have written := safe.written
  rw [one] at shared written
  exact ⟨shared.push, fun j holds => (by cases holds), written, safe.popped, safe.sizes⟩

theorem Safe.look (safe : Safe output s stored) (saw : s.queue.currentFrame.size ≠ 0) :
    Safe output { s with consumer := .popping } stored :=
  ⟨safe.shared.see saw, safe.granted, safe.written, safe.popped, safe.sizes⟩

/-- `popFrame` takes the first unshown frame. -/
theorem Safe.pop (safe : Safe output s stored) (here : s.consumer = .popping) :
    ∃ stored', Safe output
      { s with queue := s.queue.popFrame, consumer := .looking, pops := s.pops + 1 } stored' := by
  obtain ⟨x, rest, stored', unshown, shared, left⟩ := safe.shared.pop here
  have popped := safe.popped
  have sizes := safe.sizes
  rw [unshown] at popped sizes
  refine ⟨stored', shared.imp fun pop => (by cases pop), fun k holds => ?_, safe.written, ?_, ?_⟩
  · obtain ⟨same, room⟩ := safe.granted k holds
    have less := safe.shared.popFrame_size_le here
    rw [popFrame_windex, popFrame_maxSize]
    exact ⟨same, Nat.lt_of_le_of_lt less room⟩
  · rw [left, ← popped, List.length_cons, Nat.add_assoc, Nat.add_comm 1]
  · rw [left, ← List.tail_drop, List.map_tail, ← sizes]
    rfl

/-- **The step lemma.** -/
theorem safe_step {s' : HandOff} (step : Step output s s') (safe : Safe output s stored) :
    ∃ stored', Safe output s' stored' := by
  cases step with
  | idle => exact ⟨stored, safe⟩
  | receive frame here =>
    exact ⟨stored, safe.produce (by simp [ahead, here]) (fun k holds => by cases holds)⟩
  | obtain frame here room =>
    refine ⟨stored, safe.produce (by simp [ahead, here]) (fun k holds => ?_)⟩
    cases holds
    exact ⟨rfl, room⟩
  | fill frame k here => exact ⟨_, safe.fill here⟩
  | push k here => exact ⟨_, safe.push here⟩
  | look here saw => exact ⟨_, safe.look saw⟩
  | pop here => exact safe.pop here

/-- **The run lemma.** -/
theorem safe_run {maxSize : Nat} (two : 2 ≤ maxSize) {labels : List Label}
    (run : (system output).run (start maxSize) labels = some s) :
    ∃ stored, Safe output s stored :=
  System.invariant_run (I := fun s => ∃ stored, Safe output s stored)
    (fun _ _ _ ⟨_, safe⟩ enabled => safe_step (step_of_next enabled) safe) run
    ⟨[], safe_start two⟩

/-! ### The ring is safe -/

/-- **The ring under the real protocol**: the indices and the counter stay in range and agree, and
a `popFrame` past its keep-last branch finds a counted frame and leaves the decoder's slot alone. -/
structure RingSafe (s : HandOff) : Prop where
  rindex_lt : s.queue.rindex < s.queue.maxSize
  windex_lt : s.queue.windex < s.queue.maxSize
  size_le : s.queue.size ≤ s.queue.maxSize
  windex_eq : s.queue.windex = (s.queue.rindex + s.queue.size) % s.queue.maxSize
  frameSize : -1 ≤ s.queue.getFrameSize
  counted : s.consumer = .popping → s.queue.clears ≠ none → 0 < s.queue.size
  apart : s.consumer = .popping → ∀ k, s.queue.clears = some k → s.held ≠ some k

/-- `getFrameSize` is the number of pushes the consumer has not popped. -/
theorem Safe.frameSize (safe : Safe output s stored) :
    s.queue.getFrameSize = (s.pushes : Int) - (s.pops : Int) := by
  have count := safe.shared.ring.count
  have shown := safe.shared.ring.shown
  have written := safe.written
  have popped := safe.popped
  rw [List.length_drop] at popped
  unfold getFrameSize
  omega

theorem Safe.ringSafe (safe : Safe output s stored) : RingSafe s where
  rindex_lt := safe.shared.ring.rindex_lt
  windex_lt := safe.shared.ring.windex_lt
  size_le := Nat.le_of_add_right_le safe.shared.ring.size_le
  windex_eq := safe.shared.ring.windex_eq
  frameSize := by
    have count := safe.shared.ring.count
    have shown := safe.shared.ring.shown
    have atMost := safe.shared.ahead_le
    unfold getFrameSize
    omega
  counted here clears := by
    refine safe.shared.counted here fun first => clears ?_
    exact clears_of_keep ⟨safe.shared.keepLast, first⟩
  apart here k clears holds := by
    have past : s.queue.showIndex ≠ 0 := fun first => by
      rw [clears_of_keep ⟨safe.shared.keepLast, first⟩] at clears
      cases clears
    rw [clears_of_clear (fun keep => past keep.2)] at clears
    obtain ⟨same, room⟩ := safe.granted k holds
    have ne := safe.shared.ring.windex_ne room (safe.shared.counted here past)
    rw [Nat.add_zero, Nat.mod_eq_of_lt safe.shared.ring.rindex_lt] at ne
    exact ne ((Option.some.inj clears).trans same)

/-- **The ring is safe in every reachable state**, whatever the decoder fills in. -/
theorem frameQueue_ringSafe (output : FrameOutput) (maxSize : Nat) (two : 2 ≤ maxSize)
    (labels : List Label) (s : HandOff)
    (run : (system output).run (start maxSize) labels = some s) : RingSafe s := by
  obtain ⟨stored, safe⟩ := safe_run two run
  exact safe.ringSafe

/-- The consumer pops the first frame before the decoder has pushed it. -/
theorem frameQueue_ringSafe_ahead :
    ∃ s, (system (AudioDecode.output bytesPerSample)).run (start 2)
        [.receive 0 { AVFrame.blank with format := 1, nb_samples := 1 }, .obtain, .fill, .look,
          .pop] = some s ∧ s.queue.getFrameSize = -1 ∧ RingSafe s :=
  ⟨_, rfl, rfl, frameQueue_ringSafe (AudioDecode.output bytesPerSample) 2 (by decide)
    [.receive 0 { AVFrame.blank with format := 1, nb_samples := 1 }, .obtain, .fill, .look, .pop]
    _ rfl⟩

/-! ### What the consumer sees -/

/-- **What the consumer sees agrees with the counter.** -/
def Agrees (s : HandOff) : Prop := s.queue.currentFrame.size ≠ 0 ↔ 0 < s.queue.getFrameSize

instance (s : HandOff) : Decidable (Agrees s) := inferInstanceAs (Decidable (_ ↔ _))

/-- **When it does**: with `pops` frames taken, the next one is pushed and not empty, or, before its
`pushFrame`, not filled or empty. -/
def InStep (output : FrameOutput) (s : HandOff) : Prop :=
  (s.pops < s.pushes → ∀ frame, s.written[s.pops]? = some frame → output.size frame ≠ 0) ∧
    (s.pops = s.pushes → ∀ frame, s.written[s.pops]? = some frame → output.size frame = 0)

/-- The consumer's next frame, by its number. -/
theorem Safe.due (safe : Safe output s stored) :
    (∃ frame, s.written[s.pops]? = some frame ∧ s.queue.currentFrame.size = output.size frame) ∨
      s.written.length ≤ s.pops ∧ s.queue.currentFrame.size = 0 := by
  have sizes := safe.sizes
  have popped := safe.popped
  rcases safe.shared.current with ⟨x, rest, unshown, current⟩ | ⟨unshown, blank⟩
  · rw [unshown, List.map_cons] at sizes
    have size : ((s.written.drop s.pops).map output.size).head? = some x.size := by
      rw [← sizes]
      rfl
    rw [List.head?_map, List.head?_drop, Option.map_eq_some_iff] at size
    obtain ⟨frame, due, same⟩ := size
    exact Or.inl ⟨frame, due, by rw [current, same]⟩
  · rw [unshown] at popped
    exact Or.inr ⟨Nat.le_of_eq popped.symm, blank⟩

theorem Safe.agrees_iff (safe : Safe output s stored) : Agrees s ↔ InStep output s := by
  have written := safe.written
  have atMost := safe.shared.ahead_le
  unfold Agrees InStep
  rw [safe.frameSize]
  rcases safe.due with ⟨frame, due, same⟩ | ⟨none, blank⟩
  · have inside : s.pops < s.written.length := (List.getElem?_eq_some_iff.mp due).1
    simp only [due, same, Option.some.injEq, forall_eq']
    omega
  · have nothing : s.written[s.pops]? = Option.none := List.getElem?_eq_none none
    simp only [nothing, blank, reduceCtorEq, false_implies, implies_true, and_self, iff_true]
    omega

/-- In every run the consumer and the counter agree exactly while they are in step. -/
def AgreesExactly (output : FrameOutput) (maxSize : Nat) : Prop :=
  ∀ labels s, (system output).run (start maxSize) labels = some s →
    (Agrees s ↔ InStep output s)

/-- **The hand-off is exact just while the two threads are in step**, in every reachable state of
both decoders' queues. -/
theorem frameQueue_handOff_iff (output : FrameOutput) (maxSize : Nat) (two : 2 ≤ maxSize) :
    AgreesExactly output maxSize := by
  intro labels s run
  obtain ⟨stored, safe⟩ := safe_run two run
  exact safe.agrees_iff

/-- The queue of the video decoder. -/
theorem video_handOff_iff :
    AgreesExactly (VideoDecode.output ⟨1, 90000⟩ ⟨25, 1⟩) FRAME_QUEUE_SIZE :=
  frameQueue_handOff_iff _ _ (by decide)

/-- **The hand-off fails both ways**: a filled slot is taken before its `pushFrame`, and the blank
frame the video decoder pushes at the end of the stream is counted and never taken. -/
theorem handOff_disagrees :
    (∃ s, (system (AudioDecode.output bytesPerSample)).run (start 2)
        [.receive 0 { AVFrame.blank with format := 1, nb_samples := 1024 }, .obtain, .fill] = some s ∧
      s.queue.currentFrame.size = 4096 ∧ s.queue.getFrameSize = 0 ∧ ¬Agrees s) ∧
    ∃ s, (system (VideoDecode.output ⟨1, 90000⟩ ⟨25, 1⟩)).run (start 2)
        [.receive AVERROR_EOF AVFrame.blank, .obtain, .fill, .push] = some s ∧
      s.queue.currentFrame.size = 0 ∧ s.queue.getFrameSize = 1 ∧ ¬Agrees s :=
  ⟨⟨_, rfl, rfl, rfl, by decide⟩, ⟨_, rfl, rfl, rfl, by decide⟩⟩

end HandOff

end Xplay.FrameQueue
