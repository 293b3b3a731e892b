/-
**`FrameQueue`: the ring of decoded frames between a decoder and `MediaSync2`.**

The operations as the code computes them, and `Ring`, the relation between a queue and the frames
stored in it from `rindex` on. `Ring q stored ahead` allows the stored frames to exceed the counter
`size` by `ahead`: a frame the producer has written into its slot is there for the consumer to see
before `pushFrame` counts it.

Each operation has one lemma over `Ring`; no later proof unfolds an operation or an index.
-/

import Xplay.Data.XData
import Xplay.Lib.Window

namespace Xplay

open Lib

/-- `FRAME_QUEUE_SIZE`. -/
def FRAME_QUEUE_SIZE : Nat := 10

/-- `FrameQueue`; the slots are read below `maxSize`. -/
structure FrameQueue where
  abortRequest : Bool
  queue : Nat → XData
  rindex : Nat
  windex : Nat
  size : Nat
  maxSize : Nat
  keepLast : Bool
  showIndex : Nat

/-- `FrameQueue::unrefFrame`, on one slot. -/
def unrefFrame (vp : XData) : XData :=
  { vp with
    frame := vp.frame.map fun _ => AVFrame.blank
    size := 0
    resampleData := none
    frameWidth := 0
    frameHeight := 0
    format := 0 }.drop

@[simp] theorem unrefFrame_size (vp : XData) : (unrefFrame vp).size = 0 := XData.drop_size _

/-- What a call of `peekWritable` comes to: it waits for `mNotFull`, returns `NULL`, or grants a
slot. -/
inductive Peek
  | wait
  | null
  | slot (k : Nat)
  deriving DecidableEq, Repr

namespace FrameQueue

/-- The constructor; only the first `maxSize` slots get an `AVFrame`. -/
def new (maxSize : Nat) (keepLast : Bool) : FrameQueue where
  abortRequest := true
  queue k :=
    { XData.zero with
      frame := if k < min maxSize FRAME_QUEUE_SIZE then some AVFrame.blank else none }
  rindex := 0
  windex := 0
  size := 0
  maxSize := min maxSize FRAME_QUEUE_SIZE
  keepLast := keepLast
  showIndex := 0

/-- `FrameQueue::start`. -/
def start (q : FrameQueue) : FrameQueue := { q with abortRequest := false }

/-- `FrameQueue::abort`. -/
def abort (q : FrameQueue) : FrameQueue := { q with abortRequest := true }

/-- The index of `FrameQueue::currentFrame`. -/
def currentIndex (q : FrameQueue) : Nat := (q.rindex + q.showIndex) % q.maxSize

/-- `FrameQueue::currentFrame`. -/
def currentFrame (q : FrameQueue) : XData := q.queue q.currentIndex

/-- `FrameQueue::nextFrame`. -/
def nextFrame (q : FrameQueue) : XData := q.queue ((q.rindex + q.showIndex + 1) % q.maxSize)

/-- `FrameQueue::lastFrame`. -/
def lastFrame (q : FrameQueue) : XData := q.queue q.rindex

/-- `FrameQueue::getFrameSize`. -/
def getFrameSize (q : FrameQueue) : Int := (q.size : Int) - (q.showIndex : Int)

/-- The end of `FrameQueue::peekWritable`, reached also from a wait: the counter is not read
again. -/
def peekAfterWait (q : FrameQueue) : Peek := if q.abortRequest then .null else .slot q.windex

/-- `FrameQueue::peekWritable`. -/
def peekWritable (q : FrameQueue) : Peek :=
  if q.maxSize ≤ q.size ∧ q.abortRequest = false then .wait else q.peekAfterWait

/-- The caller of `peekWritable` writes into the slot it was granted. -/
def store (q : FrameQueue) (k : Nat) (x : XData) : FrameQueue :=
  { q with queue := Function.update q.queue k x }

/-- `FrameQueue::pushFrame`. -/
def pushFrame (q : FrameQueue) : FrameQueue :=
  { q with
    windex := if q.windex + 1 = q.maxSize then 0 else q.windex + 1
    size := q.size + 1 }

/-- `FrameQueue::popFrame`. -/
def popFrame (q : FrameQueue) : FrameQueue :=
  if q.keepLast = true ∧ q.showIndex = 0 then { q with showIndex := 1 }
  else
    { q with
      queue := Function.update q.queue q.rindex (unrefFrame (q.queue q.rindex))
      rindex := if q.rindex + 1 = q.maxSize then 0 else q.rindex + 1
      size := if 0 < q.size then q.size - 1 else q.size }

/-- The slot `popFrame` hands to `unrefFrame`; none on its keep-last branch. -/
def clears (q : FrameQueue) : Option Nat :=
  if q.keepLast = true ∧ q.showIndex = 0 then none else some q.rindex

/-! ### What each operation changes -/

@[simp] theorem store_queue (q : FrameQueue) (k : Nat) (x : XData) :
    (q.store k x).queue = Function.update q.queue k x := rfl
@[simp] theorem store_size (q : FrameQueue) (k : Nat) (x : XData) :
    (q.store k x).size = q.size := rfl
@[simp] theorem store_showIndex (q : FrameQueue) (k : Nat) (x : XData) :
    (q.store k x).showIndex = q.showIndex := rfl

@[simp] theorem popFrame_abortRequest (q : FrameQueue) :
    q.popFrame.abortRequest = q.abortRequest := by
  unfold popFrame
  split <;> rfl

@[simp] theorem popFrame_windex (q : FrameQueue) : q.popFrame.windex = q.windex := by
  unfold popFrame
  split <;> rfl

@[simp] theorem popFrame_maxSize (q : FrameQueue) : q.popFrame.maxSize = q.maxSize := by
  unfold popFrame
  split <;> rfl

@[simp] theorem popFrame_keepLast (q : FrameQueue) : q.popFrame.keepLast = q.keepLast := by
  unfold popFrame
  split <;> rfl

/-- The keep-last branch moves only `showIndex`. -/
theorem popFrame_of_keep {q : FrameQueue} (keep : q.keepLast = true ∧ q.showIndex = 0) :
    q.popFrame = { q with showIndex := 1 } := if_pos keep

/-- Past the keep-last branch. -/
theorem popFrame_of_clear {q : FrameQueue} (past : ¬(q.keepLast = true ∧ q.showIndex = 0)) :
    q.popFrame =
      { q with
        queue := Function.update q.queue q.rindex (unrefFrame (q.queue q.rindex))
        rindex := if q.rindex + 1 = q.maxSize then 0 else q.rindex + 1
        size := if 0 < q.size then q.size - 1 else q.size } := if_neg past

theorem clears_of_keep {q : FrameQueue} (keep : q.keepLast = true ∧ q.showIndex = 0) :
    q.clears = none := if_pos keep

theorem clears_of_clear {q : FrameQueue} (past : ¬(q.keepLast = true ∧ q.showIndex = 0)) :
    q.clears = some q.rindex := if_neg past

/-- A granted slot is the one at `windex`. -/
theorem slot_of_peekAfterWait {q : FrameQueue} {k : Nat} (peek : q.peekAfterWait = .slot k) :
    k = q.windex ∧ q.abortRequest = false := by
  unfold peekAfterWait at peek
  split at peek
  · cases peek
  · next clear =>
    cases peek
    exact ⟨rfl, Bool.eq_false_iff.mpr clear⟩

/-- A slot granted without a wait is granted below the capacity. -/
theorem slot_of_peekWritable {q : FrameQueue} {k : Nat} (peek : q.peekWritable = .slot k) :
    k = q.windex ∧ q.size < q.maxSize := by
  unfold peekWritable at peek
  split at peek
  · cases peek
  · next room =>
    obtain ⟨same, clear⟩ := slot_of_peekAfterWait peek
    exact ⟨same, Nat.lt_of_not_le fun full => room ⟨full, clear⟩⟩

/-- `peekWritable` only waits on a full queue. -/
theorem full_of_peekWritable {q : FrameQueue} (peek : q.peekWritable = .wait) :
    q.maxSize ≤ q.size := by
  unfold peekWritable at peek
  split at peek
  · next full => exact full.1
  · unfold peekAfterWait at peek
    split at peek <;> cases peek

/-- Only an aborted queue grants no slot after a wait. -/
theorem aborted_of_peekAfterWait {q : FrameQueue} (refused : ∀ k, q.peekAfterWait ≠ .slot k) :
    q.abortRequest = true := by
  unfold peekAfterWait at refused
  split at refused
  · next aborted => exact aborted
  · exact absurd rfl (refused _)

theorem aborted_of_peekWritable {q : FrameQueue} (peek : q.peekWritable = .null) :
    q.abortRequest = true := by
  unfold peekWritable at peek
  split at peek
  · cases peek
  · exact aborted_of_peekAfterWait fun k slot => by
      rw [peek] at slot
      cases slot

/-- An open queue without room makes its producer wait. -/
theorem peekWritable_of_full {q : FrameQueue} (clear : q.abortRequest = false)
    (full : q.maxSize ≤ q.size) : q.peekWritable = .wait := by
  unfold peekWritable
  rw [if_pos ⟨full, clear⟩]

/-- An open queue below its capacity grants the slot at `windex`. -/
theorem peekWritable_of_room {q : FrameQueue} (clear : q.abortRequest = false)
    (room : q.size < q.maxSize) : q.peekWritable = .slot q.windex := by
  unfold peekWritable peekAfterWait
  rw [if_neg (fun full => Nat.not_lt.mpr full.1 room), clear]
  rfl

end FrameQueue

/-! ### The ring -/

/-- A slot whose `size` field is zero: what `MediaSync2` takes for no frame. -/
def Blank (x : XData) : Prop := x.size = 0

/-- **The queue stores `stored` from `rindex` on**; the last `ahead` of them are written but not
counted yet. -/
structure Ring (q : FrameQueue) (stored : List XData) (ahead : Nat) : Prop where
  rindex_lt : q.rindex < q.maxSize
  windex_eq : q.windex = (q.rindex + q.size) % q.maxSize
  count : stored.length = q.size + ahead
  window : Window q.queue q.maxSize q.rindex stored
  /-- The cells behind them are as `unrefFrame` left them. -/
  blank : Outside q.queue q.maxSize q.rindex stored.length Blank
  showIndex_le : q.showIndex ≤ 1
  shown : q.showIndex ≤ stored.length
  keeping : q.keepLast = false → q.showIndex = 0

namespace Ring

variable {q : FrameQueue} {stored : List XData} {ahead : Nat}

theorem maxSize_pos (ring : Ring q stored ahead) : 0 < q.maxSize :=
  Nat.zero_lt_of_lt ring.rindex_lt

theorem windex_lt (ring : Ring q stored ahead) : q.windex < q.maxSize := by
  rw [ring.windex_eq]
  exact Nat.mod_lt _ ring.maxSize_pos

theorem size_le (ring : Ring q stored ahead) : q.size + ahead ≤ q.maxSize := by
  rw [← ring.count]
  exact ring.window.fits

theorem new {maxSize : Nat} (positive : 0 < maxSize) (keepLast : Bool) :
    Ring (FrameQueue.new maxSize keepLast) [] 0 where
  rindex_lt := Nat.lt_min.mpr ⟨positive, (Nat.zero_lt_succ 9 : 0 < FRAME_QUEUE_SIZE)⟩
  windex_eq := (Nat.zero_mod _).symm
  count := rfl
  window := Window.empty
  blank _ _ _ := rfl
  showIndex_le := Nat.zero_le 1
  shown := Nat.le_refl 0
  keeping _ := rfl

theorem start (ring : Ring q stored ahead) : Ring q.start stored ahead :=
  ⟨ring.rindex_lt, ring.windex_eq, ring.count, ring.window, ring.blank, ring.showIndex_le,
    ring.shown, ring.keeping⟩

/-- **Writing the granted slot** stores a frame the counter does not include yet. -/
theorem store (ring : Ring q stored 0) (room : q.size < q.maxSize) (x : XData) :
    Ring (q.store q.windex x) (stored ++ [x]) 1 where
  rindex_lt := ring.rindex_lt
  windex_eq := ring.windex_eq
  count := by simp [ring.count]
  window := by
    have counted : stored.length = q.size := ring.count
    rw [FrameQueue.store_queue, ring.windex_eq, ← counted]
    exact ring.window.append (by omega) x
  blank := by
    have counted : stored.length = q.size := ring.count
    rw [FrameQueue.store_queue, ring.windex_eq, ← counted, List.length_append]
    exact ring.blank.append x
  showIndex_le := ring.showIndex_le
  shown := by
    rw [List.length_append]
    exact Nat.le_add_right_of_le ring.shown
  keeping := ring.keeping

/-- **`pushFrame`** counts the frame that was written. -/
theorem pushFrame (ring : Ring q stored 1) : Ring q.pushFrame stored 0 where
  rindex_lt := ring.rindex_lt
  windex_eq := by
    show (if q.windex + 1 = q.maxSize then 0 else q.windex + 1) = _
    rw [wrap_succ ring.windex_lt, ring.windex_eq, Nat.mod_add_mod]
    rfl
  count := ring.count
  window := ring.window
  blank := ring.blank
  showIndex_le := ring.showIndex_le
  shown := ring.shown
  keeping := ring.keeping

/-- **`popFrame` on its keep-last branch** only moves past the head. -/
theorem popFrame_keep (ring : Ring q stored ahead) (keep : q.keepLast = true ∧ q.showIndex = 0)
    (nonempty : stored ≠ []) : Ring q.popFrame stored ahead := by
  rw [FrameQueue.popFrame_of_keep keep]
  exact ⟨ring.rindex_lt, ring.windex_eq, ring.count, ring.window, ring.blank, Nat.le_refl 1,
    List.length_pos_iff.mpr nonempty, fun off => absurd off (by simp [keep.1])⟩

/-- **`popFrame` past its keep-last branch** clears the head and gives its place back. -/
theorem popFrame_clear {x : XData} {rest : List XData} (ring : Ring q (x :: rest) ahead)
    (past : ¬(q.keepLast = true ∧ q.showIndex = 0)) (counted : 0 < q.size)
    (more : q.showIndex ≤ rest.length) : Ring q.popFrame rest ahead := by
  have turn := wrap_succ ring.rindex_lt
  have left : rest.length + 1 = q.size + ahead := ring.count
  have behind : q.rindex + q.size = q.rindex + 1 + (q.size - 1) := by omega
  rw [FrameQueue.popFrame_of_clear past]
  simp only [if_pos counted, turn]
  exact ⟨Nat.mod_lt _ ring.maxSize_pos,
    by simp only [ring.windex_eq, Nat.mod_add_mod, behind],
    by simp only; omega,
    ring.window.clear_head ring.rindex_lt _,
    ring.blank.clear_head ring.rindex_lt (unrefFrame_size _), ring.showIndex_le, more,
    ring.keeping⟩

/-- Offset `i` of the stored frames, read through the ring. -/
theorem read (ring : Ring q stored ahead) {i : Nat} {x : XData} (here : stored[i]? = some x) :
    q.queue ((q.rindex + i) % q.maxSize) = x := ring.window.holds i x here

/-- The slot the producer is granted holds no counted frame. -/
theorem windex_ne (ring : Ring q stored ahead) (room : q.size < q.maxSize) {i : Nat}
    (inside : i < q.size) : (q.rindex + i) % q.maxSize ≠ q.windex := by
  rw [ring.windex_eq]
  exact slot_ne (Nat.lt_trans inside room) room (Nat.ne_of_lt inside)

end Ring

/-! ### A queue between its two threads -/

/-- **A `keep_last` queue shared by a decoder and a `MediaSync2` thread**: the decoder has filled
`ahead` frames it has not pushed, and the consumer, when it is `Bound` to pop, has an unshown frame
to pop. -/
structure Shared (q : FrameQueue) (stored : List XData) (ahead : Nat) (Bound : Prop) : Prop where
  ring : Ring q stored ahead
  keepLast : q.keepLast = true
  two : 2 ≤ q.maxSize
  ahead_le : ahead ≤ 1
  bound : Bound → q.showIndex < stored.length

namespace Shared

variable {q : FrameQueue} {stored : List XData} {ahead : Nat} {Bound : Prop}

theorem new {maxSize : Nat} (two : 2 ≤ maxSize) :
    Shared (FrameQueue.new maxSize true).start [] 0 False where
  ring := (Ring.new (Nat.lt_of_lt_of_le Nat.zero_lt_two two) true).start
  keepLast := rfl
  two := Nat.le_min.mpr ⟨two, (by decide : 2 ≤ 10)⟩
  ahead_le := Nat.zero_le 1
  bound never := never.elim

theorem imp (shared : Shared q stored ahead Bound) {Bound' : Prop} (weaker : Bound' → Bound) :
    Shared q stored ahead Bound' :=
  ⟨shared.ring, shared.keepLast, shared.two, shared.ahead_le, fun bound => shared.bound (weaker bound)⟩

/-- **Filling the granted slot** shows the frame before it is counted. -/
theorem fill (shared : Shared q stored 0 Bound) (room : q.size < q.maxSize) (x : XData) :
    Shared (q.store q.windex x) (stored ++ [x]) 1 Bound where
  ring := shared.ring.store room x
  keepLast := shared.keepLast
  two := shared.two
  ahead_le := Nat.le_refl 1
  bound bound := by
    rw [List.length_append]
    exact Nat.lt_add_right _ (shared.bound bound)

/-- The filled frame is the last unshown one. -/
theorem drop_fill (shared : Shared q stored ahead Bound) (x : XData) :
    (stored ++ [x]).drop q.showIndex = stored.drop q.showIndex ++ [x] :=
  List.drop_append_of_le_length shared.ring.shown

theorem push (shared : Shared q stored 1 Bound) : Shared q.pushFrame stored 0 Bound :=
  ⟨shared.ring.pushFrame, shared.keepLast, shared.two, Nat.zero_le 1, shared.bound⟩

/-- **What the consumer sees**: the first unshown frame, or a blank slot when there is none. -/
theorem current (shared : Shared q stored ahead Bound) :
    (∃ x rest, stored.drop q.showIndex = x :: rest ∧ q.currentFrame = x) ∨
      stored.drop q.showIndex = [] ∧ Blank q.currentFrame := by
  have one := shared.ring.showIndex_le
  have two := shared.two
  cases unshown : stored.drop q.showIndex with
  | nil =>
    have last : stored.length ≤ q.showIndex := List.drop_eq_nil_iff.mp unshown
    exact Or.inr ⟨rfl, shared.ring.blank q.showIndex last (by omega)⟩
  | cons x rest =>
    have here : stored[q.showIndex]? = some x := by
      rw [← List.head?_drop, unshown]
      rfl
    exact Or.inl ⟨x, rest, rfl, shared.ring.read here⟩

/-- A frame the consumer saw is there for it to pop. -/
theorem see (shared : Shared q stored ahead Bound) (saw : q.currentFrame.size ≠ 0) {Bound' : Prop} :
    Shared q stored ahead Bound' := by
  refine ⟨shared.ring, shared.keepLast, shared.two, shared.ahead_le, fun _ => ?_⟩
  rcases shared.current with ⟨x, rest, unshown, -⟩ | ⟨-, blank⟩
  · exact List.length_lt_of_drop_ne_nil (by rw [unshown]; exact List.cons_ne_nil x rest)
  · exact absurd blank saw

theorem showIndex_cases (shared : Shared q stored ahead Bound) :
    q.showIndex = 0 ∨ q.showIndex = 1 := by
  have one := shared.ring.showIndex_le
  omega

/-- **A `popFrame` past its keep-last branch finds a counted frame**: behind the kept frame there is
the one that was seen, and at most one frame is not counted. -/
theorem counted (shared : Shared q stored ahead Bound) (bound : Bound) (past : q.showIndex ≠ 0) :
    0 < q.size := by
  have count := shared.ring.count
  have least := shared.bound bound
  have atMost := shared.ahead_le
  omega

theorem popFrame_showIndex (shared : Shared q stored ahead Bound) :
    q.popFrame.showIndex = 1 := by
  rcases shared.showIndex_cases with first | later
  · rw [FrameQueue.popFrame_of_keep ⟨shared.keepLast, first⟩]
  · rw [FrameQueue.popFrame_of_clear (fun keep => by omega)]
    exact later

/-- The first `popFrame` gives no place back. -/
theorem popFrame_size_first (shared : Shared q stored ahead Bound) (first : q.showIndex = 0) :
    q.popFrame.size = q.size := by
  rw [FrameQueue.popFrame_of_keep ⟨shared.keepLast, first⟩]

/-- Every later `popFrame` gives one place back. -/
theorem popFrame_size_later (shared : Shared q stored ahead Bound) (bound : Bound)
    (past : q.showIndex ≠ 0) : q.popFrame.size + 1 = q.size := by
  have counted := shared.counted bound past
  rw [FrameQueue.popFrame_of_clear (fun keep => past keep.2)]
  simp only [if_pos counted]
  omega

theorem popFrame_size_le (shared : Shared q stored ahead Bound) (bound : Bound) :
    q.popFrame.size ≤ q.size := by
  by_cases first : q.showIndex = 0
  · exact Nat.le_of_eq (shared.popFrame_size_first first)
  · have later := shared.popFrame_size_later bound first
    omega

/-- **`popFrame` takes the first unshown frame.** -/
theorem pop (shared : Shared q stored ahead Bound) (bound : Bound) :
    ∃ x rest stored', stored.drop q.showIndex = x :: rest ∧ Shared q.popFrame stored' ahead False ∧
      stored'.drop q.popFrame.showIndex = rest := by
  have least := shared.bound bound
  have two : 2 ≤ q.popFrame.maxSize := (FrameQueue.popFrame_maxSize q).symm ▸ shared.two
  have keepLast := (FrameQueue.popFrame_keepLast q).trans shared.keepLast
  rw [shared.popFrame_showIndex]
  rcases shared.showIndex_cases with first | later
  · have keep : q.keepLast = true ∧ q.showIndex = 0 := ⟨shared.keepLast, first⟩
    cases stored with
    | nil => exact absurd least (Nat.not_lt_zero _)
    | cons x rest =>
      refine ⟨x, rest, x :: rest, by rw [first]; rfl, ?_, rfl⟩
      exact ⟨shared.ring.popFrame_keep keep (List.cons_ne_nil x rest), keepLast, two,
        shared.ahead_le, fun never => never.elim⟩
  · have past : ¬(q.keepLast = true ∧ q.showIndex = 0) := fun keep => by omega
    rw [later] at least ⊢
    match stored, least, shared with
    | y :: x :: rest, _, shared =>
      have counted := shared.counted bound (by omega)
      refine ⟨x, rest, x :: rest, rfl, ?_, rfl⟩
      exact ⟨shared.ring.popFrame_clear past counted (by rw [later]; exact Nat.le_add_left 1 _),
        keepLast, two, shared.ahead_le, fun never => never.elim⟩

end Shared

end Xplay
