/-
**`FrameQueue` is a bounded FIFO with a kept last frame.**

Every sequence of `pushFrame` and `popFrame` calls runs the ring and the abstract `KeptFifo` in
lockstep: one enables a call exactly when the other does, and after it the ring presents the
abstract state (`Presents`). The frames stored from `rindex` on are the kept one and the unshown
ones, `showIndex` is the number of kept ones.
-/

import Xplay.Lib.KeptFifo
import Xplay.Queue.FrameQueue

namespace Xplay.FrameQueue

open Lib

/-- A queue, and the frames `unrefFrame` was called on so far. -/
structure Traced where
  queue : FrameQueue
  cleared : List XData

namespace Traced

def new (maxSize : Nat) (keepLast : Bool) : Traced := ⟨FrameQueue.new maxSize keepLast, []⟩

/-- `pushFrame` once the new frame is in the slot at `windex`. -/
def push (t : Traced) (x : XData) : Traced :=
  { t with queue := (t.queue.store t.queue.windex x).pushFrame }

/-- `popFrame`. -/
def pop (t : Traced) : Traced where
  queue := t.queue.popFrame
  cleared := t.cleared ++ (t.queue.clears.map t.queue.queue).toList

/-- The calls: `pushFrame` when `size < max_size`, `popFrame` when `getFrameSize() > 0`. -/
def system : System Traced (KeptFifo.Call XData) where
  next t
    | .push x => if t.queue.size < t.queue.maxSize then some (t.push x) else none
    | .pop => if 0 < t.queue.getFrameSize then some t.pop else none

end Traced

/-- The ring stores the kept frame and then the unshown ones. -/
structure Holds (capacity : Nat) (t : Traced) (a : KeptFifo XData) : Prop where
  ring : Ring t.queue a.stored 0
  showIndex : t.queue.showIndex = a.kept.toList.length
  keepLast : t.queue.keepLast = a.keepLast
  keepless : a.keepLast = false → a.kept = none
  cleared : t.cleared = a.cleared
  maxSize : t.queue.maxSize = capacity

/-- **What the queue presents of the abstract state.** -/
structure Presents (t : Traced) (a : KeptFifo XData) : Prop where
  /-- `getFrameSize` counts the unshown frames. -/
  frameSize : t.queue.getFrameSize = a.unshown.length
  current : ∀ x, a.unshown[0]? = some x → t.queue.currentFrame = x
  next : ∀ x, a.unshown[1]? = some x → t.queue.nextFrame = x
  last : ∀ x, a.kept = some x → t.queue.lastFrame = x
  /-- Every kept or unshown frame is whole in its own slot. -/
  held : ∀ i x, a.stored[i]? = some x →
    t.queue.queue ((t.queue.rindex + i) % t.queue.maxSize) = x
  /-- The slot the next frame is written into is none of theirs. -/
  overwritesNone : t.queue.size < t.queue.maxSize → ∀ i < a.stored.length,
    (t.queue.rindex + i) % t.queue.maxSize ≠ t.queue.windex
  /-- `popFrame` clears the slot of the kept frame, without `keepLast` that of the head. -/
  clearsFirst : ∀ k, t.queue.clears = some k → ∀ i < a.stored.length, i ≠ 0 →
    (t.queue.rindex + i) % t.queue.maxSize ≠ k
  cleared : t.cleared = a.cleared

namespace Holds

variable {capacity : Nat} {t : Traced} {a : KeptFifo XData}

theorem new {maxSize : Nat} (positive : 0 < maxSize) (keepLast : Bool) :
    Holds (min maxSize FRAME_QUEUE_SIZE) (Traced.new maxSize keepLast) (KeptFifo.new keepLast) :=
  ⟨Ring.new positive keepLast, rfl, rfl, fun _ => rfl, rfl, rfl⟩

/-- The two guards count the same frames. -/
theorem size_eq (holds : Holds capacity t a) : t.queue.size = a.stored.length :=
  holds.ring.count.symm

theorem frameSize (holds : Holds capacity t a) : t.queue.getFrameSize = a.unshown.length := by
  have count : t.queue.size = a.kept.toList.length + a.unshown.length :=
    holds.size_eq.trans List.length_append
  rw [FrameQueue.getFrameSize, holds.showIndex]
  omega

/-- Frame `i` of the unshown ones, read through the ring. -/
theorem read_unshown (holds : Holds capacity t a) {i : Nat} {x : XData}
    (here : a.unshown[i]? = some x) :
    t.queue.queue ((t.queue.rindex + (t.queue.showIndex + i)) % t.queue.maxSize) = x := by
  refine holds.ring.read ?_
  rw [holds.showIndex, KeptFifo.stored, List.getElem?_append_right (Nat.le_add_right _ i),
    Nat.add_sub_cancel_left]
  exact here

theorem presents (holds : Holds capacity t a) : Presents t a where
  frameSize := holds.frameSize
  current x here := holds.read_unshown here
  next x here := holds.read_unshown here
  last x here := by
    have ring := holds.ring
    rw [KeptFifo.stored, here] at ring
    exact ring.window.head ring.rindex_lt
  held i x here := holds.ring.read here
  overwritesNone room i inside := holds.ring.windex_ne room (holds.size_eq ▸ inside)
  clearsFirst k clears i inside later := by
    have same : k = t.queue.rindex := by
      unfold FrameQueue.clears at clears
      split at clears
      · cases clears
      · exact (Option.some.inj clears).symm
    have below : i < t.queue.maxSize := Nat.lt_of_lt_of_le inside holds.ring.window.fits
    have apart : (t.queue.rindex + i) % t.queue.maxSize ≠ (t.queue.rindex + 0) % t.queue.maxSize :=
      slot_ne below holds.ring.maxSize_pos later
    rw [same]
    rwa [Nat.add_zero, Nat.mod_eq_of_lt holds.ring.rindex_lt] at apart
  cleared := holds.cleared

/-- **`pushFrame` appends.** -/
theorem push (holds : Holds capacity t a) (room : t.queue.size < t.queue.maxSize) (x : XData) :
    Holds capacity (t.push x) (a.push x) where
  ring := by
    have stored : (a.push x).stored = a.stored ++ [x] := (List.append_assoc _ _ _).symm
    rw [stored]
    exact (holds.ring.store room x).pushFrame
  showIndex := holds.showIndex
  keepLast := holds.keepLast
  keepless := holds.keepless
  cleared := holds.cleared
  maxSize := holds.maxSize

/-- The first `popFrame` with `keepLast`: the head becomes the kept frame. -/
theorem pop_first {x : XData} {rest : List XData} (holds : Holds capacity t a)
    (front : a.unshown = x :: rest) (keeps : a.keepLast = true) (nothing : a.kept = none) :
    Holds capacity t.pop (a.advance x rest) := by
  have stored : a.stored = x :: rest := by rw [KeptFifo.stored, nothing, front]; rfl
  have keep : t.queue.keepLast = true ∧ t.queue.showIndex = 0 :=
    ⟨holds.keepLast.trans keeps, by rw [holds.showIndex, nothing]; rfl⟩
  have after : a.advance x rest = { a with unshown := rest, kept := some x } := by
    simp [KeptFifo.advance, keeps, nothing]
  have ring := holds.ring.popFrame_keep keep (by rw [stored]; exact List.cons_ne_nil x rest)
  rw [after]
  refine ⟨?_, ?_, ?_, fun off => absurd off (by simp [keeps]), ?_, ?_⟩
  · rw [stored] at ring
    exact ring
  · show t.queue.popFrame.showIndex = 1
    rw [popFrame_of_keep keep]
  · exact (popFrame_keepLast t.queue).trans holds.keepLast
  · show t.cleared ++ (t.queue.clears.map t.queue.queue).toList = a.cleared
    rw [clears_of_keep keep, holds.cleared]
    exact List.append_nil _
  · exact (popFrame_maxSize t.queue).trans holds.maxSize

/-- Every later `popFrame` clears the first stored frame `y`. -/
theorem pop_later {x : XData} {rest : List XData} (holds : Holds capacity t a) (y : XData)
    (left : List XData) (first : a.stored = y :: left)
    (past : ¬(t.queue.keepLast = true ∧ t.queue.showIndex = 0))
    (after : (a.advance x rest).stored = left)
    (shown : t.queue.showIndex = (a.advance x rest).kept.toList.length)
    (cleared : (a.advance x rest).cleared = a.cleared ++ [y])
    (keepless : (a.advance x rest).keepLast = false → (a.advance x rest).kept = none)
    (keepLast : (a.advance x rest).keepLast = a.keepLast) :
    Holds capacity t.pop (a.advance x rest) := by
  have ring := holds.ring
  rw [first] at ring
  have counted : 0 < t.queue.size := by
    rw [holds.size_eq, first]
    exact Nat.zero_lt_succ _
  have more : t.queue.showIndex ≤ left.length := by
    rw [shown, ← after, KeptFifo.stored, List.length_append]
    exact Nat.le_add_right _ _
  refine ⟨?_, ?_, ?_, keepless, ?_, ?_⟩
  · rw [after]
    exact ring.popFrame_clear past counted more
  · show t.queue.popFrame.showIndex = _
    rw [popFrame_of_clear past]
    exact shown
  · exact (popFrame_keepLast t.queue).trans (holds.keepLast.trans keepLast.symm)
  · show t.cleared ++ (t.queue.clears.map t.queue.queue).toList = _
    have head : t.queue.queue t.queue.rindex = y := ring.window.head ring.rindex_lt
    rw [clears_of_clear past, holds.cleared, cleared, Option.map_some, head]
    rfl
  · exact (popFrame_maxSize t.queue).trans holds.maxSize

/-- **`popFrame` shows the head**, and clears what stops being kept. -/
theorem pop {x : XData} {rest : List XData} (holds : Holds capacity t a)
    (front : a.unshown = x :: rest) : Holds capacity t.pop (a.advance x rest) := by
  cases keeps : a.keepLast with
  | false =>
    have nothing : a.kept = none := holds.keepless keeps
    have off : t.queue.keepLast = false := holds.keepLast.trans keeps
    refine holds.pop_later x rest ?_ (by simp [off]) ?_ ?_ ?_ ?_ ?_ <;>
      simp [KeptFifo.advance, KeptFifo.stored, keeps, nothing, front, holds.showIndex]
  | true =>
    cases former : a.kept with
    | none => exact holds.pop_first front keeps former
    | some y =>
      refine holds.pop_later y (x :: rest) ?_ ?_ ?_ ?_ ?_ ?_ ?_ <;>
        simp [KeptFifo.advance, KeptFifo.stored, keeps, former, front, holds.showIndex]

end Holds

/-- **The step lemma**: the ring and the abstract queue enable the same calls, and the calls keep
them together. -/
theorem holds_next {capacity : Nat} {t : Traced} {a : KeptFifo XData}
    (call : KeptFifo.Call XData) (holds : Holds capacity t a) :
    Option.Rel (Holds capacity) (Traced.system.next t call)
      ((KeptFifo.system XData capacity).next a call) := by
  cases call with
  | push x =>
    have guards : t.queue.size < t.queue.maxSize ↔ a.stored.length < capacity := by
      rw [holds.size_eq, holds.maxSize]
    by_cases room : t.queue.size < t.queue.maxSize
    · simp only [Traced.system, KeptFifo.system, if_pos room, if_pos (guards.mp room)]
      exact Option.Rel.some (holds.push room x)
    · simp only [Traced.system, KeptFifo.system, if_neg room, if_neg (mt guards.mpr room)]
      exact Option.Rel.none
  | pop =>
    have frameSize := holds.frameSize
    cases front : a.unshown with
    | nil =>
      have none : ¬0 < t.queue.getFrameSize := by simp [frameSize, front]
      simp only [Traced.system, KeptFifo.system, if_neg none, front]
      exact Option.Rel.none
    | cons x rest =>
      have some : 0 < t.queue.getFrameSize := by
        rw [frameSize, front, List.length_cons]
        omega
      simp only [Traced.system, KeptFifo.system, if_pos some, front]
      exact Option.Rel.some (holds.pop front)

/-! ### What is cleared -/

/-- `popFrame` calls `unrefFrame` on the slot that `clears` names. -/
theorem popFrame_unrefs {q : FrameQueue} {k : Nat} (clears : q.clears = some k) :
    q.popFrame.queue k = unrefFrame (q.queue k) := by
  by_cases keep : q.keepLast = true ∧ q.showIndex = 0
  · rw [clears_of_keep keep] at clears
    cases clears
  · rw [clears_of_clear keep] at clears
    cases clears
    rw [popFrame_of_clear keep]
    exact Function.update_self ..

/-- Every other slot it leaves as it is. -/
theorem popFrame_leaves {q : FrameQueue} {k : Nat} (other : q.clears ≠ some k) :
    q.popFrame.queue k = q.queue k := by
  by_cases keep : q.keepLast = true ∧ q.showIndex = 0
  · rw [popFrame_of_keep keep]
  · rw [clears_of_clear keep] at other
    rw [popFrame_of_clear keep]
    exact Function.update_of_ne (fun same => other (congrArg some same.symm)) _ _

/-! ### The main result -/

/-- A queue constructed with these arguments is a bounded FIFO with a kept last frame:

* in every sequence of calls the ring and the abstract queue are in lockstep, and the ring presents
  the abstract state;
* every frame pushed is cleared once, or kept, or unshown, in the order of the pushes;
* a frame that is logged as cleared is one on whose slot `popFrame` calls `unrefFrame`, and no call
  changes any other slot but the one a new frame is written into. -/
structure RefinesKeptFifo (maxSize : Nat) (keepLast : Bool) : Prop where
  lockstep : ∀ calls, Option.Rel Presents (Traced.system.run (Traced.new maxSize keepLast) calls)
    ((KeptFifo.system XData (min maxSize FRAME_QUEUE_SIZE)).run (KeptFifo.new keepLast) calls)
  once : ∀ calls a,
    (KeptFifo.system XData (min maxSize FRAME_QUEUE_SIZE)).run (KeptFifo.new keepLast) calls
        = some a →
      a.cleared ++ a.stored = calls.flatMap KeptFifo.Call.added
  unrefs : ∀ (t : Traced) k, t.queue.clears = some k →
    t.pop.queue.queue k = unrefFrame (t.queue.queue k) ∧
      t.pop.cleared = t.cleared ++ [t.queue.queue k]
  leaves : ∀ (t : Traced) k, t.queue.clears ≠ some k → t.pop.queue.queue k = t.queue.queue k
  writes : ∀ (t : Traced) x k, k ≠ t.queue.windex →
    (t.push x).queue.queue k = t.queue.queue k ∧ (t.push x).cleared = t.cleared

/-- **`FrameQueue` refines a bounded FIFO with a kept last frame**, for every size and either
`keep_last`. -/
theorem frameQueue_refinesKeptFifo (maxSize : Nat) (positive : 1 ≤ maxSize) (keepLast : Bool) :
    RefinesKeptFifo maxSize keepLast where
  lockstep calls :=
    System.rel_imp (fun _ _ holds => holds.presents)
      (System.run_rel (fun _ _ call holds => holds_next call holds) calls
        (Holds.new positive keepLast))
  once _ _ run := KeptFifo.run_pushes run
  unrefs t k clears := by
    refine ⟨popFrame_unrefs clears, ?_⟩
    show t.cleared ++ (t.queue.clears.map t.queue.queue).toList = t.cleared ++ [t.queue.queue k]
    rw [clears]
    rfl
  leaves _ _ other := popFrame_leaves other
  writes _ _ _ other := ⟨Function.update_of_ne other _ _, rfl⟩

/-- The queues of the decoders. -/
theorem decoder_frameQueue_refinesKeptFifo : RefinesKeptFifo FRAME_QUEUE_SIZE true :=
  frameQueue_refinesKeptFifo FRAME_QUEUE_SIZE (by decide) true

end Xplay.FrameQueue
