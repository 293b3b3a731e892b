/-
**`FrameQueue::flush` ends from every state whose `getFrameSize` does not overflow.**

The loop `while (getFrameSize() > 0) popFrame()` decides on the counters only, so it is followed on
`FrameCounts`, where `size` is any `int`; a `FrameQueue` is flushed as its counters are (`counts`).

`flush_ends`: whether the counters fit each other or not, every round takes one from
`getFrameSize`, by moving `showIndex` or by lowering `size`. With the least `int` as `size` and
`showIndex` 1 the difference wraps round to a positive one that no round lowers (`flush_endless`).
-/

import Xplay.Lib.Loop
import Xplay.Queue.FrameQueue
import Mathlib.Algebra.Order.Group.Int

namespace Xplay

open Lib

/-- The members of a `FrameQueue` that `flush` reads and writes, apart from the slots. -/
structure FrameCounts where
  rindex : Nat
  size : Int32
  maxSize : Nat
  keepLast : Bool
  showIndex : Nat

namespace FrameCounts

/-- `FrameQueue::getFrameSize`; the difference of two `int`s wraps round. -/
def getFrameSize (c : FrameCounts) : Int32 := c.size - Int32.ofNat c.showIndex

/-- `FrameQueue::popFrame`. -/
def popFrame (c : FrameCounts) : FrameCounts :=
  if c.keepLast = true ∧ c.showIndex = 0 then { c with showIndex := 1 }
  else
    { c with
      rindex := if c.rindex + 1 = c.maxSize then 0 else c.rindex + 1
      size := if 0 < c.size then c.size - 1 else c.size }

/-- `FrameQueue::flush`: the number of its rounds, and the counters it leaves. -/
def Flushes : FrameCounts → Nat → FrameCounts → Prop :=
  Loops (fun c => decide (0 < c.getFrameSize)) popFrame

/-- **The difference of `getFrameSize` is an `int`**: it is not one less than the least. -/
def Fits (c : FrameCounts) : Prop := c.showIndex = 1 → c.size ≠ Int32.minValue

/-- The keep-last branch moves only `showIndex`. -/
theorem popFrame_of_keep {c : FrameCounts} (keep : c.keepLast = true ∧ c.showIndex = 0) :
    c.popFrame = { c with showIndex := 1 } := if_pos keep

/-- Past the keep-last branch, while a frame is counted. -/
theorem popFrame_of_clear {c : FrameCounts} (past : ¬(c.keepLast = true ∧ c.showIndex = 0))
    (counted : 0 < c.size) :
    c.popFrame =
      { c with
        rindex := if c.rindex + 1 = c.maxSize then 0 else c.rindex + 1
        size := c.size - 1 } := by
  rw [popFrame, if_neg past, if_pos counted]

/-! ### The counters as integers -/

theorem pos_iff (x : Int32) : 0 < x ↔ 0 < x.toInt := Int32.lt_iff_toInt_lt

/-- What is above the least `int` has room for one below. -/
theorem toInt_sub_one {x : Int32} (above : -2 ^ 31 < x.toInt) : (x - 1).toInt = x.toInt - 1 := by
  have most := x.toInt_lt
  rw [Int32.toInt_sub, Int32.toInt_one]
  exact Int.bmod_eq_of_le (by omega) (by omega)

/-- **`getFrameSize` where it fits.** -/
theorem getFrameSize_toInt {c : FrameCounts} (shows : c.showIndex ≤ 1) (fits : c.Fits) :
    c.getFrameSize.toInt = c.size.toInt - c.showIndex := by
  unfold getFrameSize
  obtain none | kept : c.showIndex = 0 ∨ c.showIndex = 1 := by omega
  · rw [none]
    show (c.size - 0).toInt = c.size.toInt - 0
    rw [Int32.sub_zero, sub_zero]
  · have least : c.size.toInt ≠ -2 ^ 31 := fun same => fits kept (Int32.toInt_inj.mp same)
    have lowest := c.size.le_toInt
    rw [kept]
    exact toInt_sub_one (by omega)

/-- A frame that is to be shown is counted. -/
theorem counted_of_frames {c : FrameCounts} (shows : c.showIndex ≤ 1) (fits : c.Fits)
    (frames : 0 < c.getFrameSize) : 0 < c.size.toInt := by
  rw [pos_iff, getFrameSize_toInt shows fits] at frames
  omega

theorem fits_of_counted {c : FrameCounts} (counted : 0 ≤ c.size.toInt) : c.Fits := by
  intro _ least
  rw [least, Int32.toInt_minValue] at counted
  omega

/-- **One round takes one from `getFrameSize`.** -/
theorem popFrame_getFrameSize {c : FrameCounts} (shows : c.showIndex ≤ 1) (fits : c.Fits)
    (frames : 0 < c.getFrameSize) :
    c.popFrame.Fits ∧ c.popFrame.showIndex ≤ 1 ∧
      c.popFrame.getFrameSize.toInt = c.getFrameSize.toInt - 1 := by
  have counted := counted_of_frames shows fits frames
  rw [getFrameSize_toInt shows fits]
  by_cases keep : c.keepLast = true ∧ c.showIndex = 0
  · rw [popFrame_of_keep keep]
    have fits' : ({ c with showIndex := 1 } : FrameCounts).Fits := fits_of_counted counted.le
    refine ⟨fits', Nat.le_refl 1, ?_⟩
    rw [getFrameSize_toInt (Nat.le_refl 1) fits', keep.2]
    simp
  · rw [popFrame_of_clear keep ((pos_iff c.size).mpr counted)]
    have less : (c.size - 1).toInt = c.size.toInt - 1 := toInt_sub_one (by omega)
    have fits' : ({ c with
        rindex := if c.rindex + 1 = c.maxSize then 0 else c.rindex + 1
        size := c.size - 1 } : FrameCounts).Fits :=
      fits_of_counted (by show 0 ≤ (c.size - 1).toInt; omega)
    refine ⟨fits', shows, (getFrameSize_toInt (by exact shows) fits').trans ?_⟩
    show (c.size - 1).toInt - c.showIndex = _
    omega

/-- What the rounds of a `flush` from `start` keep. -/
structure Flushing (start c : FrameCounts) : Prop where
  rindex_lt : c.rindex < c.maxSize
  keepLast : c.keepLast = start.keepLast
  showIndex_le : c.showIndex ≤ 1
  fits : c.Fits
  changed : c = start ∨ 0 ≤ c.getFrameSize.toInt ∧ (start.keepLast = true → c.showIndex = 1)

/-- **The step lemma.** -/
theorem Flushing.popFrame {start c : FrameCounts} (flushing : Flushing start c)
    (frames : 0 < c.getFrameSize) : Flushing start c.popFrame := by
  have shows := flushing.showIndex_le
  obtain ⟨fits, shows', less⟩ := popFrame_getFrameSize shows flushing.fits frames
  have inside := flushing.rindex_lt
  have positive := (pos_iff _).mp frames
  have counted := (pos_iff c.size).mpr (counted_of_frames shows flushing.fits frames)
  by_cases keep : c.keepLast = true ∧ c.showIndex = 0
  · rw [popFrame_of_keep keep] at fits less ⊢
    exact ⟨inside, flushing.keepLast, Nat.le_refl 1, fits, Or.inr ⟨by omega, fun _ => rfl⟩⟩
  · rw [popFrame_of_clear keep counted] at fits less ⊢
    refine ⟨?_, flushing.keepLast, shows, fits, Or.inr ⟨by omega, fun keepLast => ?_⟩⟩
    · show (if c.rindex + 1 = c.maxSize then 0 else c.rindex + 1) < c.maxSize
      split_ifs <;> omega
    · have past : c.showIndex ≠ 0 := fun zero => keep ⟨flushing.keepLast.trans keepLast, zero⟩
      show c.showIndex = 1
      omega

/-- **The run lemma**: the loop is left, after as many rounds as there are frames to show. -/
theorem flushes {c : FrameCounts} (inside : c.rindex < c.maxSize) (shows : c.showIndex ≤ 1)
    (fits : c.Fits) : ∃ t, c.Flushes c.getFrameSize.toInt.toNat t ∧ Flushing c t := by
  refine Loops.countdown (Flushing c) (fun c => c.getFrameSize.toInt.toNat) (fun s _ => ?_)
    (fun s flushing test => ?_) ⟨inside, rfl, shows, fits, Or.inl rfl⟩
  · rw [decide_eq_decide, pos_iff]
    omega
  · have frames : 0 < s.getFrameSize := of_decide_eq_true test
    obtain ⟨-, -, less⟩ := popFrame_getFrameSize flushing.showIndex_le flushing.fits frames
    have positive := (pos_iff _).mp frames
    exact ⟨flushing.popFrame frames, by simp only [less]; omega⟩

/-- Where the loop is left there is no frame to show. -/
theorem Flushes.getFrameSize_le {c t : FrameCounts} {n : Nat} (flushes : c.Flushes n t) :
    t.getFrameSize.toInt ≤ 0 :=
  Int.not_lt.mp fun frames => of_decide_eq_false flushes.out ((pos_iff _).mpr frames)

/-- **`flush` ends after `max 0 (size - showIndex)` rounds**, and where it ends. -/
theorem flush_ends (c : FrameCounts) (inside : c.rindex < c.maxSize) (shows : c.showIndex ≤ 1)
    (fits : c.Fits) :
    ∃ t, c.Flushes (max 0 (c.size.toInt - c.showIndex)).toNat t ∧
      (∀ n u, c.Flushes n u → n = (max 0 (c.size.toInt - c.showIndex)).toNat ∧ u = t) ∧
      t.getFrameSize.toInt = min 0 c.getFrameSize.toInt ∧ t.rindex < t.maxSize ∧
      (c.keepLast = true → (c.showIndex : Int) < c.size.toInt → t.size = 1 ∧ t.showIndex = 1) := by
  obtain ⟨t, ends, flushing⟩ := flushes inside shows fits
  have began := getFrameSize_toInt shows fits
  have ended := getFrameSize_toInt flushing.showIndex_le flushing.fits
  have rounds : (max 0 (c.size.toInt - c.showIndex)).toNat = c.getFrameSize.toInt.toNat := by omega
  have most := ends.getFrameSize_le
  rw [rounds]
  refine ⟨t, ends, fun n u other => ?_, ?_, flushing.rindex_lt, fun keepLast frames => ?_⟩
  · obtain ⟨same, left⟩ := other.unique ends
    exact ⟨same, left⟩
  · obtain rfl | ⟨least, -⟩ := flushing.changed
    · omega
    · have nonneg : 0 ≤ c.getFrameSize.toInt := by
        by_contra negative
        have none : c.getFrameSize.toInt.toNat = 0 := by omega
        rw [none] at ends
        cases ends
        omega
      omega
  · have moved : t ≠ c := by
      rintro rfl
      omega
    obtain ⟨least, shown⟩ := flushing.changed.resolve_left moved
    have last := shown keepLast
    refine ⟨Int32.toInt_inj.mp ?_, last⟩
    rw [Int32.toInt_one]
    omega

/-- Three frames in the ring behind a kept one. -/
theorem flush_ends_kept :
    ∃ t, FrameCounts.Flushes ⟨2, 3, 10, true, 0⟩ 3 t ∧ t.size = 1 ∧ t.showIndex = 1 := by
  obtain ⟨t, ends, -, -, -, last⟩ :=
    flush_ends ⟨2, 3, 10, true, 0⟩ (by decide) (by decide) (by unfold Fits; decide)
  exact ⟨t, ends, last rfl (by decide)⟩

/-- **From the least `int` the difference wraps round**: it is positive, and no round changes
`size`. -/
theorem endless_of_least {c : FrameCounts} (least : c.size = Int32.minValue)
    (kept : c.showIndex = 1) (n : Nat) (t : FrameCounts) : ¬c.Flushes n t := by
  refine Loops.endless (fun s => s.size = Int32.minValue ∧ s.showIndex = 1) ?_ ⟨least, kept⟩
  rintro s ⟨least, kept⟩
  have past : ¬(s.keepLast = true ∧ s.showIndex = 0) := by omega
  refine ⟨?_, ?_⟩
  · simp only [getFrameSize, least, kept]
    decide
  · rw [popFrame, if_neg past]
    refine ⟨?_, kept⟩
    show (if 0 < s.size then s.size - 1 else s.size) = _
    rw [least]
    decide

/-- A queue of ten slots whose `size` is the least `int`, past its kept frame. -/
theorem flush_endless :
    ¬∃ n t, FrameCounts.Flushes ⟨0, Int32.minValue, 10, false, 1⟩ n t := by
  rintro ⟨n, t, flushes⟩
  exact endless_of_least rfl rfl n t flushes

end FrameCounts

namespace FrameQueue

/-- The counters of a queue. -/
def counts (q : FrameQueue) : FrameCounts :=
  ⟨q.rindex, Int32.ofNat q.size, q.maxSize, q.keepLast, q.showIndex⟩

/-- `FrameQueue::flush`, on the queue with its slots. -/
def Flushes : FrameQueue → Nat → FrameQueue → Prop :=
  Loops (fun q => decide (0 < q.getFrameSize)) popFrame

/-- The `size` of a queue is an `int`, and `showIndex` a flag. -/
structure Counted (q : FrameQueue) : Prop where
  size_lt : q.size < 2 ^ 31
  showIndex_le : q.showIndex ≤ 1

variable {q : FrameQueue}

theorem Counted.size_toInt (counted : q.Counted) : q.counts.size.toInt = q.size :=
  Int32.toInt_ofNat_of_lt counted.size_lt

theorem Counted.getFrameSize (counted : q.Counted) :
    q.counts.getFrameSize.toInt = q.getFrameSize := by
  have fits : q.counts.Fits :=
    FrameCounts.fits_of_counted (by rw [counted.size_toInt]; exact Int.natCast_nonneg _)
  rw [FrameCounts.getFrameSize_toInt counted.showIndex_le fits, counted.size_toInt]
  rfl

/-- `popFrame` counts as `FrameCounts.popFrame` does. -/
theorem Counted.popFrame (counted : q.Counted) :
    q.popFrame.Counted ∧ q.counts.popFrame = q.popFrame.counts := by
  have bound := counted.size_lt
  by_cases keep : q.keepLast = true ∧ q.showIndex = 0
  · rw [popFrame_of_keep keep]
    exact ⟨⟨bound, Nat.le_refl 1⟩, FrameCounts.popFrame_of_keep keep⟩
  · rw [popFrame_of_clear keep]
    have positive : 0 < Int32.ofNat q.size ↔ 0 < q.size := by
      rw [FrameCounts.pos_iff, Int32.toInt_ofNat_of_lt bound]
      omega
    have size : (if 0 < Int32.ofNat q.size then Int32.ofNat q.size - 1 else Int32.ofNat q.size) =
        Int32.ofNat (if 0 < q.size then q.size - 1 else q.size) := by
      by_cases some : 0 < q.size
      · rw [if_pos (positive.mpr some), if_pos some]
        exact (Int32.ofNat_sub q.size 1 some).symm
      · rw [if_neg fun more => some (positive.mp more), if_neg some]
    refine ⟨⟨?_, counted.showIndex_le⟩, ?_⟩
    · show (if 0 < q.size then q.size - 1 else q.size) < 2 ^ 31
      split_ifs <;> omega
    · exact (if_neg keep).trans (congrArg (fun size => FrameCounts.mk _ size _ _ _) size)

/-- **A queue is flushed as its counters are.** -/
theorem flushes (inside : q.rindex < q.maxSize) (counted : q.Counted) :
    ∃ t, q.Flushes (q.size - q.showIndex) t ∧ FrameCounts.Flushing q.counts t.counts := by
  have fits : q.counts.Fits :=
    FrameCounts.fits_of_counted (by rw [counted.size_toInt]; exact Int.natCast_nonneg _)
  obtain ⟨t, ends, flushing⟩ :=
    FrameCounts.flushes (c := q.counts) inside counted.showIndex_le fits
  have rounds : q.counts.getFrameSize.toInt.toNat = q.size - q.showIndex := by
    rw [counted.getFrameSize]
    unfold FrameQueue.getFrameSize
    omega
  have tests : ∀ s : FrameQueue, s.Counted →
      decide (0 < s.counts.getFrameSize) = decide (0 < s.getFrameSize) := by
    intro s counted
    rw [decide_eq_decide, FrameCounts.pos_iff, counted.getFrameSize]
  obtain ⟨left, run, rfl⟩ := Loops.lift Counted tests (fun _ counted => counted.popFrame) counted ends
  rw [rounds] at run
  exact ⟨left, run, flushing⟩

end FrameQueue

end Xplay
