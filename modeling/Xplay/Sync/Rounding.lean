/-
**`MediaSync2` with every `double` rounded.**

The functions of `MediaSync2`, with `fl` applied to the result of each operation on `double`s, to the
constants, and to the time as `av_gettime_relative() / 1000000.0` gives it. Comparisons, `fabs` and
the minus sign are exact, and the sleep is a whole number of milliseconds.

Without rounding (`id`) each function is the exact one (`getClock_id`, …, `iterate_id`).
-/

import Xplay.Sync.MediaClock

namespace Xplay.Rounded

open Double

section Definitions

variable (fl : ℚ → ℚ)

def add (a b : Double) : Double := (Double.add a b).map fl

def sub (a b : Double) : Double := (Double.sub a b).map fl

def mul (a b : Double) : Double := (Double.mul a b).map fl

/-! ### Clocks -/

/-- `MediaClock::setClock`, called at `time`. -/
def setClock (c : MediaClock) (pts : Double) (time : ℚ) : MediaClock :=
  { c with pts := pts, last_updated := fl time, pts_drift := sub fl pts (some (fl time)) }

/-- `MediaClock::getClock`, called at `time`. -/
def getClock (c : MediaClock) (time : ℚ) : Double :=
  if c.paused then c.pts
  else
    sub fl (add fl c.pts_drift (some (fl time)))
      (mul fl (sub fl (some (fl time)) (some c.last_updated)) (sub fl (some 1) (some c.speed)))

/-! ### `MediaSync2` -/

/-- `MediaSync2::audioCallBack`, called at `time`. -/
def audioCallBack (s : MediaSync2) (pts : Double) (time : ℚ) : MediaSync2 :=
  { s with lastAudioPts := pts, audioClock := setClock fl s.audioClock pts time }

/-- `MediaSync2::calculateDelay`, called at `time`. -/
def calculateDelay (s : MediaSync2) (time : ℚ) (delay : Double) : Double :=
  let diff := sub fl (getClock fl s.videoClock time) (getClock fl s.audioClock time)
  let sync_threshold :=
    FFMAX (some (fl AV_SYNC_THRESHOLD_MIN)) (FFMIN (some (fl AV_SYNC_THRESHOLD_MAX)) delay)
  if diff.isSome && lt (fabs diff) (some s.maxFrameDuration) then
    if le diff (neg sync_threshold) then FFMAX (some 0) (add fl delay diff)
    else if le sync_threshold diff && lt (some (fl AV_SYNC_FRAMEDUP_THRESHOLD)) delay then
      add fl delay diff
    else if le sync_threshold diff then mul fl (some 2) delay
    else delay
  else delay

/-- The sleep of `videoPlay`: whole milliseconds, none unless the delay is positive. -/
def sleepTime (delay : Double) : ℚ :=
  match delay with
  | none => 0
  | some delay => if 0 < delay then (⌊fl (delay * 1000)⌋ : ℚ) / 1000 else 0

/-- After a pause both clocks are set back to where they stood. -/
def resume (s : MediaSync2) (time : ℚ) : MediaSync2 :=
  if s.resumeAfterPause then
    { s with
      resumeAfterPause := false
      videoClock := setClock fl s.videoClock s.lastFramePts time
      audioClock := setClock fl s.audioClock s.lastAudioPts time }
  else s

/-- The end of an iteration of `videoPlay`, at `time`: the frame is on the screen. -/
def present (s : MediaSync2) (frame : XData) (time : ℚ) : MediaSync2 :=
  { s with videoClock := setClock fl s.videoClock frame.pts time, lastFramePts := frame.pts }

/-! ### One iteration of `videoPlay` -/

/-- The audio callbacks, in their order. -/
def hear (s : MediaSync2) (calls : List (Double × ℚ)) : MediaSync2 :=
  calls.foldl (fun s call => audioCallBack fl s call.1 call.2) s

/-- The state `calculateDelay` is called in. -/
def atLook (p : Playing) (it : Iteration) : MediaSync2 :=
  resume fl (hear fl p.sync it.heard) (p.looked it)

/-- `lastDuration`. -/
def lastDuration (p : Playing) (it : Iteration) : Double :=
  sub fl it.frame.pts (atLook fl p it).lastFramePts

/-- How long the iteration sleeps. -/
def slept (p : Playing) (it : Iteration) : ℚ :=
  sleepTime fl (calculateDelay fl (atLook fl p it) (p.looked it) (lastDuration fl p it))

/-- One iteration of `videoPlay`. -/
def iterate (p : Playing) (it : Iteration) : Playing where
  sync :=
    present fl (hear fl (atLook fl p it) it.heardLater) it.frame
      (p.looked it + slept fl p it + it.after)
  now := p.looked it + slept fl p it + it.after

end Definitions

/-! ### Without rounding -/

@[simp] theorem add_id (a b : Double) : add id a b = Double.add a b := Option.map_id_apply

@[simp] theorem sub_id (a b : Double) : sub id a b = Double.sub a b := Option.map_id_apply

@[simp] theorem mul_id (a b : Double) : mul id a b = Double.mul a b := Option.map_id_apply

theorem setClock_id (c : MediaClock) (pts : Double) (time : ℚ) :
    setClock id c pts time = c.setClock pts time := by
  simp only [setClock, MediaClock.setClock, sub_id, id_eq]

theorem getClock_id (c : MediaClock) (time : ℚ) : getClock id c time = c.getClock time := by
  unfold getClock MediaClock.getClock
  simp only [add_id, sub_id, mul_id, id_eq, sub_some, mul_some]

theorem calculateDelay_id (s : MediaSync2) (time : ℚ) (delay : Double) :
    calculateDelay id s time delay = s.calculateDelay time delay := by
  unfold calculateDelay MediaSync2.calculateDelay MediaSync2.getMasterClock
  simp only [getClock_id, add_id, sub_id, mul_id, id_eq]

theorem sleepTime_id (delay : Double) : sleepTime id delay = MediaSync2.sleepTime delay := by
  cases delay <;> rfl

theorem resume_id (s : MediaSync2) (time : ℚ) : resume id s time = s.resume time := by
  unfold resume MediaSync2.resume
  rw [setClock_id, setClock_id]

theorem present_id (s : MediaSync2) (frame : XData) (time : ℚ) :
    present id s frame time = s.present frame time := by
  unfold present MediaSync2.present
  rw [setClock_id]

theorem hear_id (s : MediaSync2) (calls : List (Double × ℚ)) :
    hear id s calls = Playing.hear s calls := by
  unfold hear Playing.hear audioCallBack MediaSync2.audioCallBack
  simp only [setClock_id]

theorem atLook_id (p : Playing) (it : Iteration) : atLook id p it = p.atLook it := by
  unfold atLook Playing.atLook
  rw [hear_id, resume_id]

theorem slept_id (p : Playing) (it : Iteration) : slept id p it = p.slept it := by
  unfold slept Playing.slept lastDuration Playing.lastDuration
  rw [sleepTime_id, atLook_id, calculateDelay_id, sub_id]

/-- **Without rounding an iteration is the exact one.** -/
theorem iterate_id (p : Playing) (it : Iteration) : iterate id p it = p.iterate it := by
  unfold iterate Playing.iterate
  rw [slept_id, atLook_id, hear_id, present_id]

end Xplay.Rounded
