/-
**The clocks of `MediaSync2`, and one iteration of `videoPlay`.**

A `double` is an exact rational or `NAN`, and nothing is rounded (`Rounded` has the same functions in
rounded arithmetic); a comparison with `NAN` is false. Time is passed in: the
caller of `getClock` and `setClock` says when it calls. `iterate` is one iteration of `videoPlay`
that finds a frame, together with the audio callbacks that arrive while it runs.

A clock that runs at speed 1 reads the time plus a constant (`Steady`), so the offset between the
two clocks changes only when one of them is set.
-/

import Xplay.Data.XData
import Mathlib.Algebra.Order.Floor.Ring
import Mathlib.Data.Rat.Floor
import Mathlib.Tactic.Linarith
import Mathlib.Tactic.Ring

namespace Xplay

/-- A `double` in exact arithmetic; `none` is `NAN`. -/
abbrev Double := Option ℚ

namespace Double

def add (a b : Double) : Double := Option.map₂ (· + ·) a b

def sub (a b : Double) : Double := Option.map₂ (· - ·) a b

def mul (a b : Double) : Double := Option.map₂ (· * ·) a b

def neg (a : Double) : Double := a.map fun x => -x

/-- `fabs`. -/
def fabs (a : Double) : Double := a.map fun x => |x|

/-- `<`, false when either side is `NAN`. -/
def lt : Double → Double → Bool
  | some x, some y => decide (x < y)
  | _, _ => false

/-- `<=`, false when either side is `NAN`. -/
def le : Double → Double → Bool
  | some x, some y => decide (x ≤ y)
  | _, _ => false

/-- `FFMAX`. -/
def FFMAX (a b : Double) : Double := if lt b a then a else b

/-- `FFMIN`. -/
def FFMIN (a b : Double) : Double := if lt b a then b else a

@[simp] theorem add_some (x y : ℚ) : add (some x) (some y) = some (x + y) := rfl
@[simp] theorem sub_some (x y : ℚ) : sub (some x) (some y) = some (x - y) := rfl
@[simp] theorem mul_some (x y : ℚ) : mul (some x) (some y) = some (x * y) := rfl
@[simp] theorem neg_some (x : ℚ) : neg (some x) = some (-x) := rfl
@[simp] theorem fabs_some (x : ℚ) : fabs (some x) = some |x| := rfl
@[simp] theorem lt_some (x y : ℚ) : lt (some x) (some y) = decide (x < y) := rfl
@[simp] theorem le_some (x y : ℚ) : le (some x) (some y) = decide (x ≤ y) := rfl

@[simp] theorem FFMAX_some (x y : ℚ) : FFMAX (some x) (some y) = some (max x y) := by
  unfold FFMAX
  rw [lt_some]
  split
  · next larger => rw [max_eq_left (le_of_lt (of_decide_eq_true larger))]
  · next smaller => rw [max_eq_right (not_lt.mp (of_decide_eq_false (eq_false_of_ne_true smaller)))]

@[simp] theorem FFMIN_some (x y : ℚ) : FFMIN (some x) (some y) = some (min x y) := by
  unfold FFMIN
  rw [lt_some]
  split
  · next larger => rw [min_eq_right (le_of_lt (of_decide_eq_true larger))]
  · next smaller => rw [min_eq_left (not_lt.mp (of_decide_eq_false (eq_false_of_ne_true smaller)))]

end Double

open Double

/-! ### Clocks -/

/-- `MediaClock`. -/
structure MediaClock where
  pts : Double
  pts_drift : Double
  last_updated : ℚ
  speed : ℚ
  paused : Bool

namespace MediaClock

/-- `MediaClock::setClock`, called at `time`. -/
def setClock (c : MediaClock) (pts : Double) (time : ℚ) : MediaClock :=
  { c with pts := pts, last_updated := time, pts_drift := sub pts (some time) }

/-- `MediaClock::init`. -/
def init (time : ℚ) : MediaClock :=
  setClock ⟨none, none, 0, 1, false⟩ none time

/-- `MediaClock::getClock`, called at `time`. -/
def getClock (c : MediaClock) (time : ℚ) : Double :=
  if c.paused then c.pts
  else sub (add c.pts_drift (some time)) (some ((time - c.last_updated) * (1 - c.speed)))

/-- **The clock is set, runs and runs at speed 1**, `drift` ahead of the time. -/
structure Steady (c : MediaClock) (drift : ℚ) : Prop where
  runs : c.paused = false
  speed : c.speed = 1
  isSet : c.pts_drift = some drift

theorem Steady.getClock {c : MediaClock} {drift : ℚ} (steady : c.Steady drift) (time : ℚ) :
    c.getClock time = some (drift + time) := by
  unfold MediaClock.getClock
  rw [steady.runs, steady.isSet, steady.speed]
  simp

/-- A steady clock that is set stays steady. -/
theorem Steady.setClock {c : MediaClock} {drift : ℚ} (steady : c.Steady drift) (pts time : ℚ) :
    (c.setClock (some pts) time).Steady (pts - time) :=
  ⟨steady.runs, steady.speed, rfl⟩

/-- Setting a steady clock to its own reading changes no reading. -/
theorem Steady.setClock_self {c : MediaClock} {drift : ℚ} (steady : c.Steady drift) (time : ℚ) :
    (c.setClock (c.getClock time) time).Steady drift := by
  rw [steady.getClock]
  have again := steady.setClock (drift + time) time
  rwa [add_sub_cancel_right] at again

end MediaClock

/-! ### `MediaSync2` -/

def AV_SYNC_THRESHOLD_MIN : ℚ := 4 / 100

def AV_SYNC_THRESHOLD_MAX : ℚ := 1 / 10

def AV_SYNC_FRAMEDUP_THRESHOLD : ℚ := 1 / 10

/-- `MediaSync2`: what `videoPlay` and `audioCallBack` read and write. -/
structure MediaSync2 where
  audioClock : MediaClock
  videoClock : MediaClock
  maxFrameDuration : ℚ
  lastFramePts : Double
  lastAudioPts : Double
  resumeAfterPause : Bool

namespace MediaSync2

/-- The constructor, called at `time`. -/
def new (time : ℚ) : MediaSync2 where
  audioClock := MediaClock.init time
  videoClock := MediaClock.init time
  maxFrameDuration := 10
  lastFramePts := some 0
  lastAudioPts := some 0
  resumeAfterPause := false

/-- `MediaSync2::audioCallBack`, called at `time`. -/
def audioCallBack (s : MediaSync2) (pts : Double) (time : ℚ) : MediaSync2 :=
  { s with lastAudioPts := pts, audioClock := s.audioClock.setClock pts time }

/-- `MediaSync2::getMasterClock`. -/
def getMasterClock (s : MediaSync2) (time : ℚ) : Double := s.audioClock.getClock time

/-- `MediaSync2::calculateDelay`, called at `time`. -/
def calculateDelay (s : MediaSync2) (time : ℚ) (delay : Double) : Double :=
  let diff := sub (s.videoClock.getClock time) (s.getMasterClock time)
  let sync_threshold := FFMAX (some AV_SYNC_THRESHOLD_MIN) (FFMIN (some AV_SYNC_THRESHOLD_MAX) delay)
  if diff.isSome && lt (fabs diff) (some s.maxFrameDuration) then
    if le diff (neg sync_threshold) then FFMAX (some 0) (add delay diff)
    else if le sync_threshold diff && lt (some AV_SYNC_FRAMEDUP_THRESHOLD) delay then add delay diff
    else if le sync_threshold diff then mul (some 2) delay
    else delay
  else delay

/-- The sleep of `videoPlay`: whole milliseconds, none unless the delay is positive. -/
def sleepTime (delay : Double) : ℚ :=
  match delay with
  | none => 0
  | some delay => if 0 < delay then (⌊delay * 1000⌋ : ℚ) / 1000 else 0

/-- After a pause both clocks are set back to where they stood. -/
def resume (s : MediaSync2) (time : ℚ) : MediaSync2 :=
  if s.resumeAfterPause then
    { s with
      resumeAfterPause := false
      videoClock := s.videoClock.setClock s.lastFramePts time
      audioClock := s.audioClock.setClock s.lastAudioPts time }
  else s

/-- The end of an iteration of `videoPlay`, at `time`: the frame is on the screen. -/
def present (s : MediaSync2) (frame : XData) (time : ℚ) : MediaSync2 :=
  { s with videoClock := s.videoClock.setClock frame.pts time, lastFramePts := frame.pts }

end MediaSync2

/-- The time, and the state of `MediaSync2` then. -/
structure Playing where
  sync : MediaSync2
  now : ℚ

/-- One iteration of `videoPlay` that finds a frame: the time it takes before and after the sleep,
and the audio callbacks, each a pts and a time, that arrive before it looks at the clocks and
after. -/
structure Iteration where
  frame : XData
  before : ℚ
  after : ℚ
  heard : List (Double × ℚ)
  heardLater : List (Double × ℚ)

namespace Playing

/-- The audio callbacks, in their order. -/
def hear (s : MediaSync2) (calls : List (Double × ℚ)) : MediaSync2 :=
  calls.foldl (fun s call => s.audioCallBack call.1 call.2) s

/-- Audio callbacks leave everything else alone. -/
theorem hear_frame (s : MediaSync2) (calls : List (Double × ℚ)) :
    (hear s calls).videoClock = s.videoClock ∧
      (hear s calls).lastFramePts = s.lastFramePts ∧
      (hear s calls).maxFrameDuration = s.maxFrameDuration ∧
      (hear s calls).resumeAfterPause = s.resumeAfterPause := by
  induction calls generalizing s with
  | nil => exact ⟨rfl, rfl, rfl, rfl⟩
  | cons call calls ih => exact ih (s.audioCallBack call.1 call.2)

/-- The time an iteration calls `calculateDelay`. -/
def looked (p : Playing) (it : Iteration) : ℚ := p.now + it.before

/-- The state `calculateDelay` is called in. -/
def atLook (p : Playing) (it : Iteration) : MediaSync2 :=
  (hear p.sync it.heard).resume (p.looked it)

/-- `lastDuration`. -/
def lastDuration (p : Playing) (it : Iteration) : Double :=
  sub it.frame.pts (p.atLook it).lastFramePts

/-- How long the iteration sleeps. -/
def slept (p : Playing) (it : Iteration) : ℚ :=
  MediaSync2.sleepTime ((p.atLook it).calculateDelay (p.looked it) (p.lastDuration it))

/-- **One iteration of `videoPlay`.** -/
def iterate (p : Playing) (it : Iteration) : Playing where
  sync := (hear (p.atLook it) it.heardLater).present it.frame (p.looked it + p.slept it + it.after)
  now := p.looked it + p.slept it + it.after

/-- The offset between the clocks. -/
def offset (p : Playing) : Double :=
  sub (p.sync.videoClock.getClock p.now) (p.sync.audioClock.getClock p.now)

end Playing

end Xplay
