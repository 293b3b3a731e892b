/-
**Pacing depends on a shift of all timestamps at the first frame only.**

Two runs of a new `MediaSync2`, one with a constant added to every pts, are compared. The clocks of
one are those of the other plus the constant (`ShiftedClock`), an unset clock being `NAN` in both, so
`calculateDelay` sees the same difference; and from the first frame on `lastFramePts` is shifted too,
so the durations are the same (`Aligned`). Only its initial value 0 is not shifted: the first wait is
for the first pts itself, and `audioPlay` takes a shown pts of 0 for no frame at all.

This is so in exact arithmetic. In `double`s a shift moves the last bit of a clock, and with it the
side of the threshold to which a difference is rounded (`nearThreshold_moves`).
-/

import Xplay.Lib.Binary64
import Xplay.Sync.MediaClock
import Xplay.Sync.Rounding

namespace Xplay

open Double

/-! ### The two loops over a sequence of frames and callbacks -/

/-- A frame that `videoPlay` shows, with the callbacks around it, or a look of `audioPlay` at its
queue. -/
inductive SyncEvent
  | shows (it : Iteration)
  | polls (frame : XData)

/-- `audioPlay` consumes the frame it looks at. -/
def MediaSync2.consumes (s : MediaSync2) (frame : XData) : Bool :=
  !(frame.size = 0 || s.lastFramePts = some 0)

namespace Playing

/-- The waits of `videoPlay`, one for each frame. -/
def waits : Playing → List SyncEvent → List ℚ
  | _, [] => []
  | p, .shows it :: events => p.slept it :: waits (p.iterate it) events
  | p, .polls _ :: events => waits p events

/-- The event at which `audioPlay` first consumes a frame. -/
def consumesAt : Playing → List SyncEvent → Option Nat
  | _, [] => none
  | p, .shows it :: events => (consumesAt (p.iterate it) events).map (· + 1)
  | p, .polls frame :: events =>
    if p.sync.consumes frame then some 0 else (consumesAt p events).map (· + 1)

/-- A new `MediaSync2`. -/
def new (time : ℚ) : Playing := ⟨MediaSync2.new time, time⟩

end Playing

namespace Rounded

variable (fl : ℚ → ℚ)

/-- The waits of `videoPlay`, rounded. -/
def shownWaits : Playing → List SyncEvent → List ℚ
  | _, [] => []
  | p, .shows it :: events => slept fl p it :: shownWaits (iterate fl p it) events
  | p, .polls _ :: events => shownWaits p events

/-- **Without rounding the waits are the exact ones.** -/
theorem shownWaits_id (p : Playing) (events : List SyncEvent) :
    shownWaits id p events = p.waits events := by
  induction events generalizing p with
  | nil => rfl
  | cons event events ih =>
    cases event with
    | shows it => rw [shownWaits, Playing.waits, slept_id, iterate_id, ih]
    | polls frame => exact ih p

end Rounded

/-- A pts, later by `c`. -/
def shiftPts (c : ℚ) (pts : Double) : Double := add pts (some c)

def XData.shift (c : ℚ) (frame : XData) : XData := { frame with pts := shiftPts c frame.pts }

/-- A callback with its pts shifted. -/
def shiftCall (c : ℚ) (call : Double × ℚ) : Double × ℚ := (shiftPts c call.1, call.2)

def Iteration.shift (c : ℚ) (it : Iteration) : Iteration :=
  { it with
    frame := it.frame.shift c
    heard := it.heard.map (shiftCall c)
    heardLater := it.heardLater.map (shiftCall c) }

def SyncEvent.shift (c : ℚ) : SyncEvent → SyncEvent
  | .shows it => .shows (it.shift c)
  | .polls frame => .polls (frame.shift c)

/-- The pts of the first frame that is shown. -/
def firstPts : List SyncEvent → Option Double
  | [] => none
  | .shows it :: _ => some it.frame.pts
  | .polls _ :: events => firstPts events

/-- The pts shown last when `audioPlay` first finds a frame after one was shown. -/
def firstPolled : Option Double → List SyncEvent → Option Double
  | _, [] => none
  | _, .shows it :: events => firstPolled (some it.frame.pts) events
  | shown, .polls frame :: events =>
    if frame.size = 0 then firstPolled shown events
    else match shown with
      | some pts => some pts
      | none => firstPolled none events

namespace SyncShift

/-- The wait for the first frame, by its pts alone, is as long after a shift by `c`. -/
def SameStart (c : ℚ) (events : List SyncEvent) : Prop :=
  ∀ pts, firstPts events = some pts →
    MediaSync2.sleepTime (shiftPts c pts) = MediaSync2.sleepTime pts

/-- The pts that `audioPlay` goes by at its first frame is 0 before and after a shift by `c`, or
neither time. -/
def SameGate (c : ℚ) (events : List SyncEvent) : Prop :=
  ∀ pts, firstPolled none events = some pts → (shiftPts c pts = some 0 ↔ pts = some 0)

/-! ### Shifted clocks -/

@[simp] theorem shiftPts_some (c x : ℚ) : shiftPts c (some x) = some (x + c) := rfl

@[simp] theorem shiftPts_none (c : ℚ) : shiftPts c none = none := rfl

/-- A difference does not see the shift. -/
theorem sub_shift (c : ℚ) (x y : Double) : sub (shiftPts c x) (shiftPts c y) = sub x y := by
  cases x with
  | none => cases y <;> rfl
  | some x =>
    cases y with
    | none => rfl
    | some y => simp

variable {c : ℚ}

/-- **One clock is the other plus `c`**; both may be unset. -/
structure ShiftedClock (c : ℚ) (a b : MediaClock) : Prop where
  drift : b.pts_drift = shiftPts c a.pts_drift
  pts : b.pts = shiftPts c a.pts
  last : b.last_updated = a.last_updated
  speed : b.speed = a.speed
  paused : b.paused = a.paused

theorem ShiftedClock.getClock {a b : MediaClock} (shifted : ShiftedClock c a b) (time : ℚ) :
    b.getClock time = shiftPts c (a.getClock time) := by
  unfold MediaClock.getClock
  rw [shifted.paused, shifted.pts, shifted.drift, shifted.last, shifted.speed]
  split_ifs
  · rfl
  · cases a.pts_drift with
    | none => rfl
    | some drift =>
      simp only [shiftPts_some, add_some, sub_some, Option.some.injEq]
      ring

theorem ShiftedClock.setClock {a b : MediaClock} (shifted : ShiftedClock c a b) (pts : Double)
    (time : ℚ) : ShiftedClock c (a.setClock pts time) (b.setClock (shiftPts c pts) time) where
  drift := by
    cases pts with
    | none => rfl
    | some pts =>
      simp only [MediaClock.setClock, shiftPts_some, sub_some, Option.some.injEq]
      ring
  pts := rfl
  last := rfl
  speed := shifted.speed
  paused := shifted.paused

/-- A clock that was never set reads `NAN`, shifted or not. -/
theorem shiftedClock_init (c time : ℚ) :
    ShiftedClock c (MediaClock.init time) (MediaClock.init time) :=
  ⟨rfl, rfl, rfl, rfl, rfl⟩

/-! ### One iteration in both runs -/

/-- **The two runs side by side**, but for `lastFramePts`. -/
structure Aligned (c : ℚ) (s s' : MediaSync2) : Prop where
  audioClock : ShiftedClock c s.audioClock s'.audioClock
  videoClock : ShiftedClock c s.videoClock s'.videoClock
  max : s'.maxFrameDuration = s.maxFrameDuration
  playing : s.resumeAfterPause = false
  playing' : s'.resumeAfterPause = false

variable {s s' : MediaSync2}

theorem Aligned.hear (aligned : Aligned c s s') (calls : List (Double × ℚ)) :
    Aligned c (Playing.hear s calls) (Playing.hear s' (calls.map (shiftCall c))) := by
  induction calls generalizing s s' with
  | nil => exact aligned
  | cons call calls ih =>
    exact ih ⟨aligned.audioClock.setClock call.1 call.2, aligned.videoClock, aligned.max,
      aligned.playing, aligned.playing'⟩

/-- `calculateDelay` sees the difference of the clocks. -/
theorem Aligned.calculateDelay (aligned : Aligned c s s') (time : ℚ) (delay : Double) :
    s'.calculateDelay time delay = s.calculateDelay time delay := by
  unfold MediaSync2.calculateDelay MediaSync2.getMasterClock
  rw [aligned.videoClock.getClock, aligned.audioClock.getClock, sub_shift, aligned.max]

variable {p p' : Playing}

theorem atLook_eq (it : Iteration) (playing : p.sync.resumeAfterPause = false) :
    p.atLook it = Playing.hear p.sync it.heard := by
  obtain ⟨-, -, -, same⟩ := Playing.hear_frame p.sync it.heard
  exact if_neg (by rw [same, playing]; exact Bool.false_ne_true)

theorem Aligned.atLook (aligned : Aligned c p.sync p'.sync) (it : Iteration) :
    Aligned c (p.atLook it) (p'.atLook (it.shift c)) := by
  rw [atLook_eq it aligned.playing, atLook_eq _ aligned.playing']
  exact aligned.hear it.heard

/-- **Where the waits agree, the runs stay side by side**, and from then on `lastFramePts` is
shifted too. -/
theorem Aligned.iterate (aligned : Aligned c p.sync p'.sync) (now : p'.now = p.now)
    {it : Iteration} (same : p'.slept (it.shift c) = p.slept it) :
    Aligned c (p.iterate it).sync (p'.iterate (it.shift c)).sync ∧
      (p'.iterate (it.shift c)).now = (p.iterate it).now ∧
      (p'.iterate (it.shift c)).sync.lastFramePts =
        shiftPts c (p.iterate it).sync.lastFramePts := by
  have later := (aligned.atLook it).hear it.heardLater
  have time : p'.looked (it.shift c) + p'.slept (it.shift c) + (it.shift c).after =
      p.looked it + p.slept it + it.after := by
    rw [same]
    simp only [Playing.looked, Iteration.shift, now]
  refine ⟨⟨later.audioClock, ?_, later.max, later.playing, later.playing'⟩, time, rfl⟩
  show ShiftedClock c (MediaClock.setClock _ it.frame.pts _)
    (MediaClock.setClock _ (shiftPts c it.frame.pts) _)
  rw [time]
  exact later.videoClock.setClock it.frame.pts _

/-- Once a frame was shown, the waits agree. -/
theorem Aligned.slept (aligned : Aligned c p.sync p'.sync) (now : p'.now = p.now)
    (last : p'.sync.lastFramePts = shiftPts c p.sync.lastFramePts) (it : Iteration) :
    p'.slept (it.shift c) = p.slept it := by
  have duration : p'.lastDuration (it.shift c) = p.lastDuration it := by
    unfold Playing.lastDuration
    rw [atLook_eq it aligned.playing, atLook_eq _ aligned.playing',
      (Playing.hear_frame _ _).2.1, (Playing.hear_frame _ _).2.1, last]
    exact sub_shift c it.frame.pts _
  have looked : p'.looked (it.shift c) = p.looked it := by
    simp only [Playing.looked, Iteration.shift, now]
  unfold Playing.slept
  rw [duration, looked, (aligned.atLook it).calculateDelay]

/-- **The waits after the first frame agree.** -/
theorem Aligned.waits (aligned : Aligned c p.sync p'.sync) (now : p'.now = p.now)
    (last : p'.sync.lastFramePts = shiftPts c p.sync.lastFramePts) (events : List SyncEvent) :
    p'.waits (events.map (SyncEvent.shift c)) = p.waits events := by
  induction events generalizing p p' with
  | nil => rfl
  | cons event events ih =>
    cases event with
    | polls frame => exact ih aligned now last
    | shows it =>
      have same := aligned.slept now last it
      obtain ⟨aligned, now, last⟩ := aligned.iterate now same
      exact congrArg₂ List.cons same (ih aligned now last)

/-! ### The first frame -/

/-- No frame was shown yet. -/
structure Fresh (p : Playing) : Prop where
  last : p.sync.lastFramePts = some 0
  drift : p.sync.videoClock.pts_drift = none
  runs : p.sync.videoClock.paused = false
  playing : p.sync.resumeAfterPause = false

/-- **The first wait is for the first pts itself**: `lastFramePts` is 0, and the video clock `NAN`. -/
theorem Fresh.slept (fresh : Fresh p) (it : Iteration) :
    p.slept it = MediaSync2.sleepTime it.frame.pts := by
  obtain ⟨video, last, -, -⟩ := Playing.hear_frame p.sync it.heard
  have unset : ∀ time, (Playing.hear p.sync it.heard).videoClock.getClock time = none := by
    intro time
    rw [video, MediaClock.getClock, fresh.runs, fresh.drift]
    rfl
  have duration : p.lastDuration it = it.frame.pts := by
    rw [Playing.lastDuration, atLook_eq it fresh.playing, last, fresh.last]
    cases it.frame.pts with
    | none => rfl
    | some x => simp
  unfold Playing.slept
  rw [duration, atLook_eq it fresh.playing, MediaSync2.calculateDelay, unset]
  rfl

/-- **All waits agree exactly when the first one does.** -/
theorem waits_iff (aligned : Aligned c p.sync p'.sync) (now : p'.now = p.now) (fresh : Fresh p)
    (fresh' : Fresh p') (events : List SyncEvent) :
    p'.waits (events.map (SyncEvent.shift c)) = p.waits events ↔
      ∀ pts, firstPts events = some pts →
        MediaSync2.sleepTime (shiftPts c pts) = MediaSync2.sleepTime pts := by
  induction events with
  | nil => exact iff_of_true rfl (by rintro _ ⟨⟩)
  | cons event events ih =>
    cases event with
    | polls frame => exact ih
    | shows it =>
      have wait := fresh.slept it
      have wait' : p'.slept (it.shift c) = MediaSync2.sleepTime (shiftPts c it.frame.pts) :=
        fresh'.slept (it.shift c)
      constructor
      · rintro same _ ⟨⟩
        have head : p'.slept (it.shift c) = p.slept it := (List.cons.inj same).1
        rwa [wait, wait'] at head
      · intro agree
        have same : p'.slept (it.shift c) = p.slept it := by
          rw [wait, wait']
          exact agree _ rfl
        obtain ⟨aligned, now, last⟩ := aligned.iterate now same
        exact congrArg₂ List.cons same (aligned.waits now last events)

/-! ### The gate of `audioPlay` -/

theorem consumes_iff (s : MediaSync2) (frame : XData) (present : ¬frame.size = 0) :
    s.consumes frame = true ↔ s.lastFramePts ≠ some 0 := by
  simp [MediaSync2.consumes, present]

theorem consumes_empty (s : MediaSync2) (frame : XData) (empty : frame.size = 0) :
    s.consumes frame = false := by
  simp [MediaSync2.consumes, empty]

/-- A shift by nothing does nothing to the gate. -/
theorem consumesAt_zero (same : p'.sync.lastFramePts = p.sync.lastFramePts)
    (events : List SyncEvent) :
    p'.consumesAt (events.map (SyncEvent.shift 0)) = p.consumesAt events := by
  induction events generalizing p p' with
  | nil => rfl
  | cons event events ih =>
    cases event with
    | shows it =>
      refine congrArg (Option.map (· + 1)) (ih ?_)
      show shiftPts 0 it.frame.pts = it.frame.pts
      cases it.frame.pts with
      | none => rfl
      | some x => simp
    | polls frame =>
      have gate : p'.sync.consumes (frame.shift 0) = p.sync.consumes frame := by
        unfold MediaSync2.consumes
        rw [same]
        rfl
      show (if p'.sync.consumes (frame.shift 0) then _ else _) = if _ then _ else _
      rw [gate, ih same]

/-- What the two runs remember of the frames shown. -/
def Shown (c : ℚ) (p p' : Playing) : Option Double → Prop
  | none => p.sync.lastFramePts = some 0 ∧ p'.sync.lastFramePts = some 0
  | some pts => p.sync.lastFramePts = pts ∧ p'.sync.lastFramePts = shiftPts c pts

/-- **`audioPlay` starts at the same point exactly when the first pts it goes by is zero in both runs
or in neither.** -/
theorem consumesAt_iff {shown : Option Double} (known : Shown c p p' shown)
    (events : List SyncEvent) :
    p'.consumesAt (events.map (SyncEvent.shift c)) = p.consumesAt events ↔
      ∀ pts, firstPolled shown events = some pts → (shiftPts c pts = some 0 ↔ pts = some 0) := by
  have later : ∀ x y : Option Nat, x.map (· + 1) = y.map (· + 1) ↔ x = y := fun x y =>
    (Option.map_injective (Nat.succ_injective)).eq_iff
  induction events generalizing p p' shown with
  | nil => exact iff_of_true rfl (by rintro _ ⟨⟩)
  | cons event events ih =>
    cases event with
    | shows it =>
      have next : Shown c (p.iterate it) (p'.iterate (it.shift c)) (some it.frame.pts) :=
        ⟨rfl, rfl⟩
      exact (later _ _).trans (ih next)
    | polls frame =>
      show (if p'.sync.consumes (frame.shift c) then some 0 else _) =
        (if p.sync.consumes frame then some 0 else _) ↔ _
      by_cases empty : frame.size = 0
      · rw [consumes_empty p.sync frame empty, consumes_empty p'.sync (frame.shift c) empty]
        simp only [firstPolled, if_pos empty, Bool.false_eq_true, if_false]
        exact (later _ _).trans (ih known)
      · have gate := consumes_iff p.sync frame empty
        have gate' := consumes_iff p'.sync (frame.shift c) empty
        cases shown with
        | none =>
          rw [known.1] at gate
          rw [known.2] at gate'
          simp only [ne_eq, not_true_eq_false, iff_false] at gate gate'
          simp only [firstPolled, if_neg empty, if_neg gate, if_neg gate']
          exact (later _ _).trans (ih known)
        | some pts =>
          rw [known.1] at gate
          rw [known.2] at gate'
          simp only [firstPolled, if_neg empty, Option.some.injEq, forall_eq']
          by_cases zero : pts = some 0
          · by_cases zero' : shiftPts c pts = some 0
            · -- zero in both, so the shift is by nothing
              have nothing : c = 0 := by
                rw [zero] at zero'
                simpa using zero'
              have closed : ¬p.sync.consumes frame = true := fun opens => gate.mp opens zero
              have closed' : ¬p'.sync.consumes (frame.shift c) = true :=
                fun opens => gate'.mp opens zero'
              rw [if_neg closed, if_neg closed']
              have same : p'.sync.lastFramePts = p.sync.lastFramePts :=
                known.2.trans (zero'.trans (zero.symm.trans known.1.symm))
              subst nothing
              exact iff_of_true (congrArg _ (consumesAt_zero same events)) (iff_of_true zero' zero)
            · have closed : ¬p.sync.consumes frame = true := fun opens => gate.mp opens zero
              rw [if_neg closed, if_pos (gate'.mpr zero')]
              refine iff_of_false ?_ (fun both => zero' (both.mpr zero))
              cases p.consumesAt events <;> simp
          · rw [if_pos (gate.mpr zero)]
            by_cases zero' : shiftPts c pts = some 0
            · have closed : ¬p'.sync.consumes (frame.shift c) = true :=
                fun opens => gate'.mp opens zero'
              rw [if_neg closed]
              refine iff_of_false ?_ (fun both => zero (both.mp zero'))
              cases p'.consumesAt (events.map (SyncEvent.shift c)) <;> simp
            · rw [if_pos (gate'.mpr zero')]
              exact iff_of_true rfl (iff_of_false zero' zero)

/-! ### The main result -/

theorem fresh_new (time : ℚ) : Fresh (Playing.new time) := ⟨rfl, rfl, rfl, rfl⟩

/-- Two new runs are side by side: nothing in them is set. -/
theorem aligned_new (c time : ℚ) :
    Aligned c (Playing.new time).sync (Playing.new time).sync :=
  ⟨shiftedClock_init c time, shiftedClock_init c time, rfl, rfl, rfl⟩

/-- **A shift of all timestamps leaves the waits alone exactly when it does so at the first frame, and
the start of the audio exactly when it leaves the sentinel alone**, in exact arithmetic. -/
theorem pacing_shift_iff (time c : ℚ) (events : List SyncEvent) :
    ((Playing.new time).waits (events.map (SyncEvent.shift c)) = (Playing.new time).waits events ↔
        SameStart c events) ∧
      ((Playing.new time).consumesAt (events.map (SyncEvent.shift c)) =
          (Playing.new time).consumesAt events ↔ SameGate c events) := by
  have unseen : Shown c (Playing.new time) (Playing.new time) none := ⟨rfl, rfl⟩
  exact ⟨waits_iff (aligned_new c time) rfl (fresh_new time) (fresh_new time) events,
    consumesAt_iff unseen events⟩

/-- A frame of pts 0 is shown; then `audioPlay` looks at a frame of its own. -/
def fromZero : List SyncEvent :=
  [.shows ⟨{ XData.init with pts := some 0, size := 1 }, 0, 0, [], []⟩,
    .polls { XData.init with size := 1 }]

/-- **A stream that starts at 0 and the same stream one second later**: the second waits a second for
its first frame, and its audio starts at once, while that of the first does not. -/
theorem fromZero_moves :
    Rounded.shownWaits Lib.binary64 (Playing.new 0) fromZero = [0] ∧
      Rounded.shownWaits Lib.binary64 (Playing.new 0) (fromZero.map (SyncEvent.shift 1)) = [1] ∧
      (Playing.new 0).consumesAt fromZero = none ∧
      (Playing.new 0).consumesAt (fromZero.map (SyncEvent.shift 1)) = some 1 := by
  refine ⟨?_, ?_, ?_, ?_⟩ <;> decide +kernel

/-- Samples of pts -2 are heard at 0.1 s, the frame of pts -2 is shown at 0.2 s, and the next one, an
eighth of a second further, is looked at at 0.3 s. -/
def nearThreshold : List SyncEvent :=
  [.shows ⟨{ XData.init with pts := some (-2), size := 1 }, 2 / 10, 0, [(some (-2), 1 / 10)], []⟩,
    .shows ⟨{ XData.init with pts := some (-15 / 8), size := 1 }, 1 / 10, 0, [], []⟩]

/-- **In `double`s a shift is felt later on too**: the clocks are a tenth of a second apart, and one
second later the difference is rounded to the other side of the threshold. -/
theorem nearThreshold_moves :
    Rounded.shownWaits Lib.binary64 (Playing.new 0) nearThreshold = [0, 24 / 1000] ∧
      Rounded.shownWaits Lib.binary64 (Playing.new 0) (nearThreshold.map (SyncEvent.shift 1)) =
        [0, 125 / 1000] ∧
      SameStart 1 nearThreshold ∧ SameGate 1 nearThreshold := by
  refine ⟨by decide +kernel, by decide +kernel, ?_, ?_⟩
  · rintro _ ⟨⟩
    decide +kernel
  · rintro _ ⟨⟩

/-- **A shift moves the pacing**: through the sentinel, and through rounding. -/
theorem shift_moves :
    (Rounded.shownWaits Lib.binary64 (Playing.new 0) (fromZero.map (SyncEvent.shift 1)) ≠
          Rounded.shownWaits Lib.binary64 (Playing.new 0) fromZero ∧
        (Playing.new 0).consumesAt (fromZero.map (SyncEvent.shift 1)) ≠
          (Playing.new 0).consumesAt fromZero) ∧
      Rounded.shownWaits Lib.binary64 (Playing.new 0) (nearThreshold.map (SyncEvent.shift 1)) ≠
          Rounded.shownWaits Lib.binary64 (Playing.new 0) nearThreshold ∧
        SameStart 1 nearThreshold ∧ SameGate 1 nearThreshold := by
  obtain ⟨first, first', gate, gate'⟩ := fromZero_moves
  obtain ⟨wait, wait', start, sentinel⟩ := nearThreshold_moves
  rw [first, first', gate, gate', wait, wait']
  exact ⟨⟨by decide +kernel, by decide +kernel⟩, by decide +kernel, start, sentinel⟩

end SyncShift

end Xplay
