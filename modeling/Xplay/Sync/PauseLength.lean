/-
**The length of a pause leaves no trace in the pacing.**

`videoPlay` pass by pass: while `pauseRequest` is set a pass remembers the pause and sleeps (`nap`);
a pass that finds no frame sleeps (`poll`); the first one that finds a frame after a pause sets both
clocks back. The queue shows a frame from its time on, and the audio callbacks come at theirs.

Two runs that pause in the same state differ, at the pass that sets the clocks back, in the time
alone. From there on one is the other, later (`Later`): everything `calculateDelay` looks at is a
difference of times.

* `Later.calculateDelay`, `Later.iterate` — one iteration in both runs.
* `pauseLength_waits` — **the waits after the pause do not depend on how long it was**, in exact
  arithmetic.
* `pauseLength_felt` — rounded to binary64 they do: the time at which the clocks are set back decides
  to which side of the threshold their difference is rounded.
-/

import Xplay.Lib.Binary64
import Xplay.Sync.MediaClock
import Xplay.Sync.Rounding

namespace Xplay

open Double

/-! ### `videoPlay`, pass by pass -/

/-- What a pass of the loop takes apart from its wait: up to the clocks, and after the wait. -/
structure Pass where
  before : ℚ
  after : ℚ

/-- **The loop with what is to come**: the frames, each from the time the queue shows it, and the
audio callbacks, in their order. -/
structure VideoLoop where
  playing : Playing
  frames : List (ℚ × XData)
  calls : List (Double × ℚ)

namespace Playing

/-- A pass that sees `pauseRequest`: it sleeps 500 ms; the rest of the pass takes `more`. -/
def nap (p : Playing) (more : ℚ) : Playing where
  sync := { p.sync with resumeAfterPause := true }
  now := p.now + 500 / 1000 + more

/-- A pass that finds no frame: it sleeps 5 ms. -/
def poll (p : Playing) (more : ℚ) : Playing := { p with now := p.now + 5 / 1000 + more }

end Playing

namespace VideoLoop

/-- The frame that `currentFrame` shows, none while its `size` is 0. -/
def shown (l : VideoLoop) : Option XData :=
  match l.frames with
  | [] => none
  | (time, frame) :: _ => if time ≤ l.playing.now ∧ frame.size ≠ 0 then some frame else none

/-- The callbacks that come up to `time`. -/
def heard (calls : List (Double × ℚ)) (time : ℚ) : List (Double × ℚ) :=
  calls.takeWhile fun call => call.2 ≤ time

/-- The callbacks that come after `time`. -/
def unheard (calls : List (Double × ℚ)) (time : ℚ) : List (Double × ℚ) :=
  calls.dropWhile fun call => call.2 ≤ time

/-- The iteration with a frame, as far as its look at the clocks. -/
def looking (l : VideoLoop) (p : Pass) (frame : XData) : Iteration :=
  ⟨frame, p.before, p.after, heard l.calls (l.playing.now + p.before), []⟩

/-- The end of the iteration with a frame. -/
def ending (l : VideoLoop) (p : Pass) (frame : XData) : ℚ :=
  l.playing.now + p.before + l.playing.slept (l.looking p frame) + p.after

/-- The iteration with a frame: the callbacks up to its look at the clocks, and up to its end. -/
def showing (l : VideoLoop) (p : Pass) (frame : XData) : Iteration :=
  { l.looking p frame with
    heardLater := heard (unheard l.calls (l.playing.now + p.before)) (l.ending p frame) }

/-- **A pass without a pause**: its wait, and the loop after it. -/
def pass (l : VideoLoop) (p : Pass) : ℚ × VideoLoop :=
  match l.shown with
  | none => (5 / 1000, { l with playing := l.playing.poll p.before })
  | some frame =>
    (l.playing.slept (l.showing p frame),
      { playing := l.playing.iterate (l.showing p frame)
        frames := l.frames.tail
        calls := unheard (unheard l.calls (l.playing.now + p.before)) (l.ending p frame) })

/-- The waits of a sequence of passes. -/
def waits : VideoLoop → List Pass → List ℚ
  | _, [] => []
  | l, p :: passes => (l.pass p).1 :: waits (l.pass p).2 passes

/-- The loop at the time of `p`, with what is to come relative to that time. -/
def around (p : Playing) (frames : List (ℚ × XData)) (calls : List (Double × ℚ)) : VideoLoop where
  playing := p
  frames := frames.map fun f => (f.1 + p.now, f.2)
  calls := calls.map fun call => (call.1, call.2 + p.now)

end VideoLoop

/-! ### The same passes, rounded -/

namespace Rounded

variable (fl : ℚ → ℚ)

/-- The end of the iteration with a frame. -/
def ending (l : VideoLoop) (p : Pass) (frame : XData) : ℚ :=
  l.playing.now + p.before + slept fl l.playing (l.looking p frame) + p.after

/-- The iteration with a frame: the callbacks up to its look at the clocks, and up to its end. -/
def showing (l : VideoLoop) (p : Pass) (frame : XData) : Iteration :=
  { l.looking p frame with
    heardLater :=
      VideoLoop.heard (VideoLoop.unheard l.calls (l.playing.now + p.before)) (ending fl l p frame) }

/-- A pass without a pause: its wait, and the loop after it. -/
def pass (l : VideoLoop) (p : Pass) : ℚ × VideoLoop :=
  match l.shown with
  | none => (5 / 1000, { l with playing := l.playing.poll p.before })
  | some frame =>
    (slept fl l.playing (showing fl l p frame),
      { playing := iterate fl l.playing (showing fl l p frame)
        frames := l.frames.tail
        calls :=
          VideoLoop.unheard (VideoLoop.unheard l.calls (l.playing.now + p.before))
            (ending fl l p frame) })

/-- The waits of a sequence of passes. -/
def waits : VideoLoop → List Pass → List ℚ
  | _, [] => []
  | l, p :: passes => (pass fl l p).1 :: waits (pass fl l p).2 passes

theorem pass_id (l : VideoLoop) (p : Pass) : pass id l p = l.pass p := by
  unfold pass VideoLoop.pass showing VideoLoop.showing ending VideoLoop.ending
  simp only [slept_id, iterate_id]

/-- **Without rounding the waits are the exact ones.** -/
theorem waits_id (l : VideoLoop) (passes : List Pass) : waits id l passes = l.waits passes := by
  induction passes generalizing l with
  | nil => rfl
  | cons p passes ih =>
    rw [waits, VideoLoop.waits, pass_id, ih]

end Rounded

/-! ### One run, later -/

variable {d : ℚ}

/-- A clock that was set to the same, later by `d`. -/
structure LaterClock (d : ℚ) (a b : MediaClock) : Prop where
  pts : b.pts = a.pts
  drift : b.pts_drift = sub a.pts_drift (some d)
  last : b.last_updated = a.last_updated + d

/-- **The same state, later by `d`**; before the clocks are set back they may be anything. -/
structure Later (d : ℚ) (s s' : MediaSync2) : Prop where
  clocks : s.resumeAfterPause = false →
    LaterClock d s.audioClock s'.audioClock ∧ LaterClock d s.videoClock s'.videoClock
  audioSpeed : s'.audioClock.speed = s.audioClock.speed
  audioPaused : s'.audioClock.paused = s.audioClock.paused
  videoSpeed : s'.videoClock.speed = s.videoClock.speed
  videoPaused : s'.videoClock.paused = s.videoClock.paused
  max : s'.maxFrameDuration = s.maxFrameDuration
  lastFramePts : s'.lastFramePts = s.lastFramePts
  lastAudioPts : s'.lastAudioPts = s.lastAudioPts
  resume : s'.resumeAfterPause = s.resumeAfterPause

/-- A later clock reads the same, later. -/
theorem LaterClock.getClock {a b : MediaClock} (later : LaterClock d a b)
    (speed : b.speed = a.speed) (paused : b.paused = a.paused) (time : ℚ) :
    b.getClock (time + d) = a.getClock time := by
  unfold MediaClock.getClock
  rw [paused, later.pts, later.drift, later.last, speed]
  split_ifs
  · rfl
  · cases a.pts_drift with
    | none => rfl
    | some drift =>
      simp only [add_some, sub_some, Option.some.injEq]
      ring

/-- Clocks that are set to the same, one later than the other. -/
theorem laterClock_setClock (a b : MediaClock) (pts : Double) (time : ℚ) :
    LaterClock d (a.setClock pts time) (b.setClock pts (time + d)) where
  pts := rfl
  drift := by
    cases pts with
    | none => rfl
    | some pts =>
      simp only [MediaClock.setClock, sub_some, Option.some.injEq]
      ring
  last := rfl

namespace Later

variable {s s' : MediaSync2}

theorem hear (later : Later d s s') (calls : List (Double × ℚ)) :
    Later d (Playing.hear s calls)
      (Playing.hear s' (calls.map fun call => (call.1, call.2 + d))) := by
  induction calls generalizing s s' with
  | nil => exact later
  | cons call calls ih =>
    exact ih
      { later with
        clocks := fun running =>
          ⟨laterClock_setClock s.audioClock s'.audioClock call.1 call.2, (later.clocks running).2⟩
        lastAudioPts := rfl }

/-- **Setting the clocks back makes them the same, later.** -/
theorem resumed (later : Later d s s') (time : ℚ) :
    Later d (s.resume time) (s'.resume (time + d)) ∧ (s.resume time).resumeAfterPause = false := by
  unfold MediaSync2.resume
  rw [later.resume]
  split_ifs with pausing
  · refine ⟨{ later with clocks := fun _ => ?_, resume := rfl }, rfl⟩
    show LaterClock d (s.audioClock.setClock s.lastAudioPts time)
        (s'.audioClock.setClock s'.lastAudioPts (time + d)) ∧
      LaterClock d (s.videoClock.setClock s.lastFramePts time)
        (s'.videoClock.setClock s'.lastFramePts (time + d))
    rw [later.lastAudioPts, later.lastFramePts]
    exact ⟨laterClock_setClock .., laterClock_setClock ..⟩
  · exact ⟨later, Bool.eq_false_iff.mpr pausing⟩

/-- `calculateDelay` sees the difference of the clocks. -/
theorem calculateDelay (later : Later d s s') (running : s.resumeAfterPause = false) (time : ℚ)
    (delay : Double) : s'.calculateDelay (time + d) delay = s.calculateDelay time delay := by
  obtain ⟨audio, video⟩ := later.clocks running
  unfold MediaSync2.calculateDelay MediaSync2.getMasterClock
  rw [audio.getClock later.audioSpeed later.audioPaused,
    video.getClock later.videoSpeed later.videoPaused, later.max]

theorem present (later : Later d s s') (running : s.resumeAfterPause = false) (frame : XData)
    (time : ℚ) : Later d (s.present frame time) (s'.present frame (time + d)) :=
  { later with
    clocks := fun _ => ⟨(later.clocks running).1, laterClock_setClock ..⟩
    lastFramePts := rfl }

end Later

/-- The iteration with its callbacks later by `d`. -/
def Iteration.later (d : ℚ) (it : Iteration) : Iteration :=
  { it with
    heard := it.heard.map fun call => (call.1, call.2 + d)
    heardLater := it.heardLater.map fun call => (call.1, call.2 + d) }

/-- The same state of the loop, later. -/
structure LaterPlaying (d : ℚ) (p p' : Playing) : Prop where
  sync : Later d p.sync p'.sync
  now : p'.now = p.now + d

namespace LaterPlaying

variable {p p' : Playing} (later : LaterPlaying d p p') (it : Iteration)

include later

theorem looked : p'.looked (it.later d) = p.looked it + d := by
  show p'.now + it.before = p.now + it.before + d
  rw [later.now]
  ring

theorem atLook : Later d (p.atLook it) (p'.atLook (it.later d)) ∧
    (p.atLook it).resumeAfterPause = false := by
  unfold Playing.atLook
  rw [later.looked it]
  exact (later.sync.hear it.heard).resumed (p.looked it)

/-- **The iteration waits as long.** -/
theorem slept : p'.slept (it.later d) = p.slept it := by
  obtain ⟨look, running⟩ := later.atLook it
  have duration : p'.lastDuration (it.later d) = p.lastDuration it := by
    unfold Playing.lastDuration
    rw [look.lastFramePts]
    rfl
  unfold Playing.slept
  rw [duration, later.looked it, look.calculateDelay running]

/-- **The iteration leaves the same state, later.** -/
theorem iterate : LaterPlaying d (p.iterate it) (p'.iterate (it.later d)) := by
  obtain ⟨look, running⟩ := later.atLook it
  have time : p'.looked (it.later d) + p'.slept (it.later d) + (it.later d).after =
      p.looked it + p.slept it + it.after + d := by
    rw [later.looked it, later.slept it]
    show p.looked it + d + p.slept it + it.after = _
    ring
  refine ⟨?_, time⟩
  have kept : (Playing.hear (p.atLook it) it.heardLater).resumeAfterPause = false :=
    (Playing.hear_frame _ _).2.2.2.trans running
  have shows := (look.hear it.heardLater).present kept it.frame
    (p.looked it + p.slept it + it.after)
  rw [← time] at shows
  exact shows

end LaterPlaying

/-! ### The loop in both runs -/

/-- **The same loop, later**: its state, and what is to come. -/
structure LaterLoop (d : ℚ) (l l' : VideoLoop) : Prop where
  playing : LaterPlaying d l.playing l'.playing
  frames : l'.frames = l.frames.map fun f => (f.1 + d, f.2)
  calls : l'.calls = l.calls.map fun call => (call.1, call.2 + d)

theorem heard_later (calls : List (Double × ℚ)) (time : ℚ) :
    VideoLoop.heard (calls.map fun call => (call.1, call.2 + d)) (time + d) =
      (VideoLoop.heard calls time).map fun call => (call.1, call.2 + d) := by
  unfold VideoLoop.heard
  rw [List.takeWhile_map]
  refine congrArg _ (congrArg (List.takeWhile · calls) (funext fun call => ?_))
  exact decide_eq_decide.mpr (add_le_add_iff_right d)

theorem unheard_later (calls : List (Double × ℚ)) (time : ℚ) :
    VideoLoop.unheard (calls.map fun call => (call.1, call.2 + d)) (time + d) =
      (VideoLoop.unheard calls time).map fun call => (call.1, call.2 + d) := by
  unfold VideoLoop.unheard
  rw [List.dropWhile_map]
  refine congrArg _ (congrArg (List.dropWhile · calls) (funext fun call => ?_))
  exact decide_eq_decide.mpr (add_le_add_iff_right d)

namespace LaterLoop

variable {l l' : VideoLoop} (later : LaterLoop d l l')

include later

theorem shown : l'.shown = l.shown := by
  unfold VideoLoop.shown
  rw [later.frames, later.playing.now]
  cases l.frames with
  | nil => rfl
  | cons f frames =>
    refine if_congr ?_ rfl rfl
    exact and_congr_left' (add_le_add_iff_right d)

theorem looking (p : Pass) (frame : XData) :
    l'.looking p frame = (l.looking p frame).later d := by
  unfold VideoLoop.looking Iteration.later
  rw [later.calls, later.playing.now, add_right_comm, heard_later]
  rfl

theorem ending (p : Pass) (frame : XData) : l'.ending p frame = l.ending p frame + d := by
  unfold VideoLoop.ending
  rw [later.looking, later.playing.slept, later.playing.now]
  ring

theorem showing (p : Pass) (frame : XData) :
    l'.showing p frame = (l.showing p frame).later d := by
  unfold VideoLoop.showing
  rw [later.looking, later.ending, later.calls, later.playing.now, add_right_comm, unheard_later,
    heard_later]
  rfl

/-- **The step lemma**: a pass waits as long, and leaves the same loop, later. -/
theorem pass (p : Pass) :
    (l'.pass p).1 = (l.pass p).1 ∧ LaterLoop d (l.pass p).2 (l'.pass p).2 := by
  unfold VideoLoop.pass
  rw [later.shown]
  cases l.shown with
  | none =>
    refine ⟨rfl, ⟨later.playing.sync, ?_⟩, later.frames, later.calls⟩
    show l'.playing.now + 5 / 1000 + p.before = l.playing.now + 5 / 1000 + p.before + d
    rw [later.playing.now]
    ring
  | some frame =>
    simp only [later.showing, later.ending]
    refine ⟨later.playing.slept _, later.playing.iterate _, ?_, ?_⟩
    · rw [later.frames, List.map_tail]
    · show VideoLoop.unheard (VideoLoop.unheard l'.calls (l'.playing.now + p.before)) _ = _
      rw [later.calls, later.playing.now, add_right_comm, unheard_later, unheard_later]

/-- **The run lemma.** -/
theorem waits (passes : List Pass) : l'.waits passes = l.waits passes := by
  induction passes generalizing l l' with
  | nil => rfl
  | cons p passes ih =>
    obtain ⟨wait, rest⟩ := later.pass p
    exact congrArg₂ List.cons wait (ih rest)

end LaterLoop

/-! ### The pause -/

/-- The state after a pause: at least one pass saw it, and then some passes found no frame. -/
def Playing.paused (p : Playing) (first : ℚ) (naps polls : List ℚ) : Playing :=
  polls.foldl Playing.poll (naps.foldl Playing.nap (p.nap first))

theorem nap_sync (p : Playing) (first : ℚ) (naps : List ℚ) :
    (naps.foldl Playing.nap (p.nap first)).sync = { p.sync with resumeAfterPause := true } := by
  induction naps generalizing p first with
  | nil => rfl
  | cons nap naps ih => exact ih (p.nap first) nap

theorem poll_sync (p : Playing) (polls : List ℚ) :
    (polls.foldl Playing.poll p).sync = p.sync := by
  induction polls generalizing p with
  | nil => rfl
  | cons poll polls ih => exact ih (p.poll poll)

/-- **A pause leaves the time and the mark that it was.** -/
theorem paused_sync (p : Playing) (first : ℚ) (naps polls : List ℚ) :
    (p.paused first naps polls).sync = { p.sync with resumeAfterPause := true } :=
  (poll_sync _ polls).trans (nap_sync p first naps)

/-- A loop that is to set its clocks back is the same at any other time. -/
theorem laterLoop_around {p p' : Playing} (same : p'.sync = p.sync)
    (pausing : p.sync.resumeAfterPause = true) (frames : List (ℚ × XData))
    (calls : List (Double × ℚ)) :
    LaterLoop (p'.now - p.now) (.around p frames calls) (.around p' frames calls) where
  playing :=
    { now := by
        show p'.now = p.now + (p'.now - p.now)
        ring
      sync := by
        show Later _ p.sync p'.sync
        rw [same]
        exact ⟨fun running => (nomatch pausing.symm.trans running), rfl, rfl, rfl, rfl, rfl, rfl,
          rfl, rfl⟩ }
  frames := by
    show frames.map _ = (frames.map _).map _
    rw [List.map_map]
    refine congrArg (List.map · frames) (funext fun f => Prod.ext ?_ rfl)
    show f.1 + p'.now = f.1 + p.now + (p'.now - p.now)
    ring
  calls := by
    show calls.map _ = (calls.map _).map _
    rw [List.map_map]
    refine congrArg (List.map · calls) (funext fun call => Prod.ext rfl ?_)
    show call.2 + p'.now = call.2 + p.now + (p'.now - p.now)
    ring

/-- **The waits after a pause do not depend on its length**, computed without rounding: two pauses
that begin in the same state are followed by the same waits, for the same frames and callbacks
relative to the pass in which the loop goes on. -/
theorem pauseLength_waits (p : Playing) (first first' : ℚ) (naps naps' polls polls' : List ℚ)
    (frames : List (ℚ × XData)) (calls : List (Double × ℚ)) (passes : List Pass) :
    (VideoLoop.around (p.paused first' naps' polls') frames calls).waits passes =
      (VideoLoop.around (p.paused first naps polls) frames calls).waits passes := by
  refine (laterLoop_around ?_ ?_ frames calls).waits passes
  · rw [paused_sync, paused_sync]
  · rw [paused_sync]

/-- The frame of pts 2 was shown last, the samples of pts 2.1 were heard last. -/
def atTwo : Playing where
  sync :=
    { MediaSync2.new 0 with
      lastFramePts := some 2
      lastAudioPts := some (Lib.binary64 (21 / 10)) }
  now := 0

/-- The frame of pts 2.2 is there when the loop goes on. -/
def nextFrame : List (ℚ × XData) :=
  [(0, { XData.init with pts := some (Lib.binary64 (22 / 10)), size := 1 })]

/-- **In `double`s the length of a pause is felt**: after a pause of half a second the loop waits
100 ms for the next frame, after one of six and a half seconds 200 ms. -/
theorem pauseLength_felt :
    Rounded.waits Lib.binary64 (.around (atTwo.paused 0 [] []) nextFrame []) [⟨0, 0⟩] =
        [100 / 1000] ∧
      Rounded.waits Lib.binary64 (.around (atTwo.paused 0 (List.replicate 12 0) []) nextFrame [])
        [⟨0, 0⟩] = [200 / 1000] := by
  constructor <;> decide +kernel

end Xplay
