/-
**A/V sync stays bounded.**

With both clocks steady, one iteration of `videoPlay` maps the offset `diff` to
`diff + d - w - e`: the video clock is set `d` further than where it was set last, while the audio
clock advances by the sleep `w` and the time `e` outside it.

`corrected` is what `calculateDelay` computes then, and `residual_cases` says what each of its
branches leaves of the offset before `e` is taken off: it never overshoots by more than the
truncated millisecond. The bound on every iteration and the strict decrease both follow from it.
-/

import Xplay.Lib.System
import Xplay.Sync.MediaClock

namespace Xplay

open Lib Double

namespace SyncBound

/-! ### The correction as a function of offset and duration -/

/-- `sync_threshold`. -/
def threshold (d : ℚ) : ℚ := max AV_SYNC_THRESHOLD_MIN (min AV_SYNC_THRESHOLD_MAX d)

/-- The delay for a frame of duration `d` when the clocks are `diff` apart. -/
def corrected (diff d : ℚ) : ℚ :=
  if |diff| < 10 then
    if diff ≤ -threshold d then max 0 (d + diff)
    else if threshold d ≤ diff ∧ AV_SYNC_FRAMEDUP_THRESHOLD < d then d + diff
    else if threshold d ≤ diff then 2 * d
    else d
  else d

/-- The sleep for a frame of duration `d` when the clocks are `diff` apart. -/
def sleep (diff d : ℚ) : ℚ := MediaSync2.sleepTime (some (corrected diff d))

/-- **`calculateDelay` on two set clocks.** -/
theorem calculateDelay_some {s : MediaSync2} {time video audio d : ℚ}
    (videoClock : s.videoClock.getClock time = some video)
    (audioClock : s.audioClock.getClock time = some audio) (ten : s.maxFrameDuration = 10) :
    s.calculateDelay time (some d) = some (corrected (video - audio) d) := by
  unfold MediaSync2.calculateDelay MediaSync2.getMasterClock corrected
  rw [videoClock, audioClock, ten]
  simp only [sub_some, FFMIN_some, FFMAX_some, fabs_some, neg_some, lt_some, le_some, add_some,
    mul_some, Option.isSome_some, Bool.true_and, decide_eq_true_eq, Bool.and_eq_true]
  change (if |video - audio| < 10 then
    if video - audio ≤ -threshold d then some (max 0 (d + (video - audio)))
    else if threshold d ≤ video - audio ∧ AV_SYNC_FRAMEDUP_THRESHOLD < d then
      some (d + (video - audio))
    else if threshold d ≤ video - audio then some (2 * d)
    else some d
  else some d) = _
  split_ifs <;> rfl

theorem sleepTime_of_nonpos {c : ℚ} (late : c ≤ 0) : MediaSync2.sleepTime (some c) = 0 :=
  if_neg (not_lt.mpr late)

/-- The sleep is the positive delay, less what the truncation to milliseconds takes off. -/
theorem sleepTime_of_pos {c : ℚ} (early : 0 < c) :
    MediaSync2.sleepTime (some c) ≤ c ∧ c < MediaSync2.sleepTime (some c) + 1 / 1000 := by
  have below : (⌊c * 1000⌋ : ℚ) ≤ c * 1000 := Int.floor_le _
  have above : c * 1000 < ⌊c * 1000⌋ + 1 := Int.lt_floor_add_one _
  have eq : MediaSync2.sleepTime (some c) = (⌊c * 1000⌋ : ℚ) / 1000 := if_pos early
  rw [eq]
  constructor <;> linarith

theorem threshold_min (d : ℚ) : 4 / 100 ≤ threshold d := le_max_left _ _

theorem threshold_max (d : ℚ) : threshold d ≤ 1 / 10 :=
  max_le (by norm_num [AV_SYNC_THRESHOLD_MIN]) (min_le_left _ _)

/-- A frame too short for the duplication rule is no longer than the threshold. -/
theorem le_threshold {d : ℚ} (short : d ≤ AV_SYNC_FRAMEDUP_THRESHOLD) : d ≤ threshold d :=
  le_max_of_le_right (le_min short le_rfl)

/-- What is left of the offset once the frame is shown, before the time outside the sleep. -/
def residual (diff d : ℚ) : ℚ := diff + d - sleep diff d

/-- **What each branch of the correction leaves of the offset**, up to the truncated millisecond:
all of it below the threshold, nothing, `diff + d` when the video is late by more than a frame, and
`diff - d` when it is early and the frame is short. -/
inductive Residual (diff d : ℚ) : Prop
  | inside (within : |diff| < threshold d) (low : diff ≤ residual diff d)
    (high : residual diff d < diff + 1 / 1000)
  | levelled (beyond : threshold d ≤ |diff|) (low : 0 ≤ residual diff d)
    (high : residual diff d < 1 / 1000)
  | late (beyond : diff ≤ -threshold d) (most : diff + d ≤ 0) (eq : residual diff d = diff + d)
  | early (beyond : threshold d ≤ diff) (short : d ≤ threshold d) (low : diff - d ≤ residual diff d)
    (high : residual diff d < diff - d + 1 / 1000)

theorem residual_cases {diff d : ℚ} (near : |diff| < 10) (positive : 0 < d) : Residual diff d := by
  have least := threshold_min d
  by_cases late : diff ≤ -threshold d
  · have beyond : threshold d ≤ |diff| := by
      rw [abs_of_nonpos (by linarith)]
      linarith
    have delay : corrected diff d = max 0 (d + diff) := by simp only [corrected, near, late, if_true]
    rcases le_or_gt (d + diff) 0 with most | part
    · refine .late late (by linarith) ?_
      rw [residual, sleep, delay, max_eq_left most, sleepTime_of_nonpos le_rfl, sub_zero]
    · obtain ⟨below, above⟩ := sleepTime_of_pos part
      have slept : residual diff d = diff + d - MediaSync2.sleepTime (some (d + diff)) := by
        rw [residual, sleep, delay, max_eq_right part.le]
      exact .levelled beyond (by linarith) (by linarith)
  · by_cases early : threshold d ≤ diff
    · have beyond : threshold d ≤ |diff| := early.trans (le_abs_self diff)
      by_cases long : AV_SYNC_FRAMEDUP_THRESHOLD < d
      · have delay : corrected diff d = d + diff := by
          simp only [corrected, near, late, early, long, and_self, if_true, if_false]
        obtain ⟨below, above⟩ := sleepTime_of_pos (c := d + diff) (by linarith)
        have slept : residual diff d = diff + d - MediaSync2.sleepTime (some (d + diff)) := by
          rw [residual, sleep, delay]
        exact .levelled beyond (by linarith) (by linarith)
      · have delay : corrected diff d = 2 * d := by
          simp only [corrected, near, late, early, long, and_false, if_true, if_false]
        obtain ⟨below, above⟩ := sleepTime_of_pos (c := 2 * d) (by linarith)
        have slept : residual diff d = diff + d - MediaSync2.sleepTime (some (2 * d)) := by
          rw [residual, sleep, delay]
        exact .early early (le_threshold (not_lt.mp long)) (by linarith) (by linarith)
    · have within : |diff| < threshold d := abs_lt.mpr ⟨not_le.mp late, not_le.mp early⟩
      have delay : corrected diff d = d := by
        simp only [corrected, near, late, early, false_and, if_true, if_false]
      obtain ⟨below, above⟩ := sleepTime_of_pos positive
      have slept : residual diff d = diff + d - MediaSync2.sleepTime (some d) := by
        rw [residual, sleep, delay]
      exact .inside within (by linarith) (by linarith)

/-- **One iteration keeps the bound.** -/
theorem abs_residual_le {diff d e E B : ℚ} (near : |diff| < 10) (long : 1 / 1000 ≤ d)
    (nonneg : 0 ≤ e) (atMost : e ≤ min d E) (bound : |diff| ≤ B) (slack : 101 / 1000 + E ≤ B) :
    |residual diff d - e| ≤ B := by
  have most := threshold_max d
  have frame : e ≤ d := atMost.trans (min_le_left _ _)
  have budget : e ≤ E := atMost.trans (min_le_right _ _)
  have least := threshold_min d
  obtain ⟨low, high⟩ := abs_le.mp bound
  rw [abs_le]
  cases residual_cases near (show 0 < d by linarith) with
  | inside within low' high' =>
    obtain ⟨above, below⟩ := abs_lt.mp within
    constructor <;> linarith
  | levelled beyond low' high' => constructor <;> linarith
  | late beyond most' eq => constructor <;> linarith
  | early beyond short low' high' => constructor <;> linarith

/-- **Outside the threshold the offset shrinks**, when no time is lost outside the sleep. -/
theorem abs_residual_lt {diff d : ℚ} (near : |diff| < 10) (long : 1 / 1000 ≤ d)
    (beyond : threshold d ≤ |diff|) : |residual diff d| < |diff| := by
  have least := threshold_min d
  cases residual_cases near (show 0 < d by linarith) with
  | inside within low high => exact absurd beyond (not_le.mpr within)
  | levelled _ low high =>
    rw [abs_of_nonneg low]
    linarith
  | late late most eq =>
    rw [eq, abs_of_nonpos most, abs_of_nonpos (by linarith)]
    linarith
  | early early short low high =>
    have nonneg : 0 ≤ residual diff d := by linarith
    rw [abs_of_nonneg nonneg, abs_of_nonneg (by linarith)]
    linarith

/-! ### One iteration -/

/-- Both clocks are set and steady, the video clock `diff` ahead of the audio clock since the last
frame was shown; the audio clock reads `audio` plus the time. -/
structure Synced (audio diff : ℚ) (p : Playing) : Prop where
  audioClock : p.sync.audioClock.Steady audio
  videoClock : p.sync.videoClock.Steady (audio + diff)
  lastFrame : p.sync.lastFramePts = some (audio + diff + p.now)
  ten : p.sync.maxFrameDuration = 10
  playing : p.sync.resumeAfterPause = false

theorem Synced.offset {audio diff : ℚ} {p : Playing} (synced : Synced audio diff p) :
    p.offset = some diff := by
  unfold Playing.offset
  rw [synced.audioClock.getClock, synced.videoClock.getClock, sub_some]
  congr 1
  ring

/-- What an iteration may be: the frame lasts a millisecond at least, the time spent outside the
sleep is at most the frame's duration and `E`, and the audio plays at real-time rate. -/
structure Admissible (E audio : ℚ) (p : Playing) (it : Iteration) : Prop where
  frame : ∃ d, p.lastDuration it = some d ∧ 1 / 1000 ≤ d ∧ it.before + it.after ≤ min d E
  before : 0 ≤ it.before
  after : 0 ≤ it.after
  heard : ∀ call ∈ it.heard, call.1 = some (audio + call.2)
  heardLater : ∀ call ∈ it.heardLater, call.1 = some (audio + call.2)

/-- **Audio callbacks at real-time rate change no reading.** -/
theorem hear_steady {audio : ℚ} {calls : List (Double × ℚ)}
    (realTime : ∀ call ∈ calls, call.1 = some (audio + call.2)) {s : MediaSync2}
    (steady : s.audioClock.Steady audio) : (Playing.hear s calls).audioClock.Steady audio := by
  induction calls generalizing s with
  | nil => exact steady
  | cons call calls ih =>
    refine ih (fun later member => realTime later (List.mem_cons_of_mem _ member)) ?_
    have reads : call.1 = s.audioClock.getClock call.2 :=
      (realTime call List.mem_cons_self).trans (steady.getClock call.2).symm
    show (s.audioClock.setClock call.1 call.2).Steady audio
    rw [reads]
    exact steady.setClock_self call.2

section Step

variable {E audio diff d : ℚ} {p : Playing} {it : Iteration}

/-- `calculateDelay` finds the clocks as the iteration found them. -/
theorem Synced.atLook (synced : Synced audio diff p) (admissible : Admissible E audio p it) :
    (p.atLook it).audioClock.Steady audio ∧ (p.atLook it).videoClock.Steady (audio + diff) ∧
      (p.atLook it).lastFramePts = some (audio + diff + p.now) ∧
      (p.atLook it).maxFrameDuration = 10 ∧ (p.atLook it).resumeAfterPause = false := by
  obtain ⟨video, last, ten, playing⟩ := Playing.hear_frame p.sync it.heard
  have same : p.atLook it = Playing.hear p.sync it.heard :=
    if_neg (by rw [playing, synced.playing]; exact Bool.false_ne_true)
  rw [same]
  exact ⟨hear_steady admissible.heard synced.audioClock, video ▸ synced.videoClock,
    last.trans synced.lastFrame, ten.trans synced.ten, playing.trans synced.playing⟩

theorem Synced.slept (synced : Synced audio diff p) (admissible : Admissible E audio p it)
    (duration : p.lastDuration it = some d) : p.slept it = sleep diff d := by
  obtain ⟨audioClock, videoClock, -, ten, -⟩ := synced.atLook admissible
  unfold Playing.slept
  rw [duration, calculateDelay_some (videoClock.getClock _) (audioClock.getClock _) ten]
  unfold sleep
  congr 3
  ring

/-- **One iteration maps the offset `diff` to `diff + d - w - e`.** -/
theorem Synced.iterate (synced : Synced audio diff p) (admissible : Admissible E audio p it)
    (duration : p.lastDuration it = some d) :
    Synced audio (residual diff d - (it.before + it.after)) (p.iterate it) := by
  obtain ⟨audioClock, videoClock, last, ten, playing⟩ := synced.atLook admissible
  obtain ⟨video', -, ten', playing'⟩ := Playing.hear_frame (p.atLook it) it.heardLater
  have shown : it.frame.pts = some (audio + diff + p.now + d) := by
    unfold Playing.lastDuration at duration
    rw [last] at duration
    cases pts : it.frame.pts with
    | none =>
      rw [pts] at duration
      cases duration
    | some x =>
      rw [pts, sub_some] at duration
      rw [← Option.some.inj duration]
      congr 1
      ring
  have moved : audio + (residual diff d - (it.before + it.after)) =
      audio + diff + p.now + d - (p.looked it + p.slept it + it.after) := by
    rw [synced.slept admissible duration, residual, Playing.looked]
    ring
  refine ⟨hear_steady admissible.heardLater audioClock, ?_, ?_, ten'.trans ten,
    playing'.trans playing⟩
  · rw [moved]
    unfold Playing.iterate MediaSync2.present
    rw [shown, video']
    exact videoClock.setClock _ _
  · rw [moved]
    exact shown.trans (congrArg some (sub_add_cancel _ _).symm)

end Step

/-! ### Runs -/

/-- `videoPlay`, iteration after iteration. -/
def system : System Playing Iteration := ⟨fun p it => some (p.iterate it)⟩

/-- **The offset stays bounded**: in every sequence of admissible iterations from `p₀`

* an iteration maps the offset to itself plus the frame's duration, less the sleep and the time
  outside it;
* the offset never exceeds the larger of the first one and `0.101 + E`;
* it shrinks in every iteration that loses no time outside the sleep and finds it at or above the
  threshold. -/
structure StaysBounded (E audio : ℚ) (p₀ : Playing) : Prop where
  maps : ∀ its p it, system.Guarded (Admissible E audio) p₀ its → system.run p₀ its = some p →
    Admissible E audio p it → ∃ diff d, p.offset = some diff ∧ p.lastDuration it = some d ∧
      (p.iterate it).offset = some (diff + d - p.slept it - (it.before + it.after))
  bounded : ∀ its p, system.Guarded (Admissible E audio) p₀ its → system.run p₀ its = some p →
    ∃ diff₀ diff, p₀.offset = some diff₀ ∧ p.offset = some diff ∧
      |diff| ≤ max |diff₀| (101 / 1000 + E)
  shrinks : ∀ its p it, system.Guarded (Admissible E audio) p₀ its → system.run p₀ its = some p →
    Admissible E audio p it → it.before + it.after = 0 →
      ∃ diff d diff', p.offset = some diff ∧ p.lastDuration it = some d ∧
        (p.iterate it).offset = some diff' ∧ (threshold d ≤ |diff| → |diff'| < |diff|)

/-- **The run lemma.** -/
theorem synced_run {E audio diff₀ : ℚ} {p₀ p : Playing} {its : List Iteration} (small : E ≤ 1)
    (synced : Synced audio diff₀ p₀) (near : |diff₀| < 10)
    (guarded : system.Guarded (Admissible E audio) p₀ its) (run : system.run p₀ its = some p) :
    ∃ diff, Synced audio diff p ∧ |diff| ≤ max |diff₀| (101 / 1000 + E) := by
  have ten : max |diff₀| (101 / 1000 + E) < 10 := max_lt near (by linarith)
  refine System.invariant_guarded
    (I := fun p => ∃ diff, Synced audio diff p ∧ |diff| ≤ max |diff₀| (101 / 1000 + E))
    ?_ guarded run ⟨diff₀, synced, le_max_left _ _⟩
  rintro p it p' ⟨diff, synced, bound⟩ admissible step
  cases step
  obtain ⟨d, duration, long, budget⟩ := admissible.frame
  have nonneg : 0 ≤ it.before + it.after := add_nonneg admissible.before admissible.after
  exact ⟨_, synced.iterate admissible duration,
    abs_residual_le (bound.trans_lt ten) long nonneg budget bound (le_max_right _ _)⟩

/-- **A/V sync stays bounded.** -/
theorem videoPlay_staysBounded (E audio diff₀ : ℚ) (p₀ : Playing) (small : E ≤ 1)
    (synced : Synced audio diff₀ p₀) (near : |diff₀| < 10) : StaysBounded E audio p₀ where
  maps its p it guarded run admissible := by
    obtain ⟨diff, synced', -⟩ := synced_run small synced near guarded run
    obtain ⟨d, duration, -⟩ := admissible.frame
    refine ⟨diff, d, synced'.offset, duration, ?_⟩
    rw [(synced'.iterate admissible duration).offset, synced'.slept admissible duration, residual]
  bounded its p guarded run := by
    obtain ⟨diff, synced', bound⟩ := synced_run small synced near guarded run
    exact ⟨diff₀, diff, synced.offset, synced'.offset, bound⟩
  shrinks its p it guarded run admissible lossless := by
    obtain ⟨diff, synced', bound⟩ := synced_run small synced near guarded run
    obtain ⟨d, duration, long, -⟩ := admissible.frame
    refine ⟨diff, d, _, synced'.offset, duration, (synced'.iterate admissible duration).offset,
      fun beyond => ?_⟩
    have ten : max |diff₀| (101 / 1000 + E) < 10 := max_lt near (by linarith)
    rw [lossless, sub_zero]
    exact abs_residual_lt (bound.trans_lt ten) long beyond

/-- A player whose first frame was shown 50 ms after its sound. -/
def lateStart : Playing where
  sync :=
    { MediaSync2.new 0 with
      audioClock := (MediaClock.init 0).setClock (some (1 / 20)) 0
      videoClock := (MediaClock.init 0).setClock (some 0) 0 }
  now := 0

theorem lateStart_staysBounded : StaysBounded 1 (1 / 20) lateStart :=
  videoPlay_staysBounded 1 (1 / 20) (-1 / 20) lateStart le_rfl
    { audioClock := ⟨rfl, rfl, by simp [lateStart, MediaClock.setClock]⟩
      videoClock := ⟨rfl, rfl, by norm_num [lateStart, MediaClock.setClock]⟩
      lastFrame := by norm_num [lateStart, MediaSync2.new]
      ten := rfl
      playing := rfl }
    (by norm_num [abs_lt])

end SyncBound

end Xplay
