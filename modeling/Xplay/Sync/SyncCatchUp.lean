/-
**A/V sync catches up.**

`calculateDelay` does more than keep the offset of the clocks bounded. As long as every iteration of
`videoPlay` leaves some time of its frame unused (`Headroom`), an iteration takes that much off an
offset that is too large (`abs_residual_catchUp`): the offset falls at least linearly, whatever the
frames' durations, until it is small, and it stays small (`videoPlay_catchesUp`).
-/

import Xplay.Sync.SyncBound

namespace Xplay

open Lib Double

namespace SyncBound

/-- **One iteration with headroom catches up**, or leaves the offset small. -/
theorem abs_residual_catchUp {diff d e E headroom : ℚ} (near : |diff| < 10) (nonneg : 0 ≤ e)
    (spare : 0 ≤ headroom) (budget : e ≤ E) (long : headroom + 1 / 1000 ≤ d)
    (room : e + headroom ≤ d) :
    |residual diff d - e| ≤ max (|diff| - headroom) (101 / 1000 + E) := by
  have least := threshold_min d
  have most := threshold_max d
  have small : ∀ x : ℚ, -(101 / 1000 + E) ≤ x → x ≤ 101 / 1000 + E →
      |x| ≤ max (|diff| - headroom) (101 / 1000 + E) := fun x low high =>
    le_max_of_le_right (abs_le.mpr ⟨low, high⟩)
  cases residual_cases near (show 0 < d by linarith) with
  | inside within low high =>
    obtain ⟨above, below⟩ := abs_lt.mp within
    exact small _ (by linarith) (by linarith)
  | levelled beyond low high => exact small _ (by linarith) (by linarith)
  | late late most' eq =>
    -- the video is late by more than a frame, which is shown at once
    refine le_max_of_le_left ?_
    rw [eq, abs_of_nonpos (show diff ≤ 0 by linarith), abs_of_nonpos (by linarith)]
    linarith
  | early early short low high =>
    -- the frame is shown twice as long, up to the truncated millisecond
    rcases le_or_gt 0 (residual diff d - e) with above | below
    · refine le_max_of_le_left ?_
      rw [abs_of_nonneg above, abs_of_nonneg (show 0 ≤ diff by linarith)]
      linarith
    · exact small _ (by linarith) (by linarith)

/-- The iteration leaves `headroom` of its frame's duration unused, and the truncated millisecond. -/
def Headroom (headroom : ℚ) (p : Playing) (it : Iteration) : Prop :=
  ∀ d, p.lastDuration it = some d → headroom + 1 / 1000 ≤ d ∧ it.before + it.after + headroom ≤ d

/-- **The offset falls at least linearly until it is small, and stays small**: after `n` iterations with
headroom it is at most the first one less `n` times the headroom, or `0.101 + E`. -/
def CatchesUp (E audio headroom : ℚ) (p₀ : Playing) : Prop :=
  ∀ its p, system.Guarded (fun p it => Admissible E audio p it ∧ Headroom headroom p it) p₀ its →
    system.run p₀ its = some p →
      ∃ diff₀ diff, p₀.offset = some diff₀ ∧ p.offset = some diff ∧
        |diff| ≤ max (|diff₀| - its.length * headroom) (101 / 1000 + E)

/-- **The run lemma.** -/
theorem synced_catchUp {E audio diff₀ headroom : ℚ} {p₀ p : Playing} {its : List Iteration}
    (small : E ≤ 1) (spare : 0 ≤ headroom) (synced : Synced audio diff₀ p₀) (near : |diff₀| < 10)
    (guarded : system.Guarded (fun p it => Admissible E audio p it ∧ Headroom headroom p it) p₀ its)
    (run : system.run p₀ its = some p) :
    ∃ diff, Synced audio diff p ∧
      |diff| ≤ max (|diff₀| - its.length * headroom) (101 / 1000 + E) := by
  induction its generalizing p₀ diff₀ with
  | nil =>
    cases run
    exact ⟨diff₀, synced, le_max_of_le_left (by simp)⟩
  | cons it its ih =>
    obtain ⟨p₁, step, rest⟩ := system.run_cons_eq_some.mp run
    obtain ⟨⟨admissible, headroomed⟩, later⟩ := guarded.cons step
    cases step
    obtain ⟨d, duration, -, budget⟩ := admissible.frame
    obtain ⟨long, room⟩ := headroomed d duration
    have nonneg : 0 ≤ it.before + it.after := add_nonneg admissible.before admissible.after
    have first := abs_residual_catchUp near nonneg spare (budget.trans (min_le_right _ _)) long room
    have near' : |residual diff₀ d - (it.before + it.after)| < 10 :=
      first.trans_lt (max_lt (by linarith) (by linarith))
    obtain ⟨diff, synced', bound⟩ := ih (synced.iterate admissible duration) near' later rest
    refine ⟨diff, synced', bound.trans (max_le ?_ (le_max_right _ _))⟩
    have count : (0 : ℚ) ≤ its.length * headroom := mul_nonneg (Nat.cast_nonneg _) spare
    rw [List.length_cons, Nat.cast_succ, add_mul, one_mul]
    rcases le_max_iff.mp first with falls | low
    · exact le_max_of_le_left (by linarith)
    · exact le_max_of_le_right (by linarith)

end SyncBound

end Xplay
