/-
**`MediaClock` under changes of speed.**

`setSpeed` reads the clock, sets it to what it read and then stores the new speed; it takes the time
twice, once in `getClock` and once in `setClock`. What passes between the two is not counted.

* `Since` — the clock stands at `p` at the time `since`, and runs from there.
* `getClock_setSpeeds` — **the closed form**: a reading is the sum of speed times length over the
  intervals between the changes.
* `readings_sorted` — with no negative speed, later readings are not less.
-/

import Xplay.Sync.MediaClock

namespace Xplay

open Double

/-- One call of `setSpeed`: the new speed, and the time in `getClock` and in `setClock`. -/
structure SpeedChange where
  speed : ℚ
  u : ℚ
  v : ℚ

/-- What is done with a clock: changes of speed, and readings. -/
inductive ClockEvent
  | setSpeed (change : SpeedChange)
  | getClock (time : ℚ)

namespace MediaClock

/-- `MediaClock::setSpeed`. -/
def setSpeed (c : MediaClock) (change : SpeedChange) : MediaClock :=
  { c.setClock (c.getClock change.u) change.v with speed := change.speed }

/-- A sequence of changes. -/
def setSpeeds (c : MediaClock) (changes : List SpeedChange) : MediaClock := changes.foldl setSpeed c

/-- The calls that write a clock. -/
inductive Call
  | setClock (pts : Double) (time : ℚ)
  | setSpeed (change : SpeedChange)

def call (c : MediaClock) : Call → MediaClock
  | .setClock pts time => c.setClock pts time
  | .setSpeed change => c.setSpeed change

/-- A clock after the calls since its constructor, which took the time `time`. -/
def after (time : ℚ) (calls : List Call) : MediaClock := calls.foldl call (init time)

/-- The intervals up to a reading at `t`, each with the speed in force and its length. -/
def intervals (speed since : ℚ) : List SpeedChange → ℚ → List (ℚ × ℚ)
  | [], t => [(speed, t - since)]
  | change :: changes, t =>
    (speed, change.u - since) :: intervals change.speed change.v changes t

/-- Speed times length, over all intervals. -/
def passed (intervals : List (ℚ × ℚ)) : ℚ := (intervals.map fun i => i.1 * i.2).sum

/-- The results of the readings among the events. -/
def readings (c : MediaClock) : List ClockEvent → List Double
  | [] => []
  | .setSpeed change :: events => readings (c.setSpeed change) events
  | .getClock time :: events => c.getClock time :: readings c events

/-- The time samples of the events do not decrease, from `since` on. -/
def Ordered (since : ℚ) : List ClockEvent → Prop
  | [] => True
  | .setSpeed change :: events =>
    since ≤ change.u ∧ change.u ≤ change.v ∧ Ordered change.v events
  | .getClock time :: events => since ≤ time ∧ Ordered time events

/-- No event sets a negative speed. -/
def Forward (events : List ClockEvent) : Prop :=
  ∀ change, .setSpeed change ∈ events → 0 ≤ change.speed

/-! ### A clock that was set -/

/-- **The clock stands at `p` at `since`**, and runs from there. -/
structure Since (c : MediaClock) (p since : ℚ) : Prop where
  runs : c.paused = false
  drift : c.pts_drift = some (p - since)
  last : c.last_updated = since

variable {c : MediaClock} {p since : ℚ}

theorem Since.getClock (at_ : c.Since p since) (t : ℚ) :
    c.getClock t = some (p + c.speed * (t - since)) := by
  unfold MediaClock.getClock
  rw [at_.runs, at_.drift, at_.last]
  simp only [Bool.false_eq_true, if_false, add_some, sub_some, Option.some.injEq]
  ring

/-- Nothing stops a clock. -/
theorem call_paused (c : MediaClock) (k : Call) : (c.call k).paused = c.paused := by
  cases k <;> rfl

theorem after_paused (time : ℚ) (calls : List Call) : (after time calls).paused = false := by
  have kept : ∀ c : MediaClock, c.paused = false → (calls.foldl call c).paused = false := by
    induction calls with
    | nil => exact fun _ runs => runs
    | cons k calls ih => exact fun c runs => ih _ ((call_paused c k).trans runs)
  exact kept _ rfl

theorem since_setClock (runs : c.paused = false) (p t : ℚ) : (c.setClock (some p) t).Since p t :=
  ⟨runs, rfl, rfl⟩

/-- **One change**: the clock stands at what was read, from the second time on. -/
theorem Since.setSpeed (at_ : c.Since p since) (change : SpeedChange) :
    (c.setSpeed change).Since (p + c.speed * (change.u - since)) change.v := by
  refine ⟨at_.runs, ?_, rfl⟩
  show sub (c.getClock change.u) (some change.v) = _
  rw [at_.getClock, sub_some]

/-- A change that takes the same time twice does not move the clock. -/
theorem getClock_setSpeed_self (speed u : ℚ) :
    (c.setSpeed ⟨speed, u, u⟩).getClock u = c.getClock u := by
  show (if c.paused then c.getClock u else
    sub (add (sub (c.getClock u) (some u)) (some u)) (some ((u - u) * (1 - speed)))) = _
  split_ifs
  · rfl
  · cases c.getClock u with
    | none => rfl
    | some x =>
      simp only [sub_some, add_some, Option.some.injEq]
      ring

/-- **The closed form.** -/
theorem getClock_setSpeeds (at_ : c.Since p since) (changes : List SpeedChange) (t : ℚ) :
    (c.setSpeeds changes).getClock t =
      some (p + passed (intervals c.speed since changes t)) := by
  induction changes generalizing c p since with
  | nil =>
    refine (at_.getClock t).trans ?_
    simp [passed, intervals]
  | cons change changes ih =>
    refine (ih (at_.setSpeed change)).trans ?_
    simp only [passed, intervals, List.map_cons, List.sum_cons, Option.some.injEq]
    exact add_assoc ..

/-! ### A clock that was set to `NAN` -/

/-- A clock set to `NAN`. -/
structure Unset (c : MediaClock) : Prop where
  runs : c.paused = false
  drift : c.pts_drift = none

theorem Unset.getClock (unset : c.Unset) (t : ℚ) : c.getClock t = none := by
  unfold MediaClock.getClock
  rw [unset.runs, unset.drift]
  rfl

theorem Unset.setSpeed (unset : c.Unset) (change : SpeedChange) : (c.setSpeed change).Unset := by
  refine ⟨unset.runs, ?_⟩
  show sub (c.getClock change.u) (some change.v) = none
  rw [unset.getClock]
  rfl

theorem Unset.setSpeeds (unset : c.Unset) (changes : List SpeedChange) :
    (c.setSpeeds changes).Unset := by
  induction changes generalizing c with
  | nil => exact unset
  | cons change changes ih => exact ih (unset.setSpeed change)

/-! ### Readings in order -/

/-- **The run lemma**: the readings are numbers, in order, and none is less than the clock at
`since`. -/
theorem readings_sorted (at_ : c.Since p since) (forward : 0 ≤ c.speed)
    {events : List ClockEvent} {now : ℚ} (reached : since ≤ now) (ordered : Ordered now events)
    (speeds : Forward events) :
    ∃ rs : List ℚ, c.readings events = rs.map some ∧ rs.Pairwise (· ≤ ·) ∧
      ∀ r ∈ rs, p + c.speed * (now - since) ≤ r := by
  induction events generalizing c p since now with
  | nil => exact ⟨[], rfl, .nil, by rintro _ ⟨⟩⟩
  | cons event events ih =>
    have later : Forward events := fun change member => speeds change (List.mem_cons_of_mem _ member)
    cases event with
    | setSpeed change =>
      obtain ⟨first, second, rest⟩ := ordered
      have speed : 0 ≤ (c.setSpeed change).speed := speeds change List.mem_cons_self
      obtain ⟨rs, same, sorted, least⟩ :=
        ih (at_.setSpeed change) speed (le_refl change.v) rest later
      refine ⟨rs, same, sorted, fun r member => le_trans ?_ (least r member)⟩
      have grown : c.speed * (now - since) ≤ c.speed * (change.u - since) :=
        mul_le_mul_of_nonneg_left (by linarith) forward
      rw [sub_self, mul_zero]
      linarith
    | getClock time =>
      obtain ⟨first, rest⟩ := ordered
      obtain ⟨rs, same, sorted, least⟩ := ih at_ forward (reached.trans first) rest later
      have grown : c.speed * (now - since) ≤ c.speed * (time - since) :=
        mul_le_mul_of_nonneg_left (by linarith) forward
      refine ⟨(p + c.speed * (time - since)) :: rs, ?_, sorted.cons least, ?_⟩
      · show c.getClock time :: c.readings events = _
        rw [at_.getClock, same]
        rfl
      · intro r member
        rcases List.mem_cons.mp member with rfl | inside
        · linarith
        · exact le_trans (by linarith) (least r inside)

/-- **A clock that was set is piecewise linear in the time**, whatever was done with it before; its
readings never decrease while no speed is negative, a change at one instant leaves the reading
there, and a clock set to `NAN` stays so. -/
theorem mediaClock_piecewise (time : ℚ) (calls : List Call) (t₀ : ℚ) :
    (∀ p₀ changes t,
      (((after time calls).setClock (some p₀) t₀).setSpeeds changes).getClock t =
        some (p₀ + passed (intervals (after time calls).speed t₀ changes t))) ∧
    (∀ p₀ events, Ordered t₀ events → 0 ≤ (after time calls).speed → Forward events →
      ∃ rs : List ℚ, ((after time calls).setClock (some p₀) t₀).readings events = rs.map some ∧
        rs.Pairwise (· ≤ ·)) ∧
    (∀ pts changes speed u,
      ((((after time calls).setClock pts t₀).setSpeeds changes).setSpeed ⟨speed, u, u⟩).getClock u =
        (((after time calls).setClock pts t₀).setSpeeds changes).getClock u) ∧
    ∀ changes t, (((after time calls).setClock none t₀).setSpeeds changes).getClock t = none := by
  have runs := after_paused time calls
  refine ⟨fun p₀ changes t => ?_, fun p₀ events ordered forward speeds => ?_,
    fun pts changes speed u => getClock_setSpeed_self speed u, fun changes t => ?_⟩
  · exact getClock_setSpeeds (since_setClock runs p₀ t₀) changes t
  · obtain ⟨rs, same, sorted, -⟩ :=
      readings_sorted (since_setClock runs p₀ t₀) forward (le_refl t₀) ordered speeds
    exact ⟨rs, same, sorted⟩
  · have unset : ((after time calls).setClock none t₀).Unset := ⟨runs, rfl⟩
    exact (unset.setSpeeds changes).getClock t

/-- Set to 5 at time 10, speed 2 from time 12 on, read at 13: two seconds at speed 1, then one at
speed 2. -/
example : ((((init 0).setClock (some 5) 10).setSpeeds [⟨2, 12, 12⟩]).getClock 13) = some 9 := by
  decide +kernel

end MediaClock

end Xplay
