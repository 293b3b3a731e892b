/-
**Monitors whose waits may end by themselves, and threads that get on without help.**

A condition variable may release a waiter that nobody notified: `Event.spurious` is that step, next
to the steps of `Lib.Monitor`.

* `Program.SpuriousStep` — what an event can do; `exclusive_spurious` — mutual exclusion is kept.
* `Weighs` — a weight of the locations that every step of a thread lowers as long as it is positive;
  a thread that waits, or was notified, weighs more than where it resumes.
* `Weighs.able` — a thread that does not wait can step, or the owner of the mutex can.
* `Weighs.release` — **the release rule**: if a thread `t` or its helper `u` or the owner can always
  step until `t` is done, the steps of the threads alone bring `t` to its end.
-/

import Xplay.Lib.Monitor
import Mathlib.Tactic.Ring

set_option linter.unusedSectionVars false

namespace Xplay.Lib.Monitor

variable {Shared Cond Loc Tid : Type*}

/-- A label of the program, or the end of a wait that nobody notified. -/
inductive Event (Loc Tid : Type*)
  | act (l : Label Loc Tid)
  | spurious (t : Tid)

/-- A step of a thread that is in a call. -/
def Label.Internal : Label Loc Tid → Prop
  | .call _ _ => False
  | .step _ => True

namespace Program

variable [DecidableEq Cond] [DecidableEq Tid] (prog : Program Shared Cond Loc)

/-- The state after an event, `none` when it is not enabled. -/
def nextSpurious (s : State Shared Cond Loc Tid) :
    Event Loc Tid → Option (State Shared Cond Loc Tid)
  | .act l => prog.next s l
  | .spurious t =>
    match s.thread t with
    | .waiting _ resume => some { s with thread := Function.update s.thread t (.relocking resume) }
    | _ => none

/-- The monitor with spurious wake-ups as a transition system. -/
def spuriousSystem (Tid : Type*) [DecidableEq Tid] :
    System (State Shared Cond Loc Tid) (Event Loc Tid) where
  next := prog.nextSpurious

/-- **What an event can do.** -/
inductive SpuriousStep (s : State Shared Cond Loc Tid) :
    Event Loc Tid → State Shared Cond Loc Tid → Prop
  | act {l s'} (step : prog.Step s l s') : SpuriousStep s (.act l) s'
  | spurious {t cond resume} (here : s.thread t = .waiting cond resume) :
      SpuriousStep s (.spurious t)
        { s with thread := Function.update s.thread t (.relocking resume) }

variable {prog}

theorem spuriousStep_of_next {s s' : State Shared Cond Loc Tid} {e : Event Loc Tid}
    (enabled : prog.nextSpurious s e = some s') : prog.SpuriousStep s e s' := by
  cases e with
  | act l => exact .act (step_of_next enabled)
  | spurious t =>
    simp only [nextSpurious] at enabled
    split at enabled
    case h_1 cond resume here =>
      cases enabled
      exact .spurious here
    case h_2 => cases enabled

section Woken

variable {s : State Shared Cond Loc Tid} {t : Tid} {cond : Cond} {resume : Loc}

/-- A spurious wake-up leaves every thread that stands at a location where it is. -/
theorem running_spurious (here : s.thread t = .waiting cond resume) {u : Tid} {loc : Loc} :
    Function.update s.thread t (.relocking resume) u = .running loc ↔
      s.thread u = .running loc := by
  by_cases self : u = t
  · subst self
    rw [Function.update_self, here]
    exact ⟨nofun, nofun⟩
  · rw [Function.update_of_ne self]

/-- A spurious wake-up puts no thread into a wait set. -/
theorem waiting_spurious {u : Tid} {c : Cond} {n : Loc}
    (waits : Function.update s.thread t (.relocking resume) u = .waiting c n) :
    s.thread u = .waiting c n := by
  by_cases self : u = t
  · subst self
    cases (Function.update_self ..).symm.trans waits
  · rwa [Function.update_of_ne self] at waits

/-- A spurious wake-up keeps mutual exclusion. -/
theorem exclusive_spurious (exclusive : prog.Exclusive s)
    (here : s.thread t = .waiting cond resume) :
    prog.Exclusive { s with thread := Function.update s.thread t (.relocking resume) } where
  owner u := by
    refine (exclusive.owner u).trans (exists_congr fun loc => and_congr_left fun _ => ?_)
    exact (running_spurious here).symm
  resumes := by
    have mine := exclusive.resumes t
    rw [here] at mine
    exact resumesAt_update exclusive.resumes mine

end Woken

/-- A thread that leaves a location at which it makes no call takes its step. -/
theorem Step.eq_step {s s' : State Shared Cond Loc Tid} {l : Label Loc Tid}
    (step : prog.Step s l s') {t : Tid} {loc : Loc} (here : s.thread t = .running loc)
    (busy : ∀ next, prog.entry loc next = false) (moved : s'.thread t ≠ .running loc) :
    l = .step t := by
  have self : t = l.actor := by
    by_contra other
    exact moved ((step.running_other other).mpr here)
  subst self
  exact step.acts here busy

/-- A step at a notification, unless it is another thread's, leaves its wait set empty. -/
theorem Step.notified {s s' : State Shared Cond Loc Tid} {l : Label Loc Tid}
    (step : prog.Step s l s') {t : Tid} {loc n : Loc} {cond : Cond}
    (here : s.thread t = .running loc) (act : prog.instr s.shared loc = .notifyAll cond n)
    (busy : ∀ next, prog.entry loc next = false) :
    s'.thread t = .running loc ∨ ∀ u resume, s'.thread u ≠ .waiting cond resume := by
  by_cases self : t = l.actor
  · subst self
    cases step with
    | call there entry =>
      cases here.symm.trans there
      rw [busy] at entry
      cases entry
    | relock there free => cases here.symm.trans there
    | @notifyAll v loc' cond' n' there act' =>
      cases here.symm.trans there
      cases act.symm.trans act'
      refine Or.inr fun u resume waits => ?_
      by_cases same : u = v
      · simp [same] at waits
      · simp only [Function.update_of_ne same, wake_eq_waiting] at waits
        exact waits.2 rfl
    | lock there act' =>
      cases here.symm.trans there
      cases act.symm.trans act'
    | unlock there act' =>
      cases here.symm.trans there
      cases act.symm.trans act'
    | wait there act' =>
      cases here.symm.trans there
      cases act.symm.trans act'
    | access there act' =>
      cases here.symm.trans there
      cases act.symm.trans act'
  · exact Or.inl ((step.running_other self).mpr here)

end Program

/-! ### Weights -/

/-- What is left of the call of a thread, given what is left of it at every location. -/
def Status.weight (weight : Loc → Nat) : Status Cond Loc → Nat
  | .running loc => weight loc
  | .relocking resume => weight resume + 1
  | .waiting _ resume => weight resume + 2

theorem weight_wake [DecidableEq Cond] (weight : Loc → Nat) (cond : Cond)
    (status : Status Cond Loc) : (wake cond status).weight weight ≤ status.weight weight := by
  cases status with
  | running loc => exact Nat.le_refl _
  | waiting c resume =>
    simp only [wake]
    split_ifs
    · exact Nat.le_succ _
    · exact Nat.le_refl _
  | relocking resume => exact Nat.le_refl _

/-- **A weight of the locations**: a location of positive weight has an action, and every action
leads to a lower weight. -/
structure Weighs (prog : Program Shared Cond Loc) (weight : Loc → Nat) : Prop where
  acts : ∀ {loc}, 0 < weight loc → ∀ shared, prog.instr shared loc ≠ .halt
  lock : ∀ {shared loc n}, prog.instr shared loc = .lock n → 0 < weight loc →
    weight n < weight loc
  unlock : ∀ {shared loc n}, prog.instr shared loc = .unlock n → 0 < weight loc →
    weight n < weight loc
  wait : ∀ {shared loc cond n}, prog.instr shared loc = .wait cond n → 0 < weight loc →
    weight n + 2 < weight loc
  notifyAll : ∀ {shared loc cond n}, prog.instr shared loc = .notifyAll cond n → 0 < weight loc →
    weight n < weight loc
  access : ∀ {shared loc shared' n}, prog.instr shared loc = .access shared' n → 0 < weight loc →
    weight n < weight loc

namespace Weighs

variable [DecidableEq Cond] [DecidableEq Tid] {prog : Program Shared Cond Loc} {weight : Loc → Nat}
variable {s s' : State Shared Cond Loc Tid}

/-- A thread that steps gets lighter. -/
theorem own (weighs : Weighs prog weight) {t : Tid} (step : prog.Step s (.step t) s')
    (heavy : 0 < (s.thread t).weight weight) :
    (s'.thread t).weight weight < (s.thread t).weight weight := by
  have moves := step.moves
  simp only [Label.actor] at moves
  generalize s.thread t = before, s'.thread t = after, s'.shared = shared at moves heavy
  cases moves with
  | relock => exact Nat.lt_succ_self _
  | lock act => exact weighs.lock act heavy
  | unlock act => exact weighs.unlock act heavy
  | wait act => exact weighs.wait act heavy
  | notifyAll act => exact weighs.notifyAll act heavy
  | access act => exact weighs.access act heavy

variable (weight) in
/-- No thread gets heavier by the step of another. -/
theorem other {t u : Tid} (step : prog.Step s (.step t) s') (other : u ≠ t) :
    (s'.thread u).weight weight ≤ (s.thread u).weight weight := by
  rcases step.other other with same | ⟨loc, cond, n, -, -, -, woken⟩
  · rw [same]
  · rw [woken]
    exact weight_wake weight cond _

variable (weight) in
/-- What is left of the calls of two threads, and of the critical section of the owner. -/
def load (bound : Nat) (t u : Tid) (s : State Shared Cond Loc Tid) : Nat :=
  bound * ((s.thread t).weight weight + (s.thread u).weight weight) +
    s.owner.elim 0 fun o => (s.thread o).weight weight

/-- After a step of its owner the mutex is still owned by it, or free. -/
theorem owner_step {o : Tid} (step : prog.Step s (.step o) s') (owns : s.owner = some o) :
    s'.owner = some o ∨ s'.owner = none := by
  cases step with
  | relock here free => cases owns.symm.trans free
  | lock here act free => cases owns.symm.trans free
  | unlock here act => exact Or.inr rfl
  | wait here act => exact Or.inr rfl
  | notifyAll here act => exact Or.inl owns
  | access here act => exact Or.inl owns

/-- **A step of one of the two threads, or of the owner, lowers the load.** -/
theorem load_step (weighs : Weighs prog weight) {bound : Nat}
    (bounded : ∀ status : Status Cond Loc, status.weight weight < bound) {t u y : Tid}
    (step : prog.Step s (.step y) s') (heavy : 0 < (s.thread y).weight weight)
    (who : y = t ∨ y = u ∨ s.owner = some y) :
    load weight bound t u s' < load weight bound t u s := by
  have notHeavier (v : Tid) : (s'.thread v).weight weight ≤ (s.thread v).weight weight := by
    by_cases self : v = y
    · rw [self]
      exact (weighs.own step heavy).le
    · exact other weight step self
  have lower : ∀ a b : Nat, a < b →
      bound * a + (s'.owner.elim 0 fun o => (s'.thread o).weight weight) <
        bound * b + s.owner.elim 0 fun o => (s.thread o).weight weight := by
    intro a b less
    have small : (s'.owner.elim 0 fun o => (s'.thread o).weight weight) < bound := by
      cases s'.owner with
      | none => exact Nat.lt_of_le_of_lt (Nat.zero_le _) (bounded (s.thread y))
      | some o => exact bounded _
    calc bound * a + _ < bound * a + bound := Nat.add_lt_add_left small _
      _ = bound * (a + 1) := (Nat.mul_succ bound a).symm
      _ ≤ bound * b := Nat.mul_le_mul_left bound less
      _ ≤ _ := Nat.le_add_right _ _
  rcases who with rfl | rfl | owns
  · exact lower _ _ (Nat.add_lt_add_of_lt_of_le (weighs.own step heavy) (notHeavier u))
  · exact lower _ _ (Nat.add_lt_add_of_le_of_lt (notHeavier t) (weighs.own step heavy))
  · refine Nat.add_lt_add_of_le_of_lt
      (Nat.mul_le_mul_left bound (Nat.add_le_add (notHeavier t) (notHeavier u))) ?_
    rw [owns]
    rcases owner_step step owns with still | free
    · rw [still]
      exact weighs.own step heavy
    · rw [free]
      exact heavy

/-- **A thread that does not wait can step, or the owner of the mutex can.** -/
theorem able (weighs : Weighs prog weight) (lawful : prog.Lawful) (exclusive : prog.Exclusive s)
    (busy : ∀ o, prog.Inside (s.thread o) → 0 < (s.thread o).weight weight) {x : Tid}
    (heavy : 0 < (s.thread x).weight weight) (awake : ∀ cond n, s.thread x ≠ .waiting cond n) :
    ∃ y t, (y = x ∨ s.owner = some y) ∧ 0 < (s.thread y).weight weight ∧
      prog.next s (.step y) = some t := by
  cases owner : s.owner with
  | none =>
    have enabled : ∃ t, prog.next s (.step x) = some t := by
      cases here : s.thread x with
      | waiting cond n => exact absurd here (awake cond n)
      | relocking n => simp [Program.next, here, owner]
      | running loc =>
        rw [here] at heavy
        have acts := weighs.acts heavy s.shared
        cases act : prog.instr s.shared loc with
        | halt => exact absurd act acts
        | _ => simp [Program.next, here, act, owner]
    obtain ⟨t, step⟩ := enabled
    exact ⟨x, t, Or.inl rfl, heavy, step⟩
  | some o =>
    have inner := (exclusive.owner o).mp owner
    have weighty := busy o inner
    obtain ⟨loc, here, inside⟩ := inner
    have enabled : ∃ t, prog.next s (.step o) = some t := by
      rw [here] at weighty
      have acts := weighs.acts weighty s.shared
      cases act : prog.instr s.shared loc with
      | halt => exact absurd act acts
      | lock n =>
        rw [(lawful.lock act).1] at inside
        cases inside
      | _ => simp [Program.next, here, act]
    obtain ⟨t, step⟩ := enabled
    exact ⟨o, t, Or.inr rfl, weighty, step⟩

/-- **The release rule**: when, as long as `t` is not done, `t`, its helper `u` or the owner can
step, the steps of the threads alone bring `t` to its end. -/
theorem release (weighs : Weighs prog weight) {bound : Nat}
    (bounded : ∀ status : Status Cond Loc, status.weight weight < bound) {t u : Tid}
    {I F : State Shared Cond Loc Tid → Prop}
    (kept : ∀ s s' y, I s → ¬ F s → prog.Step s (.step y) s' → I s')
    (moves : ∀ s, I s → ¬ F s → ∃ y s', (y = t ∨ y = u ∨ s.owner = some y) ∧
      0 < (s.thread y).weight weight ∧ prog.next s (.step y) = some s')
    (start : I s) : ∃ s', (prog.system Tid).ReachesBy Label.Internal s s' ∧ F s' := by
  have advances (s : State Shared Cond Loc Tid) (inv : I s) :
      F s ∨ ∃ s', (prog.system Tid).ReachesBy Label.Internal s s' ∧ I s' ∧
        load weight bound t u s' < load weight bound t u s := by
    by_cases final : F s
    · exact Or.inl final
    · obtain ⟨y, s', who, heavy, enabled⟩ := moves s inv final
      have step := Program.step_of_next enabled
      have internal : Label.Internal (.step y : Label Loc Tid) := trivial
      exact Or.inr ⟨s', System.ReachesBy.single internal enabled, kept s s' y inv final step,
        weighs.load_step bounded step heavy who⟩
  obtain ⟨s', reach, -, final⟩ := System.reachesBy_final (load weight bound t u) advances s start
  exact ⟨s', reach, final⟩

end Weighs

end Xplay.Lib.Monitor
