/-
**Unless they are stuck, the calls of `XLooper` return.**

`Settled` says of a thread that it is in no call, and of the loop that it is out of `pop`, or waits
for a message that is yet to be sent. The proof lets a few threads run (`Among`): the loop, the
thread in question, the owner of the looper's mutex and one thread in `quit`. Whoever holds the
queue's mutex steps first, then whoever holds the looper's; when both are free it is the turn of a
nested call of the loop, or of the thread in question (`Among.moves`). Every step lowers `work`, and
none of them corners the loop, so the run ends with the thread settled.
-/

import Xplay.Handler.LooperStuck
import Mathlib.Algebra.BigOperators.Ring.Finset
import Mathlib.Algebra.Order.BigOperators.Group.Finset
import Mathlib.Algebra.Group.Action.Defs

set_option linter.unusedSectionVars false

namespace Xplay.XLooper

open Lib Lib.Locks

variable {Tid : Type} [DecidableEq Tid] {looper : Tid}

/-- Inside `sendMessage` or `quit`. -/
def inCall (loc : Loc) : Bool := before loc || holds .looper loc

/-- Inside `pop`. -/
def inPop : Loc → Bool
  | .queue .popLock | .queue .popQuit | .queue .popEmpty | .queue .popFinished | .queue .popWait
  | .queue (.popNotify _) | .queue (.popUnlock _) | .queue (.popDone _) => true
  | _ => false

/-- The loop waits for a message: there is none, and no `quit` was called. -/
def Resting (looper : Tid) (s : State Tid) : Prop :=
  (∃ n, s.thread looper = .waiting .empty n) ∧ s.shared.queue.queue = [] ∧
    s.shared.isQuit = false

/-- **The thread is in no call**, and the loop not in `pop`, unless it waits for a message. -/
def Settled (looper : Tid) (s : State Tid) (t : Tid) : Prop :=
  inCall (place (s.thread t)) = false ∧
    (t = looper → inPop (place (s.thread t)) = true → Resting looper s)

/-! ### The work left -/

/-- The work left to a thread that is not at the head of the loop. -/
def load : Monitor.Status Queue.Cond Loc → Nat
  | .waiting _ (.queue (.pushQuit _)) => 90
  | .waiting _ _ => 1
  | .relocking (.queue (.pushQuit _)) => 94
  | .relocking _ => 6
  | .running loc =>
    match loc with
    | .writing _ _ => 9
    | .postMessage _ _ _ _ _ => 98
    | .sendMessage _ _ => 97
    | .sendLock _ _ _ => 96
    | .sendQuit _ _ _ => 95
    | .queue (.pushLock _) => 94
    | .queue (.pushQuit _) => 93
    | .queue (.pushFinished _) => 92
    | .queue (.pushSize _) => 91
    | .queue .pushNotify => 40
    | .queue (.pushUnlock _) => 11
    | .queue (.pushDone _) => 10
    | .sendUnlock => 9
    | .quitLock => 73
    | .quitFlag => 72
    | .queue .quitStore => 71
    | .queue .quitEmpty => 70
    | .queue .quitFull => 40
    | .queue .quitDone => 11
    | .quitUnlock => 10
    | .quitDone => 9
    | .queue .popLock => 6
    | .queue .popQuit => 5
    | .queue .popEmpty => 4
    | .queue .popFinished => 3
    | .queue .popWait => 2
    | .queue (.popNotify _) => 40
    | .queue (.popUnlock (some _)) => 12
    | .queue (.popDone (some _)) => 11
    | .queue (.popUnlock none) => 3
    | .queue (.popDone none) => 2
    | .loopTarget _ => 10
    | .dispatch _ => 9
    | .handling => 8
    | _ => 0

/-- The work left to a thread; at its head the loop ends once `isQuit` is set. -/
def weight (isQuit : Bool) : Monitor.Status Queue.Cond Loc → Nat
  | .running .loopQuit => if isQuit then 1 else 7
  | σ => load σ

/-- The work a notification may give to the others. -/
def cost : Effect Mutex Queue.Cond → Nat
  | .wakes _ => 20
  | _ => 0

/-- **The work left**: a message in the queue counts for the round of the loop it will cause. -/
def work (among : Finset Tid) (s : State Tid) : Nat :=
  50 * s.shared.queue.queue.length + ∑ t ∈ among, weight s.shared.isQuit (s.thread t)

variable {owner : Mutex → Option Tid} {q q' : Data Tid} {t : Tid}
  {σ σ' : Monitor.Status Queue.Cond Loc} {effect : Effect Mutex Queue.Cond}

/-- A notified thread has at most 5 more to do, any other nothing. -/
theorem weight_status (isQuit : Bool) (effect : Effect Mutex Queue.Cond)
    (resumes : Monitor.ResumesAt Resumes σ) :
    4 * weight isQuit (effect.status σ) ≤ 4 * weight isQuit σ + cost effect := by
  cases effect with
  | wakes cond =>
    cases σ with
    | waiting c n =>
      simp only [Effect.status, Monitor.wake, cost]
      split_ifs
      · cases n with
        | queue loc => cases loc <;> first | exact resumes.elim | simp [weight, load]
        | _ => cases resumes
      · exact Nat.le_add_right _ _
    | _ => exact Nat.le_add_right _ _
  | _ => exact Nat.le_add_right _ _

/-- Setting `isQuit` leaves no thread more to do. -/
theorem weight_isQuit {isQuit isQuit' : Bool} (keeps : isQuit = true → isQuit' = true)
    (σ : Monitor.Status Queue.Cond Loc) : weight isQuit' σ ≤ weight isQuit σ := by
  cases σ with
  | running loc =>
    cases loc with
    | loopQuit =>
      cases isQuit with
      | true => rw [keeps rfl]
      | false => cases isQuit' <;> simp [weight]
    | _ => exact Nat.le_refl _
  | _ => exact Nat.le_refl _

theorem weight_back (isQuit : Bool) (looper t : Tid) :
    weight isQuit (.running (back looper t)) ≤ 8 := by
  unfold back
  split_ifs <;> simp [weight, load]

/-- **An access lowers the work of its thread** by more than it gives to the queue. -/
theorem weight_access {loc n : Loc} (access : Access looper t q loc q' n)
    (tells : Tells looper q t loc) (knows : Knows q loc) (unfinished : q.queue.finished = false) :
    50 * q'.queue.queue.length + weight q'.isQuit (.running n) <
      50 * q.queue.queue.length + weight q.isQuit (.running loc) := by
  cases access with
  | writing =>
    have le := weight_back q.isQuit looper t
    exact Nat.add_lt_add_left (Nat.lt_succ_of_le le) _
  | quitDone =>
    have le := weight_back q.isQuit looper t
    exact Nat.add_lt_add_left (Nat.lt_succ_of_le le) _
  | popFailed =>
    have isSet : q.isQuit = true := knows.quit rfl
    simp [weight, load, isSet]
  | loopEnds isSet => simp [weight, load, isSet]
  | loopOpen clear => simp [weight, load, clear]
  | noTarget null => simp only [weight, load]; split_ifs <;> omega
  | handling => simp only [weight, load]; split_ifs <;> omega
  | queue access =>
    cases access with
    | enqueue room => simp [weight, load]; omega
    | dequeue front => simp [weight, load, front]; omega
    | popFinished isSet =>
      rw [unfinished] at isSet
      cases isSet
    | length => cases tells
    | finished => cases tells
    | _ => simp [weight, load]
  | _ => simp [weight, load, Data.write]

/-- **A step lowers the work of its thread** by more than it gives to the queue and the others. -/
theorem weight_acts (acts : (program looper).Acts owner q (.step t) σ q' σ' effect)
    (tells : Tells looper q t (place σ)) (knows : Knows q (place σ))
    (resumes : Monitor.ResumesAt Resumes σ) (unfinished : q.queue.finished = false) :
    50 * q'.queue.queue.length + weight q'.isQuit σ' + cost effect <
      50 * q.queue.queue.length + weight q.isQuit σ := by
  cases acts with
  | @relock t n free =>
    cases n with
    | queue loc => cases loc <;> first | exact resumes.elim | simp [weight, load, cost]
    | _ => cases resumes
  | lock act free =>
    cases acquires_of_instr act with
    | queue locks =>
      cases locks with
      | length => cases tells
      | _ => simp [weight, load, cost]
    | _ => simp [weight, load, cost]
  | unlock act =>
    cases releases_of_instr act with
    | send =>
      have le := weight_back q.isQuit looper t
      simp only [weight, load, cost] at le ⊢
      omega
    | queue unlocks =>
      cases unlocks with
      | @pop result => cases result <;> simp [weight, load, cost]
      | push => simp [weight, load, cost]
      | length => cases tells
    | quit => simp [weight, load, cost]
  | wait act =>
    obtain ⟨_, _, rfl, rfl, waits⟩ := waits_of_instr act
    cases waits <;> simp [weight, load, cost]
  | notifyAll act =>
    obtain ⟨_, _, rfl, rfl, notifies⟩ := notifies_of_instr act
    cases notifies with
    | finished => cases tells
    | _ => simp [weight, load, cost]
  | access act =>
    have less := weight_access (access_of_instr act) tells knows unfinished
    simpa [cost] using less

/-! ### The threads that run -/

/-- **A few threads that can bring each other to rest**: the loop, the owner of the looper's mutex,
and others. -/
structure Among (looper : Tid) (among : Finset Tid) (s : State Tid) : Prop where
  calls : Calls looper s
  loose : ¬Stuck looper (among : Set Tid) s
  loop : looper ∈ among
  holders : ∀ t, (program looper).Holds .looper (s.thread t) → t ∈ among
  few : among.card ≤ 4

variable {among : Finset Tid} {s s' : State Tid}

/-- **Every step of one of them lowers the work left.** -/
theorem work_step (step : (program looper).Step s (.step t) s' effect) (calls : Calls looper s)
    (member : t ∈ among) (few : among.card ≤ 4) : work among s' < work among s := by
  have own := weight_acts step.acts (calls.delivery.tells t) (calls.knows t)
    (calls.delivery.resumes t) calls.unfinished
  simp only [Monitor.Label.actor] at own
  have keeps : s.shared.isQuit = true → s'.shared.isQuit = true := by
    intro isSet
    rcases step.acts.shared with same | ⟨loc, n, act, here, there⟩
    · exact same ▸ isSet
    · exact isQuit_access (access_of_instr act) isSet
  have other : ∀ u ∈ among.erase t, 4 * weight s'.shared.isQuit (s'.thread u) ≤
      4 * weight s.shared.isQuit (s.thread u) + cost effect := by
    intro u inside
    rw [step.other u (Finset.ne_of_mem_erase inside)]
    have fewer := weight_isQuit keeps (effect.status (s.thread u))
    have woken := weight_status s.shared.isQuit effect (calls.delivery.resumes u)
    omega
  have others := Finset.sum_le_sum other
  rw [Finset.sum_add_distrib, ← Finset.mul_sum, ← Finset.mul_sum, Finset.sum_const,
    Finset.card_erase_of_mem member, smul_eq_mul] at others
  have most : (among.card - 1) * cost effect ≤ 3 * cost effect :=
    Nat.mul_le_mul_right _ (by omega)
  unfold work
  rw [← Finset.add_sum_erase among _ member, ← Finset.add_sum_erase among _ member]
  omega

theorem Among.step (ready : Among looper among s) (member : t ∈ among)
    (step : (program looper).Step s (.step t) s' effect)
    (safe : ¬Corners looper (among : Set Tid) s (.step t)) : Among looper among s' where
  calls := calls_step step ready.calls
  loose stuck := by
    have acting : (Monitor.Label.step t : Label Tid).actor ∈ (among : Set Tid) := member
    rcases stuck_back step ready.calls acting ready.holders stuck with before | corners
    · exact ready.loose before
    · exact safe corners
  loop := ready.loop
  holders u holds := by
    by_cases mine : u = t
    · exact mine ▸ member
    · rw [step.other u mine, Program.holds_status] at holds
      exact ready.holders u holds
  few := ready.few

/-! ### Who can step -/

/-- A thread in a critical section of the queue can step. -/
theorem enabled_inside {loc : Queue.Loc Posted} (here : s.thread t = .running (.queue loc))
    (inside : Queue.inside loc = true) : (program looper).Enabled s t := by
  refine Program.enabled_running here ?_
  cases loc with
  | pushSize data =>
    simp only [program, instr, queueInstr, Queue.instr]
    split_ifs <;> trivial
  | popEmpty =>
    simp only [program, instr, queueInstr, Queue.instr]
    cases s.shared.queue.queue <;> trivial
  | _ => trivial

/-- While the queue's mutex is free, nobody is in a critical section of it. -/
theorem outside_of_free (calls : Calls looper s) (free : s.owner .queue = none)
    {loc : Queue.Loc Posted} (here : s.thread t = .running (.queue loc)) :
    Queue.inside loc = false := by
  by_contra inside
  rw [Bool.not_eq_false] at inside
  have owned := (calls.delivery.exclusive.owner .queue t).mpr (by rw [here]; exact inside)
  rw [free] at owned
  cases owned

theorem inside_of_bound {loc : Loc} (past : bound loc = true) :
    ∃ at', loc = .queue at' ∧ Queue.inside at' = true := by
  cases loc with
  | queue loc => cases loc <;> first | exact ⟨_, rfl, rfl⟩ | cases past
  | _ => cases past

/-- **A step that takes no mutex for a message, and no notification past a loop on its way to the
wait, corners nobody.** -/
theorem not_corners (calls : Calls looper s)
    (notLock : ∀ object sentAs late, s.thread t ≠ .running (.sendLock object sentAs late))
    (notNotify : s.owner .queue = none ∨ s.thread t ≠ .running (.queue .quitEmpty)) :
    ¬Corners looper (among : Set Tid) s (.step t) := by
  rintro (_ | _ | ⟨here, _, _⟩ | ⟨_, here, _, _⟩ | ⟨here, waits, past, nothing, last⟩)
  · exact notLock _ _ _ here
  · exact notLock _ _ _ here
  · rcases notNotify with free | elsewhere
    · obtain ⟨at', rfl, inside⟩ := inside_of_bound past
      rw [outside_of_free calls free waits] at inside
      cases inside
    · exact elsewhere here

/-- The owner of the queue's mutex can step. -/
theorem Among.moves_queue (ready : Among looper among s) {y : Tid}
    (owned : s.owner .queue = some y) :
    y ∈ among ∧ (program looper).Enabled s y ∧ ¬Corners looper (among : Set Tid) s (.step y) := by
  have held := (ready.calls.delivery.exclusive.owner .queue y).mp owned
  have tells := ready.calls.delivery.tells y
  have member := ready.holders y
  have safe : (∀ object sentAs late, s.thread y ≠ .running (.sendLock object sentAs late)) →
      s.owner .queue = none ∨ s.thread y ≠ .running (.queue .quitEmpty) →
        ¬Corners looper (among : Set Tid) s (.step y) := not_corners ready.calls
  cases status : s.thread y with
  | waiting cond n =>
    rw [status] at held
    exact absurd rfl held.2
  | relocking n =>
    rw [status] at held
    exact absurd rfl held.2
  | running loc =>
    rw [status] at held tells member safe
    cases loc with
    | queue loc =>
      refine ⟨?_, enabled_inside status held, safe (by simp) (Or.inr ?_)⟩
      · cases loc <;> first | exact member rfl | exact tells ▸ ready.loop | exact tells.elim
      · rintro same
        injection same with same
        injection same with same
        rw [same] at held
        cases held
    | _ => cases held

/-- While the queue's mutex is free, a thread that is not before the looper's mutex, and not at rest,
is ready. -/
theorem ready_of_free (free : owner .queue = none) {loc : Loc} (tells : Tells looper q t loc)
    (notBefore : ¬before loc = true) (busy : loc ≠ .idle ∧ loc ≠ .loopDone) :
    Program.Ready owner ((program looper).instr t q loc) := by
  cases loc with
  | idle => exact absurd rfl busy.1
  | loopDone => exact absurd rfl busy.2
  | sendLock object sentAs late => exact absurd rfl notBefore
  | quitLock => exact absurd rfl notBefore
  | queue loc =>
    cases loc with
    | pushLock data => exact free
    | popLock => exact free
    | pushSize data =>
      simp only [program, instr, queueInstr, Queue.instr]
      split_ifs <;> trivial
    | popEmpty =>
      simp only [program, instr, queueInstr, Queue.instr]
      cases q.queue.queue <;> trivial
    | popDone result => cases result <;> trivial
    | _ => trivial
  | _ => trivial

/-- The thread can step, and corners nobody. -/
def MayStep (looper : Tid) (among : Finset Tid) (s : State Tid) (t : Tid) : Prop :=
  t ∈ among ∧ (program looper).Enabled s t ∧ ¬Corners looper (among : Set Tid) s (.step t)

/-- A thread at a location that is ready, and not about to take a mutex for a message. -/
theorem Among.mayStep (ready : Among looper among s) (free : s.owner .queue = none)
    (member : t ∈ among) {loc : Loc} (here : s.thread t = .running loc)
    (able : Program.Ready s.owner ((program looper).instr t s.shared loc))
    (notLock : ∀ object sentAs late, loc ≠ .sendLock object sentAs late) :
    MayStep looper among s t := by
  refine ⟨member, Program.enabled_running here able, not_corners ready.calls ?_ (Or.inl free)⟩
  intro object sentAs late there
  rw [here] at there
  injection there with there
  exact notLock _ _ _ there

/-- While a thread waits for room, the loop can step. -/
theorem Among.moves_loop (ready : Among looper among s) (free : s.owner .queue = none)
    {h : Tid} {data : Posted} (waits : s.thread h = .waiting .fullQue (.queue (.pushQuit data))) :
    MayStep looper among s looper := by
  have exclusive := ready.calls.delivery.exclusive
  have held : (program looper).Holds .looper (s.thread h) :=
    holds_of_storing (by rw [waits]; rfl)
  have clear : s.shared.isQuit = false := (ready.calls.knows h).open' (by rw [waits]; rfl)
  have full : capacity ≤ s.shared.queue.queue.length := by
    have awaits := ready.calls.awaits h
    rw [waits] at awaits
    rcases awaits.2 with full | ⟨posted, notifying⟩
    · exact full
    · cases outside_of_free ready.calls free notifying
  have other : looper ≠ h := by
    intro same
    exact ready.loose (.pushing clear full (by rw [same, waits]; rfl))
  have notBefore : ¬before (place (s.thread looper)) = true := fun calls =>
    ready.loose (.behind (t := h) clear full calls (by rw [waits]; rfl))
  have notHeld : ¬(program looper).Holds .looper (s.thread looper) := fun mine =>
    other (exclusive.unique mine held)
  have tells := ready.calls.delivery.tells looper
  have resumes := ready.calls.delivery.resumes looper
  have ends := (ready.calls.knows looper).quit
  cases status : s.thread looper with
  | relocking n =>
    exact ⟨ready.loop, Program.enabled_relocking status free,
      not_corners ready.calls (by rw [status]; rintro _ _ _ ⟨⟩) (Or.inl free)⟩
  | waiting cond n =>
    have awaits := ready.calls.awaits looper
    rw [status] at awaits notHeld
    cases cond with
    | fullQue =>
      obtain ⟨⟨data, rfl⟩, -⟩ := awaits
      exact absurd (holds_of_storing rfl) notHeld
    | empty =>
      rcases awaits.2 with nothing | ⟨u, notifying⟩
      · rw [nothing] at full
        exact absurd full (by decide)
      · cases outside_of_free ready.calls free notifying
  | running loc =>
    rw [status] at notBefore tells ends
    refine ready.mayStep free ready.loop status (ready_of_free free tells notBefore ⟨?_, ?_⟩) ?_
    · rintro rfl
      exact absurd rfl tells
    · rintro rfl
      have isQuit : s.shared.isQuit = true := ends rfl
      rw [clear] at isQuit
      cases isQuit
    · rintro object sentAs late rfl
      exact notBefore rfl

/-- While the looper's mutex is taken and the queue's is free, its owner can step, or the loop. -/
theorem Among.moves_holder (ready : Among looper among s) (free : s.owner .queue = none) {h : Tid}
    (owned : s.owner .looper = some h) : ∃ y, MayStep looper among s y := by
  have held := (ready.calls.delivery.exclusive.owner .looper h).mp owned
  have member := ready.holders h held
  have tells := ready.calls.delivery.tells h
  cases status : s.thread h with
  | relocking n =>
    exact ⟨h, member, Program.enabled_relocking status free,
      not_corners ready.calls (by rw [status]; rintro _ _ _ ⟨⟩) (Or.inl free)⟩
  | waiting cond n =>
    have awaits := ready.calls.awaits h
    rw [status] at awaits held
    cases cond with
    | fullQue =>
      obtain ⟨⟨data, rfl⟩, -⟩ := awaits
      exact ⟨looper, ready.moves_loop free status⟩
    | empty =>
      obtain ⟨rfl, -⟩ := awaits
      cases held.1
  | running loc =>
    rw [status] at held tells
    have notBefore : ¬before loc = true := by
      cases loc <;> first | exact Bool.false_ne_true | cases held
    refine ⟨h, ready.mayStep free member status (ready_of_free free tells notBefore ⟨?_, ?_⟩) ?_⟩
    · rintro rfl
      cases held
    · rintro rfl
      cases held
    · rintro object sentAs late rfl
      exact notBefore rfl

/-- While both mutexes are free, a thread in `quit` with its notification to come is before the
looper's mutex. -/
theorem Among.moves_quit (ready : Among looper among s) (free : s.owner .queue = none)
    (free' : s.owner .looper = none) (member : t ∈ among)
    (quits : quitting (place (s.thread t)) = true) : MayStep looper among s t := by
  have notHeld : ¬(program looper).Holds .looper (s.thread t) := fun held => by
    rw [← ready.calls.delivery.exclusive.owner, free'] at held
    cases held
  have resumes := ready.calls.delivery.resumes t
  cases status : s.thread t with
  | running loc =>
    rw [status] at quits notHeld
    have here : loc = .quitLock := by
      cases loc with
      | quitLock => rfl
      | quitFlag => exact absurd rfl notHeld
      | queue loc => cases loc <;> first | exact absurd rfl notHeld | cases quits
      | _ => cases quits
    subst here
    exact ready.mayStep free member status free' (by rintro _ _ _ ⟨⟩)
  | waiting cond n =>
    rw [status] at quits resumes
    cases n with
    | queue loc => cases loc <;> first | exact resumes.elim | cases quits
    | _ => cases resumes
  | relocking n =>
    rw [status] at quits resumes
    cases n with
    | queue loc => cases loc <;> first | exact resumes.elim | cases quits
    | _ => cases resumes

/-- While both mutexes are free, a thread before the looper's mutex can step. -/
theorem Among.moves_before (ready : Among looper among s) (free : s.owner .queue = none)
    (free' : s.owner .looper = none) (member : t ∈ among)
    (waits : before (place (s.thread t)) = true)
    (fine : ∀ object sentAs late, s.thread t = .running (.sendLock object sentAs late) →
      ¬Corners looper (among : Set Tid) s (.step t)) : MayStep looper among s t := by
  have resumes := ready.calls.delivery.resumes t
  cases status : s.thread t with
  | running loc =>
    rw [status] at waits
    cases loc with
    | postMessage handler object what arg1 arg2 =>
      exact ready.mayStep free member status trivial (by rintro _ _ _ ⟨⟩)
    | sendMessage handler object =>
      exact ready.mayStep free member status trivial (by rintro _ _ _ ⟨⟩)
    | quitLock => exact ready.mayStep free member status free' (by rintro _ _ _ ⟨⟩)
    | sendLock object sentAs late =>
      exact ⟨member, Program.enabled_running status free', fine _ _ _ status⟩
    | _ => cases waits
  | waiting cond n =>
    rw [status] at waits resumes
    cases n with
    | queue loc => cases waits
    | _ => cases resumes
  | relocking n =>
    rw [status] at waits resumes
    cases n with
    | queue loc => cases waits
    | _ => cases resumes

/-- A nested call of the loop can step, or a `quit` that lets it. -/
theorem Among.moves_nested (ready : Among looper among s) (free : s.owner .queue = none)
    (free' : s.owner .looper = none) (waits : before (place (s.thread looper)) = true) :
    ∃ y, MayStep looper among s y := by
  by_cases room : s.shared.isQuit = true ∨ s.shared.queue.queue.length < capacity
  · refine ⟨looper, ready.moves_before free free' ready.loop waits fun object sentAs late here => ?_⟩
    rintro (_ | _ | ⟨_, clear, full⟩ | ⟨other, _, _, _⟩ | ⟨there, _, _, _, _⟩)
    · rcases room with isQuit | room
      · rw [clear] at isQuit
        cases isQuit
      · exact absurd full (Nat.not_le_of_lt room)
    · exact absurd rfl other
    · rw [here] at there
      cases there
  · obtain ⟨clear, full⟩ : s.shared.isQuit = false ∧ capacity ≤ s.shared.queue.queue.length := by
      simpa using room
    by_cases sends : beforeSend (place (s.thread looper)) = true
    · have quits : ¬NoQuit (among : Set Tid) s := fun noQuit =>
        ready.loose (.posting clear sends noQuit (Or.inl full))
      obtain ⟨u, member, quits⟩ : ∃ u ∈ among, quitting (place (s.thread u)) = true := by
        simpa [NoQuit] using quits
      exact ⟨u, ready.moves_quit free free' member quits⟩
    · refine ⟨looper, ready.moves_before free free' ready.loop waits fun _ _ _ here => ?_⟩
      rw [here] at sends
      exact absurd rfl sends

/-- A loop in `pop` that does not rest can step, or a `quit` will notify it. -/
theorem Among.moves_pop (ready : Among looper among s) (free : s.owner .queue = none)
    (free' : s.owner .looper = none) (pops : inPop (place (s.thread looper)) = true)
    (restless : ¬Resting looper s) : ∃ y, MayStep looper among s y := by
  have tells := ready.calls.delivery.tells looper
  cases status : s.thread looper with
  | relocking n =>
    exact ⟨looper, ready.loop, Program.enabled_relocking status free,
      not_corners ready.calls (by rw [status]; rintro _ _ _ ⟨⟩) (Or.inl free)⟩
  | waiting cond n =>
    have awaits := ready.calls.awaits looper
    rw [status] at awaits pops
    cases cond with
    | fullQue =>
      obtain ⟨⟨data, rfl⟩, -⟩ := awaits
      cases pops
    | empty =>
      rcases awaits.2 with nothing | ⟨u, notifying⟩
      · have isQuit : s.shared.isQuit = true := by
          by_contra clear
          exact restless ⟨⟨n, status⟩, nothing, by simpa using clear⟩
        have quits : ¬NoQuit (among : Set Tid) s := fun noQuit =>
          ready.loose (.lost isQuit nothing (by rw [status]; rfl) noQuit)
        obtain ⟨u, member, quits⟩ : ∃ u ∈ among, quitting (place (s.thread u)) = true := by
          simpa [NoQuit] using quits
        exact ⟨u, ready.moves_quit free free' member quits⟩
      · cases outside_of_free ready.calls free notifying
  | running loc =>
    rw [status] at pops tells
    have elsewhere : ¬before loc = true ∧ loc ≠ .idle ∧ loc ≠ .loopDone ∧
        ∀ object sentAs late, loc ≠ .sendLock object sentAs late := by
      cases loc with
      | queue loc => exact ⟨Bool.false_ne_true, by rintro ⟨⟩, by rintro ⟨⟩, by rintro _ _ _ ⟨⟩⟩
      | _ => cases pops
    exact ⟨looper, ready.mayStep free ready.loop status
      (ready_of_free free tells elsewhere.1 ⟨elsewhere.2.1, elsewhere.2.2.1⟩) elsewhere.2.2.2⟩

/-- While the looper's mutex is free, nobody is in a critical section of it. -/
theorem Among.outside (ready : Among looper among s) (free' : s.owner .looper = none) :
    holds .looper (place (s.thread t)) = false := by
  by_contra held
  rw [Bool.not_eq_false] at held
  have owned : (program looper).Holds .looper (s.thread t) := by
    cases status : s.thread t with
    | running loc =>
      rw [status] at held
      exact held
    | _ =>
      rw [status] at held
      exact ⟨held, by rintro ⟨⟩⟩
  rw [← ready.calls.delivery.exclusive.owner, free'] at owned
  cases owned

/-- **Until the thread is settled, one of the threads can step and corners nobody.** -/
theorem Among.moves (ready : Among looper among s) (member : t ∈ among)
    (unsettled : ¬Settled looper s t) : ∃ y, MayStep looper among s y := by
  cases queueOwner : s.owner .queue with
  | some y => exact ⟨y, ready.moves_queue queueOwner⟩
  | none =>
    cases looperOwner : s.owner .looper with
    | some h => exact ready.moves_holder queueOwner looperOwner
    | none =>
      by_cases nested : before (place (s.thread looper)) = true
      · exact ready.moves_nested queueOwner looperOwner nested
      · by_cases called : before (place (s.thread t)) = true
        · have other : t ≠ looper := by
            rintro rfl
            exact nested called
          refine ⟨t, ready.moves_before queueOwner looperOwner member called fun _ _ _ here => ?_⟩
          rintro (_ | _ | ⟨_, _, _⟩ | ⟨_, _, _, crowded⟩ | ⟨there, _, _, _, _⟩)
          · exact other rfl
          · exact nested (crowded.elim (fun both => both.1) fun both =>
              before_of_beforeSend both.1)
          · rw [here] at there
            cases there
        · have outside : inCall (place (s.thread t)) = false := by
            rw [inCall, Bool.eq_false_of_not_eq_true called, Bool.false_or]
            exact ready.outside looperOwner
          obtain ⟨rfl, pops, restless⟩ : t = looper ∧ inPop (place (s.thread t)) = true ∧
              ¬Resting looper s := by
            simpa [Settled, outside] using unsettled
          exact ready.moves_pop queueOwner looperOwner pops restless

/-! ### The run -/

/-- A step of a thread, not a new call. -/
def isStep : Label Tid → Prop
  | .step _ => True
  | .call _ _ => False

/-- **The threads bring each other to rest.** -/
theorem Among.settles (ready : Among looper among s) (member : t ∈ among) :
    ∃ u, (system looper).ReachesBy isStep s u ∧ Settled looper u t := by
  obtain ⟨u, reach, -, settled⟩ : ∃ u, (system looper).ReachesBy isStep s u ∧
      Among looper among u ∧ Settled looper u t :=
    System.reachesBy_final (F := fun u => Settled looper u t) (work among) (fun s ready => by
      by_cases settled : Settled looper s t
      · exact Or.inl settled
      · obtain ⟨y, inside, ⟨s', enabled⟩, safe⟩ := ready.moves member settled
        obtain ⟨effect, step⟩ := Program.step_of_next enabled
        exact Or.inr ⟨s', System.ReachesBy.single (l := .step y) trivial enabled,
          ready.step inside step safe, work_step step ready.calls inside ready.few⟩)
    s ready
  exact ⟨u, reach, settled⟩

/-- A state is released when every thread inside `sendMessage`, `quit` or `pop` can be brought to
its return by steps of the threads, without a further call; the loop may also come to wait for a
message. -/
def Released (looper : Tid) (s : State Tid) : Prop :=
  ∀ t, ∃ u, (system looper).ReachesBy isStep s u ∧ Settled looper u t

/-- **Unless the loop is stuck, every call returns.** -/
theorem released_of_not_stuck (calls : Calls looper s) (loose : ¬Stuck looper Set.univ s) :
    Released looper s := by
  intro t
  -- the owner of the looper's mutex, if there is one
  obtain ⟨h, holder⟩ : ∃ h, ∀ u, (program looper).Holds .looper (s.thread u) → u = h := by
    by_cases held : ∃ h, (program looper).Holds .looper (s.thread h)
    · obtain ⟨h, held⟩ := held
      exact ⟨h, fun u also => calls.delivery.exclusive.unique also held⟩
    · exact ⟨looper, fun u also => absurd ⟨u, also⟩ held⟩
  -- a thread in `quit`, if there is one
  obtain ⟨u, quits⟩ : ∃ u, (∃ v, quitting (place (s.thread v)) = true) →
      quitting (place (s.thread u)) = true := by
    by_cases quits : ∃ v, quitting (place (s.thread v)) = true
    · obtain ⟨v, quits⟩ := quits
      exact ⟨v, fun _ => quits⟩
    · exact ⟨looper, fun also => absurd also quits⟩
  have ready : Among looper {looper, t, h, u} s := by
    refine ⟨calls, fun stuck => loose ?_, by simp, fun v held => by simp [holder v held],
      Finset.card_le_four⟩
    have everybody : NoQuit (({looper, t, h, u} : Finset Tid) : Set Tid) s →
        NoQuit Set.univ s := by
      intro noQuit v _
      by_contra quitsToo
      rw [Bool.not_eq_false] at quitsToo
      have last := noQuit u (by simp)
      rw [quits ⟨v, quitsToo⟩] at last
      cases last
    cases stuck with
    | pushing clear full own => exact .pushing clear full own
    | behind clear full waits holder => exact .behind clear full waits holder
    | posting clear posts noQuit crowded => exact .posting clear posts (everybody noQuit) crowded
    | lost isQuit nothing bound noQuit => exact .lost isQuit nothing bound (everybody noQuit)
  exact ready.settles (by simp)

end Xplay.XLooper
