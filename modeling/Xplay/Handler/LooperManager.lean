/-
**The registry of loopers follows its threads exactly in runs of safe steps.**

`looperMap` is keyed by thread id: `prepare` adds an entry under the id of the calling thread, and
`~XHandler` removes the one under the id of the thread that runs it, whose looper need not be the
handler's. Nothing removes the entry of a thread that ends.

A thread is its id and its number among the threads that ran under the id, so a looper remembers
which thread created it after the id has been used again. `Consistent` is what the registry should do
in one step, `Safe` the steps that do it: a thread begins under an id without an entry, and a handler
is destroyed by a thread whose entry is the handler's looper, or has none when the looper has none.
-/

import Xplay.Lib.System
import Mathlib.Logic.Function.Basic

set_option linter.unusedSectionVars false

namespace Xplay

open Lib

/-- A thread: its id, and how many threads have begun under it by then. -/
structure Thread (Id : Type) where
  id : Id
  nth : Nat
  deriving DecidableEq

/-- What the registry's operations use of an `XLooper`, and the thread that created it. -/
structure RegisteredLooper (Id : Type) where
  creator : Thread Id
  isQuit : Bool
  deriving DecidableEq

/-- `LooperManager`, and the loopers by their address. No looper is ever deleted. -/
structure LooperManager (Id : Type) where
  looperMap : Id → Option Nat
  loopers : List (RegisteredLooper Id)

namespace LooperManager

variable {Id : Type} [DecidableEq Id]

/-- `LooperManager::createLooper`. -/
def createLooper (m : LooperManager Id) (thread : Thread Id) : LooperManager Id × Option Nat :=
  match m.looperMap thread.id with
  | none =>
    ({ looperMap := Function.update m.looperMap thread.id (some m.loopers.length)
       loopers := m.loopers ++ [⟨thread, false⟩] }, some m.loopers.length)
  | some _ => (m, none)

/-- `LooperManager::getLooper`. -/
def getLooper (m : LooperManager Id) (threadId : Id) : Option Nat := m.looperMap threadId

/-- `LooperManager::deleteLooper`. -/
def deleteLooper (m : LooperManager Id) (threadId : Id) : LooperManager Id :=
  { m with looperMap := Function.update m.looperMap threadId none }

/-- `XLooper::quit`. -/
def quit (m : LooperManager Id) (looper : Nat) : LooperManager Id :=
  { m with loopers := m.loopers.modify looper fun l => { l with isQuit := true } }

@[simp] theorem quit_looperMap (m : LooperManager Id) (looper : Nat) :
    (m.quit looper).looperMap = m.looperMap := rfl

@[simp] theorem deleteLooper_loopers (m : LooperManager Id) (id : Id) :
    (m.deleteLooper id).loopers = m.loopers := rfl

@[simp] theorem deleteLooper_self (m : LooperManager Id) (id : Id) :
    (m.deleteLooper id).looperMap id = none := Function.update_self ..

@[simp] theorem deleteLooper_other (m : LooperManager Id) {id other : Id} (differ : other ≠ id) :
    (m.deleteLooper id).looperMap other = m.looperMap other := Function.update_of_ne differ ..

end LooperManager

/-- An `XHandler`; its `looper` may be null. -/
structure XHandler where
  looper : Option Nat
  deleted : Bool

/-- The registry, the handlers by their address, and the threads. -/
structure Registry (Id : Type) where
  manager : LooperManager Id
  handlers : List XHandler
  begun : Id → Nat
  running : Id → Bool
  crashed : Bool

namespace Registry

variable {Id : Type} [DecidableEq Id]

/-- What a thread does, by its id. -/
inductive Label (Id : Type)
  | threadBegin (id : Id)
  | threadEnd (id : Id)
  | prepare (id : Id)
  | newHandler (id : Id)
  | newHandlerOn (id : Id) (looper : Option Nat)
  | deleteHandler (id : Id) (handler : Nat)

/-- The thread that runs under the id, or was the last to. -/
def thread (s : Registry Id) (id : Id) : Thread Id := ⟨id, s.begun id⟩

/-- `XHandler::~XHandler`, on the thread of the id. -/
def deleteHandler (s : Registry Id) (id : Id) (address : Nat) (handler : XHandler) : Registry Id :=
  match handler.looper with
  | none => { s with crashed := true }
  | some looper =>
    { s with
      manager := (s.manager.quit looper).deleteLooper id
      handlers := s.handlers.set address { looper := none, deleted := true } }

/-- A running thread that did not crash. -/
def alive (s : Registry Id) (id : Id) : Bool := s.running id && !s.crashed

/-- The next state: an id is given to one running thread at a time, and a handler is deleted once. -/
def next (s : Registry Id) : Label Id → Option (Registry Id)
  | .threadBegin id =>
    if s.running id || s.crashed then none
    else some { s with
      begun := Function.update s.begun id (s.begun id + 1)
      running := Function.update s.running id true }
  | .threadEnd id =>
    if s.alive id then some { s with running := Function.update s.running id false } else none
  | .prepare id =>
    if s.alive id then some { s with manager := (s.manager.createLooper (s.thread id)).1 } else none
  | .newHandler id =>
    if s.alive id then
      some { s with handlers := s.handlers ++ [⟨s.manager.getLooper id, false⟩] }
    else none
  | .newHandlerOn id looper =>
    if s.alive id && looper.all (· < s.manager.loopers.length) then
      some { s with handlers := s.handlers ++ [⟨looper, false⟩] }
    else none
  | .deleteHandler id address =>
    match s.handlers[address]? with
    | none => none
    | some handler =>
      if s.alive id && !handler.deleted then some (s.deleteHandler id address handler) else none

variable (Id) in
/-- The threads of a process and its registry. -/
def system : System (Registry Id) (Label Id) where
  next := next

/-- No thread, no looper, no handler yet. -/
def start : Registry Id where
  manager := ⟨fun _ => none, []⟩
  handlers := []
  begun _ := 0
  running _ := false
  crashed := false

/-! ### What the registry should do -/

/-- **A running thread's entry is a looper it created, not yet quit.** -/
def OwnLoopers (s : Registry Id) : Prop :=
  ∀ id looper, s.running id = true → s.manager.looperMap id = some looper →
    s.manager.loopers[looper]? = some ⟨s.thread id, false⟩

/-- Exactly the entries of the looper are removed, and nothing crashes. -/
structure Removes (looper : Option Nat) (s t : Registry Id) : Prop where
  entries : ∀ id, t.manager.looperMap id =
    if s.manager.looperMap id = looper then none else s.manager.looperMap id
  returns : t.crashed = false

/-- A null from `prepare` is about a looper of the calling thread. -/
def NullsOwn (s : Registry Id) (id : Id) : Prop :=
  (s.manager.createLooper (s.thread id)).2 = none →
    ∃ looper l, s.manager.looperMap id = some looper ∧ s.manager.loopers[looper]? = some l ∧
      l.creator = s.thread id

/-- **What one step should do.** -/
structure Consistent (s : Registry Id) (l : Label Id) (t : Registry Id) : Prop where
  own : OwnLoopers t
  removes : ∀ id address handler, l = .deleteHandler id address →
    s.handlers[address]? = some handler → Removes handler.looper s t
  prepares : ∀ id, l = .prepare id → NullsOwn s id

/-- **The steps that do it**, by the state before the step. -/
def Safe (s : Registry Id) : Label Id → Prop
  | .threadBegin id => s.manager.looperMap id = none
  | .deleteHandler id address =>
    ∀ handler, s.handlers[address]? = some handler →
      ∃ looper, handler.looper = some looper ∧
        (s.manager.looperMap id = some looper ∨
          s.manager.looperMap id = none ∧ ∀ other, s.manager.looperMap other ≠ some looper)
  | _ => True

/-! ### One step -/

/-- **The invariant**: an entry is a looper that a thread of this id created. -/
structure Sound (s : Registry Id) : Prop where
  entries : ∀ id looper, s.manager.looperMap id = some looper →
    ∃ l, s.manager.loopers[looper]? = some l ∧ l.creator.id = id ∧ l.creator.nth ≤ s.begun id
  own : OwnLoopers s

variable {s t : Registry Id} {id : Id}

theorem sound_start : Sound (start : Registry Id) where
  entries _ _ entry := by cases entry
  own _ _ running := by cases running

/-- Each looper has one entry at most. -/
theorem Sound.unique (sound : Sound s) {other : Id} {looper : Nat}
    (left : s.manager.looperMap id = some looper)
    (right : s.manager.looperMap other = some looper) : id = other := by
  obtain ⟨l, found, same, -⟩ := sound.entries id looper left
  obtain ⟨l', found', same', -⟩ := sound.entries other looper right
  rw [found] at found'
  cases found'
  exact same.symm.trans same'

/-- An entry that a thread finds when it begins is not its own. -/
theorem Sound.begin_iff (sound : Sound s) (id : Id)
    (step : t = { s with
      begun := Function.update s.begun id (s.begun id + 1)
      running := Function.update s.running id true }) :
    OwnLoopers t ↔ s.manager.looperMap id = none := by
  subst step
  constructor
  · intro own
    by_contra entry
    obtain ⟨looper, entry⟩ := Option.ne_none_iff_exists'.mp entry
    obtain ⟨l, found, -, nth⟩ := sound.entries id looper entry
    have mine := own id looper (Function.update_self ..) entry
    simp only [found, thread, Function.update_self, Option.some.injEq] at mine
    subst mine
    exact absurd nth (Nat.not_succ_le_self _)
  · intro none other looper running entry
    have differ : other ≠ id := by
      rintro rfl
      rw [none] at entry
      cases entry
    simp only [Function.update_of_ne differ] at running
    simpa only [thread, Function.update_of_ne differ] using sound.own other looper running entry

/-- `quit` leaves the other loopers as they are. -/
theorem quit_other {m : LooperManager Id} {looper other : Nat} (differ : looper ≠ other) :
    (m.quit looper).loopers[other]? = m.loopers[other]? := by
  simp [LooperManager.quit, differ]

/-- A looper keeps its creator. -/
theorem quit_creator {m : LooperManager Id} (looper : Nat) {other : Nat} {l : RegisteredLooper Id}
    (found : m.loopers[other]? = some l) :
    ∃ l', (m.quit looper).loopers[other]? = some l' ∧ l'.creator = l.creator := by
  by_cases same : looper = other
  · exact ⟨{ l with isQuit := true }, by simp [LooperManager.quit, same, found], rfl⟩
  · exact ⟨l, by rw [quit_other same, found], rfl⟩

/-- **A destruction removes exactly the handler's entry when it is safe.** -/
theorem Sound.delete_iff (sound : Sound s) (id : Id) (address : Nat) (handler : XHandler)
    (clear : s.crashed = false) :
    OwnLoopers (s.deleteHandler id address handler) ∧
        Removes handler.looper s (s.deleteHandler id address handler) ↔
      ∃ looper, handler.looper = some looper ∧
        (s.manager.looperMap id = some looper ∨
          s.manager.looperMap id = none ∧ ∀ other, s.manager.looperMap other ≠ some looper) := by
  cases own : handler.looper with
  | none =>
    constructor
    · rintro ⟨-, -, returns⟩
      simp [deleteHandler, own] at returns
    · rintro ⟨_, none, -⟩
      cases none
  | some looper =>
    simp only [deleteHandler, own, Option.some.injEq, exists_eq_left']
    constructor
    · rintro ⟨-, entries, -⟩
      have erased := entries id
      simp only [LooperManager.deleteLooper_self] at erased
      split_ifs at erased with mine
      · exact Or.inl mine
      · refine Or.inr ⟨erased.symm, fun other entry => ?_⟩
        have differ : other ≠ id := by
          rintro rfl
          exact mine entry
        have kept := entries other
        simp [differ, entry] at kept
    · intro safe
      have absent : ∀ other, other ≠ id → s.manager.looperMap other ≠ some looper := by
        rcases safe with mine | ⟨-, absent⟩
        · exact fun other differ entry => differ (sound.unique entry mine)
        · exact fun other _ => absent other
      refine ⟨fun other p running entry => ?_, fun other => ?_, clear⟩
      · by_cases same : other = id
        · simp [same] at entry
        · simp only [LooperManager.deleteLooper_other _ same, LooperManager.quit_looperMap] at entry
          have differ : looper ≠ p := by
            rintro rfl
            exact absent other same entry
          exact (quit_other differ).trans (sound.own other p running entry)
      · by_cases same : other = id
        · rw [same]
          rcases safe with mine | ⟨none, -⟩
          · simp [mine]
          · simp [none]
        · simp [same, absent other same]

/-- In a sound registry, `prepare` returns null only to a thread that has a looper. -/
theorem Sound.nullsOwn (sound : Sound s) (running : s.running id = true) : NullsOwn s id := by
  intro null
  cases entry : s.manager.looperMap id with
  | none => simp [LooperManager.createLooper, thread, entry] at null
  | some looper => exact ⟨looper, _, rfl, sound.own id looper running entry, rfl⟩

/-- The loopers keep their addresses. -/
theorem found_append {loopers : List (RegisteredLooper Id)} {looper : Nat} {l : RegisteredLooper Id}
    (found : loopers[looper]? = some l) (new : RegisteredLooper Id) :
    (loopers ++ [new])[looper]? = some l := by
  rw [List.getElem?_append_left (List.getElem?_eq_some_iff.mp found).1, found]

/-- A new looper belongs to the thread that calls `prepare`. -/
theorem Sound.prepare (sound : Sound s) (id : Id) :
    Sound { s with manager := (s.manager.createLooper (s.thread id)).1 } := by
  cases entry : s.manager.looperMap id with
  | some looper => simpa [LooperManager.createLooper, thread, entry] using sound
  | none =>
    simp only [LooperManager.createLooper, thread, entry]
    refine ⟨fun other p found => ?_, fun other p running found => ?_⟩
    · by_cases same : other = id
      · subst same
        simp only [Function.update_self, Option.some.injEq] at found
        subst found
        exact ⟨⟨s.thread other, false⟩, by simp [thread], rfl, Nat.le_refl _⟩
      · simp only [Function.update_of_ne same] at found
        obtain ⟨l, at', owned⟩ := sound.entries other p found
        exact ⟨l, found_append at' _, owned⟩
    · by_cases same : other = id
      · subst same
        simp only [Function.update_self, Option.some.injEq] at found
        subst found
        simp [thread]
      · simp only [Function.update_of_ne same] at found
        exact found_append (sound.own other p running found) _

/-- The entries stay those of their ids, however they are removed. -/
theorem Sound.entries_delete (sound : Sound s) {address : Nat} {handler : XHandler} {other : Id}
    {p : Nat} (entry : (s.deleteHandler id address handler).manager.looperMap other = some p) :
    ∃ l, (s.deleteHandler id address handler).manager.loopers[p]? = some l ∧
      l.creator.id = other ∧ l.creator.nth ≤ s.begun other := by
  cases own : handler.looper with
  | none =>
    simp only [deleteHandler, own] at entry ⊢
    exact sound.entries other p entry
  | some looper =>
    simp only [deleteHandler, own, LooperManager.deleteLooper_loopers] at entry ⊢
    have there : s.manager.looperMap other = some p := by
      by_cases same : other = id
      · simp [same] at entry
      · simpa [same] using entry
    obtain ⟨l, found, same, nth⟩ := sound.entries other p there
    obtain ⟨l', found', creator⟩ := quit_creator looper found
    exact ⟨l', found', creator ▸ same, creator ▸ nth⟩

/-- A thread that begins may have the id of one that left its entry behind. -/
theorem Sound.begin_consistent (sound : Sound s) {id : Id}
    (step : s.next (.threadBegin id) = some t) :
    (Consistent s (.threadBegin id) t ↔ Safe s (.threadBegin id)) ∧ (OwnLoopers t → Sound t) := by
  simp only [next] at step
  split_ifs at step
  cases step
  have begins := sound.begin_iff id rfl
  refine ⟨⟨fun does => begins.mp does.own, fun safe => ⟨begins.mpr safe, ?_, ?_⟩⟩, fun own =>
    ⟨fun other looper entry => ?_, own⟩⟩
  · rintro _ _ _ ⟨⟩
  · rintro _ ⟨⟩
  · obtain ⟨l, found, same, nth⟩ := sound.entries other looper entry
    refine ⟨l, found, same, Nat.le_trans nth ?_⟩
    by_cases mine : other = id
    · simp [mine]
    · simp [mine]

/-- A thread that ends leaves its entry behind. -/
theorem Sound.end_consistent (sound : Sound s) {id : Id} (step : s.next (.threadEnd id) = some t) :
    (Consistent s (.threadEnd id) t ↔ Safe s (.threadEnd id)) ∧ (OwnLoopers t → Sound t) := by
  simp only [next] at step
  split_ifs at step
  cases step
  have own : OwnLoopers { s with running := Function.update s.running id false } := by
    intro other looper running entry
    refine sound.own other looper ?_ entry
    by_cases same : other = id
    · simp [same] at running
    · simpa only [Function.update_of_ne same] using running
  exact ⟨iff_of_true ⟨own, by rintro _ _ _ ⟨⟩, by rintro _ ⟨⟩⟩ trivial, fun own =>
    ⟨sound.entries, own⟩⟩

/-- `~XHandler` removes the entry of the thread it is called on. -/
theorem Sound.delete_consistent (sound : Sound s) {id : Id} {address : Nat}
    (step : s.next (.deleteHandler id address) = some t) :
    (Consistent s (.deleteHandler id address) t ↔ Safe s (.deleteHandler id address)) ∧
      (OwnLoopers t → Sound t) := by
  simp only [next] at step
  split at step
  case h_1 => cases step
  case h_2 handler found =>
    split_ifs at step with allowed
    cases step
    have clear : s.crashed = false := by
      simp only [alive, Bool.and_eq_true, Bool.not_eq_true'] at allowed
      exact allowed.1.2
    have deletes := sound.delete_iff id address handler clear
    refine ⟨⟨fun does handler' found' => ?_, fun safe => ?_⟩, fun own => ⟨fun other p entry => ?_,
      own⟩⟩
    · rw [found] at found'
      cases found'
      exact deletes.mp ⟨does.own, does.removes id address handler rfl found⟩
    · obtain ⟨own, removes⟩ := deletes.mpr (safe handler found)
      refine ⟨own, ?_, by rintro _ ⟨⟩⟩
      rintro _ _ handler' ⟨⟩ found'
      rw [found] at found'
      cases found'
      exact removes
    · obtain ⟨l, found, same, nth⟩ := sound.entries_delete entry
      refine ⟨l, found, same, Nat.le_trans nth (Nat.le_of_eq ?_)⟩
      cases own : handler.looper <;> simp [deleteHandler, own]

/-- **One step does what it should exactly when it is safe**, and leaves a sound registry then. -/
theorem Sound.consistent_iff (sound : Sound s) {l : Label Id} (step : s.next l = some t) :
    (Consistent s l t ↔ Safe s l) ∧ (OwnLoopers t → Sound t) := by
  cases l with
  | threadBegin id => exact sound.begin_consistent step
  | threadEnd id => exact sound.end_consistent step
  | prepare id =>
    simp only [next] at step
    split_ifs at step with running
    cases step
    have after := sound.prepare id
    have running : s.running id = true := by
      simp only [alive, Bool.and_eq_true] at running
      exact running.1
    refine ⟨iff_of_true ⟨after.own, by rintro _ _ _ ⟨⟩, ?_⟩ trivial, fun _ => after⟩
    rintro _ ⟨⟩
    exact sound.nullsOwn running
  | newHandler id =>
    simp only [next] at step
    split_ifs at step
    cases step
    exact ⟨iff_of_true ⟨sound.own, by rintro _ _ _ ⟨⟩, by rintro _ ⟨⟩⟩ trivial, fun _ =>
      ⟨sound.entries, sound.own⟩⟩
  | newHandlerOn id looper =>
    simp only [next] at step
    split_ifs at step
    cases step
    exact ⟨iff_of_true ⟨sound.own, by rintro _ _ _ ⟨⟩, by rintro _ ⟨⟩⟩ trivial, fun _ =>
      ⟨sound.entries, sound.own⟩⟩
  | deleteHandler id address => exact sound.delete_consistent step

/-! ### The main result -/

/-- **The registry is consistent along a run exactly when all its steps are safe.** -/
theorem registry_consistent_iff (Id : Type) [DecidableEq Id] (labels : List (Label Id)) :
    (system Id).Steps Consistent start labels ↔
      (system Id).Steps (fun s l _ => Safe s l) start labels :=
  System.steps_iff (I := Sound) (fun _ _ _ sound step => (sound.consistent_iff step).1)
    (fun _ _ _ sound step safe =>
      have agrees := sound.consistent_iff step
      agrees.2 (agrees.1.mpr safe).own) sound_start labels

/-- A thread prepares its looper and makes a handler; another thread deletes the handler. -/
def deletedElsewhere : List (Label Nat) :=
  [.threadBegin 0, .threadBegin 1, .prepare 1, .newHandlerOn 1 (some 0), .deleteHandler 0 0]

/-- **A handler deleted by another thread leaves its looper registered**, quit as it is; the next
thread under the id finds it there, and its `prepare` returns null. -/
theorem deletedElsewhere_inconsistent :
    ¬(system Nat).Steps Consistent start deletedElsewhere ∧
      ∃ s, (system Nat).run start (deletedElsewhere ++ [.threadEnd 1, .threadBegin 1]) = some s ∧
        s.manager.looperMap 1 = some 0 ∧ s.manager.loopers[0]? = some ⟨⟨1, 1⟩, true⟩ ∧
        s.thread 1 = ⟨1, 2⟩ ∧ (s.manager.createLooper (s.thread 1)).2 = none := by
  refine ⟨fun consistent => ?_, _, rfl, rfl, rfl, rfl, rfl⟩
  -- the last step is to remove the entry of thread 1, and does not
  have last := consistent.2 _ rfl |>.2 _ rfl |>.2 _ rfl |>.2 _ rfl |>.1 _ rfl
  have kept := (last.removes 0 0 _ rfl rfl).entries 1
  cases kept

end Registry

end Xplay
