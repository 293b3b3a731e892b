/-
**`XLooper`: handlers, the looper's mutex and its message queue.**

`sendMessage` and `quit` hold the looper's mutex while they call the queue, which has a mutex of its
own; the loop takes only the queue's. The queue is the program of `XMessageQueue`, of capacity 10,
embedded at `queue`: its calls of `push`, `pop` and `quit` return to the looper.

Every thread has `XMessage` objects of its own; a message is copied out of the object by `push`, and
the sender may write to the object whenever it is not in a call. The thread `looper` runs `_loop`;
inside `handleMessage` (`handling`) it may send and quit like any other thread.

An entry of the queue carries, as history, the message as it was when `sendMessage` was called, and
whether a `quit` had returned by then. `dispatched` is the history of the calls of
`dispatchMessage`.
-/

import Xplay.Lib.Locks
import Xplay.Queue.Queue

namespace Xplay

open Lib Lib.Locks

set_option linter.unusedSectionVars false

namespace XLooper

/-- A message in the queue, and what is remembered of its `sendMessage`. -/
structure Posted where
  message : XMessage
  sentAs : XMessage
  late : Bool
  deriving DecidableEq

/-- The mutexes of the looper and of its queue. -/
inductive Mutex
  | looper
  | queue
  deriving DecidableEq

/-- The members of the looper, its queue, and the objects of every thread. -/
structure Data (Tid : Type) where
  isQuit : Bool
  queue : Queue.Data Posted
  objects : Tid → Nat → XMessage
  quitReturned : Bool
  dispatched : List Posted

/-- The control locations of a thread, operation by operation. -/
inductive Loc
  | idle
  | writing (object : Nat) (message : XMessage)
  | postMessage (handler object : Nat) (what arg1 arg2 : Int)
  | sendMessage (handler object : Nat)
  | sendLock (object : Nat) (sentAs : XMessage) (late : Bool)
  | sendQuit (object : Nat) (sentAs : XMessage) (late : Bool)
  | queue (loc : Queue.Loc Posted)
  | sendUnlock
  | quitLock
  | quitFlag
  | quitUnlock
  | quitDone
  | loopQuit
  | loopTarget (posted : Posted)
  | dispatch (posted : Posted)
  | handling
  | loopDone

/-- `queue = new XMessageQueue(10)`. -/
def capacity : Nat := 10

variable {Tid : Type} [DecidableEq Tid]

/-- An action of the queue, taken inside the looper. -/
def lift (q : Data Tid) :
    Monitor.Instr (Queue.Data Posted) Queue.Cond (Queue.Loc Posted) →
      Instr (Data Tid) Mutex Queue.Cond Loc
  | .lock n => .lock .queue (.queue n)
  | .unlock n => .unlock .queue (.queue n)
  | .wait cond n => .wait cond (.queue n)
  | .notifyAll cond n => .notifyAll cond (.queue n)
  | .access queue n => .access { q with queue := queue } (.queue n)
  | .halt => .halt

/-- Inside a call of the queue, and where the call returns to the looper. -/
def queueInstr (q : Data Tid) : Queue.Loc Posted → Instr (Data Tid) Mutex Queue.Cond Loc
  | .pushDone _ => .access q .sendUnlock
  | .quitDone => .access q .quitUnlock
  | .popDone none => .access q .loopQuit
  | .popDone (some posted) => .access q (.loopTarget posted)
  | loc => lift q (Queue.instr capacity q.queue loc)

/-- Back from a call: in its own code, or in `handleMessage`. -/
def back (looper t : Tid) : Loc := if t = looper then .handling else .idle

/-- The object of a thread is written. -/
def Data.write (q : Data Tid) (t : Tid) (object : Nat) (message : XMessage) : Data Tid :=
  { q with objects := Function.update q.objects t (Function.update (q.objects t) object message) }

/-- The next atomic action of a thread. -/
def instr (looper t : Tid) (q : Data Tid) : Loc → Instr (Data Tid) Mutex Queue.Cond Loc
  -- the caller's own code; inside `handleMessage` that of the handler
  | .idle => .halt
  | .writing object message =>
    .access (q.write t object message) (back looper t)
  -- XHandler::postMessage
  | .postMessage handler object what arg1 arg2 =>
    .access (q.write t object ⟨what, arg1, arg2, none⟩) (.sendMessage handler object)
  -- XHandler::sendMessage
  | .sendMessage handler object =>
    .access (q.write t object { q.objects t object with target := some handler })
      (.sendLock object { q.objects t object with target := some handler } q.quitReturned)
  -- XLooper::sendMessage
  | .sendLock object sentAs late => .lock .looper (.sendQuit object sentAs late)
  | .sendQuit object sentAs late =>
    .access q (if q.isQuit then .sendUnlock
      else .queue (.pushLock ⟨q.objects t object, sentAs, late⟩))
  | .sendUnlock => .unlock .looper (back looper t)
  -- XLooper::quit
  | .quitLock => .lock .looper .quitFlag
  | .quitFlag => .access { q with isQuit := true } (.queue .quitStore)
  | .quitUnlock => .unlock .looper .quitDone
  | .quitDone => .access { q with quitReturned := true } (back looper t)
  -- XLooper::_loop
  | .loopQuit => .access q (if q.isQuit then .loopDone else .queue .popLock)
  | .loopTarget posted => .access q (if posted.message.target = none then .loopQuit
      else .dispatch posted)
  | .dispatch posted => .access { q with dispatched := q.dispatched ++ [posted] } .handling
  | .handling => .access q .loopQuit
  | .loopDone => .halt
  -- XMessageQueue::push, pop and quit
  | .queue loc => queueInstr q loc

/-- A call of `push` or of `quit` on the queue, which `sendMessage` and `quit` make with the looper's
mutex. -/
def underLooper : Queue.Loc Posted → Bool
  | .pushLock _ | .pushQuit _ | .pushFinished _ | .pushSize _ | .pushNotify | .pushUnlock _
  | .pushDone _ => true
  | .quitStore | .quitEmpty | .quitFull | .quitDone => true
  | _ => false

/-- The locations at which a thread holds a mutex. -/
def holds : Mutex → Loc → Bool
  | .looper, .sendQuit _ _ _ | .looper, .sendUnlock | .looper, .quitFlag | .looper, .quitUnlock =>
    true
  | .looper, .queue loc => underLooper loc
  | .queue, .queue loc => Queue.inside loc
  | _, _ => false

/-- The operations a thread may call from its own code. -/
def calling : Loc → Bool
  | .writing _ _ | .postMessage _ _ _ _ _ | .sendMessage _ _ | .quitLock => true
  | _ => false

/-- A thread at rest calls; the looper's thread calls from inside `handleMessage`. -/
def entry (looper t : Tid) : Loc → Loc → Bool
  | .idle, loc => t ≠ looper && calling loc
  | .handling, loc => t = looper && calling loc
  | _, _ => false

/-- The looper that runs on the thread `looper`. -/
def program (looper : Tid) : Program (Data Tid) Mutex Queue.Cond Loc Tid where
  instr := instr looper
  holds := holds
  guard _ := .queue
  reacquires _ := .queue
  entry := entry looper

abbrev State (Tid : Type) := Locks.State (Data Tid) Mutex Queue.Cond Loc Tid

abbrev Label (Tid : Type) := Monitor.Label Loc Tid

/-- The looper and the threads that send to it. -/
abbrev system (looper : Tid) : System (State Tid) (Label Tid) := (program looper).system

/-- A fresh looper whose loop is about to start; the objects hold anything. -/
def start (looper : Tid) (objects : Tid → Nat → XMessage) : State Tid where
  shared := ⟨false, ⟨[], false, false, [], []⟩, objects, false, []⟩
  owner _ := none
  thread t := if t = looper then .running .loopQuit else .running .idle

variable {looper t : Tid} {q : Data Tid}

/-! ### What an action can do -/

/-- **The accesses of the looper**: from which location, to what data, at which next location. -/
inductive Access (looper t : Tid) (q : Data Tid) : Loc → Data Tid → Loc → Prop
  | writing {object message} :
      Access looper t q (.writing object message) (q.write t object message) (back looper t)
  | postMessage {handler object what arg1 arg2} :
      Access looper t q (.postMessage handler object what arg1 arg2)
        (q.write t object ⟨what, arg1, arg2, none⟩) (.sendMessage handler object)
  | sendMessage {handler object} :
      Access looper t q (.sendMessage handler object)
        (q.write t object { q.objects t object with target := some handler })
        (.sendLock object { q.objects t object with target := some handler } q.quitReturned)
  | sendRefused {object sentAs late} (isSet : q.isQuit = true) :
      Access looper t q (.sendQuit object sentAs late) q .sendUnlock
  | sendOpen {object sentAs late} (clear : q.isQuit = false) :
      Access looper t q (.sendQuit object sentAs late) q
        (.queue (.pushLock ⟨q.objects t object, sentAs, late⟩))
  | pushDone {ok} : Access looper t q (.queue (.pushDone ok)) q .sendUnlock
  | quitFlag : Access looper t q .quitFlag { q with isQuit := true } (.queue .quitStore)
  | queueQuit : Access looper t q (.queue .quitDone) q .quitUnlock
  | quitDone : Access looper t q .quitDone { q with quitReturned := true } (back looper t)
  | loopEnds (isSet : q.isQuit = true) : Access looper t q .loopQuit q .loopDone
  | loopOpen (clear : q.isQuit = false) : Access looper t q .loopQuit q (.queue .popLock)
  | popFailed : Access looper t q (.queue (.popDone none)) q .loopQuit
  | popDone {posted} : Access looper t q (.queue (.popDone (some posted))) q (.loopTarget posted)
  | noTarget {posted} (null : posted.message.target = none) :
      Access looper t q (.loopTarget posted) q .loopQuit
  | target {posted} (present : posted.message.target ≠ none) :
      Access looper t q (.loopTarget posted) q (.dispatch posted)
  | dispatch {posted} :
      Access looper t q (.dispatch posted) { q with dispatched := q.dispatched ++ [posted] }
        .handling
  | handling : Access looper t q .handling q .loopQuit
  | queue {loc queue n} (access : Queue.Access capacity q.queue loc queue n) :
      Access looper t q (.queue loc) { q with queue := queue } (.queue n)

/-- **Where a call of the queue returns to.** -/
inductive Returns : Queue.Loc Posted → Loc → Prop
  | push {ok} : Returns (.pushDone ok) .sendUnlock
  | quit : Returns .quitDone .quitUnlock
  | popFailed : Returns (.popDone none) .loopQuit
  | popDone {posted} : Returns (.popDone (some posted)) (.loopTarget posted)

theorem queueInstr_cases (q : Data Tid) (loc : Queue.Loc Posted) :
    (∃ n, Returns loc n ∧ queueInstr q loc = .access q n) ∨
      queueInstr q loc = lift q (Queue.instr capacity q.queue loc) := by
  cases loc with
  | pushDone ok => exact Or.inl ⟨_, .push, rfl⟩
  | quitDone => exact Or.inl ⟨_, .quit, rfl⟩
  | popDone result =>
    cases result with
    | none => exact Or.inl ⟨_, .popFailed, rfl⟩
    | some posted => exact Or.inl ⟨_, .popDone, rfl⟩
  | _ => exact Or.inr rfl

/-- Apart from the accesses, an action of the queue is one of the queue's own program. -/
theorem lift_of_queueInstr {loc : Queue.Loc Posted} {act : Instr (Data Tid) Mutex Queue.Cond Loc}
    (instr : queueInstr q loc = act) (other : ∀ q' n, act ≠ .access q' n) :
    lift q (Queue.instr capacity q.queue loc) = act := by
  rcases queueInstr_cases q loc with ⟨n, returns, same⟩ | same
  · exact absurd (instr.symm.trans same) (other q n)
  · exact same.symm.trans instr

theorem access_of_instr {q' : Data Tid} {loc n : Loc}
    (act : (program looper).instr t q loc = .access q' n) : Access looper t q loc q' n := by
  cases loc <;> simp only [program, instr] at act
  case queue loc =>
    rcases queueInstr_cases q loc with ⟨n', returns, same⟩ | same
    · rw [same] at act
      cases act
      cases returns with
      | push => exact .pushDone
      | quit => exact .queueQuit
      | popFailed => exact .popFailed
      | popDone => exact .popDone
    · rw [same] at act
      generalize next : Queue.instr capacity q.queue loc = i at act
      cases i <;> cases act
      exact .queue (Queue.access_of_instr next)
  case sendQuit object sentAs late =>
    cases act
    cases isQuit : q.isQuit with
    | true => exact .sendRefused isQuit
    | false => exact .sendOpen isQuit
  case loopQuit =>
    cases act
    cases isQuit : q.isQuit with
    | true => exact .loopEnds isQuit
    | false => exact .loopOpen isQuit
  case loopTarget posted =>
    cases act
    split_ifs with null
    · exact .noTarget null
    · exact .target null
  all_goals cases act
  all_goals constructor

/-- **The lock actions.** -/
inductive Acquires : Loc → Mutex → Loc → Prop
  | send {object sentAs late} :
      Acquires (.sendLock object sentAs late) .looper (.sendQuit object sentAs late)
  | quit : Acquires .quitLock .looper .quitFlag
  | queue {loc n} (locks : Queue.Locks loc n) : Acquires (.queue loc) .queue (.queue n)

theorem acquires_of_instr {loc n : Loc} {m : Mutex}
    (act : (program looper).instr t q loc = .lock m n) : Acquires loc m n := by
  cases loc <;> simp only [program, instr] at act
  case queue loc =>
    have lifted := lift_of_queueInstr act (by rintro _ _ ⟨⟩)
    generalize next : Queue.instr capacity q.queue loc = i at lifted
    cases i <;> cases lifted
    exact .queue (Queue.locks_of_instr next)
  all_goals cases act
  all_goals constructor

/-- **The unlock actions.** -/
inductive Releases (looper t : Tid) : Loc → Mutex → Loc → Prop
  | send : Releases looper t .sendUnlock .looper (back looper t)
  | quit : Releases looper t .quitUnlock .looper .quitDone
  | queue {loc n} (unlocks : Queue.Unlocks loc n) : Releases looper t (.queue loc) .queue (.queue n)

theorem releases_of_instr {loc n : Loc} {m : Mutex}
    (act : (program looper).instr t q loc = .unlock m n) : Releases looper t loc m n := by
  cases loc <;> simp only [program, instr] at act
  case queue loc =>
    have lifted := lift_of_queueInstr act (by rintro _ _ ⟨⟩)
    generalize next : Queue.instr capacity q.queue loc = i at lifted
    cases i <;> cases lifted
    exact .queue (Queue.unlocks_of_instr next)
  all_goals cases act
  all_goals constructor

/-- **The waits and the notifications are those of the queue.** -/
theorem waits_of_instr {loc n : Loc} {cond : Queue.Cond}
    (act : (program looper).instr t q loc = .wait cond n) :
    ∃ at' n', loc = .queue at' ∧ n = .queue n' ∧ Queue.Waits capacity q.queue at' cond n' := by
  cases loc <;> simp only [program, instr] at act
  case queue loc =>
    have lifted := lift_of_queueInstr act (by rintro _ _ ⟨⟩)
    generalize next : Queue.instr capacity q.queue loc = i at lifted
    cases i <;> cases lifted
    exact ⟨_, _, rfl, rfl, Queue.waits_of_instr next⟩
  all_goals cases act

theorem notifies_of_instr {loc n : Loc} {cond : Queue.Cond}
    (act : (program looper).instr t q loc = .notifyAll cond n) :
    ∃ at' n', loc = .queue at' ∧ n = .queue n' ∧ Queue.Notifies at' cond n' := by
  cases loc <;> simp only [program, instr] at act
  case queue loc =>
    have lifted := lift_of_queueInstr act (by rintro _ _ ⟨⟩)
    generalize next : Queue.instr capacity q.queue loc = i at lifted
    cases i <;> cases lifted
    exact ⟨_, _, rfl, rfl, Queue.notifies_of_instr next⟩
  all_goals cases act

@[simp] theorem holds_back (m : Mutex) : holds m (back looper t) = false := by
  unfold back
  split_ifs <;> cases m <;> rfl

theorem entry_calling {rest loc : Loc} (call : (program looper).entry t rest loc = true) :
    (rest = .idle ∧ t ≠ looper ∨ rest = .handling ∧ t = looper) ∧ calling loc = true := by
  cases rest <;> simp only [program, entry, Bool.and_eq_true, decide_eq_true_eq] at call
  case idle => exact ⟨Or.inl ⟨rfl, call.1⟩, call.2⟩
  case handling => exact ⟨Or.inr ⟨rfl, call.1⟩, call.2⟩
  all_goals cases call

/-- The mutexes of the looper and of its queue are bracketed by their lock and unlock actions. -/
theorem lawful : (program looper : Program (Data Tid) Mutex Queue.Cond Loc Tid).Lawful where
  lock act := by
    cases acquires_of_instr act with
    | queue locks => cases locks <;> exact ⟨rfl, rfl, by rintro ⟨⟩ other <;> trivial⟩
    | _ => exact ⟨rfl, rfl, by rintro ⟨⟩ other <;> trivial⟩
  unlock act := by
    cases releases_of_instr act with
    | send =>
      refine ⟨rfl, holds_back _, fun m other => ?_⟩
      cases m with
      | looper => exact absurd rfl other
      | queue => exact holds_back _
    | queue unlocks => cases unlocks <;> exact ⟨rfl, rfl, by rintro ⟨⟩ other <;> trivial⟩
    | quit => exact ⟨rfl, rfl, by rintro ⟨⟩ other <;> trivial⟩
  wait act := by
    obtain ⟨_, _, rfl, rfl, waits⟩ := waits_of_instr act
    cases waits <;> exact ⟨rfl, rfl, by rintro ⟨⟩ <;> rfl⟩
  notifyAll act := by
    obtain ⟨_, _, rfl, rfl, notifies⟩ := notifies_of_instr act
    cases notifies <;> (rintro ⟨⟩ <;> rfl)
  access act := by
    cases access_of_instr act with
    | queue access => cases access <;> (rintro ⟨⟩ <;> rfl)
    | writing => exact fun m => by simp [program]; cases m <;> rfl
    | quitDone => exact fun m => by simp [program]; cases m <;> rfl
    | _ => rintro ⟨⟩ <;> rfl
  entry call := by
    obtain ⟨⟨rfl, -⟩ | ⟨rfl, -⟩, calling⟩ := entry_calling call
    all_goals
      intro m
      simp only [program]
      cases m <;> simp only [holds] <;> split <;> simp_all [XLooper.calling]

theorem exclusive_start (objects : Tid → Nat → XMessage) :
    (program looper).Exclusive (start looper objects) where
  owner m t := by
    simp only [start]
    split <;> cases m <;> simp [Program.Holds, program, holds]
  resumes t := by
    simp only [start]
    split <;> trivial

end XLooper

end Xplay
