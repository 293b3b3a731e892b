/-
**`FrameQueue` with its lock, between a decoder, a consumer and the threads that start it.**

A monitor program: a decoder that is granted a slot, fills it and calls `pushFrame`, a consumer that
calls `popFrame`, and any number of threads that call `start` and `abort`. `mMutex` guards `size` and
`abort_request`; `rindex`, `windex` and the slots are moved without it. The wait of `peekWritable`
stands under a single `if`, and `abort` and `start` notify `mNotFull` like `popFrame`.

`holds` is history: the slots that were filled and that `popFrame` has not cleared since, that is,
those with an unshown frame or the kept one.

* `access_of_instr` and the others — what an action can do; `lawful` — the lock brackets.
* `roles_step` — no step leads a thread into another's operations.
-/

import Xplay.Lib.Monitor
import Xplay.Queue.FrameQueue

set_option linter.unusedSectionVars false

namespace Xplay.FrameSlots

open Lib Lib.Monitor

/-- The decoder, the consumer, and the threads that start and abort the queue. -/
inductive Thread (Tid : Type)
  | producer
  | consumer
  | other (t : Tid)
  deriving DecidableEq

/-- The condition variable. -/
inductive Cond
  | notFull
  deriving DecidableEq

/-- The queue, and the slots that hold a frame. -/
structure Data where
  queue : FrameQueue
  holds : Nat → Bool

/-- The control locations, operation by operation. -/
inductive Loc
  | producing
  | peekLock
  | peekFull
  | peekWait
  | peekAbort
  | peekNull
  | peekSlot (k : Nat)
  | granted (k : Nat)
  | fill (k : Nat) (x : XData)
  | pushWindex
  | pushLock
  | pushSize
  | pushNotify
  | pushUnlock
  | consuming
  | popKeep
  | popClear
  | popRindex
  | popLock
  | popSize
  | popNotify
  | popUnlock
  | idle
  | startLock
  | startStore
  | startNotify
  | startUnlock
  | abortLock
  | abortStore
  | abortNotify
  | abortUnlock

/-- The next atomic action at a location. -/
def instr (d : Data) : Loc → Instr Data Cond Loc
  | .producing | .granted _ | .consuming | .idle => .halt
  -- FrameQueue::peekWritable
  | .peekLock => .lock .peekFull
  | .peekFull =>
    .access d (if d.queue.maxSize ≤ d.queue.size ∧ d.queue.abortRequest = false then .peekWait
      else .peekAbort)
  | .peekWait => .wait .notFull .peekAbort
  | .peekAbort =>
    .access d (if d.queue.abortRequest then .peekNull else .peekSlot d.queue.windex)
  | .peekNull => .unlock .producing
  | .peekSlot k => .unlock (.granted k)
  -- the decoder writes the slot
  | .fill k x =>
    .access { queue := d.queue.store k x, holds := Function.update d.holds k true } .pushWindex
  -- FrameQueue::pushFrame
  | .pushWindex =>
    .access
      { d with
        queue.windex := if d.queue.windex + 1 = d.queue.maxSize then 0 else d.queue.windex + 1 }
      .pushLock
  | .pushLock => .lock .pushSize
  | .pushSize => .access { d with queue.size := d.queue.size + 1 } .pushNotify
  | .pushNotify => .notifyAll .notFull .pushUnlock
  | .pushUnlock => .unlock .producing
  -- FrameQueue::popFrame
  | .popKeep =>
    if d.queue.keepLast = true ∧ d.queue.showIndex = 0 then
      .access { d with queue.showIndex := 1 } .consuming
    else .access d .popClear
  | .popClear =>
    .access
      { queue :=
          { d.queue with
            queue := Function.update d.queue.queue d.queue.rindex
              (unrefFrame (d.queue.queue d.queue.rindex)) }
        holds := Function.update d.holds d.queue.rindex false }
      .popRindex
  | .popRindex =>
    .access
      { d with
        queue.rindex := if d.queue.rindex + 1 = d.queue.maxSize then 0 else d.queue.rindex + 1 }
      .popLock
  | .popLock => .lock .popSize
  | .popSize =>
    .access { d with queue.size := if 0 < d.queue.size then d.queue.size - 1 else d.queue.size }
      .popNotify
  | .popNotify => .notifyAll .notFull .popUnlock
  | .popUnlock => .unlock .consuming
  -- FrameQueue::start
  | .startLock => .lock .startStore
  | .startStore => .access { d with queue := d.queue.start } .startNotify
  | .startNotify => .notifyAll .notFull .startUnlock
  | .startUnlock => .unlock .idle
  -- FrameQueue::abort
  | .abortLock => .lock .abortStore
  | .abortStore => .access { d with queue := d.queue.abort } .abortNotify
  | .abortNotify => .notifyAll .notFull .abortUnlock
  | .abortUnlock => .unlock .idle

/-- The locations at which the thread holds `mMutex`. -/
def inside : Loc → Bool
  | .peekFull | .peekWait | .peekAbort | .peekNull | .peekSlot _ => true
  | .pushSize | .pushNotify | .pushUnlock | .popSize | .popNotify | .popUnlock => true
  | .startStore | .startNotify | .startUnlock | .abortStore | .abortNotify | .abortUnlock => true
  | _ => false

/-- The calls of each thread; the decoder fills the slot it was granted. -/
def entry : Loc → Loc → Bool
  | .producing, .peekLock => true
  | .granted k, .fill k' _ => decide (k = k')
  | .consuming, .popKeep => true
  | .idle, .startLock | .idle, .abortLock => true
  | _, _ => false

/-- `FrameQueue` as a monitor program. -/
def program : Program Data Cond Loc where
  instr := instr
  inside := inside
  entry := entry

abbrev State (Tid : Type) := Monitor.State Data Cond Loc (Thread Tid)

abbrev Label (Tid : Type) := Monitor.Label Loc (Thread Tid)

/-- The queue between its threads. -/
abbrev system (Tid : Type) [DecidableEq Tid] : System (State Tid) (Label Tid) :=
  program.system (Thread Tid)

/-- A freshly constructed queue. -/
def constructed (Tid : Type) (maxSize : Nat) (keepLast : Bool) : State Tid where
  shared := ⟨FrameQueue.new maxSize keepLast, fun _ => false⟩
  owner := none
  thread
    | .producer => .running .producing
    | .consumer => .running .consuming
    | .other _ => .running .idle

/-! ### What an action can do -/

/-- **The accesses.** -/
inductive Access (d : Data) : Loc → Data → Loc → Prop
  | peekFull (full : d.queue.maxSize ≤ d.queue.size ∧ d.queue.abortRequest = false) :
      Access d .peekFull d .peekWait
  | peekRoom (room : ¬(d.queue.maxSize ≤ d.queue.size ∧ d.queue.abortRequest = false)) :
      Access d .peekFull d .peekAbort
  | peekNull (aborted : d.queue.abortRequest = true) : Access d .peekAbort d .peekNull
  | peekSlot (clear : d.queue.abortRequest = false) :
      Access d .peekAbort d (.peekSlot d.queue.windex)
  | fill {k x} :
      Access d (.fill k x)
        { queue := d.queue.store k x, holds := Function.update d.holds k true } .pushWindex
  | pushWindex :
      Access d .pushWindex
        { d with
          queue.windex := if d.queue.windex + 1 = d.queue.maxSize then 0 else d.queue.windex + 1 }
        .pushLock
  | pushSize : Access d .pushSize { d with queue.size := d.queue.size + 1 } .pushNotify
  | popKeep (keep : d.queue.keepLast = true ∧ d.queue.showIndex = 0) :
      Access d .popKeep { d with queue.showIndex := 1 } .consuming
  | popPast (past : ¬(d.queue.keepLast = true ∧ d.queue.showIndex = 0)) :
      Access d .popKeep d .popClear
  | popClear :
      Access d .popClear
        { queue :=
            { d.queue with
              queue := Function.update d.queue.queue d.queue.rindex
                (unrefFrame (d.queue.queue d.queue.rindex)) }
          holds := Function.update d.holds d.queue.rindex false }
        .popRindex
  | popRindex :
      Access d .popRindex
        { d with
          queue.rindex := if d.queue.rindex + 1 = d.queue.maxSize then 0 else d.queue.rindex + 1 }
        .popLock
  | popSize :
      Access d .popSize
        { d with queue.size := if 0 < d.queue.size then d.queue.size - 1 else d.queue.size }
        .popNotify
  | startStore : Access d .startStore { d with queue := d.queue.start } .startNotify
  | abortStore : Access d .abortStore { d with queue := d.queue.abort } .abortNotify

theorem access_of_instr {d d' : Data} {loc n : Loc} (act : program.instr d loc = .access d' n) :
    Access d loc d' n := by
  cases loc <;> simp only [program, instr] at act
  case peekFull =>
    split_ifs at act with full
    · cases act
      exact .peekFull full
    · cases act
      exact .peekRoom full
  case peekAbort =>
    split_ifs at act with aborted
    · cases act
      exact .peekNull aborted
    · cases act
      exact .peekSlot (Bool.eq_false_of_not_eq_true aborted)
  case popKeep =>
    split_ifs at act with keep
    · cases act
      exact .popKeep keep
    · cases act
      exact .popPast keep
  all_goals cases act
  all_goals constructor

/-- **The wait.** -/
inductive Waits : Loc → Cond → Loc → Prop
  | peek : Waits .peekWait .notFull .peekAbort

theorem waits_of_instr {d : Data} {loc n : Loc} {cond : Cond}
    (act : program.instr d loc = .wait cond n) : Waits loc cond n := by
  cases loc <;> simp only [program, instr] at act
  case popKeep => split_ifs at act
  all_goals cases act
  all_goals constructor

/-- **The notifications**, by four operations for four reasons. -/
inductive Notifies : Loc → Cond → Loc → Prop
  | push : Notifies .pushNotify .notFull .pushUnlock
  | pop : Notifies .popNotify .notFull .popUnlock
  | start : Notifies .startNotify .notFull .startUnlock
  | abort : Notifies .abortNotify .notFull .abortUnlock

theorem notifies_of_instr {d : Data} {loc n : Loc} {cond : Cond}
    (act : program.instr d loc = .notifyAll cond n) : Notifies loc cond n := by
  cases loc <;> simp only [program, instr] at act
  case popKeep => split_ifs at act
  all_goals cases act
  all_goals constructor

/-- **The returns of the critical sections.** -/
inductive Unlocks : Loc → Loc → Prop
  | null : Unlocks .peekNull .producing
  | slot {k} : Unlocks (.peekSlot k) (.granted k)
  | push : Unlocks .pushUnlock .producing
  | pop : Unlocks .popUnlock .consuming
  | start : Unlocks .startUnlock .idle
  | abort : Unlocks .abortUnlock .idle

theorem unlocks_of_instr {d : Data} {loc n : Loc} (act : program.instr d loc = .unlock n) :
    Unlocks loc n := by
  cases loc <;> simp only [program, instr] at act
  case popKeep => split_ifs at act
  all_goals cases act
  all_goals constructor

/-- **The lock actions.** -/
inductive Locks : Loc → Loc → Prop
  | peek : Locks .peekLock .peekFull
  | push : Locks .pushLock .pushSize
  | pop : Locks .popLock .popSize
  | start : Locks .startLock .startStore
  | abort : Locks .abortLock .abortStore

theorem locks_of_instr {d : Data} {loc n : Loc} (act : program.instr d loc = .lock n) :
    Locks loc n := by
  cases loc <;> simp only [program, instr] at act
  case popKeep => split_ifs at act
  all_goals cases act
  all_goals constructor

/-- **The calls.** -/
inductive Calls : Loc → Loc → Prop
  | peek : Calls .producing .peekLock
  | fill {k x} : Calls (.granted k) (.fill k x)
  | pop : Calls .consuming .popKeep
  | start : Calls .idle .startLock
  | abort : Calls .idle .abortLock

theorem calls_of_entry {rest loc : Loc} (call : program.entry rest loc = true) :
    Calls rest loc := by
  cases rest <;> cases loc <;> simp only [program, entry] at call
  case granted.fill k k' x =>
    cases of_decide_eq_true call
    exact .fill
  all_goals first | constructor | cases call

/-- The critical sections are bracketed by the lock and unlock actions. -/
theorem lawful : program.Lawful where
  lock act := by cases locks_of_instr act <;> exact ⟨rfl, rfl⟩
  unlock act := by cases unlocks_of_instr act <;> exact ⟨rfl, rfl⟩
  wait act := by cases waits_of_instr act; exact ⟨rfl, rfl⟩
  notifyAll act := by cases notifies_of_instr act <;> rfl
  access act := by cases access_of_instr act <;> rfl
  entry call := by cases calls_of_entry call <;> exact ⟨rfl, rfl⟩

/-! ### Roles -/

/-- The three kinds of threads. -/
inductive Role
  | producer
  | consumer
  | other

def Thread.role {Tid : Type} : Thread Tid → Role
  | .producer => .producer
  | .consumer => .consumer
  | .other _ => .other

/-- Whose location it is. -/
def roleAt : Loc → Role
  | .producing | .peekLock | .peekFull | .peekWait | .peekAbort | .peekNull | .peekSlot _ => .producer
  | .granted _ | .fill _ _ | .pushWindex | .pushLock | .pushSize | .pushNotify => .producer
  | .pushUnlock => .producer
  | .consuming | .popKeep | .popClear | .popRindex | .popLock | .popSize | .popNotify => .consumer
  | .popUnlock => .consumer
  | .idle | .startLock | .startStore | .startNotify | .startUnlock => .other
  | .abortLock | .abortStore | .abortNotify | .abortUnlock => .other

def roleOf : Status Cond Loc → Role
  | .running loc | .waiting _ loc | .relocking loc => roleAt loc

theorem roleOf_wake (cond : Cond) (status : Status Cond Loc) :
    roleOf (wake cond status) = roleOf status := by
  cases status with
  | waiting c n =>
    simp only [wake]
    split_ifs <;> rfl
  | _ => rfl

/-- No step leads a thread into another's operations. -/
theorem roleOf_moves {Tid : Type} {d d' : Data} {l : Label Tid} {before after : Status Cond Loc}
    (moves : program.Moves d before l d' after) : roleOf after = roleOf before := by
  cases moves with
  | call entry => cases calls_of_entry entry <;> rfl
  | relock => rfl
  | lock act => cases locks_of_instr act <;> rfl
  | unlock act => cases unlocks_of_instr act <;> rfl
  | wait act => cases waits_of_instr act; rfl
  | notifyAll act => cases notifies_of_instr act <;> rfl
  | access act => cases access_of_instr act <;> rfl

variable {Tid : Type} [DecidableEq Tid] {s s' : State Tid} {l : Label Tid}

theorem roles_step (step : program.Step s l s') (before : ∀ t, roleOf (s.thread t) = t.role)
    (t : Thread Tid) : roleOf (s'.thread t) = t.role := by
  rw [← before t]
  by_cases self : t = l.actor
  · rw [self]
    exact roleOf_moves step.moves
  · rcases step.other self with same | ⟨_, _, _, _, _, _, woken⟩
    · rw [same]
    · rw [woken, roleOf_wake]

end Xplay.FrameSlots
