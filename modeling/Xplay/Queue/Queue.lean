/-
**`Queue<T>` and `XMessageQueue` as monitor programs.**

Every operation is cut at its atomic actions: taking `_mutex`, each read of `_quit` and
`_finished`, the size or emptiness test with the queue operation that follows it (both under the
lock), waiting with the lock released, notifying, and returning (which unlocks). `finished` and
`quit` store their flag and notify without taking `_mutex`.

`accepted` and `taken` are history: the values whose `push` returns true, and the values handed out
by `pop`, both in the order of the critical sections.
-/

import Xplay.Lib.Monitor

namespace Xplay

open Lib Lib.Monitor

namespace Queue

variable {T Tid : Type}

/-- The condition variables of the queue. -/
inductive Cond
  | fullQue
  | empty
  deriving DecidableEq

/-- The members of the queue object, with the two histories. -/
structure Data (T : Type) where
  queue : List T
  quit : Bool
  finished : Bool
  accepted : List T
  taken : List T

/-- The control locations of a thread, operation by operation. -/
inductive Loc (T : Type)
  | idle
  | pushLock (data : T)
  | pushQuit (data : T)
  | pushFinished (data : T)
  | pushSize (data : T)
  | pushNotify
  | pushUnlock (ok : Bool)
  | pushDone (ok : Bool)
  | popLock
  | popQuit
  | popEmpty
  | popFinished
  | popWait
  | popNotify (data : T)
  | popUnlock (result : Option T)
  | popDone (result : Option T)
  | lengthLock
  | lengthRead
  | lengthUnlock (length : Nat)
  | lengthDone (length : Nat)
  | finishedStore
  | finishedNotify
  | finishedDone
  | quitStore
  | quitEmpty
  | quitFull
  | quitDone

/-- The next atomic action at a location of a queue of capacity `sizeMax`. -/
def instr (sizeMax : Nat) (q : Data T) : Loc T → Instr (Data T) Cond (Loc T)
  | .idle => .halt
  | .pushLock data => .lock (.pushQuit data)
  | .pushQuit data => .access q (if q.quit then .pushUnlock false else .pushFinished data)
  | .pushFinished data => .access q (if q.finished then .pushUnlock false else .pushSize data)
  | .pushSize data =>
    if q.queue.length < sizeMax then
      .access { q with queue := q.queue ++ [data], accepted := q.accepted ++ [data] } .pushNotify
    else .wait .fullQue (.pushQuit data)
  | .pushNotify => .notifyAll .empty (.pushUnlock true)
  | .pushUnlock ok => .unlock (.pushDone ok)
  | .pushDone _ => .halt
  | .popLock => .lock .popQuit
  | .popQuit => .access q (if q.quit then .popUnlock none else .popEmpty)
  | .popEmpty =>
    match q.queue with
    | [] => .access q .popFinished
    | data :: rest => .access { q with queue := rest, taken := q.taken ++ [data] } (.popNotify data)
  | .popFinished => .access q (if q.finished then .popUnlock none else .popWait)
  | .popWait => .wait .empty .popQuit
  | .popNotify data => .notifyAll .fullQue (.popUnlock (some data))
  | .popUnlock result => .unlock (.popDone result)
  | .popDone _ => .halt
  | .lengthLock => .lock .lengthRead
  | .lengthRead => .access q (.lengthUnlock q.queue.length)
  | .lengthUnlock length => .unlock (.lengthDone length)
  | .lengthDone _ => .halt
  | .finishedStore => .access { q with finished := true } .finishedNotify
  | .finishedNotify => .notifyAll .empty .finishedDone
  | .finishedDone => .halt
  | .quitStore => .access { q with quit := true } .quitEmpty
  | .quitEmpty => .notifyAll .empty .quitFull
  | .quitFull => .notifyAll .fullQue .quitDone
  | .quitDone => .halt

/-- The locations at which the thread holds `_mutex`. -/
def inside : Loc T → Bool
  | .pushQuit _ | .pushFinished _ | .pushSize _ | .pushNotify | .pushUnlock _ => true
  | .popQuit | .popEmpty | .popFinished | .popWait | .popNotify _ | .popUnlock _ => true
  | .lengthRead | .lengthUnlock _ => true
  | _ => false

/-- A thread that is not in a call. -/
def resting : Loc T → Bool
  | .idle | .pushDone _ | .popDone _ | .lengthDone _ | .finishedDone | .quitDone => true
  | _ => false

/-- The first location of a call. -/
def calling : Loc T → Bool
  | .pushLock _ | .popLock | .lengthLock | .finishedStore | .quitStore => true
  | _ => false

/-- The queue of capacity `sizeMax` as a monitor program. -/
def program (T : Type) (sizeMax : Nat) : Program (Data T) Cond (Loc T) where
  instr := instr sizeMax
  inside := inside
  entry rest loc := resting rest && calling loc

abbrev State (T Tid : Type) := Monitor.State (Data T) Cond (Loc T) Tid

abbrev Label (T Tid : Type) := Monitor.Label (Loc T) Tid

/-- The queue shared by the threads of `Tid`. -/
abbrev system (T Tid : Type) [DecidableEq Tid] (sizeMax : Nat) : System (State T Tid) (Label T Tid) :=
  (program T sizeMax).system Tid

/-- A freshly constructed queue, no thread in a call. -/
def start (T Tid : Type) : State T Tid where
  shared := ⟨[], false, false, [], []⟩
  owner := none
  thread _ := .running .idle

end Queue

/-- A message of the looper; `target` names the handler that sent it. -/
structure XMessage where
  what : Int
  arg1 : Int
  arg2 : Int
  target : Option Nat
  deriving DecidableEq

/-- `XMessageQueue` is the same queue at `XMessage`. -/
def XMessageQueue.program (sizeMax : Nat) : Program (Queue.Data XMessage) Queue.Cond
    (Queue.Loc XMessage) :=
  Queue.program XMessage sizeMax

namespace Queue

variable {T Tid : Type} {sizeMax : Nat}

/-! ### What an action can do -/

/-- **The accesses of the queue**: from which location, to what data, at which next location. -/
inductive Access (sizeMax : Nat) (q : Data T) : Loc T → Data T → Loc T → Prop
  | pushQuit {data} (isSet : q.quit = true) : Access sizeMax q (.pushQuit data) q (.pushUnlock false)
  | pushOpen {data} (clear : q.quit = false) : Access sizeMax q (.pushQuit data) q (.pushFinished data)
  | pushFinished {data} (isSet : q.finished = true) :
      Access sizeMax q (.pushFinished data) q (.pushUnlock false)
  | pushCheck {data} (clear : q.finished = false) :
      Access sizeMax q (.pushFinished data) q (.pushSize data)
  | enqueue {data} (room : q.queue.length < sizeMax) :
      Access sizeMax q (.pushSize data)
        { q with queue := q.queue ++ [data], accepted := q.accepted ++ [data] } .pushNotify
  | popQuit (isSet : q.quit = true) : Access sizeMax q .popQuit q (.popUnlock none)
  | popOpen (clear : q.quit = false) : Access sizeMax q .popQuit q .popEmpty
  | popEmpty (nothing : q.queue = []) : Access sizeMax q .popEmpty q .popFinished
  | dequeue {data rest} (front : q.queue = data :: rest) :
      Access sizeMax q .popEmpty { q with queue := rest, taken := q.taken ++ [data] }
        (.popNotify data)
  | popFinished (isSet : q.finished = true) : Access sizeMax q .popFinished q (.popUnlock none)
  | popCheck (clear : q.finished = false) : Access sizeMax q .popFinished q .popWait
  | length : Access sizeMax q .lengthRead q (.lengthUnlock q.queue.length)
  | finished : Access sizeMax q .finishedStore { q with finished := true } .finishedNotify
  | quit : Access sizeMax q .quitStore { q with quit := true } .quitEmpty

theorem access_of_instr {q q' : Data T} {loc n : Loc T}
    (act : (program T sizeMax).instr q loc = .access q' n) : Access sizeMax q loc q' n := by
  cases loc <;> simp only [program, instr] at act
  case pushQuit data =>
    cases act
    cases quit : q.quit with
    | true => exact .pushQuit quit
    | false => exact .pushOpen quit
  case pushFinished data =>
    cases act
    cases finished : q.finished with
    | true => exact .pushFinished finished
    | false => exact .pushCheck finished
  case pushSize data =>
    split_ifs at act with room
    · cases act
      exact .enqueue room
  case popQuit =>
    cases act
    cases quit : q.quit with
    | true => exact .popQuit quit
    | false => exact .popOpen quit
  case popEmpty =>
    split at act
    · cases act
      exact .popEmpty ‹_›
    · cases act
      exact .dequeue ‹_›
  case popFinished =>
    cases act
    cases finished : q.finished with
    | true => exact .popFinished finished
    | false => exact .popCheck finished
  case lengthRead => cases act; exact .length
  case finishedStore => cases act; exact .finished
  case quitStore => cases act; exact .quit
  all_goals cases act

/-- **The waits of the queue**: a full `push` and a `pop` that found nothing, each resuming at the
head of its loop. -/
inductive Waits (sizeMax : Nat) (q : Data T) : Loc T → Cond → Loc T → Prop
  | push {data} (full : sizeMax ≤ q.queue.length) :
      Waits sizeMax q (.pushSize data) .fullQue (.pushQuit data)
  | pop : Waits sizeMax q .popWait .empty .popQuit

theorem waits_of_instr {q : Data T} {loc n : Loc T} {cond : Cond}
    (act : (program T sizeMax).instr q loc = .wait cond n) : Waits sizeMax q loc cond n := by
  cases loc <;> simp only [program, instr] at act
  case pushSize data =>
    split_ifs at act with room
    · cases act
      exact .push (Nat.le_of_not_lt room)
  case popWait => cases act; exact .pop
  case popEmpty => split at act <;> cases act
  all_goals cases act

/-- **The notifications of the queue.** -/
inductive Notifies : Loc T → Cond → Loc T → Prop
  | push : Notifies .pushNotify .empty (.pushUnlock true)
  | pop {data} : Notifies (.popNotify data) .fullQue (.popUnlock (some data))
  | finished : Notifies .finishedNotify .empty .finishedDone
  | quitEmpty : Notifies .quitEmpty .empty .quitFull
  | quitFull : Notifies .quitFull .fullQue .quitDone

theorem notifies_of_instr {q : Data T} {loc n : Loc T} {cond : Cond}
    (act : (program T sizeMax).instr q loc = .notifyAll cond n) : Notifies loc cond n := by
  cases loc <;> simp only [program, instr] at act
  case pushSize data => split_ifs at act
  case popEmpty => split at act <;> cases act
  case pushNotify => cases act; exact .push
  case popNotify data => cases act; exact .pop
  case finishedNotify => cases act; exact .finished
  case quitEmpty => cases act; exact .quitEmpty
  case quitFull => cases act; exact .quitFull
  all_goals cases act

/-- **The returns of the queue.** -/
inductive Unlocks : Loc T → Loc T → Prop
  | push {ok} : Unlocks (.pushUnlock ok) (.pushDone ok)
  | pop {result} : Unlocks (.popUnlock result) (.popDone result)
  | length {length} : Unlocks (.lengthUnlock length) (.lengthDone length)

theorem unlocks_of_instr {q : Data T} {loc n : Loc T}
    (act : (program T sizeMax).instr q loc = .unlock n) : Unlocks loc n := by
  cases loc <;> simp only [program, instr] at act
  case pushSize data => split_ifs at act
  case popEmpty => split at act <;> cases act
  case pushUnlock ok => cases act; exact .push
  case popUnlock result => cases act; exact .pop
  case lengthUnlock length => cases act; exact .length
  all_goals cases act

/-- **The lock actions of the queue.** -/
inductive Locks : Loc T → Loc T → Prop
  | push {data} : Locks (.pushLock data) (.pushQuit data)
  | pop : Locks .popLock .popQuit
  | length : Locks .lengthLock .lengthRead

theorem locks_of_instr {q : Data T} {loc n : Loc T}
    (act : (program T sizeMax).instr q loc = .lock n) : Locks loc n := by
  cases loc <;> simp only [program, instr] at act
  case pushSize data => split_ifs at act
  case popEmpty => split at act <;> cases act
  case pushLock data => cases act; exact .push
  case popLock => cases act; exact .pop
  case lengthLock => cases act; exact .length
  all_goals cases act

/-- The critical sections of the queue are bracketed by its lock and unlock actions. -/
theorem lawful : (program T sizeMax).Lawful where
  lock act := by cases locks_of_instr act <;> exact ⟨rfl, rfl⟩
  unlock act := by cases unlocks_of_instr act <;> exact ⟨rfl, rfl⟩
  wait act := by cases waits_of_instr act <;> exact ⟨rfl, rfl⟩
  notifyAll act := by cases notifies_of_instr act <;> rfl
  access act := by cases access_of_instr act <;> rfl
  entry {rest loc} call := by
    simp only [program, Bool.and_eq_true] at call ⊢
    cases rest <;> cases loc <;> simp_all [resting, calling, inside]

theorem exclusive_start : (program T sizeMax).Exclusive (start T Tid) where
  owner t := by simp [start, Program.Inside, program, inside]
  resumes _ := trivial

/-- A waiting thread resumes at the head of its loop. -/
def LoopHead : Loc T → Prop
  | .pushQuit _ | .popQuit => True
  | _ => False

theorem loopHead_of_wait {q : Data T} {loc n : Loc T} {cond : Cond}
    (act : (program T sizeMax).instr q loc = .wait cond n) : LoopHead n := by
  cases waits_of_instr act <;> trivial

end Queue

end Xplay
