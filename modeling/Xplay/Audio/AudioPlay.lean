/-
**`IAudioPlay` and `SLAudioPlay::playCall` as a monitor program.**

The list of frames is shared by the thread on which OpenSL calls back and the threads that call
`update`; `framesMutex` guards it, `notEmpty` and `notFull` are its condition variables. Both waits
stand under a single `if`: the thread that returns from one does not look at the list again.
`isExit`, `abortRequest` and `pauseRequest` are read and written without the mutex.

A thread stands at `openSL` between two calls of `playCall`, every other thread at `idle` between
two calls of `update`, `pause`, `resume`, `stop` or of the writer of `abortRequest`. `front` of an
empty list is `undefined`; a `memcpy` past the end of the play buffer is an `overrun`.

`appended`, `returned` and `current` are history: what `update` appended, the buffers each returned
`playCall` enqueued, and those the `playCall` in progress enqueued.
-/

import Xplay.Lib.Monitor
import Xplay.Data.XData

namespace Xplay

open Lib Lib.Monitor

/-- The bytes of the buffer that `playCall` copies into. -/
def playBuffer : Nat := 1024 * 1024

namespace AudioPlay

/-- The condition variables of `IAudioPlay`. -/
inductive Cond
  | notEmpty
  | notFull
  deriving DecidableEq

/-- A buffer handed to OpenSL: its contents and its size. -/
structure Buffer where
  contents : Option Nat
  size : Int
  deriving DecidableEq

/-- The members of the audio player and the flags it reads, with the histories. -/
structure Data where
  frames : List XData
  buffer : Option Nat
  isExit : Bool
  abortRequest : Bool
  pauseRequest : Bool
  appended : List XData
  returned : List (List Buffer)
  current : List Buffer

/-- The buffers enqueued so far. -/
def Data.enqueued (q : Data) : List Buffer := q.returned.flatten ++ q.current

/-- The control locations of a thread, operation by operation. -/
inductive Loc
  | idle
  | openSL
  | playExit
  | playAbort
  | playPause
  | pausedExit
  | pausedAbort
  | pausedSleep
  | getLock
  | getEmpty
  | getWait
  | getExit
  | getFront
  | getNotify (d : XData)
  | getUnlock (d : XData)
  | playSize (d : XData)
  | playCopy (d : XData)
  | playEnqueue (d : XData)
  | playCallback (d : XData)
  | playDrop (d : XData)
  | playReturn
  | updateLock (data : XData)
  | updateSize (data : XData)
  | updateFull (data : XData)
  | updateWait (data : XData)
  | updatePush (data : XData)
  | updateNotify
  | updateUnlock
  | pauseStore (pauseRequest : Bool)
  | stopStore
  | stopEmpty
  | stopFull
  | abortStore
  | undefined
  | overrun

/-- The next atomic action at a location. -/
def instr (maxFrameBuffer : Nat) (q : Data) : Loc → Instr Data Cond Loc
  | .idle => .halt
  | .openSL => .halt
  -- SLAudioPlay::playCall, the tests before and inside the pause loop
  | .playExit => .access q (if q.isExit then .playReturn else .playAbort)
  | .playAbort => .access q (if q.abortRequest then .playReturn else .playPause)
  | .playPause => .access q (if q.pauseRequest then .pausedExit else .getLock)
  | .pausedExit => .access q (if q.isExit then .playReturn else .pausedAbort)
  | .pausedAbort => .access q (if q.abortRequest then .playReturn else .pausedSleep)
  | .pausedSleep => .access q .playPause
  -- IAudioPlay::getData
  | .getLock => .lock .getEmpty
  | .getEmpty => .access q (if q.frames = [] then .getWait else .getExit)
  | .getWait => .wait .notEmpty .getExit
  | .getExit => .access q (if q.isExit then .getUnlock XData.init else .getFront)
  | .getFront =>
    match q.frames with
    | [] => .access q .undefined
    | d :: rest => .access { q with frames := rest } (.getNotify d)
  | .getNotify d => .notifyAll .notFull (.getUnlock d)
  | .getUnlock d => .unlock (.playSize d)
  -- SLAudioPlay::playCall, once it has its data
  | .playSize d => .access q (if d.size ≤ 0 then .playReturn else .playCopy d)
  | .playCopy d =>
    if (playBuffer : Int) < d.size then .access q .overrun
    else .access { q with buffer := d.resampleData } (.playEnqueue d)
  | .playEnqueue d =>
    .access { q with current := q.current ++ [⟨q.buffer, d.size⟩] } (.playCallback d)
  | .playCallback d => .access q (.playDrop d)
  | .playDrop _ => .access q .playReturn
  | .playReturn => .access { q with returned := q.returned ++ [q.current], current := [] } .openSL
  -- IAudioPlay::update
  | .updateLock data => .lock (.updateSize data)
  | .updateSize data => .access q (if data.size ≤ 0 then .updateUnlock else .updateFull data)
  | .updateFull data =>
    .access q (if maxFrameBuffer < q.frames.length then .updateWait data else .updatePush data)
  | .updateWait data => .wait .notFull (.updatePush data)
  | .updatePush data =>
    .access { q with frames := q.frames ++ [data], appended := q.appended ++ [data] } .updateNotify
  | .updateNotify => .notifyAll .notEmpty .updateUnlock
  | .updateUnlock => .unlock .idle
  -- the flags
  | .pauseStore pauseRequest => .access { q with pauseRequest := pauseRequest } .idle
  | .stopStore => .access { q with isExit := true } .stopEmpty
  | .stopEmpty => .notifyAll .notEmpty .stopFull
  | .stopFull => .notifyAll .notFull .idle
  | .abortStore => .access { q with abortRequest := true } .idle
  | .undefined => .halt
  | .overrun => .halt

/-- The locations at which the thread holds `framesMutex`. -/
def inside : Loc → Bool
  | .getEmpty | .getWait | .getExit | .getFront | .getNotify _ | .getUnlock _ | .undefined => true
  | .updateSize _ | .updateFull _ | .updateWait _ | .updatePush _ => true
  | .updateNotify | .updateUnlock => true
  | _ => false

/-- OpenSL calls `playCall`, any other thread the other operations. -/
def entry : Loc → Loc → Bool
  | .openSL, .playExit => true
  | .idle, .updateLock _ | .idle, .pauseStore _ | .idle, .stopStore | .idle, .abortStore => true
  | _, _ => false

/-- The audio player with room for `maxFrameBuffer` frames as a monitor program. -/
def program (maxFrameBuffer : Nat) : Program Data Cond Loc where
  instr := instr maxFrameBuffer
  inside := inside
  entry := entry

abbrev State (Tid : Type) := Monitor.State Data Cond Loc Tid

abbrev Label (Tid : Type) := Monitor.Label Loc Tid

/-- The audio player shared by the threads of `Tid`. -/
abbrev system (Tid : Type) [DecidableEq Tid] (maxFrameBuffer : Nat) :
    System (State Tid) (Label Tid) :=
  (program maxFrameBuffer).system Tid

/-- A freshly constructed player; OpenSL calls back on the thread `openSL`. -/
def start {Tid : Type} [DecidableEq Tid] (openSL : Tid) : State Tid where
  shared := ⟨[], none, false, false, false, [], [], []⟩
  owner := none
  thread t := if t = openSL then .running .openSL else .running .idle

/-- A label that does not call `stop` or set `abortRequest`. -/
def Undisturbed {Tid : Type} : Label Tid → Prop
  | .call _ loc => loc ≠ .stopStore ∧ loc ≠ .abortStore
  | .step _ => True

/-- A label that hands `update` no more than the play buffer holds. -/
def Fitting {Tid : Type} : Label Tid → Prop
  | .call _ (.updateLock data) => data.size ≤ playBuffer
  | _ => True

/-- The buffer that holds the samples of `d`. -/
def buffered (d : XData) : Buffer := ⟨d.resampleData, d.size⟩

variable {maxFrameBuffer : Nat}

/-! ### What an action can do -/

/-- **The accesses of the player**: from which location, to what data, at which next location. -/
inductive Access (maxFrameBuffer : Nat) (q : Data) : Loc → Data → Loc → Prop
  | playExit : Access maxFrameBuffer q .playExit q (if q.isExit then .playReturn else .playAbort)
  | playAbort :
      Access maxFrameBuffer q .playAbort q (if q.abortRequest then .playReturn else .playPause)
  | playPause :
      Access maxFrameBuffer q .playPause q (if q.pauseRequest then .pausedExit else .getLock)
  | pausedExit :
      Access maxFrameBuffer q .pausedExit q (if q.isExit then .playReturn else .pausedAbort)
  | pausedAbort :
      Access maxFrameBuffer q .pausedAbort q (if q.abortRequest then .playReturn else .pausedSleep)
  | pausedSleep : Access maxFrameBuffer q .pausedSleep q .playPause
  | getEmpty : Access maxFrameBuffer q .getEmpty q (if q.frames = [] then .getWait else .getExit)
  | getExit :
      Access maxFrameBuffer q .getExit q (if q.isExit then .getUnlock XData.init else .getFront)
  | getNothing (nothing : q.frames = []) : Access maxFrameBuffer q .getFront q .undefined
  | getFront {d rest} (front : q.frames = d :: rest) :
      Access maxFrameBuffer q .getFront { q with frames := rest } (.getNotify d)
  | playSize {d} :
      Access maxFrameBuffer q (.playSize d) q (if d.size ≤ 0 then .playReturn else .playCopy d)
  | playOverrun {d} (large : (playBuffer : Int) < d.size) :
      Access maxFrameBuffer q (.playCopy d) q .overrun
  | playCopy {d} (fits : d.size ≤ (playBuffer : Int)) :
      Access maxFrameBuffer q (.playCopy d) { q with buffer := d.resampleData } (.playEnqueue d)
  | playEnqueue {d} :
      Access maxFrameBuffer q (.playEnqueue d)
        { q with current := q.current ++ [⟨q.buffer, d.size⟩] } (.playCallback d)
  | playCallback {d} : Access maxFrameBuffer q (.playCallback d) q (.playDrop d)
  | playDrop {d} : Access maxFrameBuffer q (.playDrop d) q .playReturn
  | playReturn :
      Access maxFrameBuffer q .playReturn
        { q with returned := q.returned ++ [q.current], current := [] } .openSL
  | updateSize {data} :
      Access maxFrameBuffer q (.updateSize data) q
        (if data.size ≤ 0 then .updateUnlock else .updateFull data)
  | updateFull {data} :
      Access maxFrameBuffer q (.updateFull data) q
        (if maxFrameBuffer < q.frames.length then .updateWait data else .updatePush data)
  | updatePush {data} :
      Access maxFrameBuffer q (.updatePush data)
        { q with frames := q.frames ++ [data], appended := q.appended ++ [data] } .updateNotify
  | pauseStore {pauseRequest} :
      Access maxFrameBuffer q (.pauseStore pauseRequest) { q with pauseRequest := pauseRequest }
        .idle
  | stopStore : Access maxFrameBuffer q .stopStore { q with isExit := true } .stopEmpty
  | abortStore : Access maxFrameBuffer q .abortStore { q with abortRequest := true } .idle

theorem access_of_instr {q q' : Data} {loc n : Loc}
    (act : (program maxFrameBuffer).instr q loc = .access q' n) :
    Access maxFrameBuffer q loc q' n := by
  cases loc <;> simp only [program, instr] at act
  case getFront =>
    split at act
    · cases act
      exact .getNothing ‹_›
    · cases act
      exact .getFront ‹_›
  case playCopy d =>
    split at act
    · cases act
      exact .playOverrun ‹_›
    · next fits =>
      cases act
      exact .playCopy (Int.not_lt.mp fits)
  all_goals cases act
  all_goals constructor

/-- **The waits of the player**, each resuming behind its test. -/
inductive Waits : Loc → Cond → Loc → Prop
  | get : Waits .getWait .notEmpty .getExit
  | update {data} : Waits (.updateWait data) .notFull (.updatePush data)

theorem waits_of_instr {q : Data} {loc n : Loc} {cond : Cond}
    (act : (program maxFrameBuffer).instr q loc = .wait cond n) : Waits loc cond n := by
  cases loc <;> simp only [program, instr] at act
  case getFront => split at act <;> cases act
  case playCopy => split at act <;> cases act
  all_goals cases act
  all_goals constructor

/-- **The notifications of the player.** -/
inductive Notifies : Loc → Cond → Loc → Prop
  | get {d} : Notifies (.getNotify d) .notFull (.getUnlock d)
  | update : Notifies .updateNotify .notEmpty .updateUnlock
  | stopEmpty : Notifies .stopEmpty .notEmpty .stopFull
  | stopFull : Notifies .stopFull .notFull .idle

theorem notifies_of_instr {q : Data} {loc n : Loc} {cond : Cond}
    (act : (program maxFrameBuffer).instr q loc = .notifyAll cond n) : Notifies loc cond n := by
  cases loc <;> simp only [program, instr] at act
  case getFront => split at act <;> cases act
  case playCopy => split at act <;> cases act
  all_goals cases act
  all_goals constructor

/-- **The returns of the critical sections.** -/
inductive Unlocks : Loc → Loc → Prop
  | get {d} : Unlocks (.getUnlock d) (.playSize d)
  | update : Unlocks .updateUnlock .idle

theorem unlocks_of_instr {q : Data} {loc n : Loc}
    (act : (program maxFrameBuffer).instr q loc = .unlock n) : Unlocks loc n := by
  cases loc <;> simp only [program, instr] at act
  case getFront => split at act <;> cases act
  case playCopy => split at act <;> cases act
  all_goals cases act
  all_goals constructor

/-- **The lock actions of the player.** -/
inductive Locks : Loc → Loc → Prop
  | get : Locks .getLock .getEmpty
  | update {data} : Locks (.updateLock data) (.updateSize data)

theorem locks_of_instr {q : Data} {loc n : Loc}
    (act : (program maxFrameBuffer).instr q loc = .lock n) : Locks loc n := by
  cases loc <;> simp only [program, instr] at act
  case getFront => split at act <;> cases act
  case playCopy => split at act <;> cases act
  all_goals cases act
  all_goals constructor

/-- **The calls.** -/
inductive Calls : Loc → Loc → Prop
  | play : Calls .openSL .playExit
  | update {data} : Calls .idle (.updateLock data)
  | pause {pauseRequest} : Calls .idle (.pauseStore pauseRequest)
  | stop : Calls .idle .stopStore
  | abort : Calls .idle .abortStore

theorem calls_of_entry {rest loc : Loc} (call : (program maxFrameBuffer).entry rest loc = true) :
    Calls rest loc := by
  cases rest <;> cases loc <;> first | constructor | cases call

/-- The critical sections of the player are bracketed by its lock and unlock actions. -/
theorem lawful : (program maxFrameBuffer).Lawful where
  lock act := by cases locks_of_instr act <;> exact ⟨rfl, rfl⟩
  unlock act := by cases unlocks_of_instr act <;> exact ⟨rfl, rfl⟩
  wait act := by cases waits_of_instr act <;> exact ⟨rfl, rfl⟩
  notifyAll act := by cases notifies_of_instr act <;> rfl
  access act := by
    cases access_of_instr act
    all_goals first | rfl | (simp only [program]; split_ifs <;> rfl)
  entry call := by cases calls_of_entry call <;> exact ⟨rfl, rfl⟩

theorem exclusive_start {Tid : Type} [DecidableEq Tid] (openSL : Tid) :
    (program maxFrameBuffer).Exclusive (start openSL) where
  owner t := by
    simp only [start]
    split <;> simp [Program.Inside, program, inside]
  resumes t := by
    simp only [start]
    split <;> trivial

end AudioPlay

end Xplay
