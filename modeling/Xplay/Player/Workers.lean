/-
**A `MediaPlayer` has one set of workers exactly while `start` is called once.**

The calls of a player run one after the other, under `MediaPlayer::mutex`, statement by statement
between the steps of the threads they spawn. `XThread::start` clears `isExit` and spawns a thread
without a look at `isRunning`; `MediaPlayer::start` does so for four components, and makes a new
`MediaSync2` with two loops. Before it does, it adds `audioPlay` to the resampler's observers, and
nothing ever removes it.

So `addObserver` is passed once, or twice: in the first case every thread is the only one of its kind
(`Counted`), but for the audio decoder, which `start` spawns first; in the second the resampler
delivers every buffer twice.
-/

import Xplay.Lib.Crew
import Xplay.Lib.System

set_option linter.unusedSectionVars false

namespace Xplay.Workers

open Lib

/-- The components that are an `XThread` with a thread of their own. -/
inductive Worker
  | demux
  | audioDecode
  | videoDecode
  | resample
  deriving DecidableEq

/-- The loops of a `MediaSync2`. -/
inductive Loop
  | audioPlay
  | videoPlay
  deriving DecidableEq

/-- The kinds of threads. -/
inductive Kind
  | worker (w : Worker)
  | loop (l : Loop)
  deriving DecidableEq

/-- What a thread runs: `XThread::threadMain`, or a loop of one of the `MediaSync2` objects. -/
inductive Role
  | worker (w : Worker)
  | loop (l : Loop) (sync : Nat)
  deriving DecidableEq

def Role.kind : Role → Kind
  | .worker w => .worker w
  | .loop l _ => .loop l

/-- Where a thread is: at the head of its loop, past its flags, or around `run`; a decoder also at
the head of the loop in `decodePacket`. -/
inductive Loc
  | created
  | head
  | inner
  | busy
  | returned
  | done
  deriving DecidableEq

structure Thread where
  role : Role
  loc : Loc
  deriving DecidableEq

/-- The flags of an `XThread`. -/
structure XThread where
  isExit : Bool
  isRunning : Bool

/-- The observers that are ever added. -/
inductive Observer
  | audioPlay
  deriving DecidableEq

/-- The statements of the calls that concern the threads. -/
inductive Stmt
  | clearExit (w : Worker)
  | spawn (w : Worker)
  | addObserver
  | newMediaSync
  | clearExist
  | spawnLoop (l : Loop)
  | setPause (pauseRequest : Bool)
  | setAbort
  | stopSync
  | setExit (w : Worker)
  deriving DecidableEq

/-- A player and its threads. The call in progress is what is left of it. -/
structure State where
  abortRequest : Bool
  pauseRequest : Bool
  flags : Worker → XThread
  isExist : List Bool
  mediaSync : Option Nat
  observers : List Observer
  threads : List Thread
  call : List Stmt
  delivered : List Nat

/-- The public calls. -/
inductive Call
  | openSource
  | start
  | pause
  | resume
  | stop
  deriving DecidableEq

/-- What `MediaPlayer::start` does after it has added the observer. -/
def afterObserver : List Stmt :=
  [.newMediaSync, .clearExit .videoDecode, .spawn .videoDecode, .clearExit .resample,
    .spawn .resample, .clearExit .demux, .spawn .demux, .clearExist, .spawnLoop .audioPlay,
    .spawnLoop .videoPlay]

/-- **The calls of `MediaPlayer`**; `openSource` touches no thread, flag or observer. -/
def body : Call → List Stmt
  | .openSource => []
  | .start => .clearExit .audioDecode :: .spawn .audioDecode :: .addObserver :: afterObserver
  | .pause => [.setPause true]
  | .resume => [.setPause false]
  | .stop => [.setAbort, .stopSync, .setExit .demux, .setExit .audioDecode, .setExit .videoDecode,
      .setExit .resample]

namespace State

/-- `isExit` of a component is set to a value. -/
def setExit (s : State) (w : Worker) (isExit : Bool) : State :=
  { s with flags := Function.update s.flags w { s.flags w with isExit := isExit } }

def setRunning (s : State) (w : Worker) (isRunning : Bool) : State :=
  { s with flags := Function.update s.flags w { s.flags w with isRunning := isRunning } }

def spawn (s : State) (role : Role) : State :=
  { s with threads := s.threads ++ [⟨role, .created⟩] }

/-- `isExist` of the current `MediaSync2`, when there is one, is set to a value. -/
def setExist (s : State) (isExist : Bool) : State :=
  match s.mediaSync with
  | none => s
  | some sync => { s with isExist := s.isExist.set sync isExist }

/-- A statement of a call. -/
def exec (s : State) : Stmt → State
  | .clearExit w => s.setExit w false
  | .spawn w => s.spawn (.worker w)
  | .addObserver => { s with observers := s.observers ++ [.audioPlay] }
  | .newMediaSync =>
    { s with isExist := s.isExist ++ [false], mediaSync := some s.isExist.length }
  | .clearExist => s.setExist false
  | .spawnLoop l =>
    match s.mediaSync with
    | none => s
    | some sync => s.spawn (.loop l sync)
  | .setPause pauseRequest => { s with pauseRequest := pauseRequest }
  | .setAbort => { s with abortRequest := true }
  | .stopSync => s.setExist true
  | .setExit w => s.setExit w true

/-- `IObserver::notify` of the resampler: how often `audioPlay` gets the buffer. -/
def notify (s : State) : State :=
  { s with delivered := s.delivered ++ [s.observers.count .audioPlay] }

/-- Where a worker goes next. `ends` is the outcome of its calls: the end of the file for the
demuxer, a failed `pop` or `peekWritable` for a decoder. -/
def workerNext (s : State) (ends : Bool) : Worker → Loc → Loc
  | _, .created => .head
  -- FFDemux::readPacket
  | .demux, .head =>
    if s.abortRequest || (s.flags .demux).isExit then .returned
    else if s.pauseRequest then .head else .busy
  | .demux, .busy => if ends then .returned else .head
  -- XThread::run
  | .resample, .head => .returned
  -- IDecode::run
  | w, .head =>
    if (s.flags w).isExit || s.abortRequest then .returned
    else if s.pauseRequest then .head else .inner
  -- decodePacket
  | w, .inner =>
    if (s.flags w).isExit || s.abortRequest then .head
    else if s.pauseRequest then .inner else .busy
  | _, .busy => if ends then .head else .inner
  | _, .returned => .done
  | _, .done => .done

/-- What a worker does to the flags on the way. -/
def workerEffect (s : State) (ends : Bool) : Worker → Loc → State
  | w, .created => s.setRunning w true
  | .demux, .busy => if ends then s.setExit .demux true else s
  | w, .returned => s.setRunning w false
  | _, _ => s

/-- Where `audioPlay` or `videoPlay` of a `MediaSync2` goes next. -/
def loopNext (s : State) (sync : Nat) : Loc → Loc
  | .created => .head
  | .head =>
    if s.isExist[sync]?.getD false || s.abortRequest then .done
    else if s.pauseRequest then .head else .busy
  | .busy => .head
  | loc => loc

/-- Where the thread goes next. -/
def threadNext (s : State) (choice : Bool) (t : Thread) : Loc :=
  match t.role with
  | .worker w => s.workerNext choice w t.loc
  | .loop _ sync => s.loopNext sync t.loc

/-- What the thread does on the way: `audioPlay` notifies when the resampled buffer is not empty. -/
def threadEffect (s : State) (choice : Bool) (t : Thread) : State :=
  match t.role, t.loc with
  | .worker w, loc => s.workerEffect choice w loc
  | .loop .audioPlay _, .busy => if choice then s.notify else s
  | .loop _ _, _ => s

end State

/-- A new call, the next statement of the call in progress, or a step of a thread. -/
inductive Label
  | call (c : Call)
  | exec
  | thread (i : Nat) (choice : Bool)

/-- The next state; one call has `MediaPlayer::mutex` at a time. -/
def next (s : State) : Label → Option State
  | .call c => if s.call = [] then some { s with call := body c } else none
  | .exec =>
    match s.call with
    | [] => none
    | stmt :: rest => some { s.exec stmt with call := rest }
  | .thread i choice =>
    match s.threads[i]? with
    | none => none
    | some t =>
      if t.loc = .done then none
      else some { s.threadEffect choice t with
        threads := s.threads.set i { t with loc := s.threadNext choice t } }

/-- The calls of one player and its threads. -/
def system : System State Label where
  next := next

/-- A player that was just built. -/
def start : State where
  abortRequest := false
  pauseRequest := false
  flags _ := ⟨false, false⟩
  isExist := []
  mediaSync := none
  observers := []
  threads := []
  call := []
  delivered := []

/-! ### One set of workers -/

/-- Inside `run()`. -/
def Loc.inRun : Loc → Bool
  | .head | .inner | .busy => true
  | _ => false

/-- The number of threads inside the `run()` of a component. -/
def inside (threads : List Thread) (w : Worker) : Nat :=
  threads.countP fun t => t.role = .worker w && t.loc.inRun

/-- A loop of a `MediaSync2` that has not returned. -/
def Thread.isLive (t : Thread) (l : Loop) : Bool :=
  t.role.kind = .loop l && t.loc ≠ .done

/-- **At most one set of workers.** -/
structure OneSet (s : State) : Prop where
  demux : inside s.threads .demux ≤ 1
  audioDecode : inside s.threads .audioDecode ≤ 1
  videoDecode : inside s.threads .videoDecode ≤ 1
  loops : ∀ l, s.threads.countP (·.isLive l) ≤ 1
  pair : ∀ t ∈ s.threads, ∀ u ∈ s.threads, ∀ l m i j, t.isLive l → u.isLive m →
    t.role = .loop l i → u.role = .loop m j → i = j
  observers : s.observers.count .audioPlay ≤ 1
  delivered : ∀ n ∈ s.delivered, n = 1

/-- **The steps that keep it**, by the state before the step: no observer was added yet, and an audio
decoder enters its `run()` after the one before has left it. -/
def Alone (s : State) : Label → Prop
  | .exec => s.call.head? = some .addObserver → s.observers = []
  | .thread i _ =>
    s.threads[i]? = some ⟨.worker .audioDecode, .created⟩ → inside s.threads .audioDecode = 0
  | .call _ => True

/-! ### What is ahead of a call -/

/-- The kind of thread that a statement spawns. -/
def Stmt.makes : Stmt → Option Kind
  | .spawn w => some (.worker w)
  | .spawnLoop l => some (.loop l)
  | _ => none

/-- The statements of a sort that are left of a call, once it is past its observer. -/
def ahead (p : Stmt → Bool) (call : List Stmt) : Nat :=
  if .addObserver ∈ call then 0 else call.countP p

/-- Statements that only `start` has, and that once, behind its observer. -/
structure Late (p : Stmt → Bool) : Prop where
  early : ∀ stmt ∈ [.clearExit .audioDecode, .spawn .audioDecode, .addObserver], p stmt = false
  once : afterObserver.countP p ≤ 1
  others : ∀ c, c ≠ .start → (body c).countP p = 0

theorem late_makes {k : Kind} (other : k ≠ .worker .audioDecode) :
    Late fun stmt => stmt.makes = some k where
  early := by
    cases k with
    | worker w => cases w <;> first | exact absurd rfl other | decide
    | loop l => cases l <;> decide
  once := by
    cases k with
    | worker w => cases w <;> decide
    | loop l => cases l <;> decide
  others c restful := by
    cases c <;> first | exact absurd rfl restful | rfl

theorem late_sync : Late (· = .newMediaSync) where
  early := by decide
  once := by decide
  others c restful := by
    cases c <;> first | exact absurd rfl restful | rfl

/-- What is left of a call with the observer still to be added. -/
theorem suffix_observer {c : Call} {stmt : Stmt} {rest : List Stmt}
    (suffix : stmt :: rest <:+ body c) (ahead : .addObserver ∈ stmt :: rest) :
    stmt = .addObserver ∧ rest = afterObserver ∨
      stmt ∈ [.clearExit .audioDecode, .spawn .audioDecode, .addObserver] ∧
        .addObserver ∈ rest := by
  have member := suffix.subset ahead
  cases c with
  | start =>
    rcases List.suffix_cons_iff.mp suffix with same | suffix
    · cases same
      exact Or.inr ⟨by decide, by decide⟩
    rcases List.suffix_cons_iff.mp suffix with same | suffix
    · cases same
      exact Or.inr ⟨by decide, by decide⟩
    rcases List.suffix_cons_iff.mp suffix with same | suffix
    · cases same
      exact Or.inl ⟨rfl, rfl⟩
    · exact absurd (suffix.subset ahead) (by decide)
  | _ => exact absurd member (by decide)

/-- Nothing is ahead of a call that begins. -/
theorem ahead_body {p : Stmt → Bool} (late : Late p) (c : Call) : ahead p (body c) = 0 := by
  unfold ahead
  split_ifs with observer
  · rfl
  · refine late.others c ?_
    rintro rfl
    exact observer (by decide)

/-- **What is ahead once a statement is executed.** -/
theorem ahead_exec {p : Stmt → Bool} (late : Late p) {c : Call} {stmt : Stmt} {rest : List Stmt}
    (suffix : stmt :: rest <:+ body c) :
    ahead p rest + (if p stmt then 1 else 0) ≤
      ahead p (stmt :: rest) + (if stmt = .addObserver then 1 else 0) := by
  by_cases observer : .addObserver ∈ stmt :: rest
  · rcases suffix_observer suffix observer with ⟨rfl, rfl⟩ | ⟨early, later⟩
    · have once : ahead p afterObserver ≤ 1 := by
        rw [ahead, if_neg (by decide)]
        exact late.once
      simp only [late.early .addObserver (by decide), if_true, Bool.false_eq_true, if_false]
      omega
    · simp [ahead, later, late.early stmt early]
  · have differ : stmt ≠ .addObserver := by
      rintro rfl
      exact observer (List.mem_cons_self ..)
    have later : .addObserver ∉ rest := fun member => observer (List.mem_cons_of_mem _ member)
    simp [ahead, observer, later, differ, List.countP_cons]

/-! ### The invariant -/

/-- The number of threads of a kind. -/
def made (threads : List Thread) (k : Kind) : Nat := threads.countP fun t => t.role.kind = k

/-- **The invariant**: one observer pays for one of everything that `start` makes behind it. -/
structure Counted (s : State) : Prop where
  call : ∃ c, s.call <:+ body c
  observers : s.observers = [] ∨ s.observers = [.audioPlay]
  threads : ∀ k, k ≠ .worker .audioDecode →
    made s.threads k + ahead (fun stmt => stmt.makes = some k) s.call ≤ s.observers.length
  syncs : s.isExist.length + ahead (· = .newMediaSync) s.call ≤ s.observers.length
  current : ∀ sync, s.mediaSync = some sync → sync < s.isExist.length
  loops : ∀ t ∈ s.threads, ∀ l sync, t.role = .loop l sync → sync < s.isExist.length
  decoder : inside s.threads .audioDecode ≤ 1
  delivered : ∀ n ∈ s.delivered, n = 1

theorem counted_start : Counted start where
  call := ⟨.openSource, List.suffix_refl _⟩
  observers := Or.inl rfl
  threads _ _ := Nat.le_refl _
  syncs := Nat.le_refl _
  current _ none := by cases none
  loops := List.forall_mem_nil _
  decoder := Nat.zero_le _
  delivered := List.forall_mem_nil _

variable {s t : State}

theorem Counted.length_le (counted : Counted s) : s.observers.length ≤ 1 := by
  rcases counted.observers with none | one
  · rw [none]
    exact Nat.zero_le _
  · rw [one]
    exact Nat.le_refl _

theorem Counted.made_le (counted : Counted s) {k : Kind} (other : k ≠ .worker .audioDecode) :
    made s.threads k ≤ s.observers.length :=
  Nat.le_trans (Nat.le_add_right _ _) (counted.threads k other)

/-- The threads inside a `run()` are of its kind. -/
theorem inside_le_made (threads : List Thread) (w : Worker) :
    inside threads w ≤ made threads (.worker w) := by
  refine List.countP_mono_left fun t _ member => ?_
  simp only [Bool.and_eq_true, decide_eq_true_eq] at member
  simp [member.1, Role.kind]

theorem countP_isLive_le_made (threads : List Thread) (l : Loop) :
    threads.countP (·.isLive l) ≤ made threads (.loop l) := by
  refine List.countP_mono_left fun t _ live => ?_
  simp only [Thread.isLive, Bool.and_eq_true] at live
  exact live.1

/-- **The invariant gives one set of workers.** -/
theorem Counted.oneSet (counted : Counted s) : OneSet s where
  demux := Nat.le_trans (inside_le_made s.threads _)
    (Nat.le_trans (counted.made_le (by decide)) counted.length_le)
  audioDecode := counted.decoder
  videoDecode := Nat.le_trans (inside_le_made s.threads _)
    (Nat.le_trans (counted.made_le (by decide)) counted.length_le)
  loops l := Nat.le_trans (countP_isLive_le_made s.threads l)
    (Nat.le_trans (counted.made_le (by rintro ⟨⟩)) counted.length_le)
  pair t mine u yours l m i j _ _ left right := by
    -- there is one `MediaSync2` at most
    have first := counted.loops t mine l i left
    have second := counted.loops u yours m j right
    have syncs := counted.syncs
    have one := counted.length_le
    omega
  observers := Nat.le_trans (List.count_le_length ..) counted.length_le
  delivered := counted.delivered

/-! ### A statement of a call -/

@[simp] theorem setExist_threads (s : State) (isExist : Bool) :
    (s.setExist isExist).threads = s.threads := by
  unfold State.setExist
  split <;> rfl

@[simp] theorem setExist_observers (s : State) (isExist : Bool) :
    (s.setExist isExist).observers = s.observers := by
  unfold State.setExist
  split <;> rfl

@[simp] theorem setExist_mediaSync (s : State) (isExist : Bool) :
    (s.setExist isExist).mediaSync = s.mediaSync := by
  unfold State.setExist
  split <;> rfl

@[simp] theorem setExist_delivered (s : State) (isExist : Bool) :
    (s.setExist isExist).delivered = s.delivered := by
  unfold State.setExist
  split <;> rfl

@[simp] theorem setExist_length (s : State) (isExist : Bool) :
    (s.setExist isExist).isExist.length = s.isExist.length := by
  unfold State.setExist
  split <;> simp

/-- The threads after a statement: those before, and one at most. -/
theorem exec_threads (s : State) (stmt : Stmt) :
    (s.exec stmt).threads = s.threads ∨
      ∃ role, (s.exec stmt).threads = s.threads ++ [⟨role, .created⟩] ∧
        stmt.makes = some role.kind ∧
        ∀ l sync, role = .loop l sync → s.mediaSync = some sync := by
  cases stmt with
  | spawn w => exact Or.inr ⟨.worker w, rfl, rfl, by rintro _ _ ⟨⟩⟩
  | spawnLoop l =>
    cases current : s.mediaSync with
    | none => exact Or.inl (by simp [State.exec, current])
    | some sync =>
      refine Or.inr ⟨.loop l sync, by simp [State.exec, State.spawn, current], rfl, ?_⟩
      rintro _ _ ⟨⟩
      rfl
  | clearExist => exact Or.inl (setExist_threads s false)
  | stopSync => exact Or.inl (setExist_threads s true)
  | _ => exact Or.inl rfl

theorem exec_observers (s : State) (stmt : Stmt) :
    (s.exec stmt).observers = s.observers ++ if stmt = .addObserver then [.audioPlay] else [] := by
  cases stmt with
  | spawnLoop l => cases current : s.mediaSync <;> simp [State.exec, State.spawn, current]
  | _ => simp [State.exec, State.setExit, State.spawn]

theorem exec_length (s : State) (stmt : Stmt) :
    (s.exec stmt).isExist.length =
      s.isExist.length + if stmt = .newMediaSync then 1 else 0 := by
  cases stmt with
  | spawnLoop l => cases current : s.mediaSync <;> simp [State.exec, State.spawn, current]
  | _ => simp [State.exec, State.setExit, State.spawn]

theorem exec_delivered (s : State) (stmt : Stmt) : (s.exec stmt).delivered = s.delivered := by
  cases stmt with
  | spawnLoop l => cases current : s.mediaSync <;> simp [State.exec, State.spawn, current]
  | _ => simp [State.exec, State.setExit, State.spawn]

theorem exec_current {s : State} (stmt : Stmt)
    (current : ∀ sync, s.mediaSync = some sync → sync < s.isExist.length) (sync : Nat)
    (after : (s.exec stmt).mediaSync = some sync) : sync < (s.exec stmt).isExist.length := by
  rw [exec_length]
  cases stmt with
  | newMediaSync =>
    cases after
    exact Nat.lt_succ_self _
  | spawnLoop l =>
    refine Nat.lt_of_lt_of_le (current sync ?_) (Nat.le_add_right _ _)
    cases now : s.mediaSync with
    | none =>
      rw [State.exec, now] at after
      cases now.symm.trans after
    | some sync' => simpa [State.exec, State.spawn, now] using after
  | _ =>
    refine Nat.lt_of_lt_of_le (current sync ?_) (Nat.le_add_right _ _)
    simpa [State.exec, State.setExit, State.spawn] using after

/-- A new thread counts for its kind, and is not in its `run()` yet. -/
theorem exec_counts (s : State) (stmt : Stmt) :
    (∀ k, made (s.exec stmt).threads k ≤ made s.threads k + if stmt.makes = some k then 1 else 0) ∧
      ∀ w, inside (s.exec stmt).threads w = inside s.threads w := by
  rcases exec_threads s stmt with same | ⟨role, one, makes, -⟩
  · exact ⟨fun k => by rw [made, same]; exact Nat.le_add_right _ _, fun w => by rw [inside, same]; rfl⟩
  · refine ⟨fun k => ?_, fun w => ?_⟩
    · rw [made, one, List.countP_append, makes]
      simp [made]
    · rw [inside, one, List.countP_append]
      simp [inside, Loc.inRun]

/-- **A statement keeps the invariant**, unless it adds a second observer. -/
theorem Counted.exec (counted : Counted s) {stmt : Stmt} {rest : List Stmt}
    (left : s.call = stmt :: rest) (alone : stmt = .addObserver → s.observers = []) :
    Counted { s.exec stmt with call := rest } := by
  obtain ⟨c, suffix⟩ := counted.call
  rw [left] at suffix
  have grows : (s.exec stmt).observers.length =
      s.observers.length + if stmt = .addObserver then 1 else 0 := by
    rw [exec_observers, List.length_append]
    split_ifs <;> rfl
  refine ⟨⟨c, (List.suffix_cons stmt rest).trans suffix⟩, ?_, fun k other => ?_, ?_,
    exec_current stmt counted.current, ?_, ?_, ?_⟩
  · simp only [exec_observers]
    split_ifs with observer
    · rw [alone observer]
      exact Or.inr rfl
    · simpa using counted.observers
  · have pays := counted.threads k other
    have past := ahead_exec (late_makes other) suffix
    have counts := (exec_counts s stmt).1 k
    rw [left] at pays
    simp only [decide_eq_true_eq] at past
    simp only [grows]
    exact Nat.le_trans (Nat.add_le_add_right counts _) (by omega)
  · have pays := counted.syncs
    have past := ahead_exec late_sync suffix
    rw [left] at pays
    simp only [decide_eq_true_eq] at past
    simp only [grows, exec_length]
    omega
  · intro t member l sync role
    have old : ∀ n, n < s.isExist.length → n < (s.exec stmt).isExist.length := fun n less => by
      rw [exec_length]
      exact Nat.lt_of_lt_of_le less (Nat.le_add_right _ _)
    rcases exec_threads s stmt with same | ⟨new, one, -, current⟩
    · exact old _ (counted.loops t (same ▸ member) l sync role)
    · simp only [one, List.mem_append, List.mem_singleton] at member
      rcases member with member | rfl
      · exact old _ (counted.loops t member l sync role)
      · exact old _ (counted.current sync (current l sync role))
  · exact Nat.le_trans (Nat.le_of_eq ((exec_counts s stmt).2 _)) counted.decoder
  · simp only [exec_delivered]
    exact counted.delivered

/-! ### A step of a thread -/

/-- What a thread changes besides its own location. -/
theorem threadEffect_eq (s : State) (choice : Bool) (t : Thread) :
    ∃ flags delivered, s.threadEffect choice t =
        { s with flags := flags, delivered := delivered } ∧
      (delivered = s.delivered ∨ t.role.kind = .loop .audioPlay ∧
        delivered = s.delivered ++ [s.observers.count .audioPlay]) := by
  rcases t with ⟨w | ⟨l, sync⟩, loc⟩
  · have flagsOnly : ∃ flags, s.workerEffect choice w loc = { s with flags := flags } := by
      cases loc <;> cases w <;> cases choice <;> exact ⟨_, rfl⟩
    obtain ⟨flags, same⟩ := flagsOnly
    exact ⟨flags, s.delivered, same, Or.inl rfl⟩
  · cases l with
    | audioPlay =>
      cases loc <;> cases choice <;>
        first
        | exact ⟨_, _, rfl, Or.inl rfl⟩
        | exact ⟨_, _, rfl, Or.inr ⟨rfl, rfl⟩⟩
    | videoPlay => cases loc <;> exact ⟨_, _, rfl, Or.inl rfl⟩

/-- A thread keeps its role. -/
theorem made_set {threads : List Thread} {i : Nat} {t : Thread} (found : threads[i]? = some t)
    (loc : Loc) (k : Kind) : made (threads.set i { t with loc := loc }) k = made threads k :=
  Nat.add_right_cancel (Crew.countP_set_add (fun t : Thread => decide (t.role.kind = k)) found
    { t with loc := loc })

/-- A thread enters its `run()` from its creation only. -/
theorem threadNext_inRun (s : State) (choice : Bool) {t : Thread} {w : Worker}
    (role : t.role = .worker w) (entered : t.loc ≠ .created) (live : t.loc ≠ .done)
    (after : (s.threadNext choice t).inRun = true) : t.loc.inRun = true := by
  rcases t with ⟨role', loc⟩
  cases role
  cases loc with
  | created => exact absurd rfl entered
  | returned => cases w <;> cases after
  | done => exact absurd rfl live
  | _ => rfl

/-- A new audio decoder enters its `run()` with its first step. -/
theorem inside_enter {i : Nat} (choice : Bool)
    (found : s.threads[i]? = some ⟨.worker .audioDecode, .created⟩) :
    inside (s.threads.set i ⟨.worker .audioDecode,
      s.threadNext choice ⟨.worker .audioDecode, .created⟩⟩) .audioDecode =
        inside s.threads .audioDecode + 1 :=
  Crew.countP_set_add (fun t : Thread => t.role = .worker .audioDecode && t.loc.inRun) found
    ⟨.worker .audioDecode, s.threadNext choice ⟨.worker .audioDecode, .created⟩⟩

/-- The other threads do not. -/
theorem inside_set {i : Nat} {t : Thread} (choice : Bool) (found : s.threads[i]? = some t)
    (live : t.loc ≠ .done) (other : t ≠ ⟨.worker .audioDecode, .created⟩) :
    inside (s.threads.set i { t with loc := s.threadNext choice t }) .audioDecode ≤
      inside s.threads .audioDecode := by
  have counts := Crew.countP_set_add (fun t : Thread => t.role = .worker .audioDecode && t.loc.inRun)
    found { t with loc := s.threadNext choice t }
  unfold inside
  by_cases after : t.role = .worker .audioDecode ∧ (s.threadNext choice t).inRun = true
  · have entered : t.loc ≠ .created := by
      intro created
      rcases t with ⟨role, loc⟩
      exact other (by rw [show role = _ from after.1, show loc = _ from created])
    have was := threadNext_inRun s choice after.1 entered live after.2
    simp only [after.1, was, after.2, decide_true, Bool.and_self, if_true] at counts
    rw [after.1]
    omega
  · have outside : (decide (t.role = .worker .audioDecode) &&
        (s.threadNext choice t).inRun) = false := by
      simpa using after
    simp only [outside, Bool.false_eq_true, if_false] at counts
    omega

/-- **A step of a thread keeps the invariant**, unless it is a second audio decoder. -/
theorem Counted.thread (counted : Counted s) {i : Nat} {t : Thread} {choice : Bool}
    (found : s.threads[i]? = some t) (live : t.loc ≠ .done)
    (alone : t = ⟨.worker .audioDecode, .created⟩ → inside s.threads .audioDecode = 0) :
    Counted { s.threadEffect choice t with
      threads := s.threads.set i { t with loc := s.threadNext choice t } } := by
  obtain ⟨flags, delivered, same, history⟩ := threadEffect_eq s choice t
  rw [same]
  refine ⟨counted.call, counted.observers, fun k other => ?_, counted.syncs, counted.current, ?_, ?_,
    ?_⟩
  · simp only [made_set found]
    exact counted.threads k other
  · intro u member l sync role
    rcases List.mem_or_eq_of_mem_set member with member | rfl
    · exact counted.loops u member l sync role
    · exact counted.loops t (List.mem_of_getElem? found) l sync role
  · by_cases decoder : t = ⟨.worker .audioDecode, .created⟩
    · subst decoder
      exact Nat.le_of_eq ((inside_enter choice found).trans (by rw [alone rfl]))
    · exact Nat.le_trans (inside_set choice found live decoder) counted.decoder
  · rcases history with rfl | ⟨kind, rfl⟩
    · exact counted.delivered
    · -- the loop that notifies was paid for by the observer
      have one : 0 < made s.threads (.loop .audioPlay) :=
        List.countP_pos_iff.mpr ⟨t, List.mem_of_getElem? found, by simp [kind]⟩
      have paid := counted.made_le (k := .loop .audioPlay) (by rintro ⟨⟩)
      have observers : s.observers = [.audioPlay] := by
        rcases counted.observers with none | one
        · rw [none] at paid
          exact absurd paid (Nat.not_le_of_lt one)
        · exact one
      intro n member
      rcases List.mem_append.mp member with member | member
      · exact counted.delivered n member
      · rw [List.mem_singleton.mp member, observers]
        rfl

/-! ### The main result -/

/-- **One step keeps one set of workers exactly when it is alone**, and keeps the invariant then. -/
theorem Counted.step (counted : Counted s) {l : Label} (step : next s l = some t) :
    (OneSet t ↔ Alone s l) ∧ (Alone s l → Counted t) := by
  suffices both : (Alone s l → Counted t) ∧ (OneSet t → Alone s l) from
    ⟨⟨both.2, fun alone => (both.1 alone).oneSet⟩, both.1⟩
  cases l with
  | call c =>
    simp only [next] at step
    split_ifs at step with free
    cases step
    have restful : ∀ p, ahead p s.call = 0 := fun p => by rw [free]; rfl
    refine ⟨fun _ => ⟨⟨c, List.suffix_refl _⟩, counted.observers, fun k other => ?_, ?_,
      counted.current, counted.loops, counted.decoder, counted.delivered⟩, fun _ => trivial⟩
    · rw [ahead_body (late_makes other), ← restful]
      exact counted.threads k other
    · rw [ahead_body late_sync, ← restful]
      exact counted.syncs
  | exec =>
    simp only [next] at step
    split at step
    case h_1 => cases step
    case h_2 stmt rest left =>
      cases step
      refine ⟨fun alone => counted.exec left fun observer => alone (by rw [left, observer]; rfl),
        fun one head => ?_⟩
      rw [left] at head
      cases head
      have count := one.observers
      simp only [State.exec, List.count_append] at count
      rcases counted.observers with none | added
      · exact none
      · rw [added] at count
        exact absurd count (by decide)
  | thread i choice =>
    simp only [next] at step
    split at step
    case h_1 => cases step
    case h_2 u found =>
      split_ifs at step with done
      cases step
      refine ⟨fun alone => counted.thread found done fun decoder =>
        alone (found.trans (congrArg some decoder)), fun one again => ?_⟩
      rw [again] at found
      cases found
      have count := one.audioDecode
      rw [inside_enter choice again] at count
      omega

def Label.isStart : Label → Bool
  | .call .start => true
  | _ => false

/-- What the calls of `start` so far may have made, what is left of the last one included. -/
structure Started (s : State) (calls : Nat) : Prop where
  observers : s.observers.length + s.call.count .addObserver ≤ calls
  decoders : made s.threads (.worker .audioDecode) + s.call.count (.spawn .audioDecode) ≤ calls

theorem Started.step {calls : Nat} (started : Started s calls) {l : Label}
    (step : next s l = some t) :
    Started t (calls + if l.isStart then 1 else 0) := by
  cases l with
  | call c =>
    simp only [next] at step
    split_ifs at step with free
    cases step
    have observers := started.observers
    have decoders := started.decoders
    rw [free] at observers decoders
    cases c with
    | start => exact ⟨Nat.succ_le_succ observers, Nat.succ_le_succ decoders⟩
    | _ => exact ⟨observers, decoders⟩
  | exec =>
    simp only [next] at step
    split at step
    case h_1 => cases step
    case h_2 stmt rest left =>
      cases step
      have observers := started.observers
      have decoders := started.decoders
      have counts := (exec_counts s stmt).1 (.worker .audioDecode)
      rw [left, List.count_cons] at observers decoders
      refine ⟨?_, ?_⟩
      · simp only [exec_observers, List.length_append]
        by_cases observer : stmt = .addObserver
        · simp only [observer, beq_self_eq_true, if_true, List.length_singleton] at observers ⊢
          omega
        · simp only [observer, beq_iff_eq, if_false, List.length_nil] at observers ⊢
          omega
      · by_cases decoder : stmt = .spawn .audioDecode
        · simp only [decoder, beq_self_eq_true, Stmt.makes, if_true] at decoders counts ⊢
          omega
        · have none : ¬stmt.makes = some (.worker .audioDecode) := by
            intro makes
            cases stmt with
            | spawn w =>
              simp only [Stmt.makes, Option.some.injEq, Kind.worker.injEq] at makes
              exact decoder (by rw [makes])
            | _ => cases makes
          simp only [decoder, beq_iff_eq, none, if_false] at decoders counts
          exact Nat.le_trans (Nat.add_le_add_right counts _) decoders
  | thread i choice =>
    simp only [next] at step
    split at step
    case h_1 => cases step
    case h_2 u found =>
      split_ifs at step with done
      cases step
      obtain ⟨flags, delivered, same, -⟩ := threadEffect_eq s choice u
      rw [same]
      refine ⟨started.observers, ?_⟩
      simp only [made_set found]
      exact started.decoders

/-- A decoder that was just created is not inside its `run()`. -/
theorem inside_lt_made {i : Nat} (found : s.threads[i]? = some ⟨.worker .audioDecode, .created⟩) :
    inside s.threads .audioDecode < made s.threads (.worker .audioDecode) := by
  have enters := inside_enter false found
  have kept := made_set found (s.threadNext false ⟨.worker .audioDecode, .created⟩)
    (.worker .audioDecode)
  have within := inside_le_made (s.threads.set i ⟨.worker .audioDecode,
    s.threadNext false ⟨.worker .audioDecode, .created⟩⟩) .audioDecode
  rw [enters] at within
  exact Nat.lt_of_succ_le (Nat.le_trans within (Nat.le_of_eq kept))

/-- One call of `start` adds one observer and spawns one audio decoder. -/
theorem Started.alone {calls : Nat} (started : Started s calls) (once : calls ≤ 1) (l : Label) :
    Alone s l := by
  cases l with
  | call c => trivial
  | exec =>
    intro head
    have member : 0 < s.call.count .addObserver :=
      List.count_pos_iff.mpr (List.mem_of_mem_head? head)
    have observers := started.observers
    exact List.length_eq_zero_iff.mp (by omega)
  | thread i choice =>
    intro found
    have decoders := started.decoders
    have less := inside_lt_made found
    omega

/-- **In a run with one call of `start`, every step is alone.** -/
theorem alone_of_one_start {labels : List Label}
    (once : labels.countP Label.isStart ≤ 1) :
    system.Steps (fun s l _ => Alone s l) start labels := by
  suffices general : ∀ (labels : List Label) (s : State) (calls : Nat), Started s calls →
      calls + labels.countP Label.isStart ≤ 1 →
      system.Steps (fun s l _ => Alone s l) s labels from
    general labels start 0 ⟨Nat.le_refl _, Nat.le_refl _⟩ (by omega)
  intro labels
  induction labels with
  | nil => intros; trivial
  | cons l labels ih =>
    intro s calls started bound
    rw [List.countP_cons] at bound
    exact ⟨fun t step => started.alone (by omega) l, fun t step =>
      ih t _ (started.step step) (by omega)⟩

/-- **A player has one set of workers all along a run exactly when every step is alone.** -/
theorem oneSet_iff_alone (labels : List Label) :
    system.Steps (fun _ _ t => OneSet t) start labels ↔
      system.Steps (fun s l _ => Alone s l) start labels :=
  System.steps_iff (I := Counted) (fun _ _ _ counted step => (counted.step step).1)
    (fun _ _ _ counted step alone => (counted.step step).2 alone) counted_start labels

/-- `start` is called twice; then the demuxers enter their `run()`, and the first `audioPlay` has a
buffer resampled. -/
def startedTwice : List Label :=
  .call .start :: List.replicate 13 .exec ++ .call .start :: List.replicate 13 .exec ++
    [.thread 3 false, .thread 9 false, .thread 4 true, .thread 4 true, .thread 4 true]

/-- **A second `start` makes a second set of workers**, and every buffer is played twice. -/
theorem startedTwice_doubles :
    ¬system.Steps (fun _ _ t => OneSet t) start startedTwice ∧
      ∃ s, system.run start startedTwice = some s ∧ inside s.threads .demux = 2 ∧
        s.observers = [.audioPlay, .audioPlay] ∧ s.delivered = [2] := by
  have twice : ∃ s, system.run start startedTwice = some s ∧ inside s.threads .demux = 2 ∧
      s.observers = [.audioPlay, .audioPlay] ∧ s.delivered = [2] := ⟨_, rfl, rfl, rfl, rfl⟩
  refine ⟨fun steps => ?_, twice⟩
  obtain ⟨s, run, two, -⟩ := twice
  have one : OneSet s := System.invariant_guarded (I := OneSet)
    (fun _ _ _ _ meets step => meets _ step) steps run counted_start.oneSet
  exact absurd one.demux (by rw [two]; decide)

end Xplay.Workers
