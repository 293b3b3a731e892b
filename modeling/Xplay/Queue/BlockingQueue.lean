/-
**`Queue<T>` is a blocking queue whose operations are atomic.**

`BlockingQueue` is the abstract queue: a `push` or a `pop` takes effect in one step, or begins to
wait in one, and wakes the other side's waiters in the same step. The monitor program of `Queue<T>`
takes the mutex, tests, notifies and returns in steps of their own.

The step that takes effect is the one that stores or removes the value, and the wait. A waiter
counts as woken from then on, although it is notified later: until then the mutex is held.
`finished` and `quit`, which write their flags without the mutex, are not called here.

* `monitor_simulates` — every step of the monitor is one of the blocking queue, or changes nothing.
* `queue_atomic` — **whatever a program reaches with `Queue<T>`, it reaches with the blocking
  queue.**
-/

import Xplay.Lib.Refinement
import Xplay.Queue.QueueFifo

set_option linter.unusedSectionVars false

namespace Xplay

open Lib Lib.Monitor

namespace BlockingQueue

/-- The operations. -/
inductive Call (T : Type)
  | push (data : T)
  | pop
  | length
  deriving DecidableEq

/-- What they return. -/
inductive Reply (T : Type)
  | pushed (ok : Bool)
  | popped (result : Option T)
  | counted (n : Nat)
  deriving DecidableEq

/-- Where a thread is: at rest, before the step that takes effect, waiting, or before its return. -/
inductive Place (T : Type)
  | idle
  | called (c : Call T)
  | waiting (c : Call T)
  | done (r : Reply T)

/-- What a program sees. -/
inductive Event (T Tid : Type)
  | call (t : Tid) (c : Call T)
  | ret (t : Tid) (r : Reply T)
  deriving DecidableEq

inductive Label (T Tid : Type)
  | call (t : Tid) (c : Call T)
  | act (t : Tid)
  | ret (t : Tid)

/-- A waiting `pop` goes on. -/
def Place.wakePop {T : Type} : Place T → Place T
  | .waiting .pop => .called .pop
  | place => place

/-- A waiting `push` goes on. -/
def Place.wakePush {T : Type} : Place T → Place T
  | .waiting (.push data) => .called (.push data)
  | place => place

end BlockingQueue

/-- A bounded queue and the threads that use it. -/
structure BlockingQueue (T Tid : Type) where
  queue : List T
  thread : Tid → BlockingQueue.Place T

namespace BlockingQueue

variable {T Tid : Type} [DecidableEq Tid]

def new (T Tid : Type) : BlockingQueue T Tid := ⟨[], fun _ => .idle⟩

/-- Moves one thread on. -/
def put (q : BlockingQueue T Tid) (t : Tid) (place : Place T) : BlockingQueue T Tid :=
  { q with thread := Function.update q.thread t place }

/-- The step in which a call takes effect, or begins to wait. -/
def act (sizeMax : Nat) (q : BlockingQueue T Tid) (t : Tid) : Call T → BlockingQueue T Tid
  | .push data =>
    if q.queue.length < sizeMax then
      put ⟨q.queue ++ [data], fun u => (q.thread u).wakePop⟩ t (.done (.pushed true))
    else q.put t (.waiting (.push data))
  | .pop =>
    match q.queue with
    | [] => q.put t (.waiting .pop)
    | data :: rest =>
      put ⟨rest, fun u => (q.thread u).wakePush⟩ t (.done (.popped (some data)))
  | .length => q.put t (.done (.counted q.queue.length))

/-- **One step.** -/
def next (sizeMax : Nat) (q : BlockingQueue T Tid) : Label T Tid → Option (BlockingQueue T Tid)
  | .call t c =>
    match q.thread t with
    | .idle => some (q.put t (.called c))
    | _ => none
  | .act t =>
    match q.thread t with
    | .called c => some (q.act sizeMax t c)
    | _ => none
  | .ret t =>
    match q.thread t with
    | .done _ => some (q.put t .idle)
    | _ => none

/-- The event of a step. -/
def shows (q : BlockingQueue T Tid) : Label T Tid → Option (Event T Tid)
  | .call t c => some (.call t c)
  | .act _ => none
  | .ret t =>
    match q.thread t with
    | .done r => some (.ret t r)
    | _ => none

/-- The blocking queue as a component. -/
def component (T Tid : Type) [DecidableEq Tid] (sizeMax : Nat) :
    Component (BlockingQueue T Tid) (Label T Tid) (Event T Tid) where
  next := next sizeMax
  shows := shows

variable {sizeMax : Nat} {q q' : BlockingQueue T Tid} {l : Label T Tid} {t : Tid}

/-- A step that shows nothing is one in which a call takes effect or begins to wait. -/
theorem act_of_hidden (hidden : shows q l = none) (enabled : next sizeMax q l = some q') :
    ∃ t c, l = .act t ∧ q.thread t = .called c ∧ q' = q.act sizeMax t c := by
  cases l with
  | call t c => cases hidden
  | act t =>
    simp only [next] at enabled
    split at enabled
    · next c here => exact ⟨t, c, rfl, here, (Option.some.inj enabled).symm⟩
    · cases enabled
  | ret t =>
    simp only [next] at enabled
    simp only [shows] at hidden
    split at enabled
    · next r here =>
      rw [here] at hidden
      cases hidden
    · cases enabled

/-- A call. -/
theorem put_of_call {c : Call T} (shown : shows q l = some (.call t c))
    (enabled : next sizeMax q l = some q') : q' = q.put t (.called c) := by
  cases l with
  | call t' c' =>
    cases shown
    simp only [next] at enabled
    split at enabled
    · exact (Option.some.inj enabled).symm
    · cases enabled
  | act t' => cases shown
  | ret t' =>
    simp only [shows] at shown
    split at shown <;> cases shown

/-- A return. -/
theorem put_of_ret {r : Reply T} (shown : shows q l = some (.ret t r))
    (enabled : next sizeMax q l = some q') : q.thread t = .done r ∧ q' = q.put t .idle := by
  cases l with
  | call t' c' => cases shown
  | act t' => cases shown
  | ret t' =>
    simp only [shows] at shown
    split at shown
    · next r' here =>
      cases shown
      simp only [next, here] at enabled
      exact ⟨here, (Option.some.inj enabled).symm⟩
    · cases shown

end BlockingQueue

namespace Queue

open BlockingQueue (Place Reply)

variable {T Tid : Type} [DecidableEq Tid] {sizeMax : Nat}

/-- The operation that is called at a location. -/
def called : Loc T → Option (BlockingQueue.Call T)
  | .pushLock data => some (.push data)
  | .popLock => some .pop
  | .lengthLock => some .length
  | _ => none

/-- What is returned at a location. -/
def returned : Loc T → Option (Reply T)
  | .pushUnlock ok => some (.pushed ok)
  | .popUnlock result => some (.popped result)
  | .lengthUnlock n => some (.counted n)
  | _ => none

/-- The event of a step of the monitor. -/
def shows (s : State T Tid) : Label T Tid → Option (BlockingQueue.Event T Tid)
  | .call t loc => (called loc).map (.call t)
  | .step t =>
    match s.thread t with
    | .running loc => (returned loc).map (.ret t)
    | _ => none

/-- The monitor as a component, without calls of `finished` and `quit`. -/
def component (T Tid : Type) [DecidableEq Tid] (sizeMax : Nat) :
    Component (State T Tid) (Label T Tid) (BlockingQueue.Event T Tid) :=
  (Component.mk (system T Tid sizeMax) shows).only fun
    | .call _ loc => (called loc).isSome
    | .step _ => true

/-! ### Where a thread is -/

/-- The locations before the step that takes effect. -/
def before : Loc T → Option (BlockingQueue.Call T)
  | .pushLock data | .pushQuit data | .pushFinished data | .pushSize data => some (.push data)
  | .popLock | .popQuit | .popEmpty | .popFinished | .popWait => some .pop
  | .lengthLock | .lengthRead => some .length
  | _ => none

/-- The locations between it and the return. -/
def after : Loc T → Option (Reply T)
  | .pushNotify => some (.pushed true)
  | .popNotify data => some (.popped (some data))
  | loc => returned loc

/-- The waits. -/
def waits : Cond → Loc T → Option (BlockingQueue.Call T)
  | .fullQue, .pushQuit data => some (.push data)
  | .empty, .popQuit => some .pop
  | _, _ => none

/-- Who notifies a condition. -/
def notifies : Cond → Loc T → Bool
  | .empty, .pushNotify => true
  | .fullQue, .popNotify _ => true
  | _, _ => false

/-- A value was stored or removed, and the notification is to come. -/
def Notifying (s : State T Tid) (cond : Cond) : Prop :=
  ∃ u loc, s.thread u = .running loc ∧ notifies cond loc = true

/-- **Where a thread of the monitor is**, with the conditions that are about to be notified. -/
inductive At (notifying : Cond → Prop) : Status Cond (Loc T) → Place T → Prop
  | idle {loc} (rest : resting loc = true) : At notifying (.running loc) .idle
  | called {loc c} (place : before loc = some c) : At notifying (.running loc) (.called c)
  | relocking {loc c} (place : before loc = some c) : At notifying (.relocking loc) (.called c)
  | woken {cond loc c} (place : waits cond loc = some c) (soon : notifying cond) :
      At notifying (.waiting cond loc) (.called c)
  | waiting {cond loc c} (place : waits cond loc = some c) (quiet : ¬notifying cond) :
      At notifying (.waiting cond loc) (.waiting c)
  | done {loc r} (place : after loc = some r) : At notifying (.running loc) (.done r)

/-- **The relation**: the same values, and every thread where it is. -/
structure Atomic (sizeMax : Nat) (s : State T Tid) (q : BlockingQueue T Tid) : Prop where
  fifo : Fifo sizeMax s
  quit : s.shared.quit = false
  finished : s.shared.finished = false
  queue : q.queue = s.shared.queue
  thread : ∀ t, At (Notifying s) (s.thread t) (q.thread t)

theorem atomic_start : Atomic sizeMax (start T Tid) (BlockingQueue.new T Tid) :=
  ⟨fifo_start, rfl, rfl, rfl, fun _ => .idle rfl⟩

theorem At.imp {N N' : Cond → Prop} {status : Status Cond (Loc T)} {place : Place T}
    (here : At N status place) (same : ∀ cond, N' cond ↔ N cond) : At N' status place := by
  cases here with
  | idle rest => exact .idle rest
  | called at' => exact .called at'
  | relocking at' => exact .relocking at'
  | woken at' soon => exact .woken at' ((same _).mpr soon)
  | waiting at' quiet => exact .waiting at' fun soon => quiet ((same _).mp soon)
  | done at' => exact .done at'

theorem At.eq_idle {N : Cond → Prop} {loc : Loc T} {place : Place T}
    (here : At N (.running loc) place) (rest : resting loc = true) : place = .idle := by
  cases here with
  | idle => rfl
  | called at' => cases loc <;> simp [before, resting] at at' rest
  | done at' => cases loc <;> simp [after, returned, resting] at at' rest

theorem At.eq_called {N : Cond → Prop} {loc : Loc T} {place : Place T} {c : BlockingQueue.Call T}
    (here : At N (.running loc) place) (at' : before loc = some c) : place = .called c := by
  cases here with
  | idle rest => cases loc <;> simp [before, resting] at at' rest
  | called at'' => rw [Option.some.inj (at'.symm.trans at'')]
  | done at'' => cases loc <;> simp [before, after, returned] at at' at''

theorem At.eq_done {N : Cond → Prop} {loc : Loc T} {place : Place T} {r : Reply T}
    (here : At N (.running loc) place) (at' : after loc = some r) : place = .done r := by
  cases here with
  | idle rest => cases loc <;> simp [after, returned, resting] at at' rest
  | called at'' => cases loc <;> simp [before, after, returned] at at' at''
  | done at'' => rw [Option.some.inj (at'.symm.trans at'')]

/-- Nobody is in `finished` or `quit`. -/
theorem At.false {N : Cond → Prop} {loc : Loc T} {place : Place T}
    (here : At N (.running loc) place) (rest : resting loc = false) (noCall : before loc = none)
    (noReturn : after loc = none) : False := by
  cases here with
  | idle at' => exact nomatch rest.symm.trans at'
  | called at' => exact nomatch noCall.symm.trans at'
  | done at' => exact nomatch noReturn.symm.trans at'

/-! ### Who notifies -/

variable {s s' : State T Tid} {q : BlockingQueue T Tid} {t : Tid} {loc : Loc T}

/-- The thread at a location notifies nobody. -/
def Silent (loc : Loc T) : Prop := ∀ cond, notifies cond loc = false

theorem inside_of_notifies {cond : Cond} (soon : notifies cond loc = true) :
    inside loc = true := by
  cases cond <;> cases loc <;> first | rfl | cases soon

theorem silent_of_before {c : BlockingQueue.Call T} (place : before loc = some c) : Silent loc := by
  intro cond
  cases cond <;> cases loc <;> first | rfl | cases place

theorem before_of_waits {cond : Cond} {c : BlockingQueue.Call T} (place : waits cond loc = some c) :
    before loc = some c := by
  cases cond <;> cases loc <;> cases place <;> rfl

/-- **While another thread holds the mutex, nobody is about to notify.** -/
theorem not_notifying (fifo : Fifo sizeMax s) (here : s.thread t = .running loc)
    (inside : inside loc = true) (silent : Silent loc) (cond : Cond) : ¬Notifying s cond := by
  rintro ⟨u, loc', there, soon⟩
  have within : (program T sizeMax).Inside (s.thread u) := ⟨loc', there, inside_of_notifies soon⟩
  have same : u = t := fifo.exclusive.unique ⟨loc, here, inside⟩ within
  rw [same, here] at there
  cases there
  exact nomatch (silent cond).symm.trans soon

/-- A thread that comes from a silent status to a silent one changes nothing for the others. -/
theorem notifying_update {shared : Data T} {owner : Option Tid} {status : Status Cond (Loc T)}
    (left : ∀ loc, s.thread t = .running loc → Silent loc)
    (right : ∀ loc, status = .running loc → Silent loc) (cond : Cond) :
    Notifying (Monitor.State.mk shared owner (Function.update s.thread t status)) cond ↔
      Notifying s cond := by
  constructor
  · rintro ⟨u, loc', there, soon⟩
    have there : Function.update s.thread t status u = .running loc' := there
    by_cases self : u = t
    · subst self
      rw [Function.update_self] at there
      exact nomatch (right loc' there cond).symm.trans soon
    · rw [Function.update_of_ne self] at there
      exact ⟨u, loc', there, soon⟩
  · rintro ⟨u, loc', there, soon⟩
    refine ⟨u, loc', ?_, soon⟩
    by_cases self : u = t
    · subst self
      exact nomatch (left loc' there cond).symm.trans soon
    · exact (Function.update_of_ne self ..).trans there

/-! ### The steps -/

/-- **A thread moves on**, and the values stay. -/
theorem Atomic.put (atomic : Atomic sizeMax s q) {status : Status Cond (Loc T)} {place : Place T}
    {owner : Option Tid}
    (fifo : Fifo sizeMax (Monitor.State.mk s.shared owner (Function.update s.thread t status)))
    (left : ∀ loc, s.thread t = .running loc → Silent loc)
    (right : ∀ loc, status = .running loc → Silent loc)
    (mine : At (Notifying s) status place) :
    Atomic sizeMax (Monitor.State.mk s.shared owner (Function.update s.thread t status))
      (q.put t place) := by
  refine ⟨fifo, atomic.quit, atomic.finished, atomic.queue, fun u => ?_⟩
  refine At.imp (N := Notifying s) ?_ (notifying_update left right)
  show At _ (Function.update s.thread t status u) (Function.update q.thread t place u)
  by_cases self : u = t
  · subst self
    rw [Function.update_self, Function.update_self]
    exact mine
  · rw [Function.update_of_ne self, Function.update_of_ne self]
    exact atomic.thread u

/-- It may be where it was. -/
theorem Atomic.stay (atomic : Atomic sizeMax s q) {status : Status Cond (Loc T)}
    {owner : Option Tid}
    (fifo : Fifo sizeMax (Monitor.State.mk s.shared owner (Function.update s.thread t status)))
    (left : ∀ loc, s.thread t = .running loc → Silent loc)
    (right : ∀ loc, status = .running loc → Silent loc)
    (mine : At (Notifying s) status (q.thread t)) :
    Atomic sizeMax (Monitor.State.mk s.shared owner (Function.update s.thread t status)) q := by
  have put := atomic.put fifo left right mine
  have same : q.put t (q.thread t) = q := by
    rw [BlockingQueue.put, Function.update_eq_self]
  rwa [same] at put

theorem silent_of_running {loc : Loc T} (here : s.thread t = .running loc) (silent : Silent loc) :
    ∀ loc', s.thread t = .running loc' → Silent loc' := by
  intro loc' there
  rw [here] at there
  cases there
  exact silent

theorem silent_eq {loc : Loc T} (silent : Silent loc) :
    ∀ loc', (Status.running loc : Status Cond (Loc T)) = .running loc' → Silent loc' := by
  intro loc' there
  cases there
  exact silent

/-- **The step that stores a value**, or removes one: it wakes those whom the notification that is
to come will wake. -/
theorem Atomic.takesEffect (atomic : Atomic sizeMax s q) {loc n : Loc T} {shared : Data T}
    {owner : Option Tid} {cond : Cond} (wake : Place T → Place T) {r : Reply T}
    (here : s.thread t = .running loc) (inside : inside loc = true) (silent : Silent loc)
    (fifo : Fifo sizeMax (Monitor.State.mk shared owner
      (Function.update s.thread t (.running n))))
    (quit : shared.quit = false) (finished : shared.finished = false)
    (notifies : ∀ c, notifies c n = true ↔ c = cond) (done : after n = some r)
    (wakes : ∀ {N : Cond → Prop} {status : Status Cond (Loc T)} {place : Place T},
      (∀ c, ¬N c) → At N status place → At (· = cond) status (wake place)) :
    Atomic sizeMax (Monitor.State.mk shared owner (Function.update s.thread t (.running n)))
      (BlockingQueue.put ⟨shared.queue, fun u => wake (q.thread u)⟩ t (.done r)) := by
  have quiet := not_notifying atomic.fifo here inside silent
  have now : ∀ c, Notifying (Monitor.State.mk shared owner
      (Function.update s.thread t (.running n))) c ↔ c = cond := by
    intro c
    constructor
    · rintro ⟨u, loc', there, soon⟩
      have there : Function.update s.thread t (.running n) u = .running loc' := there
      by_cases self : u = t
      · subst self
        rw [Function.update_self] at there
        cases there
        exact (notifies c).mp soon
      · rw [Function.update_of_ne self] at there
        exact absurd ⟨u, loc', there, soon⟩ (quiet c)
    · intro same
      exact ⟨t, n, Function.update_self .., (notifies c).mpr same⟩
  refine ⟨fifo, quit, finished, rfl, fun u => At.imp (N := (· = cond)) ?_ now⟩
  show At _ (Function.update s.thread t (.running n) u)
    (Function.update (fun u => wake (q.thread u)) t (.done r) u)
  by_cases self : u = t
  · subst self
    rw [Function.update_self, Function.update_self]
    exact .done done
  · rw [Function.update_of_ne self, Function.update_of_ne self]
    exact wakes quiet (atomic.thread u)

/-- A `push` wakes those who wait for a value. -/
theorem At.wakePop {N : Cond → Prop} {status : Status Cond (Loc T)} {place : Place T}
    (quiet : ∀ c, ¬N c) (here : At N status place) : At (· = .empty) status place.wakePop := by
  cases here with
  | idle rest => exact .idle rest
  | called at' => exact .called at'
  | relocking at' => exact .relocking at'
  | woken at' soon => exact absurd soon (quiet _)
  | @waiting cond loc c at' =>
    cases cond <;> cases loc <;> cases at'
    · exact .waiting rfl nofun
    · exact .woken rfl rfl
  | done at' => exact .done at'

/-- A `pop` wakes those who wait for room. -/
theorem At.wakePush {N : Cond → Prop} {status : Status Cond (Loc T)} {place : Place T}
    (quiet : ∀ c, ¬N c) (here : At N status place) : At (· = .fullQue) status place.wakePush := by
  cases here with
  | idle rest => exact .idle rest
  | called at' => exact .called at'
  | relocking at' => exact .relocking at'
  | woken at' soon => exact absurd soon (quiet _)
  | @waiting cond loc c at' =>
    cases cond <;> cases loc <;> cases at'
    · exact .woken rfl rfl
    · exact .waiting rfl nofun
  | done at' => exact .done at'

/-- A notified thread is where it was. -/
theorem At.notified {N : Cond → Prop} {status : Status Cond (Loc T)} {place : Place T} {cond : Cond}
    (here : At N status place) (now : ∀ c, N c ↔ c = cond) :
    At (fun _ => False) (wake cond status) place := by
  cases here with
  | idle rest => exact .idle rest
  | called at' => exact .called at'
  | relocking at' => exact .relocking at'
  | woken at' soon =>
    rw [wake, if_pos ((now _).mp soon)]
    exact .relocking (before_of_waits at')
  | waiting at' quiet =>
    rw [wake, if_neg fun same => quiet ((now _).mpr same)]
    exact .waiting at' id
  | done at' => exact .done at'

/-- **The notification** finds everybody woken. -/
theorem Atomic.notify (atomic : Atomic sizeMax s q) {loc n : Loc T} {cond : Cond} {r : Reply T}
    (here : s.thread t = .running loc) (inside : Queue.inside loc = true)
    (fifo : Fifo sizeMax (Monitor.State.mk s.shared s.owner
      (Function.update (fun u => wake cond (s.thread u)) t (.running n))))
    (notifies : ∀ c, notifies c loc = true ↔ c = cond) (silent : Silent n)
    (done : after loc = some r) (done' : after n = some r) :
    Atomic sizeMax (Monitor.State.mk s.shared s.owner
      (Function.update (fun u => wake cond (s.thread u)) t (.running n))) q := by
  have now : ∀ c, Notifying s c ↔ c = cond := by
    intro c
    constructor
    · rintro ⟨u, loc', there, soon⟩
      have within : (program T sizeMax).Inside (s.thread u) :=
        ⟨loc', there, inside_of_notifies soon⟩
      have same : u = t := atomic.fifo.exclusive.unique ⟨loc, here, inside⟩ within
      rw [same, here] at there
      cases there
      exact (notifies c).mp soon
    · intro same
      exact ⟨t, loc, here, (notifies c).mpr same⟩
  have never : ∀ c, ¬Notifying (Monitor.State.mk s.shared s.owner
      (Function.update (fun u => wake cond (s.thread u)) t (.running n))) c := by
    rintro c ⟨u, loc', there, soon⟩
    have there : Function.update (fun u => wake cond (s.thread u)) t (.running n) u =
        .running loc' := there
    by_cases self : u = t
    · subst self
      rw [Function.update_self] at there
      cases there
      exact nomatch (silent c).symm.trans soon
    · rw [Function.update_of_ne self, wake_eq_running] at there
      have same : c = cond := (now c).mp ⟨u, loc', there, soon⟩
      have within : (program T sizeMax).Inside (s.thread u) :=
        ⟨loc', there, inside_of_notifies soon⟩
      exact self (atomic.fifo.exclusive.unique ⟨loc, here, inside⟩ within)
  refine ⟨fifo, atomic.quit, atomic.finished, atomic.queue, fun u => ?_⟩
  refine At.imp (N := fun _ => False) ?_ fun c => iff_of_false (never c) id
  show At _ (Function.update (fun u => wake cond (s.thread u)) t (.running n) u) (q.thread u)
  by_cases self : u = t
  · subst self
    rw [Function.update_self]
    have place := atomic.thread u
    rw [here] at place
    rw [place.eq_done done]
    exact .done done'
  · rw [Function.update_of_ne self]
    exact (atomic.thread u).notified now

/-- A call that has not taken effect yet moves on. -/
theorem Atomic.advance (atomic : Atomic sizeMax s q) {loc n : Loc T} {owner : Option Tid}
    {c : BlockingQueue.Call T} (here : s.thread t = .running loc)
    (fifo : Fifo sizeMax (Monitor.State.mk s.shared owner
      (Function.update s.thread t (.running n))))
    (place : before loc = some c) (place' : before n = some c) :
    Atomic sizeMax (Monitor.State.mk s.shared owner (Function.update s.thread t (.running n)))
      q := by
  have mine := atomic.thread t
  rw [here] at mine
  refine atomic.stay fifo (silent_of_running here (silent_of_before place))
    (silent_eq (silent_of_before place')) ?_
  rw [mine.eq_called place]
  exact .called place'

/-- **Every step of the monitor is one of the blocking queue, or changes nothing there.** -/
theorem monitor_simulates : Simulates (component T Tid sizeMax)
    (BlockingQueue.component T Tid sizeMax) (Atomic sizeMax) := by
  intro s q l s' atomic took
  dsimp only [component, Component.only] at took
  split_ifs at took with allowed
  have step : (program T sizeMax).Step s l s' := Program.step_of_next took
  have fifo := fifo_step step atomic.fifo
  cases step with
  | @call t rest loc here entry =>
    obtain ⟨c, named⟩ := Option.isSome_iff_exists.mp allowed
    have place : before loc = some c := by
      cases loc <;> cases named <;> rfl
    have resting : resting rest = true := (Bool.and_eq_true_iff.mp entry).1
    have idle : q.thread t = .idle := (here ▸ atomic.thread t).eq_idle resting
    refine .inr ⟨.call t c, q.put t (.called c), ?_, ?_, ?_⟩
    · simp only [BlockingQueue.component, BlockingQueue.next, idle]
    · simp only [BlockingQueue.component, BlockingQueue.shows, component, Component.only, shows,
        named, Option.map_some]
    · refine atomic.put fifo (silent_of_running here ?_) (silent_eq (silent_of_before place))
        (.called place)
      intro cond
      cases cond <;> cases rest <;> first | rfl | cases resting
  | @relock t resume here free =>
    have mine := atomic.thread t
    rw [here] at mine
    refine .inl ⟨by simp only [component, Component.only, shows, here], ?_⟩
    refine atomic.stay fifo (fun loc there => nomatch here.symm.trans there) ?_ ?_
    all_goals
      generalize q.thread t = x at mine
      cases mine with
      | relocking place => first | exact silent_eq (silent_of_before place) | exact .called place
  | @lock t loc n here act free =>
    cases locks_of_instr act with
    | push => exact .inl ⟨by simp [component, Component.only, shows, here, returned],
        atomic.advance here fifo rfl rfl⟩
    | pop => exact .inl ⟨by simp [component, Component.only, shows, here, returned],
        atomic.advance here fifo rfl rfl⟩
    | length => exact .inl ⟨by simp [component, Component.only, shows, here, returned],
        atomic.advance here fifo rfl rfl⟩
  | @unlock t loc n here act =>
    have mine := atomic.thread t
    rw [here] at mine
    obtain ⟨r, names, rest⟩ : ∃ r, returned loc = some r ∧ resting n = true := by
      cases unlocks_of_instr act <;> exact ⟨_, rfl, rfl⟩
    have done : after loc = some r := by cases loc <;> first | exact names | cases names
    have silent : Silent loc := by
      intro cond
      cases cond <;> cases loc <;> first | rfl | cases names
    have silent' : Silent n := by
      intro cond
      cases cond <;> cases n <;> first | rfl | cases rest
    have place := mine.eq_done done
    refine .inr ⟨.ret t, q.put t .idle, ?_, ?_, ?_⟩
    · simp only [BlockingQueue.component, BlockingQueue.next, place]
    · simp only [BlockingQueue.component, BlockingQueue.shows, place, component, Component.only,
        shows, here, names, Option.map_some]
    · exact atomic.put fifo (silent_of_running here silent) (silent_eq silent') (.idle rest)
  | @wait t loc cond resume here act =>
    have mine := atomic.thread t
    rw [here] at mine
    refine .inr ⟨.act t, ?_⟩
    cases waits_of_instr act with
    | @push data full =>
      have place := mine.eq_called rfl
      have quiet := not_notifying atomic.fifo here rfl (silent_of_before rfl)
      refine ⟨q.put t (.waiting (.push data)), ?_, ?_, ?_⟩
      · simp only [BlockingQueue.component, BlockingQueue.next, place, BlockingQueue.act,
          atomic.queue, if_neg (Nat.not_lt.mpr full)]
      · simp [BlockingQueue.component, BlockingQueue.shows, component, Component.only, shows, here,
          returned]
      · exact atomic.put fifo (silent_of_running here (silent_of_before rfl)) nofun
          (.waiting rfl (quiet _))
    | pop =>
      have place := mine.eq_called rfl
      have quiet := not_notifying atomic.fifo here rfl (silent_of_before rfl)
      have empty : q.queue = [] :=
        atomic.queue.trans (atomic.fifo.sawEmpty t (by rw [here]; exact .inr rfl))
      refine ⟨q.put t (.waiting .pop), ?_, ?_, ?_⟩
      · simp only [BlockingQueue.component, BlockingQueue.next, place, BlockingQueue.act, empty]
      · simp [BlockingQueue.component, BlockingQueue.shows, component, Component.only, shows, here,
          returned]
      · exact atomic.put fifo (silent_of_running here (silent_of_before rfl)) nofun
          (.waiting rfl (quiet _))
  | @notifyAll t loc cond n here act =>
    have mine := atomic.thread t
    rw [here] at mine
    refine .inl ⟨?_, ?_⟩
    · cases notifies_of_instr act <;> simp [component, Component.only, shows, here, returned]
    · cases notifies_of_instr act with
      | push =>
        refine atomic.notify here rfl fifo (fun c => ?_) (fun c => ?_) rfl rfl <;>
          cases c <;> simp [notifies]
      | pop =>
        refine atomic.notify here rfl fifo (fun c => ?_) (fun c => ?_) rfl rfl <;>
          cases c <;> simp [notifies]
      | finished | quitEmpty | quitFull => exact (mine.false rfl rfl rfl).elim
  | @access t loc shared n here act =>
    have mine := atomic.thread t
    rw [here] at mine
    have access := access_of_instr act
    cases access with
    | pushQuit isSet | popQuit isSet => exact nomatch atomic.quit.symm.trans isSet
    | pushFinished isSet | popFinished isSet => exact nomatch atomic.finished.symm.trans isSet
    | finished | quit => exact (mine.false rfl rfl rfl).elim
    | pushOpen | pushCheck | popOpen | popEmpty | popCheck =>
      exact .inl ⟨by simp [component, Component.only, shows, here, returned],
        atomic.advance here fifo rfl rfl⟩
    | @enqueue data room =>
      have place := mine.eq_called rfl
      have effect := atomic.takesEffect Place.wakePop (r := .pushed true) here rfl
        (silent_of_before rfl) fifo atomic.quit atomic.finished
        (fun c => by cases c <;> simp [notifies]) rfl At.wakePop
      refine .inr ⟨.act t, _, ?_, ?_, effect⟩
      · simp only [BlockingQueue.component, BlockingQueue.next, place, BlockingQueue.act,
          atomic.queue, if_pos room]
      · simp [BlockingQueue.component, BlockingQueue.shows, component, Component.only, shows, here,
          returned]
    | @dequeue data rest front =>
      have place := mine.eq_called rfl
      have effect := atomic.takesEffect Place.wakePush (r := .popped (some data)) here rfl
        (silent_of_before rfl) fifo atomic.quit atomic.finished
        (fun c => by cases c <;> simp [notifies]) rfl At.wakePush
      refine .inr ⟨.act t, _, ?_, ?_, effect⟩
      · simp only [BlockingQueue.component, BlockingQueue.next, place, BlockingQueue.act,
          atomic.queue, front]
      · simp [BlockingQueue.component, BlockingQueue.shows, component, Component.only, shows, here,
          returned]
    | length =>
      have place := mine.eq_called rfl
      refine .inr ⟨.act t, q.put t (.done (.counted s.shared.queue.length)), ?_, ?_, ?_⟩
      · simp only [BlockingQueue.component, BlockingQueue.next, place, BlockingQueue.act,
          atomic.queue]
      · simp [BlockingQueue.component, BlockingQueue.shows, component, Component.only, shows, here,
          returned]
      · refine atomic.put fifo (silent_of_running here (silent_of_before rfl)) (silent_eq ?_)
          (.done rfl)
        intro cond
        cases cond <;> rfl

/-- **Whatever a program reaches with `Queue<T>`, it reaches with the blocking queue**, with the
same values in it. -/
def RefinesBlockingQueue (T Tid : Type) [DecidableEq T] [DecidableEq Tid] (sizeMax : Nat) : Prop :=
  ∀ (Client Move : Type) (program : Component Client Move (BlockingQueue.Event T Tid)) c d t,
    (program.inside (component T Tid sizeMax)).Reaches (c, start T Tid) (d, t) →
      ∃ q, (program.inside (BlockingQueue.component T Tid sizeMax)).Reaches
        (c, BlockingQueue.new T Tid) (d, q) ∧ q.queue = t.shared.queue

theorem queue_atomic (T Tid : Type) [DecidableEq T] [DecidableEq Tid] (sizeMax : Nat) :
    RefinesBlockingQueue T Tid sizeMax := by
  intro Client Move program c d t reach
  obtain ⟨q, reach', atomic⟩ := monitor_simulates.inside program atomic_start reach
  exact ⟨q, reach', atomic.queue⟩

end Queue

end Xplay
