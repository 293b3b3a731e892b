/-
**`HandlerThread` hands out its handler before there is one.**

The constructor starts a detached thread and returns. That thread calls `prepare`, assigns `handler`,
sets its callback and runs the loop; nothing makes `getHandler` or `postMessage` wait for the
assignment, and nothing looks at the looper that `prepare` returned.

Before the assignment the field is unset: `getHandler` returns whatever it holds, and `postMessage`
uses it (`misused`). When `prepare` finds an entry under the thread's id it returns null; then the
handler has no looper, and every message is dropped (`lost`).

`handshake_iff`: the handshake holds of a run exactly when each `postMessage` and `getHandler` comes
after the assignment of a handler with a looper. From then on the spawned thread and the poster
bring every message to `handleMessage` in a bounded number of steps.
-/

import Xplay.Handler.LooperManager
import Xplay.Handler.LooperServes

set_option linter.unusedSectionVars false

namespace Xplay

open Lib Lib.Locks

namespace HandlerThread

/-- The two threads. -/
inductive Party
  | constructing
  | spawned
  deriving DecidableEq

/-- Where `run` is; `elsewhere`, the looper that `loop` found is not the one of `run`. -/
inductive RunLoc
  | prepare
  | newHandler (looper : Option Nat)
  | setCallBack (looper : Option Nat)
  | loop (looper : Option Nat)
  | looping
  | elsewhere

/-- What `HandlerThread` uses of its `XHandler`. -/
structure Handler where
  looper : Option Nat
  callBack : Bool

/-- The objects that are given the handler. -/
inductive Part
  | demux
  | videoDecode
  | audioDecode
  | mediaSync
  deriving DecidableEq

/-- `postMessage(XMessage *)`, and `postMessage(int, int, int)` with the object it allocates. -/
inductive Message
  | pointer (object : Nat)
  | fields (object : Nat) (what arg1 arg2 : Int)

/-- The registry of loopers, the spawned thread, `handler`, the looper that `prepare` creates, and
what was posted, dropped, passed to `handleMessage` and returned by `getHandler`. -/
structure State (Id : Type) where
  manager : LooperManager Id
  thread : Thread Id
  run : RunLoc
  handler : Option Handler
  looper : XLooper.State Party
  posted : List XMessage
  lost : List XMessage
  handled : List XMessage
  got : List (Part × Option Handler)
  misused : Bool

/-- The next action of `run`, a step inside the looper, or a call by the constructing thread. -/
inductive Label
  | run
  | step (party : Party)
  | write (object : Nat) (message : XMessage)
  | postMessage (message : Message)
  | getHandler (part : Part)

namespace Message

/-- The object that is sent. -/
def number : Message → Nat
  | .pointer object => object
  | .fields object _ _ _ => object

/-- The message with its target set. -/
def value (m : Message) (q : XLooper.Data Party) : XMessage :=
  match m with
  | .pointer object => { q.objects .constructing object with target := some 0 }
  | .fields _ what arg1 arg2 => ⟨what, arg1, arg2, some 0⟩

/-- The call on the handler. -/
def call : Message → XLooper.Loc
  | .pointer object => .sendMessage 0 object
  | .fields object what arg1 arg2 => .postMessage 0 object what arg1 arg2

end Message

namespace State

variable {Id : Type} [DecidableEq Id]

/-- The constructing thread is in no call of the looper. -/
def idle (s : State Id) : Bool :=
  match s.looper.thread .constructing with
  | .running .idle => true
  | _ => false

/-- `HandlerThread::run`, up to the loop. -/
def runNext (s : State Id) : Option (State Id) :=
  match s.run with
  | .prepare =>
    let (manager, looper) := s.manager.createLooper s.thread
    some { s with manager := manager, run := .newHandler looper }
  | .newHandler looper => some { s with handler := some ⟨looper, false⟩, run := .setCallBack looper }
  | .setCallBack looper =>
    some { s with
      handler := s.handler.map fun handler => { handler with callBack := true }
      run := .loop looper }
  | .loop looper =>
    some { s with
      run := if looper.isSome && s.manager.getLooper s.thread.id = looper then .looping
        else .elsewhere }
  | .looping => none
  | .elsewhere => none

/-- The party is in the looper's code. -/
def inLooper (s : State Id) : Party → Bool
  | .constructing => true
  | .spawned =>
    match s.run with
    | .looping => true
    | _ => false

/-- The messages dispatched by a step; `dispatchMessage` drops them without a callback. -/
def handles (s : State Id) (looper : XLooper.State Party) : List XMessage :=
  if (s.handler.map Handler.callBack).getD false then
    (looper.shared.dispatched.drop s.looper.shared.dispatched.length).map XLooper.Posted.message
  else []

/-- `HandlerThread::postMessage`, up to the looper's `sendMessage`. -/
def post (s : State Id) (m : Message) : Option (State Id) :=
  match s.handler with
  | none => some { s with misused := true }
  | some handler =>
    match handler.looper with
    | none =>
      -- XHandler::enqueueMessage: "looper is null"
      let message := m.value s.looper.shared
      some { s with
        looper := { s.looper with shared := s.looper.shared.write .constructing m.number message }
        posted := s.posted ++ [message]
        lost := s.lost ++ [message] }
    | some _ =>
      ((XLooper.system Party.spawned).next s.looper (.call .constructing m.call)).map fun looper =>
        { s with looper := looper, posted := s.posted ++ [m.value s.looper.shared] }

/-- The next state; the constructing thread makes one call at a time. -/
def next (s : State Id) : Label → Option (State Id)
  | .run => s.runNext
  | .step party =>
    if s.inLooper party then
      ((XLooper.system Party.spawned).next s.looper (.step party)).map fun looper =>
        { s with looper := looper, handled := s.handled ++ s.handles looper }
    else none
  | .write object message =>
    ((XLooper.system Party.spawned).next s.looper
        (.call .constructing (.writing object message))).map fun looper =>
      { s with looper := looper }
  | .postMessage m => if s.idle then s.post m else none
  | .getHandler part =>
    if s.idle then some { s with got := s.got ++ [(part, s.handler)] } else none

end State

variable {Id : Type} [DecidableEq Id]

variable (Id) in
/-- The constructing thread and the spawned one. -/
def system : System (State Id) Label where
  next := State.next

/-- The constructor has returned; the registry and the objects hold anything. -/
def start (manager : LooperManager Id) (thread : Thread Id) (objects : Nat → XMessage) :
    State Id where
  manager := manager
  thread := thread
  run := .prepare
  handler := none
  looper := XLooper.start .spawned fun _ => objects
  posted := []
  lost := []
  handled := []
  got := []
  misused := false

/-! ### What the handshake should do -/

/-- A step of the threads, not a new call. -/
def Internal : Label → Prop
  | .run | .step _ => True
  | _ => False

/-- `handler` is assigned, and has a looper. -/
def Published (s : State Id) : Prop :=
  ∃ handler looper, s.handler = some handler ∧ handler.looper = some looper

/-- The result of `getHandler` is a handler on the looper that the spawned thread created. -/
def Bound (s : State Id) (result : Option Handler) : Prop :=
  ∃ handler looper, result = some handler ∧ handler.looper = some looper ∧
    (s.manager.loopers[looper]?).map RegisteredLooper.creator = some s.thread

/-- Without further calls the threads come to a stop after at most `n` steps, and then every message
posted was accepted and passed to `handleMessage`, each once and in order. -/
def ServedWithin (s : State Id) (n : Nat) : Prop :=
  ∀ labels u, (∀ l ∈ labels, Internal l) → (system Id).run s labels = some u →
    labels.length ≤ n ∧ ((∀ l, Internal l → (system Id).next u l = none) →
      u.looper.shared.queue.accepted.map XLooper.Posted.message = s.posted ∧ u.handled = s.posted)

/-- **What should hold after every run.** -/
structure Handshake (s : State Id) : Prop where
  used : s.misused = false
  bound : ∀ part result, (part, result) ∈ s.got → Bound s result
  accepted : s.lost = []
  served : ∃ n, ServedWithin s n

instance (s : State Id) : Decidable (Published s) :=
  decidable_of_iff ((s.handler.bind Handler.looper).isSome = true) (by
    unfold Published
    cases s.handler with
    | none => simp
    | some handler => simp [Option.isSome_iff_exists])

/-- **The condition on a step**: the handler is handed out and posted to once it is published. -/
def Timely (s : State Id) : Label → Prop
  | .postMessage _ | .getHandler _ => Published s
  | _ => True

instance (s : State Id) : (l : Label) → Decidable (Timely s l)
  | .postMessage _ | .getHandler _ => inferInstanceAs (Decidable (Published s))
  | .run | .step _ | .write _ _ => isTrue trivial

/-! ### What a step can do -/

variable {s t u : State Id} {l : Label}

/-- **The steps**, one constructor for each. -/
inductive Steps (s : State Id) : Label → State Id → Prop
  | prepare (here : s.run = .prepare) :
      Steps s .run { s with
        manager := (s.manager.createLooper s.thread).1
        run := .newHandler (s.manager.createLooper s.thread).2 }
  | newHandler {looper} (here : s.run = .newHandler looper) :
      Steps s .run { s with handler := some ⟨looper, false⟩, run := .setCallBack looper }
  | setCallBack {looper} (here : s.run = .setCallBack looper) :
      Steps s .run { s with
        handler := s.handler.map fun handler => { handler with callBack := true }
        run := .loop looper }
  | loop {looper} (here : s.run = .loop looper)
      (own : (looper.isSome && s.manager.getLooper s.thread.id = looper) = true) :
      Steps s .run { s with run := .looping }
  | strays {looper} (here : s.run = .loop looper)
      (other : (looper.isSome && s.manager.getLooper s.thread.id = looper) = false) :
      Steps s .run { s with run := .elsewhere }
  | step {party looper effect} (inside : s.inLooper party = true)
      (step : (XLooper.program Party.spawned).Step s.looper (.step party) looper effect) :
      Steps s (.step party) { s with looper := looper, handled := s.handled ++ s.handles looper }
  | write {object message looper effect}
      (step : (XLooper.program Party.spawned).Step s.looper
        (.call .constructing (.writing object message)) looper effect) :
      Steps s (.write object message) { s with looper := looper }
  | misuse {m} (unset : s.handler = none) :
      Steps s (.postMessage m) { s with misused := true }
  | drop {m handler} (found : s.handler = some handler) (null : handler.looper = none)
      (idle : s.idle = true) :
      Steps s (.postMessage m) { s with
        looper := { s.looper with
          shared := s.looper.shared.write .constructing m.number (m.value s.looper.shared) }
        posted := s.posted ++ [m.value s.looper.shared]
        lost := s.lost ++ [m.value s.looper.shared] }
  | post {m handler address looper effect} (found : s.handler = some handler)
      (there : handler.looper = some address)
      (step : (XLooper.program Party.spawned).Step s.looper (.call .constructing m.call) looper
        effect) :
      Steps s (.postMessage m) { s with
        looper := looper
        posted := s.posted ++ [m.value s.looper.shared] }
  | getHandler {part} :
      Steps s (.getHandler part) { s with got := s.got ++ [(part, s.handler)] }

theorem steps_of_next (enabled : (system Id).next s l = some t) : Steps s l t := by
  cases l with
  | run =>
    simp only [system, State.next, State.runNext] at enabled
    split at enabled
    case h_1 here => cases enabled; exact .prepare here
    case h_2 looper here => cases enabled; exact .newHandler here
    case h_3 looper here => cases enabled; exact .setCallBack here
    case h_4 looper here =>
      cases enabled
      cases own : looper.isSome && s.manager.getLooper s.thread.id = looper with
      | true => exact .loop here own
      | false => exact .strays here own
    case h_5 => cases enabled
    case h_6 => cases enabled
  | step party =>
    simp only [system, State.next] at enabled
    split_ifs at enabled with inside
    obtain ⟨looper, next, rfl⟩ := Option.map_eq_some_iff.mp enabled
    obtain ⟨effect, step⟩ := Program.step_of_next next
    exact .step inside step
  | write object message =>
    obtain ⟨looper, next, rfl⟩ := Option.map_eq_some_iff.mp enabled
    obtain ⟨effect, step⟩ := Program.step_of_next next
    exact .write step
  | postMessage m =>
    simp only [system, State.next, State.post] at enabled
    split_ifs at enabled with idle
    split at enabled
    case h_1 unset => cases enabled; exact .misuse unset
    case h_2 handler found =>
      split at enabled
      case h_1 null => cases enabled; exact .drop found null idle
      case h_2 address there =>
        obtain ⟨looper, next, rfl⟩ := Option.map_eq_some_iff.mp enabled
        obtain ⟨effect, step⟩ := Program.step_of_next next
        exact .post found there step
  | getHandler part =>
    simp only [system, State.next] at enabled
    split_ifs at enabled with idle
    cases enabled
    exact .getHandler

/-! ### The spawned thread -/

/-- An address that `prepare` returned is that of the spawned thread's own looper. -/
def Own (s : State Id) (looper : Option Nat) : Prop :=
  ∀ address, looper = some address → s.manager.looperMap s.thread.id = some address ∧
    (s.manager.loopers[address]?).map RegisteredLooper.creator = some s.thread

/-- **What `run` has assigned by then.** -/
def Assigned (s : State Id) : RunLoc → Prop
  | .prepare => s.handler = none
  | .newHandler looper => s.handler = none ∧ Own s looper
  | .setCallBack looper => s.handler = some ⟨looper, false⟩ ∧ Own s looper
  | .loop looper => s.handler = some ⟨looper, true⟩ ∧ Own s looper
  | .looping => ∃ address, s.handler = some ⟨some address, true⟩ ∧ Own s (some address)
  | .elsewhere => s.handler = some ⟨none, true⟩

theorem own_prepare (s : State Id) :
    Own { s with manager := (s.manager.createLooper s.thread).1 }
      (s.manager.createLooper s.thread).2 := by
  intro address created
  unfold LooperManager.createLooper at created ⊢
  cases entry : s.manager.looperMap s.thread.id with
  | some _ =>
    rw [entry] at created
    cases created
  | none =>
    rw [entry] at created
    cases created
    simp

theorem assigned_step (assigned : Assigned s s.run) (step : Steps s l t) : Assigned t t.run := by
  cases step with
  | prepare here =>
    rw [here] at assigned
    exact ⟨assigned, own_prepare s⟩
  | newHandler here =>
    rw [here] at assigned
    exact ⟨rfl, assigned.2⟩
  | setCallBack here =>
    rw [here] at assigned
    exact ⟨by simp [assigned.1], assigned.2⟩
  | @loop looper here own =>
    rw [here] at assigned
    cases looper with
    | none => cases own
    | some address => exact ⟨address, assigned⟩
  | @strays looper here other =>
    rw [here] at assigned
    cases looper with
    | none => exact assigned.1
    | some address =>
      have entry := (assigned.2 address rfl).1
      simp [LooperManager.getLooper, entry] at other
  | _ => exact assigned

/-- What a handler returned earlier is bound to stays so. -/
theorem bound_step {result : Option Handler} (bound : Bound s result) (step : Steps s l t) :
    Bound t result := by
  cases step with
  | prepare here =>
    obtain ⟨handler, looper, rfl, there, creator⟩ := bound
    refine ⟨handler, looper, rfl, there, ?_⟩
    obtain ⟨l, found, same⟩ := Option.map_eq_some_iff.mp creator
    unfold LooperManager.createLooper
    cases s.manager.looperMap s.thread.id with
    | some _ => simp [found, same]
    | none =>
      dsimp only
      rw [Registry.found_append found]
      simp [same]
  | _ => exact bound

/-- The handler stays published. -/
theorem published_step (published : Published s) (assigned : Assigned s s.run)
    (step : Steps s l t) : Published t := by
  obtain ⟨handler, looper, found, there⟩ := published
  cases step with
  | newHandler here =>
    rw [here] at assigned
    rw [assigned.1] at found
    cases found
  | setCallBack here => exact ⟨{ handler with callBack := true }, looper, by simp [found], there⟩
  | _ => exact ⟨handler, looper, found, there⟩

/-- The looper of the handler is the spawned thread's own. -/
theorem own_of_assigned (assigned : Assigned s s.run) {handler : Handler}
    (found : s.handler = some handler) : Own s handler.looper := by
  generalize s.run = loc at assigned
  cases loc with
  | prepare => cases found.symm.trans assigned
  | newHandler => cases found.symm.trans assigned.1
  | setCallBack =>
    cases found.symm.trans assigned.1
    exact assigned.2
  | loop =>
    cases found.symm.trans assigned.1
    exact assigned.2
  | looping =>
    obtain ⟨address, same, own⟩ := assigned
    cases found.symm.trans same
    exact own
  | elsewhere =>
    cases found.symm.trans assigned
    rintro _ ⟨⟩

/-- A published handler is on the spawned thread's looper. -/
theorem bound_of_published (published : Published s) (assigned : Assigned s s.run) :
    Bound s s.handler := by
  obtain ⟨handler, looper, found, there⟩ := published
  exact ⟨handler, looper, found, there, (own_of_assigned assigned found looper there).2⟩

/-! ### The looper -/

/-- There are only the two threads. -/
theorem party_cases (party : Party) : party = .constructing ∨ party = .spawned := by
  cases party with
  | constructing => exact Or.inl rfl
  | spawned => exact Or.inr rfl

/-- **What the looper does for the two threads.** -/
structure Looped (s : State Id) : Prop where
  serving : XLooper.Serving .spawned s.looper
  waits : s.inLooper .spawned = false → s.looper.shared.dispatched = []
  handled : s.handled = s.looper.shared.dispatched.map XLooper.Posted.message
  posted : s.posted =
    XLooper.sent s.looper.shared .constructing (place (s.looper.thread .constructing))

theorem inLooper_spawned : s.inLooper .spawned = true ↔ s.run = .looping := by
  simp only [State.inLooper]
  cases s.run <;> simp

/-- Once the loop runs the handler has its callback. -/
theorem callBack_of_inLooper (assigned : Assigned s s.run) (inside : s.inLooper .spawned = true) :
    s.handler.map Handler.callBack = some true := by
  rw [inLooper_spawned.mp inside] at assigned
  obtain ⟨address, found, -⟩ := assigned
  rw [found]
  rfl

/-- A call by the constructing thread. -/
theorem Looped.call {looper : XLooper.State Party} {loc : XLooper.Loc}
    {effect : Effect XLooper.Mutex Queue.Cond} (looped : Looped s)
    (step : (XLooper.program Party.spawned).Step s.looper (.call .constructing loc) looper effect)
    (calm : XLooper.quitting loc = false) :
    XLooper.Serving .spawned looper ∧ looper.shared = s.looper.shared ∧
      XLooper.sent looper.shared .constructing (place (looper.thread .constructing)) =
        s.posted ++ XLooper.inFlight s.looper.shared .constructing loc :=
  have other : Party.constructing ≠ Party.spawned := by rintro ⟨⟩
  ⟨looped.serving.step (l := .call .constructing loc) ⟨other, calm⟩ step, (XLooper.called step).2.1, by
    rw [looped.posted, XLooper.sent_call step other]⟩

/-- Before the loop only the constructing thread is in the looper. -/
theorem other_of_outside {party : Party} (inside : s.inLooper party = true)
    (outside : s.inLooper .spawned = false) : party ≠ .spawned := by
  rintro rfl
  rw [inside] at outside
  cases outside

/-- What a step dispatches is handled. -/
theorem handled_step {party : Party} {looper : XLooper.State Party}
    {effect : Effect XLooper.Mutex Queue.Cond} (looped : Looped s) (assigned : Assigned s s.run)
    (inside : s.inLooper party = true)
    (step : (XLooper.program Party.spawned).Step s.looper (.step party) looper effect) :
    s.handled ++ s.handles looper = looper.shared.dispatched.map XLooper.Posted.message := by
  obtain ⟨new, dispatched, others⟩ := XLooper.dispatched_step step looped.serving.calls
  rw [looped.handled, dispatched, List.map_append, State.handles]
  by_cases loops : s.inLooper .spawned = true
  · simp [callBack_of_inLooper assigned loops, dispatched]
  · have none := others (other_of_outside inside (by simpa using loops))
    simp [none, dispatched]

theorem Looped.step (looped : Looped s) (assigned : Assigned s s.run) (timely : Timely s l)
    (step : Steps s l t) : Looped t := by
  have waits {loc : RunLoc} (here : s.run = loc) (before : loc ≠ .looping) :
      s.looper.shared.dispatched = [] := by
    refine looped.waits (Bool.eq_false_iff.mpr fun inside => before ?_)
    exact here.symm.trans (inLooper_spawned.mp inside)
  cases step with
  | prepare here =>
    exact ⟨looped.serving, fun _ => waits here (by rintro ⟨⟩), looped.handled, looped.posted⟩
  | newHandler here =>
    exact ⟨looped.serving, fun _ => waits here (by rintro ⟨⟩), looped.handled, looped.posted⟩
  | setCallBack here =>
    exact ⟨looped.serving, fun _ => waits here (by rintro ⟨⟩), looped.handled, looped.posted⟩
  | loop here own => exact ⟨looped.serving, (nomatch ·), looped.handled, looped.posted⟩
  | strays here other =>
    exact ⟨looped.serving, fun _ => waits here (by rintro ⟨⟩), looped.handled, looped.posted⟩
  | @step party looper effect inside step =>
    refine ⟨looped.serving.step (l := .step party) trivial step, fun outside => ?_,
      handled_step looped assigned inside step, ?_⟩
    · obtain ⟨new, dispatched, others⟩ := XLooper.dispatched_step step looped.serving.calls
      have none := others (other_of_outside inside outside)
      show looper.shared.dispatched = []
      rw [dispatched, none, looped.waits outside, List.append_nil]
    · exact looped.posted.trans (looped.serving.sent_step (by rintro ⟨⟩) party_cases step).symm
  | write step =>
    obtain ⟨serving, same, sent⟩ := looped.call step rfl
    refine ⟨serving, fun outside => ?_, ?_, ?_⟩
    · exact same ▸ looped.waits outside
    · exact same ▸ looped.handled
    · exact (sent.trans (List.append_nil _)).symm
  | misuse unset => exact ⟨looped.serving, looped.waits, looped.handled, looped.posted⟩
  | drop found null idle =>
    obtain ⟨handler, looper, found', there⟩ := timely
    cases found.symm.trans found'
    cases null.symm.trans there
  | @post m handler address looper effect found there step =>
    have calm : XLooper.quitting m.call = false := by cases m <;> rfl
    obtain ⟨serving, same, sent⟩ := looped.call step calm
    refine ⟨serving, fun outside => ?_, ?_, ?_⟩
    · exact same ▸ looped.waits outside
    · exact same ▸ looped.handled
    · refine Eq.trans ?_ sent.symm
      cases m <;> rfl
  | getHandler => exact ⟨looped.serving, looped.waits, looped.handled, looped.posted⟩

/-! ### The invariant -/

/-- **The invariant of the runs of timely steps.** -/
structure Sound (s : State Id) : Prop where
  looped : Looped s
  assigned : Assigned s s.run
  used : s.misused = false
  bound : ∀ part result, (part, result) ∈ s.got → Bound s result
  accepted : s.lost = []
  published : s.posted = [] ∨ Published s

theorem sound_start (manager : LooperManager Id) (thread : Thread Id) (objects : Nat → XMessage) :
    Sound (start manager thread objects) where
  looped := ⟨XLooper.serving_start _, fun _ => rfl, rfl, rfl⟩
  assigned := rfl
  used := rfl
  bound := by rintro _ _ ⟨⟩
  accepted := rfl
  published := Or.inl rfl

/-- **The step lemma.** -/
theorem Sound.step (sound : Sound s) (timely : Timely s l) (step : Steps s l t) : Sound t where
  looped := sound.looped.step sound.assigned timely step
  assigned := assigned_step sound.assigned step
  used := by
    cases step with
    | misuse unset =>
      obtain ⟨handler, looper, found, -⟩ := timely
      cases unset.symm.trans found
    | _ => exact sound.used
  bound part result member := by
    by_cases before : (part, result) ∈ s.got
    · exact bound_step (sound.bound part result before) step
    · cases step with
      | getHandler =>
        rcases List.mem_append.mp member with old | new
        · exact absurd old before
        · cases List.mem_singleton.mp new
          exact bound_of_published timely sound.assigned
      | _ => exact absurd member before
  accepted := by
    cases step with
    | drop found null idle =>
      obtain ⟨handler, looper, found', there⟩ := timely
      cases found.symm.trans found'
      cases null.symm.trans there
    | _ => exact sound.accepted
  published := by
    rcases sound.published with nothing | published
    · cases step with
      | drop found null idle => exact Or.inr timely
      | post found there step => exact Or.inr timely
      | _ => exact Or.inl nothing
    · exact Or.inr (published_step published sound.assigned step)

/-! ### The threads come to a stop -/

/-- The actions of `run` left before the loop. -/
def startUp : RunLoc → Nat
  | .prepare => 4
  | .newHandler _ => 3
  | .setCallBack _ => 2
  | .loop _ => 1
  | .looping | .elsewhere => 0

/-- The work left to both threads. -/
def left (s : State Id) : Nat :=
  startUp s.run + XLooper.work {Party.constructing, Party.spawned} s.looper

/-- **Every step of the threads lowers the work left.** -/
theorem left_step (sound : Sound s) (internal : Internal l) (step : Steps s l t) :
    left t < left s := by
  unfold left
  cases step with
  | prepare here => simp [here, startUp]
  | newHandler here => simp [here, startUp]
  | setCallBack here => simp [here, startUp]
  | loop here own => simp [here, startUp]
  | strays here other => simp [here, startUp]
  | @step party looper effect inside step =>
    refine Nat.add_lt_add_left (XLooper.work_step step sound.looped.serving.calls ?_ ?_) _
    · cases party <;> decide
    · decide
  | _ => cases internal

/-- The threads post nothing themselves. -/
theorem posted_step (internal : Internal l) (step : Steps s l t) : t.posted = s.posted := by
  cases step <;> first | rfl | cases internal

theorem timely_of_internal (internal : Internal l) : Timely s l := by
  cases l <;> trivial

/-- A message is accepted as it was posted. -/
theorem message_eq_sentAs (sound : Sound s) :
    s.looper.shared.queue.accepted.map XLooper.Posted.message =
      s.looper.shared.queue.accepted.map XLooper.Posted.sentAs :=
  List.map_congr_left fun posted member =>
    (sound.looped.serving.calls.delivery.faithful posted member).same

/-- **When neither thread can step**, every message was accepted and handled. -/
theorem served_of_halted (sound : Sound s)
    (halted : ∀ l, Internal l → (system Id).next s l = none) :
    s.looper.shared.queue.accepted.map XLooper.Posted.message = s.posted ∧
      s.handled = s.posted := by
  have stuck := halted .run trivial
  have posted := sound.looped.posted
  simp only [system, State.next, State.runNext] at stuck
  cases here : s.run with
  | looping =>
    have enters : ∀ party, s.inLooper party = true := by
      rintro ⟨⟩
      · rfl
      · exact inLooper_spawned.mpr here
    have rests : ∀ party, ¬(XLooper.program Party.spawned).Enabled s.looper party := by
      rintro party ⟨looper, next⟩
      have none := halted (.step party) trivial
      simp only [system, State.next, if_pos (enters party), Option.map_eq_none_iff] at none
      cases none.symm.trans next
    obtain ⟨idle, dispatched⟩ :=
      sound.looped.serving.served_of_halted (by rintro ⟨⟩) party_cases rests
    have all : s.posted = s.looper.shared.queue.accepted.map XLooper.Posted.message := by
      rw [posted, idle, message_eq_sentAs sound]
      exact List.append_nil _
    exact ⟨all.symm, by rw [sound.looped.handled, dispatched, all]⟩
  | elsewhere =>
    -- `prepare` returned null, so nothing was posted
    have assigned := sound.assigned
    rw [here] at assigned
    have nothing : s.posted = [] := by
      rcases sound.published with nothing | ⟨handler, looper, found, there⟩
      · exact nothing
      · cases found.symm.trans assigned
        cases there
    have outside : s.inLooper .spawned = false := by simp [State.inLooper, here]
    rw [nothing] at posted ⊢
    refine ⟨?_, by rw [sound.looped.handled, sound.looped.waits outside]; rfl⟩
    rw [message_eq_sentAs sound]
    exact (List.append_eq_nil_iff.mp posted.symm).1
  | _ => simp [here] at stuck

theorem Sound.handshake (sound : Sound s) : Handshake s where
  used := sound.used
  bound := sound.bound
  accepted := sound.accepted
  served := by
    refine ⟨left s, fun labels u internal run => ?_⟩
    obtain ⟨⟨kept, same⟩, bound⟩ := System.length_le_measure
      (I := fun u => Sound u ∧ u.posted = s.posted) left (fun a l b inv internal enabled => by
        have step := steps_of_next enabled
        exact ⟨⟨inv.1.step (timely_of_internal internal) step,
          (posted_step internal step).trans inv.2⟩, left_step inv.1 internal step⟩)
      internal run ⟨sound, rfl⟩
    exact ⟨by omega, fun halted => same ▸ served_of_halted kept halted⟩

/-! ### An untimely step is not made good -/

/-- The handshake has failed. -/
inductive Failed (s : State Id) : Prop
  | misused (misused : s.misused = true)
  | lost (lost : s.lost ≠ [])
  | got {part result} (member : (part, result) ∈ s.got)
      (unbound : ∀ handler, result = some handler → handler.looper = none)

theorem not_handshake_of_failed (failed : Failed s) : ¬Handshake s := by
  intro handshake
  cases failed with
  | misused misused => cases misused.symm.trans handshake.used
  | lost lost => exact lost handshake.accepted
  | got member unbound =>
    obtain ⟨handler, looper, same, there, -⟩ := handshake.bound _ _ member
    cases (unbound handler same).symm.trans there

theorem failed_step (failed : Failed s) (step : Steps s l t) : Failed t := by
  cases failed with
  | misused misused =>
    refine .misused ?_
    cases step <;> first | exact misused | rfl
  | lost lost =>
    refine .lost ?_
    cases step <;> first | exact lost | simp
  | @got part result member unbound =>
    have kept : (part, result) ∈ t.got := by
      cases step <;> first | exact member | exact List.mem_append_left _ member
    exact .got kept unbound

/-- **An untimely step fails.** -/
theorem failed_of_untimely (untimely : ¬Timely s l) (step : Steps s l t) : Failed t := by
  cases step with
  | misuse unset => exact .misused rfl
  | drop found null idle => exact .lost (by simp)
  | post found there step => exact absurd ⟨_, _, found, there⟩ untimely
  | getHandler =>
    refine .got (List.mem_append_right _ (List.mem_singleton.mpr rfl)) fun handler found => ?_
    by_contra there
    obtain ⟨looper, there⟩ := Option.ne_none_iff_exists'.mp there
    exact untimely ⟨handler, looper, found, there⟩
  | _ => exact absurd trivial untimely

theorem guarded_of_handshake {labels : List Label} (run : (system Id).run s labels = some u)
    (handshake : Handshake u) : (system Id).Guarded Timely s labels := by
  induction labels generalizing s with
  | nil => trivial
  | cons l labels ih =>
    obtain ⟨t, step, rest⟩ := (system Id).run_cons_eq_some.mp run
    refine ⟨?_, fun t' step' => ?_⟩
    · by_contra untimely
      have failed : Failed u := System.invariant_run
        (fun _ _ _ failed enabled => failed_step failed (steps_of_next enabled)) rest
        (failed_of_untimely untimely (steps_of_next step))
      exact not_handshake_of_failed failed handshake
    · cases step.symm.trans step'
      exact ih rest

/-! ### The main result -/

/-- **The handshake holds after a run exactly when every `postMessage` and `getHandler` of it came
after the handler was published.** -/
theorem handshake_iff (Id : Type) [DecidableEq Id] (manager : LooperManager Id)
    (thread : Thread Id) (objects : Nat → XMessage) (labels : List Label) (s : State Id)
    (run : (system Id).run (start manager thread objects) labels = some s) :
    Handshake s ↔ (system Id).Guarded Timely (start manager thread objects) labels := by
  refine ⟨guarded_of_handshake run, fun guarded => ?_⟩
  have sound : Sound s := System.invariant_guarded
    (fun _ _ _ sound timely enabled => sound.step timely (steps_of_next enabled)) guarded run
    (sound_start manager thread objects)
  exact sound.handshake

/-- A process without a looper yet. -/
def fresh : State Nat := start ⟨fun _ => none, []⟩ ⟨0, 1⟩ fun _ => ⟨0, 0, 0, none⟩

/-- The spawned thread assigns its handler before the other thread asks for it and posts. -/
def awaited : List Label :=
  [.run, .run, .getHandler .demux, .postMessage (.fields 0 1 2 3), .run, .run, .step .constructing]

theorem awaited_handshake : ∃ s, (system Nat).run fresh awaited = some s ∧
    s.posted = [⟨1, 2, 3, some 0⟩] ∧ Handshake s := by
  have guarded : (system Nat).Guarded Timely fresh awaited := by decide
  refine ⟨_, rfl, rfl, ?_⟩
  exact (handshake_iff Nat ⟨fun _ => none, []⟩ ⟨0, 1⟩ (fun _ => ⟨0, 0, 0, none⟩) awaited _ rfl).mpr
    guarded

/-- **The handler is asked for and posted to before `run` has begun.** -/
theorem early_fails : ∃ s,
    (system Nat).run fresh [.getHandler .demux, .postMessage (.fields 0 1 2 3)] = some s ∧
      s.got = [(.demux, none)] ∧ s.misused = true ∧ ¬Handshake s :=
  ⟨_, rfl, rfl, rfl, fun handshake => nomatch handshake.used⟩

end HandlerThread

end Xplay
