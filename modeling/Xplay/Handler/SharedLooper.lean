/-
**Handlers on one looper: the destruction of one quits it for all.**

`XHandler(XLooper *)` lets any number of handlers share a looper, and a message names the one it is
for. `~XHandler` quits the looper, whoever else sends to it, and leaves the messages for the handler
where they are.

A call of `sendMessage` or `quit` is an event of its own, in the order in which they take the
looper's mutex; a send that has to wait for room takes its place in this order when there is room.
The loop takes its turns in between, cut at its test of `isQuit`, at the test of `_quit` in `pop`, at
the front of the queue and at `dispatchMessage`; a turn in which it has to wait changes nothing. `pop`
has the queue's mutex from its test on, but `quit` stores `_quit` without it, so that a handler can
be destroyed between the test and the front. Senders and destructors run on other threads.

The main result is about runs: one whose events are all `Harmless` goes, for the other handlers, as
the run without any destruction of it does, and dispatches to living handlers only; and each event
that is not leads to a run that does not.
-/

import Xplay.Handler.Looper
import Mathlib.Data.List.Basic
import Mathlib.Logic.Function.Iterate

set_option linter.unusedSectionVars false

namespace Xplay

open Lib

namespace SharedLooper

/-- Where `_loop` is: at its test of `isQuit`, at the test of `_quit` in `pop`, at the front of a queue
that is not empty, or at `dispatchMessage`. -/
inductive Loop
  | testing
  | popping
  | taking
  | holding (message : XMessage)
  | ended
  deriving DecidableEq

/-- A call of `dispatchMessage`, and whether its handler was still there. -/
structure Dispatch where
  message : XMessage
  alive : Bool
  deriving DecidableEq

/-- The looper, the handlers destroyed by then, and the dispatches. `isQuit` is also the queue's
`_quit`: `quit` sets both under the looper's mutex, and `pop` looks at the second only. -/
structure State where
  isQuit : Bool
  queue : List XMessage
  loop : Loop
  destroyed : List Nat
  dispatched : List Dispatch
  deriving DecidableEq

/-- A send by a handler, the destruction of one, or a turn of the loop. -/
inductive Event
  | sendMessage (handler : Nat) (message : XMessage)
  | destroy (handler : Nat)
  | turn
  deriving DecidableEq

namespace State

/-- `XLooper::_loop`, one step. -/
def turn (s : State) : State :=
  match s.loop with
  | .testing => { s with loop := if s.isQuit then .ended else .popping }
  | .popping =>
    if s.isQuit then { s with loop := .testing }
    else if s.queue = [] then s
    else { s with loop := .taking }
  | .taking =>
    match s.queue with
    | [] => s
    | message :: rest => { s with queue := rest, loop := .holding message }
  | .holding message =>
    match message.target with
    | none => { s with loop := .testing }
    | some handler =>
      { s with
        loop := .testing
        dispatched := s.dispatched ++ [⟨message, decide (handler ∉ s.destroyed)⟩] }
  | .ended => s

/-- `XHandler::sendMessage`; `none` while there is no room. -/
def sendMessage (s : State) (handler : Nat) (message : XMessage) : Option State :=
  if s.isQuit then some s
  else if s.queue.length < XLooper.capacity then
    some { s with queue := s.queue ++ [{ message with target := some handler }] }
  else none

/-- `XHandler::~XHandler`. -/
def destroy (s : State) (handler : Nat) : State :=
  { s with isQuit := true, destroyed := handler :: s.destroyed }

/-- The next state; a handler that was destroyed is not used again. -/
def next (s : State) : Event → Option State
  | .sendMessage handler message =>
    if handler ∈ s.destroyed then none else s.sendMessage handler message
  | .destroy handler => if handler ∈ s.destroyed then none else some (s.destroy handler)
  | .turn => some s.turn

end State

/-- The handlers of one looper. -/
def system : System State Event where
  next := State.next

/-- A new looper; the loop has begun. -/
def start : State := ⟨false, [], .testing, [], []⟩

/-! ### What the destruction should leave alone -/

/-- The event is not the destruction of this handler. -/
def spares (handler : Nat) : Event → Bool
  | .destroy other => other ≠ handler
  | _ => true

/-- The run without the destruction of the handler. -/
def without (handler : Nat) (events : List Event) : List Event := events.filter (spares handler)

/-- The messages for the other handlers. -/
def others (handler : Nat) (messages : List XMessage) : List XMessage :=
  messages.filter fun message => message.target ≠ some handler

/-- The messages dispatched to the others. -/
def toOthers (handler : Nat) (s : State) : List XMessage :=
  others handler (s.dispatched.map Dispatch.message)

/-- **What should hold of a run**: every destruction in it leaves the others what they would have been
given without it, and no message goes to a handler that is gone. -/
structure Independent (events : List Event) : Prop where
  others : ∀ handler s s', system.run start events = some s →
    system.run start (without handler events) = some s' → toOthers handler s = toOthers handler s'
  alive : ∀ s, system.run start events = some s → ∀ d ∈ s.dispatched, d.alive = true

/-- The message that the loop dispatches next whatever `quit` does: it has popped it, or stands
before it in `pop`. -/
def State.coming (s : State) : List XMessage :=
  match s.loop with
  | .holding message => [message]
  | .taking => s.queue.take 1
  | _ => []

/-- The messages behind that one. -/
def State.behind (s : State) : List XMessage :=
  match s.loop with
  | .taking => s.queue.drop 1
  | _ => s.queue

/-- **The condition on an event.** The message that is coming is not for the handler that is
destroyed; when that is the first one, the messages behind are for it only; and from then on nothing
is sent until another is destroyed. -/
def Harmless (s : State) : Event → Prop
  | .sendMessage _ _ => s.destroyed.length ≠ 1
  | .destroy handler =>
    (∀ message ∈ s.coming, message.target ≠ some handler) ∧
      (s.destroyed = [] → ∀ message ∈ s.behind, message.target = some handler)
  | .turn => True

instance (s : State) : (e : Event) → Decidable (Harmless s e)
  | .sendMessage _ _ => inferInstanceAs (Decidable (s.destroyed.length ≠ 1))
  | .destroy handler => inferInstanceAs (Decidable
      ((∀ message ∈ s.coming, message.target ≠ some handler) ∧
        (s.destroyed = [] → ∀ message ∈ s.behind, message.target = some handler)))
  | .turn => isTrue trivial

/-! ### What an event can do -/

variable {s s' t : State} {e : Event}

/-- **The events**, one constructor for each outcome. -/
inductive Steps (s : State) : Event → State → Prop
  | dropped {handler message} (living : handler ∉ s.destroyed) (isSet : s.isQuit = true) :
      Steps s (.sendMessage handler message) s
  | queued {handler message} (living : handler ∉ s.destroyed) (clear : s.isQuit = false)
      (room : s.queue.length < XLooper.capacity) :
      Steps s (.sendMessage handler message)
        { s with queue := s.queue ++ [{ message with target := some handler }] }
  | destroy {handler} (living : handler ∉ s.destroyed) : Steps s (.destroy handler)
      (s.destroy handler)
  | turn : Steps s .turn s.turn

theorem steps_of_next (enabled : system.next s e = some t) : Steps s e t := by
  cases e with
  | sendMessage handler message =>
    simp only [system, State.next, State.sendMessage] at enabled
    split_ifs at enabled with gone isSet room
    · cases enabled
      exact .dropped gone isSet
    · cases enabled
      exact .queued gone (by simpa using isSet) room
  | destroy handler =>
    simp only [system, State.next] at enabled
    split_ifs at enabled with gone
    cases enabled
    exact .destroy gone
  | turn =>
    cases enabled
    exact .turn

/-- **The turns of the loop.** -/
inductive Turns (s : State) : State → Prop
  | ends (here : s.loop = .testing) (isSet : s.isQuit = true) : Turns s { s with loop := .ended }
  | goesOn (here : s.loop = .testing) (clear : s.isQuit = false) :
      Turns s { s with loop := .popping }
  | refused (here : s.loop = .popping) (isSet : s.isQuit = true) :
      Turns s { s with loop := .testing }
  | waits (here : s.loop = .popping) (clear : s.isQuit = false) (nothing : s.queue = []) : Turns s s
  | readies (here : s.loop = .popping) (clear : s.isQuit = false) (stored : s.queue ≠ []) :
      Turns s { s with loop := .taking }
  | pops {message rest} (here : s.loop = .taking) (front : s.queue = message :: rest) :
      Turns s { s with queue := rest, loop := .holding message }
  | finds (here : s.loop = .taking) (nothing : s.queue = []) : Turns s s
  | skips {message} (here : s.loop = .holding message) (null : message.target = none) :
      Turns s { s with loop := .testing }
  | dispatches {message target} (here : s.loop = .holding message)
      (there : message.target = some target) :
      Turns s { s with
        loop := .testing
        dispatched := s.dispatched ++ [⟨message, decide (target ∉ s.destroyed)⟩] }
  | rests (here : s.loop = .ended) : Turns s s

theorem turns (s : State) : Turns s s.turn := by
  unfold State.turn
  split
  case h_1 here =>
    split_ifs with isSet
    · exact .ends here isSet
    · exact .goesOn here (by simpa using isSet)
  case h_2 here =>
    split_ifs with isSet nothing
    · exact .refused here isSet
    · exact .waits here (by simpa using isSet) nothing
    · exact .readies here (by simpa using isSet) nothing
  case h_3 here =>
    split
    case h_1 nothing => exact .finds here nothing
    case h_2 message rest front => exact .pops here front
  case h_4 message here =>
    split
    case h_1 null => exact .skips here null
    case h_2 target there => exact .dispatches here there
  case h_5 here => exact .rests here

@[simp] theorem turn_isQuit (s : State) : s.turn.isQuit = s.isQuit := by
  generalize after : s.turn = t
  cases after ▸ turns s <;> rfl

@[simp] theorem turn_destroyed (s : State) : s.turn.destroyed = s.destroyed := by
  generalize after : s.turn = t
  cases after ▸ turns s <;> rfl

/-- What is coming and what is behind it, where the loop is. -/
theorem coming_of_holding {message : XMessage} (here : s.loop = .holding message) :
    s.coming = [message] ∧ s.behind = s.queue := by
  simp [State.coming, State.behind, here]

theorem coming_of_taking {message : XMessage} {rest : List XMessage} (here : s.loop = .taking)
    (front : s.queue = message :: rest) : s.coming = [message] ∧ s.behind = rest := by
  simp [State.coming, State.behind, here, front]

theorem coming_of_testing (here : s.loop = .testing) : s.coming = [] ∧ s.behind = s.queue := by
  simp [State.coming, State.behind, here]

theorem coming_of_popping (here : s.loop = .popping) : s.coming = [] ∧ s.behind = s.queue := by
  simp [State.coming, State.behind, here]

theorem coming_of_ended (here : s.loop = .ended) : s.coming = [] ∧ s.behind = s.queue := by
  simp [State.coming, State.behind, here]

/-! ### The invariants -/

/-- **What holds in every run.** -/
structure Sound (s : State) : Prop where
  quits : s.isQuit = true ↔ s.destroyed ≠ []
  ended : s.loop = .ended → s.isQuit = true
  stored : s.loop = .taking → s.queue ≠ []
  targeted : ∀ message ∈ s.coming ++ s.behind, message.target ≠ none

theorem sound_start : Sound start where
  quits := by simp [start]
  ended := by rintro ⟨⟩
  stored := by rintro ⟨⟩
  targeted := by simp [start, State.coming, State.behind]

/-- **A turn makes nothing up**: what is coming and behind then was so before. -/
theorem turn_suffix (s : State) : s.turn.coming ++ s.turn.behind <:+ s.coming ++ s.behind := by
  generalize after : s.turn = t
  cases after ▸ turns s with
  | ends here isSet => simp [State.coming, State.behind, here]
  | goesOn here clear => simp [State.coming, State.behind, here]
  | refused here isSet => simp [State.coming, State.behind, here]
  | waits here clear nothing => exact List.suffix_rfl
  | readies here clear stored =>
    show s.queue.take 1 ++ s.queue.drop 1 <:+ s.coming ++ s.behind
    rw [List.take_append_drop, (coming_of_popping here).1, (coming_of_popping here).2]
    exact List.suffix_rfl
  | pops here front => simp [State.coming, State.behind, here, front]
  | finds here nothing => exact List.suffix_rfl
  | skips here null => simp [State.coming, State.behind, here]
  | dispatches here there => simp [State.coming, State.behind, here]
  | rests here => exact List.suffix_rfl

/-- What is behind after a turn was behind before. -/
theorem mem_of_mem_turn {message : XMessage} (member : message ∈ s.turn.behind) :
    message ∈ s.behind := by
  generalize after : s.turn = t at member
  cases after ▸ turns s with
  | readies here clear stored =>
    rw [(coming_of_popping here).2]
    exact List.mem_of_mem_drop member
  | pops here front =>
    rw [(coming_of_taking here front).2]
    exact member
  | ends here | goesOn here | refused here | skips here | dispatches here =>
    simpa [State.behind, here] using member
  | waits | finds | rests => exact member

theorem Sound.turn (sound : Sound s) : Sound s.turn := by
  have suffix := turn_suffix s
  refine ⟨by rw [turn_isQuit, turn_destroyed, sound.quits], ?_, ?_,
    fun message member => sound.targeted message (suffix.subset member)⟩
  · rw [turn_isQuit]
    generalize after : s.turn = t
    cases after ▸ turns s with
    | ends here isSet => exact fun _ => isSet
    | waits | finds | rests => exact sound.ended
    | _ => rintro ⟨⟩
  · generalize after : s.turn = t
    cases after ▸ turns s with
    | readies here clear stored => exact fun _ => stored
    | waits | finds | rests => exact sound.stored
    | _ => rintro ⟨⟩

/-- **A send goes behind.** -/
theorem Sound.push (sound : Sound s) (message : XMessage) :
    ({ s with queue := s.queue ++ [message] } : State).coming = s.coming ∧
      ({ s with queue := s.queue ++ [message] } : State).behind = s.behind ++ [message] := by
  cases here : s.loop with
  | taking =>
    obtain ⟨front, rest, queue⟩ := List.exists_cons_of_ne_nil (sound.stored here)
    simp [State.coming, State.behind, here, queue]
  | _ => simp [State.coming, State.behind, here]

theorem Sound.step (sound : Sound s) (step : Steps s e t) : Sound t := by
  cases step with
  | dropped living isSet => exact sound
  | queued living clear room =>
    refine ⟨sound.quits, sound.ended, fun _ => by simp, fun message member => ?_⟩
    rw [(sound.push _).1, (sound.push _).2, ← List.append_assoc] at member
    rcases List.mem_append.mp member with old | new
    · exact sound.targeted message old
    · cases List.mem_singleton.mp new
      rintro ⟨⟩
  | destroy living => exact ⟨by simp [State.destroy], fun _ => rfl, sound.stored, sound.targeted⟩
  | turn => exact sound.turn

/-- **What holds in the runs of harmless events**: the message that is coming is for a living
handler. -/
structure Living (s : State) : Prop where
  coming : ∀ message ∈ s.coming, ∀ handler, message.target = some handler →
    handler ∉ s.destroyed
  alive : ∀ d ∈ s.dispatched, d.alive = true

theorem living_start : Living start := ⟨by rintro _ ⟨⟩, by rintro _ ⟨⟩⟩

theorem Living.turn (living : Living s) (sound : Sound s) : Living s.turn := by
  generalize after : s.turn = t
  cases after ▸ turns s with
  | readies here clear stored =>
    -- nobody is destroyed while `isQuit` is clear
    have none : s.destroyed = [] := by
      by_contra gone
      rw [sound.quits.mpr gone] at clear
      cases clear
    refine ⟨fun _ _ handler _ => ?_, living.alive⟩
    simp [none]
  | pops here front =>
    refine ⟨fun message held => living.coming message ?_, living.alive⟩
    rw [(coming_of_taking here front).1]
    exact held
  | @dispatches message target here there =>
    refine ⟨by rintro _ ⟨⟩, fun d member => ?_⟩
    rcases List.mem_append.mp member with old | new
    · exact living.alive d old
    · cases List.mem_singleton.mp new
      have held : message ∈ s.coming := by simp [(coming_of_holding here).1]
      simpa using living.coming message held target there
  | waits | finds | rests => exact living
  | _ => exact ⟨by rintro _ ⟨⟩, living.alive⟩

theorem Living.step (living : Living s) (sound : Sound s) (harmless : Harmless s e)
    (step : Steps s e t) : Living t := by
  cases step with
  | dropped _ isSet => exact living
  | queued _ clear room =>
    refine ⟨?_, living.alive⟩
    rw [(sound.push _).1]
    exact living.coming
  | @destroy handler _ =>
    refine ⟨fun message held target there => ?_, living.alive⟩
    refine List.not_mem_cons_of_ne_of_not_mem ?_ (living.coming message held target there)
    rintro rfl
    exact harmless.1 message held there
  | turn => exact living.turn sound

/-! ### A run, and the run without a destruction -/

variable {handler : Nat}

theorem others_append (handler : Nat) (left right : List XMessage) :
    others handler (left ++ right) = others handler left ++ others handler right :=
  List.filter_append ..

theorem others_nil (handler : Nat) : others handler [] = [] := rfl

theorem others_own {messages : List XMessage}
    (own : ∀ message ∈ messages, message.target = some handler) : others handler messages = [] := by
  rw [others, List.filter_eq_nil_iff]
  intro message member
  simp [own message member]

/-- A dispatch hands on the message that was coming. -/
theorem toOthers_dispatch {message : XMessage} {alive : Bool} (s : State) (loop : Loop) :
    toOthers handler { s with loop := loop, dispatched := s.dispatched ++ [⟨message, alive⟩] } =
      toOthers handler s ++ others handler [message] := by
  simp [toOthers, others]

/-- **A turn of a loop that has nothing coming and nothing behind for the others** hands them nothing. -/
theorem turn_quiet (quiet : s.isQuit = true ∨ ∀ message ∈ s.behind, message.target = some handler)
    (nothing : others handler s.coming = []) :
    toOthers handler s.turn = toOthers handler s ∧ others handler s.turn.coming = [] := by
  generalize after : s.turn = t
  cases after ▸ turns s with
  | readies here clear stored =>
    refine ⟨rfl, others_own fun message held => ?_⟩
    have own := quiet.resolve_left (by simp [clear])
    rw [(coming_of_popping here).2] at own
    exact own message (List.mem_of_mem_take held)
  | pops here front =>
    rw [(coming_of_taking here front).1] at nothing
    exact ⟨rfl, nothing⟩
  | dispatches here there =>
    rw [(coming_of_holding here).1] at nothing
    exact ⟨(toOthers_dispatch s _).trans (by rw [nothing, List.append_nil]), rfl⟩
  | waits | finds | rests => exact ⟨rfl, nothing⟩
  | _ => exact ⟨rfl, rfl⟩

/-- **Two loops at the same message**: what is coming in one is coming in the other. -/
structure Together (s s' : State) : Prop where
  loop : s'.loop = s.loop
  coming : s'.coming = s.coming

/-- A turn of two loops at the same message hands on the same, and leaves them at the same message or
at none for the others. -/
theorem Together.turn (together : Together s s') (sound : Sound s) (sound' : Sound s')
    (busy : s.coming ≠ []) :
    (toOthers handler s = toOthers handler s' →
        toOthers handler s.turn = toOthers handler s'.turn) ∧
      (Together s.turn s'.turn ∨ s.turn.coming = [] ∧ s'.turn.coming = []) := by
  have same := together.coming
  cases here : s.loop with
  | taking =>
    have here' := together.loop.trans here
    obtain ⟨message, rest, front⟩ := List.exists_cons_of_ne_nil (sound.stored here)
    obtain ⟨message', rest', front'⟩ := List.exists_cons_of_ne_nil (sound'.stored here')
    rw [(coming_of_taking here front).1, (coming_of_taking here' front').1] at same
    obtain rfl : message' = message := (List.cons.inj same).1
    have turned : s.turn = { s with queue := rest, loop := .holding message' } := by
      simp only [State.turn, here, front]
    have turned' : s'.turn = { s' with queue := rest', loop := .holding message' } := by
      simp only [State.turn, here', front']
    rw [turned, turned']
    exact ⟨id, Or.inl ⟨rfl, rfl⟩⟩
  | holding message =>
    have here' := together.loop.trans here
    have there : message.target ≠ none :=
      sound.targeted message (by simp [(coming_of_holding here).1])
    obtain ⟨target, target_eq⟩ := Option.ne_none_iff_exists'.mp there
    have turned : s.turn = { s with
        loop := .testing
        dispatched := s.dispatched ++ [⟨message, decide (target ∉ s.destroyed)⟩] } := by
      simp only [State.turn, here, target_eq]
    have turned' : s'.turn = { s' with
        loop := .testing
        dispatched := s'.dispatched ++ [⟨message, decide (target ∉ s'.destroyed)⟩] } := by
      simp only [State.turn, here', target_eq]
    rw [turned, turned', toOthers_dispatch, toOthers_dispatch]
    exact ⟨congrArg (· ++ _), Or.inr ⟨rfl, rfl⟩⟩
  | testing => exact absurd (coming_of_testing here).1 busy
  | popping => exact absurd (coming_of_popping here).1 busy
  | ended => exact absurd (coming_of_ended here).1 busy

/-- **A state after the destruction, and one of the run without it.** -/
structure Apart (handler : Nat) (s s' : State) : Prop where
  isQuit : s.isQuit = true
  destroyed : s'.destroyed = s.destroyed.erase handler
  quiet : s'.isQuit = true ∨ ∀ message ∈ s'.behind, message.target = some handler
  coming : Together s s' ∨ others handler s.coming = [] ∧ others handler s'.coming = []
  dispatched : toOthers handler s = toOthers handler s'

/-- The states of both runs. -/
structure Related (handler : Nat) (s s' : State) : Prop where
  sound : Sound s
  sound' : Sound s'
  related : handler ∉ s.destroyed ∧ s' = s ∨ handler ∈ s.destroyed ∧ Apart handler s s'

theorem Apart.absent (apart : Apart handler s s') {other : Nat} (living : other ∉ s.destroyed) :
    other ∉ s'.destroyed := by
  rw [apart.destroyed]
  exact fun member => living (List.mem_of_mem_erase member)

/-- The loops hold the same for the others. -/
theorem Apart.others_coming (apart : Apart handler s s') :
    others handler s.coming = others handler s'.coming := by
  rcases apart.coming with together | ⟨nothing, nothing'⟩
  · rw [together.coming]
  · rw [nothing, nothing']

theorem Apart.turn (apart : Apart handler s s') (sound : Sound s) (sound' : Sound s') :
    Apart handler s.turn s'.turn := by
  have isQuit : s.turn.isQuit = true := (turn_isQuit s).trans apart.isQuit
  have destroyed : s'.turn.destroyed = s.turn.destroyed.erase handler := by
    rw [turn_destroyed, turn_destroyed, apart.destroyed]
  have quiet : s'.turn.isQuit = true ∨
      ∀ message ∈ s'.turn.behind, message.target = some handler := by
    rw [turn_isQuit]
    exact apart.quiet.imp id fun own message member => own message (mem_of_mem_turn member)
  by_cases busy : Together s s' ∧ s.coming ≠ []
  · obtain ⟨handed, after⟩ : (toOthers handler s = toOthers handler s' →
        toOthers handler s.turn = toOthers handler s'.turn) ∧
          (Together s.turn s'.turn ∨ s.turn.coming = [] ∧ s'.turn.coming = []) :=
      busy.1.turn sound sound' busy.2
    refine ⟨isQuit, destroyed, quiet, after.imp id ?_, handed apart.dispatched⟩
    rintro ⟨nothing, nothing'⟩
    rw [nothing, nothing']
    exact ⟨rfl, rfl⟩
  · have idle : others handler s.coming = [] ∧ others handler s'.coming = [] := by
      rcases apart.coming with together | nothing
      · have none : s.coming = [] := not_not.mp fun some => busy ⟨together, some⟩
        rw [together.coming, none]
        exact ⟨rfl, rfl⟩
      · exact nothing
    obtain ⟨same, after⟩ := turn_quiet (Or.inl apart.isQuit) idle.1
    obtain ⟨same', after'⟩ := turn_quiet apart.quiet idle.2
    exact ⟨isQuit, destroyed, quiet, Or.inr ⟨after, after'⟩,
      same.trans (apart.dispatched.trans same'.symm)⟩

/-- An event other than the destruction happens in both runs. -/
theorem Related.both (related : Related handler s s') (harmless : Harmless s e)
    (spared : spares handler e = true) (enabled : system.next s e = some t) :
    ∃ t', system.next s' e = some t' ∧ Related handler t t' := by
  have step := steps_of_next enabled
  have sound := related.sound.step step
  rcases related.related with ⟨living, rfl⟩ | ⟨gone, apart⟩
  · refine ⟨t, enabled, sound, sound, Or.inl ⟨?_, rfl⟩⟩
    cases step with
    | destroy other =>
      refine List.not_mem_cons_of_ne_of_not_mem ?_ living
      rintro rfl
      simp [spares] at spared
    | turn => exact turn_destroyed s' ▸ living
    | _ => exact living
  · cases step with
    | @dropped sender message living isSet =>
      have absent := apart.absent living
      have several : s'.destroyed ≠ [] := by
        intro none
        have length := List.length_erase_of_mem gone
        rw [← apart.destroyed, none] at length
        have some := List.length_pos_of_mem gone
        exact harmless (by simp at length; omega)
      refine ⟨s', ?_, sound, related.sound', Or.inr ⟨gone, apart⟩⟩
      simp [system, State.next, State.sendMessage, absent, related.sound'.quits.mpr several]
    | queued living clear room =>
      rw [apart.isQuit] at clear
      cases clear
    | @destroy other living =>
      have absent := apart.absent living
      have enabled' : system.next s' (.destroy other) = some (s'.destroy other) := by
        simp [system, State.next, absent]
      refine ⟨s'.destroy other, enabled', sound, related.sound'.step (steps_of_next enabled'),
        Or.inr ⟨List.mem_cons_of_mem _ gone, ?_⟩⟩
      refine ⟨rfl, ?_, Or.inl rfl, ?_, apart.dispatched⟩
      · have differ : ¬other = handler := by simpa [spares] using spared
        simp [State.destroy, apart.destroyed, differ]
      · exact apart.coming.imp (fun together => ⟨together.loop, together.coming⟩) id
    | turn => exact ⟨s'.turn, rfl, sound, related.sound'.turn, Or.inr ⟨turn_destroyed s ▸ gone,
        apart.turn related.sound related.sound'⟩⟩

/-- The destruction happens in the first run only. -/
theorem Related.alone (related : Related handler s s') (harmless : Harmless s e)
    (spared : spares handler e = false) (enabled : system.next s e = some t) :
    Related handler t s' := by
  have step := steps_of_next enabled
  refine ⟨related.sound.step step, related.sound', Or.inr ?_⟩
  cases step with
  | @destroy other living =>
    have same : other = handler := by simpa [spares] using spared
    subst same
    rcases related.related with ⟨-, rfl⟩ | ⟨gone, -⟩
    · refine ⟨List.mem_cons_self, rfl, by simp [State.destroy], ?_, Or.inl ⟨rfl, rfl⟩, rfl⟩
      by_cases first : s'.destroyed = []
      · exact Or.inr (harmless.2 first)
      · exact Or.inl (related.sound.quits.mpr first)
    · exact absurd gone living
  | _ => cases spared

/-- **The two runs side by side.** -/
theorem related_run {events : List Event} (handler : Nat)
    (guarded : system.Guarded Harmless start events) (run : system.run start events = some s) :
    ∃ s', system.run start (without handler events) = some s' ∧ Related handler s s' :=
  System.run_erase (spares handler)
    (fun _ _ _ _ related harmless spared enabled => related.both harmless spared enabled)
    (fun _ _ _ _ related harmless spared enabled => related.alone harmless spared enabled)
    guarded run ⟨sound_start, sound_start, Or.inl ⟨by rintro ⟨⟩, rfl⟩⟩

theorem Related.toOthers_eq (related : Related handler s s') :
    toOthers handler s = toOthers handler s' := by
  rcases related.related with ⟨-, rfl⟩ | ⟨-, apart⟩
  · rfl
  · exact apart.dispatched

/-- **In a run of harmless events the destructions change nothing for the others.** -/
theorem independent_of_harmless {events : List Event}
    (guarded : system.Guarded Harmless start events) : Independent events where
  others handler s s' run run' := by
    obtain ⟨t, run'', related⟩ := related_run handler guarded run
    cases run'.symm.trans run''
    exact related.toOthers_eq
  alive s run := by
    have kept : Sound s ∧ Living s := System.invariant_guarded
      (I := fun s => Sound s ∧ Living s)
      (fun _ _ _ inv harmless enabled => ⟨inv.1.step (steps_of_next enabled),
        inv.2.step inv.1 harmless (steps_of_next enabled)⟩)
      guarded run ⟨sound_start, living_start⟩
    exact kept.2.alive

/-! ### The turns of a loop that is not quit -/

/-- The state after some turns. -/
theorem run_turns (s : State) (n : Nat) :
    system.run s (List.replicate n .turn) = some (State.turn^[n] s) := by
  induction n generalizing s with
  | zero => rfl
  | succ n ih => exact ih s.turn

/-- The turns until the loop has dispatched all there is. -/
def turnsLeft (s : State) : Nat :=
  match s.loop with
  | .testing => 4 * s.queue.length + 1
  | .popping => 4 * s.queue.length
  | .taking => 4 * s.queue.length - 1
  | .holding _ => 4 * s.queue.length + 2
  | .ended => 0

/-- What the others were given, and have coming. -/
def line (handler : Nat) (s : State) : List XMessage :=
  toOthers handler s ++ others handler s.coming ++ others handler s.behind

/-- **A turn of a loop that is not quit moves a message along.** -/
theorem turn_open (handler : Nat) (sound : Sound s) (clear : s.isQuit = false) :
    line handler s.turn = line handler s ∧ turnsLeft s.turn = turnsLeft s - 1 := by
  have targeted := sound.targeted
  generalize after : s.turn = t
  cases after ▸ turns s with
  | ends here isSet =>
    rw [clear] at isSet
    cases isSet
  | goesOn here => simp [line, toOthers, turnsLeft, here, State.coming, State.behind]
  | refused here isSet =>
    rw [clear] at isSet
    cases isSet
  | waits here clear nothing => simp [turnsLeft, here, nothing]
  | readies here clear stored =>
    obtain ⟨message, rest, front⟩ := List.exists_cons_of_ne_nil stored
    simp [line, toOthers, turnsLeft, here, State.coming, State.behind, front, ← others_append]
  | pops here front =>
    refine ⟨?_, ?_⟩
    · simp [line, toOthers, here, front, State.coming, State.behind]
    · simp only [turnsLeft, here, front, List.length_cons]
      omega
  | finds here nothing => exact absurd nothing (sound.stored here)
  | @skips message here null =>
    exact absurd null (targeted message (by simp [(coming_of_holding here).1]))
  | dispatches here there =>
    refine ⟨?_, ?_⟩
    · rw [line, line, toOthers_dispatch, (coming_of_holding here).1, (coming_of_holding here).2]
      simp [State.coming, State.behind, others_nil]
    · simp only [turnsLeft, here]
      omega
  | rests here =>
    rw [sound.ended here] at clear
    cases clear

theorem turns_open (handler : Nat) (sound : Sound s) (clear : s.isQuit = false) (n : Nat) :
    Sound (State.turn^[n] s) ∧ (State.turn^[n] s).isQuit = false ∧
      line handler (State.turn^[n] s) = line handler s ∧
      turnsLeft (State.turn^[n] s) = turnsLeft s - n := by
  induction n generalizing s with
  | zero => exact ⟨sound, clear, rfl, rfl⟩
  | succ n ih =>
    obtain ⟨line', left⟩ := turn_open handler sound clear
    obtain ⟨sound'', clear'', line'', left''⟩ := ih sound.turn (by rw [turn_isQuit, clear])
    refine ⟨sound'', clear'', line''.trans line', ?_⟩
    rw [Function.iterate_succ_apply, left'', left, Nat.sub_sub, Nat.add_comm]

/-- **Enough turns of a loop that is not quit dispatch all there is**, and leave it at `pop`. -/
theorem turns_drain (handler : Nat) (sound : Sound s) (clear : s.isQuit = false) {n : Nat}
    (enough : turnsLeft s ≤ n) :
    toOthers handler (State.turn^[n] s) = line handler s ∧ (State.turn^[n] s).queue = [] ∧
      (State.turn^[n] s).loop = .popping := by
  obtain ⟨sound', clear', same, left⟩ := turns_open handler sound clear n
  rw [Nat.sub_eq_zero_of_le enough] at left
  rw [← same]
  generalize State.turn^[n] s = t at sound' clear' left
  cases here : t.loop with
  | popping =>
    simp only [turnsLeft, here] at left
    have nothing : t.queue = [] := List.eq_nil_of_length_eq_zero (by omega)
    simp [line, (coming_of_popping here).1, (coming_of_popping here).2, nothing, others_nil]
  | taking =>
    have stored := List.length_pos_of_ne_nil (sound'.stored here)
    simp only [turnsLeft, here] at left
    omega
  | testing => simp [turnsLeft, here] at left
  | holding message => simp [turnsLeft, here] at left
  | ended =>
    rw [sound'.ended here] at clear'
    cases clear'

/-- A turn of a loop that was quit hands on what was coming, and nothing more. -/
theorem turn_quit (handler : Nat) (sound : Sound s) (isSet : s.isQuit = true) :
    toOthers handler s.turn ++ others handler s.turn.coming =
      toOthers handler s ++ others handler s.coming := by
  have targeted := sound.targeted
  generalize after : s.turn = t
  cases after ▸ turns s with
  | goesOn here clear =>
    rw [isSet] at clear
    cases clear
  | readies here clear stored =>
    rw [isSet] at clear
    cases clear
  | pops here front =>
    rw [(coming_of_taking here front).1]
    rfl
  | @skips message here null =>
    exact absurd null (targeted message (by simp [(coming_of_holding here).1]))
  | dispatches here there =>
    rw [toOthers_dispatch, (coming_of_holding here).1]
    exact List.append_nil _
  | ends here =>
    rw [(coming_of_testing here).1]
    rfl
  | refused here =>
    rw [(coming_of_popping here).1]
    rfl
  | waits | finds | rests => rfl

/-- **A loop that was quit** gives the others no more than what was coming for them. -/
theorem turns_quit (handler : Nat) (sound : Sound s) (isSet : s.isQuit = true) (n : Nat) :
    toOthers handler (State.turn^[n] s) ++ others handler (State.turn^[n] s).coming =
      toOthers handler s ++ others handler s.coming := by
  induction n generalizing s with
  | zero => rfl
  | succ n ih =>
    rw [Function.iterate_succ_apply, ih sound.turn (by rw [turn_isQuit, isSet]),
      turn_quit handler sound isSet]

/-! ### Every other event does harm -/

/-- The turns of the loop are in both runs. -/
theorem without_turns (handler n : Nat) :
    without handler (List.replicate n .turn) = List.replicate n .turn := by
  simp [without, spares]

theorem without_append (handler : Nat) (left right : List Event) :
    without handler (left ++ right) = without handler left ++ without handler right :=
  List.filter_append ..

theorem without_spared {handler : Nat} {e : Event} (spared : spares handler e = true)
    (events : List Event) : without handler (e :: events) = e :: without handler events :=
  List.filter_cons_of_pos spared

theorem without_destroy (handler : Nat) (events : List Event) :
    without handler (.destroy handler :: events) = without handler events :=
  List.filter_cons_of_neg (by simp [spares])

/-- The turns leave the handlers that are gone, and `isQuit`. -/
theorem turns_frame (s : State) (n : Nat) :
    (State.turn^[n] s).destroyed = s.destroyed ∧ (State.turn^[n] s).isQuit = s.isQuit := by
  induction n generalizing s with
  | zero => exact ⟨rfl, rfl⟩
  | succ n ih =>
    rw [Function.iterate_succ_apply, ← turn_destroyed s, ← turn_isQuit s]
    exact ih s.turn

/-- **A lost message**: the run gives the others less than the one without the destruction. -/
theorem not_independent_of_lost {events : List Event} (run : system.run start events = some s)
    (run' : system.run start (without handler events) = some s')
    (less : (toOthers handler s).length < (toOthers handler s').length) : ¬Independent events := by
  intro independent
  rw [independent.others handler s s' run run'] at less
  exact Nat.lt_irrefl _ less

/-- The run with some turns before an event, and some after it. -/
def around (events : List Event) (n : Nat) (e : Event) (m : Nat) : List Event :=
  events ++ (List.replicate n .turn ++ e :: List.replicate m .turn)

theorem run_around {events : List Event} {e : Event} {n m : Nat}
    (run : system.run start events = some s)
    (enabled : system.next (State.turn^[n] s) e = some t) :
    system.run start (around events n e m) = some (State.turn^[m] t) := by
  rw [around, System.run_append, run, Option.bind_some, System.run_append, run_turns,
    Option.bind_some, System.run_cons, enabled, Option.bind_some, run_turns]

theorem without_around (handler : Nat) (events : List Event) (n : Nat) (e : Event) (m : Nat)
    (spared : spares handler e = true) :
    without handler (around events n e m) = around (without handler events) n e m := by
  rw [around, without_append, without_append, without_spared spared, without_turns, without_turns,
    around]

section Harm

variable {events : List Event} (guarded : system.Guarded Harmless start events)
  (run : system.run start events = some s)
include guarded run

/-- The destruction of a handler for which a message is coming. -/
theorem destroy_coming (living : handler ∉ s.destroyed) {message : XMessage}
    (held : message ∈ s.coming) (target : message.target = some handler) :
    ∃ m, ¬Independent (around events 0 (.destroy handler) m) := by
  have enabled : system.next (State.turn^[0] s) (.destroy handler) = some (s.destroy handler) := by
    simp [system, State.next, living]
  cases here : s.loop with
  | holding other =>
    rw [(coming_of_holding here).1] at held
    obtain rfl := List.mem_singleton.mp held
    refine ⟨1, fun independent => ?_⟩
    have dead := independent.alive _ (run_around run enabled) ⟨message, false⟩
    simp [State.turn, State.destroy, here, target] at dead
  | taking =>
    cases front : s.queue with
    | nil => simp [State.coming, here, front] at held
    | cons first rest =>
      rw [(coming_of_taking here front).1] at held
      obtain rfl := List.mem_singleton.mp held
      refine ⟨2, fun independent => ?_⟩
      have dead := independent.alive _ (run_around run enabled) ⟨message, false⟩
      simp [State.turn, State.destroy, here, front, target] at dead
  | _ => simp [State.coming, here] at held

/-- The first destruction while a message for another handler is behind. -/
theorem destroy_queued (living : handler ∉ s.destroyed) (first : s.destroyed = [])
    {message : XMessage} (queued : message ∈ s.behind) (target : message.target ≠ some handler) :
    ¬Independent (around events 0 (.destroy handler) (turnsLeft s)) := by
  obtain ⟨s', run', related⟩ := related_run handler guarded run
  have same : s' = s := by
    rcases related.related with ⟨-, same⟩ | ⟨gone, -⟩
    · exact same
    · exact absurd gone living
  subst same
  have clear : s'.isQuit = false := by simpa [first] using related.sound.quits
  have enabled : system.next (State.turn^[0] s') (.destroy handler) = some (s'.destroy handler) := by
    simp [system, State.next, living]
  have spared : system.run start (without handler (around events 0 (.destroy handler)
      (turnsLeft s'))) = some (State.turn^[turnsLeft s'] s') := by
    rw [around, without_append, without_append, without_destroy, without_turns, without_turns,
      System.run_append, run', Option.bind_some]
    exact run_turns s' (turnsLeft s')
  refine not_independent_of_lost (run_around run enabled) spared ?_
  have sound := related.sound.step (steps_of_next enabled)
  have most := congrArg List.length (turns_quit handler sound rfl (turnsLeft s'))
  have waiting : 0 < (others handler s'.behind).length :=
    List.length_pos_of_mem (List.mem_filter.mpr ⟨queued, by simpa using target⟩)
  rw [(turns_drain handler related.sound clear (Nat.le_refl _)).1]
  simp only [line, List.length_append] at most ⊢
  have unchanged : (s'.destroy handler).coming = s'.coming ∧
      toOthers handler (s'.destroy handler) = toOthers handler s' := ⟨rfl, rfl⟩
  rw [unchanged.1, unchanged.2] at most
  omega

/-- A send after the first destruction and before the second. -/
theorem send_dropped {sender : Nat} {message : XMessage} (living : sender ∉ s.destroyed)
    (one : s.destroyed.length = 1) :
    ∃ n m, ¬Independent (around events n (.sendMessage sender message) m) := by
  obtain ⟨gone, only⟩ := List.length_eq_one_iff.mp one
  obtain ⟨s', run', related⟩ := related_run gone guarded run
  have apart : Apart gone s s' := by
    rcases related.related with ⟨living, -⟩ | ⟨-, apart⟩
    · exact absurd (by simp [only]) living
    · exact apart
  have none : s'.destroyed = [] := by simp [apart.destroyed, only]
  have clear : s'.isQuit = false := by simpa [none] using related.sound'.quits
  -- the loop of the second run first hands out what there is
  obtain ⟨sound', clear', line', -⟩ :=
    turns_open gone related.sound' clear (turnsLeft s')
  obtain ⟨-, nothing, popping⟩ := turns_drain gone related.sound' clear (Nat.le_refl _)
  have frame := turns_frame s (turnsLeft s')
  have frame' := turns_frame s' (turnsLeft s')
  generalize last : State.turn^[turnsLeft s'] s' = u' at sound' clear' line' nothing frame'
  rw [last] at popping
  have other : sender ≠ gone := by
    rintro rfl
    exact living (by simp [only])
  have dropped : system.next (State.turn^[turnsLeft s'] s) (.sendMessage sender message) =
      some (State.turn^[turnsLeft s'] s) := by
    simp [system, State.next, State.sendMessage, frame.1, frame.2, living, apart.isQuit]
  have accepted : system.next u' (.sendMessage sender message) =
      some { u' with queue := [{ message with target := some sender }] } := by
    simp [system, State.next, State.sendMessage, frame'.1, none, clear', nothing, XLooper.capacity]
  have sound'' := sound'.step (steps_of_next accepted)
  generalize after : ({ u' with queue := [{ message with target := some sender }] } : State) = v'
    at accepted sound''
  have open' : v'.isQuit = false := by rw [← after, clear']
  refine ⟨turnsLeft s', turnsLeft v', ?_⟩
  have run'' : system.run start (without gone (around events (turnsLeft s')
      (.sendMessage sender message) (turnsLeft v'))) = some (State.turn^[turnsLeft v'] v') := by
    rw [without_around gone events _ _ _ rfl]
    exact run_around run' (last ▸ accepted)
  refine not_independent_of_lost (run_around run dropped) run'' ?_
  rw [(turns_drain gone sound'' open' (Nat.le_refl _)).1]
  have given : line gone v' = line gone u' ++ [{ message with target := some sender }] := by
    simp [← after, line, toOthers, nothing, others, other, State.coming, State.behind, popping]
  have most := congrArg List.length (turns_quit gone related.sound apart.isQuit
    (turnsLeft s' + turnsLeft v'))
  rw [Nat.add_comm, Function.iterate_add_apply, apart.dispatched, apart.others_coming] at most
  rw [given, line', line]
  simp only [List.length_append, List.length_singleton] at most ⊢
  omega

/-- **Each event that is not harmless leads to a run that is not independent.** -/
theorem harm {e : Event} (enabled : system.next s e = some t) (harmful : ¬Harmless s e) :
    ∃ n m, ¬Independent (around events n e m) := by
  cases steps_of_next enabled with
  | dropped living isSet => exact send_dropped guarded run living (not_not.mp harmful)
  | queued living clear room => exact send_dropped guarded run living (not_not.mp harmful)
  | @destroy handler living =>
    by_cases held : ∃ message ∈ s.coming, message.target = some handler
    · obtain ⟨message, held, target⟩ := held
      exact ⟨0, destroy_coming guarded run living held target⟩
    · have waiting : s.destroyed = [] ∧ ∃ message ∈ s.behind, message.target ≠ some handler := by
        by_contra none
        refine harmful ⟨fun message inside target => held ⟨message, inside, target⟩,
          fun first message inside => ?_⟩
        by_contra target
        exact none ⟨first, message, inside, target⟩
      obtain ⟨first, message, queued, target⟩ := waiting
      exact ⟨0, turnsLeft s, destroy_queued guarded run living first queued target⟩
  | turn => exact absurd trivial harmful

end Harm

/-! ### The main result -/

/-- **What holds of a run of handlers that share a looper.** -/
structure IndependentUnlessHarmed (events : List Event) : Prop where
  /-- When all its events are harmless the destructions change nothing for the other handlers, and no
  message goes to a handler that is gone. -/
  independent : system.Guarded Harmless start events → Independent events
  /-- When the next event is the first that is not, then with turns of the loop before and after it
  one of the two fails. -/
  harmed : ∀ s e t, system.Guarded Harmless start events → system.run start events = some s →
    system.next s e = some t → ¬Harmless s e → ∃ n m, ¬Independent (around events n e m)

/-- **Handlers on one looper are independent exactly while no event does harm.** -/
theorem handlers_independent_unless_harmed (events : List Event) :
    IndependentUnlessHarmed events where
  independent guarded := independent_of_harmless guarded
  harmed _ _ _ guarded run enabled harmful := harm guarded run enabled harmful

/-- Handler 1 sends, and handler 2 is destroyed before the loop has begun to pop. -/
def quitForAll : List Event := [.sendMessage 1 ⟨1, 2, 3, none⟩, .destroy 2] ++ List.replicate 4 .turn

/-- The handler is destroyed while `pop` stands before its message. -/
def leftBehind : List Event :=
  [.sendMessage 1 ⟨1, 2, 3, none⟩, .turn, .turn, .destroy 1, .turn, .turn]

/-- **The message of a living handler is lost, and that of a destroyed one is dispatched to it.** -/
theorem destructions_harm : ¬Independent quitForAll ∧ ¬Independent leftBehind := by
  constructor
  · intro independent
    have same := independent.others 2 _ _ rfl rfl
    exact absurd same (by decide)
  · intro independent
    have alive := independent.alive _ rfl ⟨⟨1, 2, 3, some 1⟩, false⟩
    exact absurd alive (by decide)

end SharedLooper

end Xplay
