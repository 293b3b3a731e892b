/-
**The audio callback chain: one buffer for every `playCall`, in the order of `update`.**

`Chain` is the invariant of every interleaving without `stop` and `abortRequest` whose buffers fit
the play buffer; a larger one is copied past its end (`tooLarge_breaks`). Its core is what
the location of the OpenSL thread says about the list (`Plays`). The single `if` in front of
`notEmpty` is enough for two reasons: a thread is notified on `notEmpty` only by an `update` that
has appended and still holds the mutex, and no thread but OpenSL's takes a frame away, so the list
is still nonempty when `getData` has the mutex again.

The buffers enqueued, the one `playCall` holds (`inHand`) and the frames in the list are together
the frames appended, in their order.
-/

import Xplay.Audio.AudioPlay
import Mathlib.Tactic.Common

set_option linter.unusedSectionVars false

namespace Xplay.AudioPlay

open Lib Lib.Monitor

variable {Tid : Type} [DecidableEq Tid] {maxFrameBuffer : Nat} {openSL : Tid}

/-- The data has a positive size, and the play buffer holds it. -/
def Playable (data : XData) : Prop := 0 < data.size ∧ data.size ≤ playBuffer

/-- The call in progress has enqueued one buffer, of positive size. -/
def Enqueued (buffers : List Buffer) : Prop := ∃ b, buffers = [b] ∧ 0 < b.size

/-- **What the location of the OpenSL thread says.** -/
def Plays (q : Data) : Status Cond Loc → Prop
  | .waiting cond resume => cond = .notEmpty ∧ resume = .getExit ∧ q.current = []
  | .relocking resume => resume = .getExit ∧ q.frames ≠ [] ∧ q.current = []
  | .running loc =>
    match loc with
    | .openSL | .playExit | .playAbort | .playPause | .pausedExit | .pausedAbort | .pausedSleep
    | .getLock | .getEmpty | .getWait => q.current = []
    | .getExit | .getFront => q.frames ≠ [] ∧ q.current = []
    | .getNotify d | .getUnlock d | .playSize d | .playCopy d => Playable d ∧ q.current = []
    | .playEnqueue d => 0 < d.size ∧ q.buffer = d.resampleData ∧ q.current = []
    | .playCallback _ | .playDrop _ | .playReturn => Enqueued q.current
    | _ => False

/-- **What the location of any other thread says.** -/
def Updates (q : Data) : Status Cond Loc → Prop
  | .waiting cond resume => cond = .notFull ∧ ∃ data, resume = .updatePush data ∧ Playable data
  | .relocking resume => ∃ data, resume = .updatePush data ∧ Playable data
  | .running loc =>
    match loc with
    | .idle | .updateUnlock | .pauseStore _ => True
    | .updateLock data | .updateSize data => data.size ≤ playBuffer
    | .updateFull data | .updateWait data | .updatePush data => Playable data
    | .updateNotify => q.frames ≠ []
    | _ => False

/-- The buffer `playCall` has taken from the list and not enqueued yet. -/
def inHand : Status Cond Loc → List Buffer
  | .running (.getNotify d) | .running (.getUnlock d) | .running (.playSize d)
  | .running (.playCopy d) | .running (.playEnqueue d) => [buffered d]
  | _ => []

/-- Neither flag is set, every frame is playable, and every returned `playCall` enqueued one
buffer. -/
structure Sound (q : Data) : Prop where
  isExit : q.isExit = false
  abortRequest : q.abortRequest = false
  playable : ∀ d ∈ q.frames, Playable d
  appended : ∀ d ∈ q.appended, Playable d
  single : ∀ buffers ∈ q.returned, Enqueued buffers

/-- **The invariant of every undisturbed interleaving.** -/
structure Chain (maxFrameBuffer : Nat) (openSL : Tid) (s : State Tid) : Prop where
  exclusive : (program maxFrameBuffer).Exclusive s
  sound : Sound s.shared
  plays : Plays s.shared (s.thread openSL)
  updates : ∀ t, t ≠ openSL → Updates s.shared (s.thread t)
  order : s.shared.enqueued ++ inHand (s.thread openSL) ++ s.shared.frames.map buffered =
    s.shared.appended.map buffered

theorem chain_start : Chain maxFrameBuffer openSL (start openSL) where
  exclusive := exclusive_start openSL
  sound := ⟨rfl, rfl, List.forall_mem_nil _, List.forall_mem_nil _, List.forall_mem_nil _⟩
  plays := by simp [start, Plays]
  updates t other := by simp [start, if_neg other, Updates]
  order := by simp [start, Data.enqueued, inHand]

/-! ### What another thread's step leaves -/

/-- What `playCall` knows survives an `update`: it only appends. -/
theorem Plays.append {q : Data} {status : Status Cond Loc} (plays : Plays q status)
    (data : XData) :
    Plays { q with frames := q.frames ++ [data], appended := q.appended ++ [data] } status := by
  cases status with
  | waiting cond resume => exact plays
  | relocking resume => exact ⟨plays.1, by simp, plays.2.2⟩
  | running loc =>
    cases loc with
    | getExit => exact ⟨by simp, plays.2⟩
    | getFront => exact ⟨by simp, plays.2⟩
    | _ => exact plays

theorem Updates.append {q : Data} {status : Status Cond Loc} (updates : Updates q status)
    (data : XData) :
    Updates { q with frames := q.frames ++ [data], appended := q.appended ++ [data] } status := by
  cases status with
  | waiting cond resume => exact updates
  | relocking resume => exact updates
  | running loc =>
    cases loc with
    | updateNotify => exact (by simp : q.frames ++ [data] ≠ [])
    | _ => exact updates

/-- What the other threads know does not depend on anything but the frames. -/
theorem Updates.same_frames {q q' : Data} {status : Status Cond Loc} (updates : Updates q status)
    (frames : q'.frames = q.frames) : Updates q' status := by
  cases status with
  | waiting cond resume => exact updates
  | relocking resume => exact updates
  | running loc =>
    cases loc with
    | updateNotify =>
      show q'.frames ≠ []
      rw [frames]
      exact updates
    | _ => exact updates

/-- Without a notification to make, what the other threads know does not depend on the data. -/
theorem Updates.without_notify {q q' : Data} {status : Status Cond Loc}
    (updates : Updates q status) (notThere : status ≠ .running .updateNotify) :
    Updates q' status := by
  cases status with
  | waiting cond resume => exact updates
  | relocking resume => exact updates
  | running loc =>
    cases loc with
    | updateNotify => exact absurd rfl notThere
    | _ => exact updates

/-- A notification of `notEmpty` while a frame is stored. -/
theorem Plays.wake_notEmpty {q : Data} {status : Status Cond Loc} (plays : Plays q status)
    (stored : q.frames ≠ []) : Plays q (wake .notEmpty status) := by
  cases status with
  | waiting cond resume =>
    obtain ⟨rfl, resumes, nothing⟩ := plays
    exact ⟨resumes, stored, nothing⟩
  | _ => exact plays

theorem Plays.pause {q : Data} {status : Status Cond Loc} (plays : Plays q status)
    (pauseRequest : Bool) : Plays { q with pauseRequest := pauseRequest } status := by
  cases status with
  | running loc => cases loc <;> exact plays
  | _ => exact plays

theorem Updates.wake {q : Data} {status : Status Cond Loc} {cond : Cond}
    (updates : Updates q status) : Updates q (Monitor.wake cond status) := by
  cases status with
  | waiting c resume =>
    simp only [Monitor.wake]
    split_ifs
    · exact updates.2
    · exact updates
  | _ => exact updates

/-! ### The OpenSL thread under its own step -/

/-- A step of the OpenSL thread keeps what its location says. -/
theorem Plays.moves {q q' : Data} {σ σ' : Status Cond Loc} {l : Label Tid}
    (moves : (program maxFrameBuffer).Moves q σ l q' σ') (sound : Sound q) (plays : Plays q σ) :
    Plays q' σ' := by
  cases moves with
  | call entry =>
    cases calls_of_entry entry with
    | play => exact plays
    | _ => cases plays
  | relock =>
    obtain ⟨rfl, stored, nothing⟩ := plays
    exact ⟨stored, nothing⟩
  | lock act =>
    cases locks_of_instr act with
    | get => exact plays
    | update => cases plays
  | unlock act =>
    cases unlocks_of_instr act with
    | get => exact plays
    | update => cases plays
  | wait act =>
    cases waits_of_instr act with
    | get => exact ⟨rfl, rfl, plays⟩
    | update => cases plays
  | notifyAll act =>
    cases notifies_of_instr act with
    | get => exact plays
    | _ => cases plays
  | access act =>
    cases access_of_instr act with
    | playExit => rw [sound.isExit]; exact plays
    | playAbort => rw [sound.abortRequest]; exact plays
    | playPause => split_ifs <;> exact plays
    | pausedExit => rw [sound.isExit]; exact plays
    | pausedAbort => rw [sound.abortRequest]; exact plays
    | pausedSleep => exact plays
    | getEmpty =>
      split_ifs with nothing
      · exact plays
      · exact ⟨nothing, plays⟩
    | getExit => rw [sound.isExit]; exact plays
    | getNothing nothing => exact absurd nothing plays.1
    | getFront front => exact ⟨sound.playable _ (by simp [front]), plays.2⟩
    | playSize =>
      rw [if_neg (Int.not_le.mpr plays.1.1)]
      exact plays
    | playOverrun large => exact absurd plays.1.2 (Int.not_le.mpr large)
    | playCopy => exact ⟨plays.1.1, rfl, plays.2⟩
    | playEnqueue => exact ⟨_, by rw [plays.2.2]; rfl, plays.1⟩
    | playCallback => exact plays
    | playDrop => exact plays
    | playReturn => exact rfl
    | _ => cases plays

/-- A step of the OpenSL thread moves a buffer along: from the list into its hand, from its hand to
OpenSL. -/
theorem order_moves {q q' : Data} {σ σ' : Status Cond Loc} {l : Label Tid}
    (moves : (program maxFrameBuffer).Moves q σ l q' σ') (sound : Sound q) (plays : Plays q σ) :
    q'.appended = q.appended ∧
      q'.enqueued ++ inHand σ' ++ q'.frames.map buffered =
        q.enqueued ++ inHand σ ++ q.frames.map buffered := by
  cases moves with
  | call entry =>
    cases calls_of_entry entry with
    | play => exact ⟨rfl, rfl⟩
    | _ => cases plays
  | relock =>
    obtain ⟨rfl, stored, nothing⟩ := plays
    exact ⟨rfl, rfl⟩
  | lock act =>
    cases locks_of_instr act with
    | get => exact ⟨rfl, rfl⟩
    | update => cases plays
  | unlock act =>
    cases unlocks_of_instr act with
    | get => exact ⟨rfl, rfl⟩
    | update => cases plays
  | wait act =>
    cases waits_of_instr act with
    | get => exact ⟨rfl, rfl⟩
    | update => cases plays
  | notifyAll act =>
    cases notifies_of_instr act with
    | get => exact ⟨rfl, rfl⟩
    | _ => cases plays
  | access act =>
    cases access_of_instr act with
    | getFront front => exact ⟨rfl, by simp [front, inHand, Data.enqueued]⟩
    | getExit => rw [sound.isExit]; exact ⟨rfl, rfl⟩
    | playSize =>
      rw [if_neg (Int.not_le.mpr plays.1.1)]
      exact ⟨rfl, rfl⟩
    | playOverrun large => exact absurd plays.1.2 (Int.not_le.mpr large)
    | playCopy => exact ⟨rfl, rfl⟩
    | playEnqueue =>
      obtain ⟨-, same, -⟩ := plays
      exact ⟨rfl, by simp [inHand, Data.enqueued, buffered, same]⟩
    | playReturn => exact ⟨rfl, by simp [inHand, Data.enqueued]⟩
    | playExit => split_ifs <;> exact ⟨rfl, rfl⟩
    | playAbort => split_ifs <;> exact ⟨rfl, rfl⟩
    | playPause => split_ifs <;> exact ⟨rfl, rfl⟩
    | pausedExit => split_ifs <;> exact ⟨rfl, rfl⟩
    | pausedAbort => split_ifs <;> exact ⟨rfl, rfl⟩
    | getEmpty => split_ifs <;> exact ⟨rfl, rfl⟩
    | pausedSleep => exact ⟨rfl, rfl⟩
    | getNothing nothing => exact ⟨rfl, rfl⟩
    | playCallback => exact ⟨rfl, rfl⟩
    | playDrop => exact ⟨rfl, rfl⟩
    | _ => cases plays

/-- **What the OpenSL thread does to the data**: it takes the first frame, copies, enqueues, returns
from a call that has enqueued one buffer, or changes nothing. -/
inductive Takes (q : Data) (σ : Status Cond Loc) : Data → Prop
  | nothing : Takes q σ q
  | take {d rest} (front : q.frames = d :: rest) (here : σ = .running .getFront) :
      Takes q σ { q with frames := rest }
  | copy {buffer} : Takes q σ { q with buffer := buffer }
  | enqueue {current} : Takes q σ { q with current := current }
  | finish (enqueued : Enqueued q.current) :
      Takes q σ { q with returned := q.returned ++ [q.current], current := [] }

theorem takes_of_moves {q q' : Data} {σ σ' : Status Cond Loc} {l : Label Tid}
    (moves : (program maxFrameBuffer).Moves q σ l q' σ') (plays : Plays q σ) : Takes q σ q' := by
  cases moves with
  | access act =>
    cases access_of_instr act with
    | getFront front => exact .take front rfl
    | playCopy => exact .copy
    | playEnqueue => exact .enqueue
    | playReturn => exact .finish plays
    | updatePush => cases plays
    | pauseStore => cases plays
    | stopStore => cases plays
    | abortStore => cases plays
    | _ => exact .nothing
  | _ => exact .nothing

/-! ### The other threads under their own steps -/

/-- A step of any other thread keeps what its location says. -/
theorem Updates.moves {q q' : Data} {σ σ' : Status Cond Loc} {l : Label Tid}
    (moves : (program maxFrameBuffer).Moves q σ l q' σ') (quiet : Undisturbed l)
    (fitting : Fitting l) (updates : Updates q σ) : Updates q' σ' := by
  cases moves with
  | call entry =>
    cases calls_of_entry entry with
    | play => cases updates
    | update => exact fitting
    | stop => exact absurd rfl quiet.1
    | abort => exact absurd rfl quiet.2
    | _ => trivial
  | relock =>
    obtain ⟨data, rfl, size⟩ := updates
    exact size
  | lock act =>
    cases locks_of_instr act with
    | get => cases updates
    | update => exact updates
  | unlock act =>
    cases unlocks_of_instr act with
    | get => cases updates
    | update => trivial
  | wait act =>
    cases waits_of_instr act with
    | get => cases updates
    | update => exact ⟨rfl, _, rfl, updates⟩
  | notifyAll act =>
    cases notifies_of_instr act with
    | update => trivial
    | _ => cases updates
  | access act =>
    cases access_of_instr act with
    | updateSize =>
      split_ifs with size
      · trivial
      · exact ⟨Int.not_le.mp size, updates⟩
    | updateFull => split_ifs <;> exact updates
    | updatePush => exact (by simp : q.frames ++ [_] ≠ [])
    | pauseStore => trivial
    | _ => cases updates

/-- **What any other thread does to the data**: it appends a playable frame, or stores
`pauseRequest`, or changes nothing. -/
inductive Writes (q : Data) : Data → Prop
  | nothing : Writes q q
  | append {data} (playable : Playable data) :
      Writes q { q with frames := q.frames ++ [data], appended := q.appended ++ [data] }
  | pause {pauseRequest} : Writes q { q with pauseRequest := pauseRequest }

theorem writes_of_moves {q q' : Data} {σ σ' : Status Cond Loc} {l : Label Tid}
    (moves : (program maxFrameBuffer).Moves q σ l q' σ') (updates : Updates q σ) :
    Writes q q' := by
  cases moves with
  | access act =>
    cases access_of_instr act with
    | updateSize => exact .nothing
    | updateFull => exact .nothing
    | updatePush => exact .append updates
    | pauseStore => exact .pause
    | _ => cases updates
  | _ => exact .nothing

/-! ### Each under the steps of the others -/

/-- What the OpenSL thread knows survives the step of another thread: a notification of `notEmpty`
comes from an `update` that has appended. -/
theorem Plays.other {s s' : State Tid} {l : Label Tid}
    (step : (program maxFrameBuffer).Step s l s') (chain : Chain maxFrameBuffer openSL s)
    (other : openSL ≠ l.actor) : Plays s'.shared (s'.thread openSL) := by
  have updates := chain.updates l.actor other.symm
  have kept : Plays s'.shared (s.thread openSL) := by
    have writes := writes_of_moves step.moves updates
    generalize s'.shared = q' at writes
    cases writes with
    | nothing => exact chain.plays
    | append size => exact chain.plays.append _
    | pause => exact chain.plays.pause _
  rcases step.other other with stays | ⟨loc, cond, n, here, act, same, woken⟩
  · rw [stays]
    exact kept
  · rw [here] at updates
    rw [woken]
    cases notifies_of_instr act with
    | update => exact kept.wake_notEmpty (same ▸ updates)
    | _ => cases updates

/-- What any other thread knows survives the step of the OpenSL thread, which takes a frame only
with the mutex. -/
theorem Updates.other {s s' : State Tid} {l : Label Tid}
    (step : (program maxFrameBuffer).Step s l s') (chain : Chain maxFrameBuffer openSL s)
    {t : Tid} (notMine : t ≠ openSL) (other : t ≠ l.actor) :
    Updates s'.shared (s'.thread t) := by
  have updates := chain.updates t notMine
  have kept : Updates s'.shared (s.thread t) := by
    by_cases mine : l.actor = openSL
    · have takes := takes_of_moves step.moves (mine ▸ chain.plays)
      generalize s'.shared = q' at takes
      cases takes with
      | take front here =>
        refine updates.without_notify fun there => notMine ?_
        refine chain.exclusive.unique (t := openSL) ⟨.getFront, mine ▸ here, rfl⟩ ⟨_, there, rfl⟩
      | _ => exact updates.same_frames rfl
    · have writes := writes_of_moves step.moves (chain.updates l.actor mine)
      generalize s'.shared = q' at writes
      cases writes with
      | nothing => exact updates
      | append size => exact updates.append _
      | pause => exact updates.same_frames rfl
  rcases step.other other with stays | ⟨loc, cond, n, here, act, same, woken⟩
  · rw [stays]
    exact kept
  · rw [woken]
    exact kept.wake

/-! ### The invariant -/

theorem Sound.takes {q q' : Data} {σ : Status Cond Loc} (sound : Sound q) (takes : Takes q σ q') :
    Sound q' := by
  cases takes with
  | take front here =>
    refine { sound with playable := fun d member => sound.playable d ?_ }
    rw [front]
    exact List.mem_cons_of_mem _ member
  | finish enqueued =>
    have last : ∀ buffers ∈ [q.current], Enqueued buffers := by simpa using enqueued
    exact { sound with single := List.forall_mem_append.mpr ⟨sound.single, last⟩ }
  | _ => exact { sound with }

theorem Sound.writes {q q' : Data} (sound : Sound q) (writes : Writes q q') : Sound q' := by
  cases writes with
  | @append data playable =>
    have last : ∀ d ∈ [data], Playable d := by simpa using playable
    exact { sound with
      playable := List.forall_mem_append.mpr ⟨sound.playable, last⟩
      appended := List.forall_mem_append.mpr ⟨sound.appended, last⟩ }
  | _ => exact { sound with }

/-- An `update` appends on both sides of the order. -/
theorem order_writes {q q' : Data} {σ : Status Cond Loc} (writes : Writes q q')
    (order : q.enqueued ++ inHand σ ++ q.frames.map buffered = q.appended.map buffered) :
    q'.enqueued ++ inHand σ ++ q'.frames.map buffered = q'.appended.map buffered := by
  cases writes with
  | append size => simp only [List.map_append, ← order, List.append_assoc]; rfl
  | _ => exact order

/-- The step of another thread leaves the hand of the OpenSL thread. -/
theorem inHand_other {s s' : State Tid} {l : Label Tid}
    (step : (program maxFrameBuffer).Step s l s') (other : openSL ≠ l.actor) :
    inHand (s'.thread openSL) = inHand (s.thread openSL) := by
  rcases step.other other with stays | ⟨loc, cond, n, here, act, same, woken⟩
  · rw [stays]
  · rw [woken]
    cases s.thread openSL with
    | waiting c resume => simp only [wake]; split_ifs <;> rfl
    | _ => rfl

/-- **The step lemma**: one step of any thread that does not stop the player keeps the chain. -/
theorem chain_step {s s' : State Tid} {l : Label Tid}
    (step : (program maxFrameBuffer).Step s l s') (quiet : Undisturbed l) (fitting : Fitting l)
    (chain : Chain maxFrameBuffer openSL s) : Chain maxFrameBuffer openSL s' := by
  have exclusive := Program.exclusive_step lawful chain.exclusive step
  by_cases mine : openSL = l.actor
  · subst mine
    obtain ⟨appended, order⟩ := order_moves step.moves chain.sound chain.plays
    exact {
      exclusive
      sound := chain.sound.takes (takes_of_moves step.moves chain.plays)
      plays := chain.plays.moves step.moves chain.sound
      updates := fun t other => Updates.other step chain other other
      order := by rw [order, appended, chain.order] }
  · have writes := writes_of_moves step.moves (chain.updates l.actor (Ne.symm mine))
    exact {
      exclusive
      sound := chain.sound.writes writes
      plays := Plays.other step chain mine
      updates := fun t notMine => by
        by_cases actor : t = l.actor
        · subst actor
          exact (chain.updates _ notMine).moves step.moves quiet fitting
        · exact Updates.other step chain notMine actor
      order := by
        rw [inHand_other step mine]
        exact order_writes writes chain.order }

/-- **The run lemma**: the chain holds in every state an undisturbed run reaches. -/
theorem chain_run {s : State Tid} {labels : List (Label Tid)}
    (quiet : ∀ l ∈ labels, Undisturbed l) (fitting : ∀ l ∈ labels, Fitting l)
    (run : (system Tid maxFrameBuffer).run (start openSL) labels = some s) :
    Chain maxFrameBuffer openSL s := by
  have calm : ∀ l ∈ labels, Undisturbed l ∧ Fitting l := fun l member =>
    ⟨quiet l member, fitting l member⟩
  exact System.invariant_guarded (I := Chain maxFrameBuffer openSL)
    (fun _ _ _ chain calm enabled =>
      chain_step (Program.step_of_next enabled) calm.1 calm.2 chain)
    (System.Guarded.of_labels calm _) run chain_start

/-- `getData` never takes the front of an empty list, and `playCall` never copies past its buffer. -/
theorem Chain.defined {s : State Tid} (chain : Chain maxFrameBuffer openSL s) (t : Tid) :
    s.thread t ≠ .running .undefined ∧ s.thread t ≠ .running .overrun := by
  by_cases mine : t = openSL
  · have plays := chain.plays
    rw [← mine] at plays
    constructor <;>
    · intro there
      rw [there] at plays
      cases plays
  · have updates := chain.updates t mine
    constructor <;>
    · intro there
      rw [there] at updates
      cases updates

/-! ### The main result -/

/-- **The chain is whole**:

* every `playCall` that has returned enqueued exactly one buffer, of positive size;
* the buffers enqueued are a prefix of the buffers `update` appended, each of positive size;
* no thread has taken the front of an empty list, or copied past the end of the play buffer. -/
structure KeepsChain (s : State Tid) : Prop where
  single : ∀ buffers ∈ s.shared.returned, ∃ b, buffers = [b] ∧ 0 < b.size
  order : s.shared.enqueued <+: s.shared.appended.map buffered
  positive : ∀ d ∈ s.shared.appended, 0 < d.size
  defined : ∀ t, s.thread t ≠ .running .undefined ∧ s.thread t ≠ .running .overrun

/-- **The audio callback chain never breaks and keeps order**, in a run without `stop` and
`abortRequest` whose buffers fit the play buffer. -/
theorem playCall_keepsChain (Tid : Type) [DecidableEq Tid] (maxFrameBuffer : Nat) (openSL : Tid)
    (labels : List (Label Tid)) (s : State Tid) (quiet : ∀ l ∈ labels, Undisturbed l)
    (fitting : ∀ l ∈ labels, Fitting l)
    (run : (system Tid maxFrameBuffer).run (start openSL) labels = some s) : KeepsChain s where
  single := (chain_run quiet fitting run).sound.single
  order := by
    rw [← (chain_run quiet fitting run).order, List.append_assoc]
    exact List.prefix_append _ _
  positive d member := ((chain_run quiet fitting run).sound.appended d member).1
  defined := (chain_run quiet fitting run).defined

/-- A buffer appended while `playCall` waits, behind one of size 0 that is not. -/
def handedOver (size : Int) : List (Label Bool) :=
  [.call true .playExit] ++ List.replicate 6 (.step true) ++
    [.call false (.updateLock XData.init)] ++ List.replicate 3 (.step false) ++
    [.call false (.updateLock { XData.init with resampleData := some 7, size := size })] ++
    List.replicate 6 (.step false) ++ List.replicate 7 (.step true)

theorem playCall_keepsChain_handedOver : ∃ s,
    (system Bool 100).run (start true) (handedOver 4 ++ List.replicate 4 (.step true)) = some s ∧
      s.shared.returned = [[⟨some 7, 4⟩]] ∧ KeepsChain s := by
  refine ⟨_, rfl, rfl, ?_⟩
  exact playCall_keepsChain Bool 100 true (handedOver 4 ++ List.replicate 4 (.step true)) _
    (by simp [handedOver, Undisturbed]) (by simp [handedOver, Fitting, playBuffer, XData.init, XData.zero]) rfl

/-- **One byte more than the play buffer holds**: `playCall` copies it past the end, before anything
is enqueued. -/
theorem tooLarge_breaks : ∃ s,
    (∀ l ∈ handedOver 1048577, Undisturbed l) ∧
      (system Bool 100).run (start true) (handedOver 1048577) = some s ∧
      s.shared.enqueued = [] ∧ s.thread true = .running .overrun ∧ ¬KeepsChain s := by
  refine ⟨_, by simp [handedOver, Undisturbed], rfl, rfl, rfl, fun keeps => ?_⟩
  exact (keeps.defined true).2 rfl

end Xplay.AudioPlay
