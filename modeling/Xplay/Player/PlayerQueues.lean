/-
**The player over the real packet queues.**

`Player` takes a `push` or a `pop` of a packet queue as one step. Here the demux thread and the
decoders are programs that call `Queue<T>`, with its mutex and condition variables, and go on when a
call returns; everything else is as in `Player`.

* `Move` and `program` — the threads without their queues.
* `merge` — the state of `Player` that a state of the threads and of two blocking queues is.
* `step_merge` — over two blocking queues, one step is one of `Player` or changes nothing there.
* `player_refines` — **whatever the player reaches over `Queue<T>`, `Player` reaches**: what is
  proved of every state of `Player` holds over the real queues.
-/

import Xplay.Player.PlayerSound
import Xplay.Queue.BlockingQueue

namespace Xplay

open Lib

namespace PlayerQueues

open BlockingQueue (Place)

/-- The two threads at a packet queue. -/
inductive Side
  | demux
  | decoder
  deriving DecidableEq

/-- A packet queue, and what is seen of it. -/
abbrev Event := Kind × BlockingQueue.Event Packet Side

/-- A step of a thread outside the packet queues, or a call of one, or its return. -/
inductive Move
  | own (l : Player.Label)
  | callPush
  | retPush
  | callPop (k : Kind)
  | retPop (k : Kind) (p : Packet)

/-- The thread is before a call of a packet queue, or in it. `pushWaiting` and `popWaiting` stand
for all of the call. -/
def calls (c : Player) : Player.Label → Bool
  | .demux =>
    match c.demux with
    | .pushing _ | .pushWaiting _ => true
    | _ => false
  | .decode k _ =>
    match (c.decode k).loc with
    | .popping | .popWaiting => true
    | _ => false
  | _ => false

/-- The event of a step. -/
def shows (c : Player) : Move → Option Event
  | .own _ => none
  | .callPush =>
    match c.demux with
    | .pushing p => some (p.kind, .call .demux (.push p))
    | _ => none
  | .retPush =>
    match c.demux with
    | .pushWaiting p => some (p.kind, .ret .demux (.pushed true))
    | _ => none
  | .callPop k =>
    match (c.decode k).loc with
    | .popping => some (k, .call .decoder .pop)
    | _ => none
  | .retPop k p =>
    match (c.decode k).loc with
    | .popWaiting => some (k, .ret .decoder (.popped (some p)))
    | _ => none

/-- **One step** of the threads. -/
def next (output : Kind → FrameOutput) (c : Player) : Move → Option Player
  | .own l => if calls c l then none else Player.next output c l
  | .callPush =>
    match c.demux with
    | .pushing p => some { c with demux := .pushWaiting p }
    | _ => none
  | .retPush =>
    match c.demux with
    | .pushWaiting p => some { c with demux := .top, pushed := c.pushed ++ [p] }
    | _ => none
  | .callPop k =>
    match (c.decode k).loc with
    | .popping => some (c.setDecode k ((c.decode k).goto .popWaiting))
    | _ => none
  | .retPop k p =>
    match (c.decode k).loc with
    | .popWaiting => some (c.setDecode k ((c.decode k).goto (.decoding p.frame)))
    | _ => none

/-- The threads of the player. -/
def program (output : Kind → FrameOutput) : Component Player Move Event where
  next := next output
  shows := shows

/-- The two packet queues. -/
abbrev Queues := Kind → BlockingQueue Packet Side

/-! ### The state of `Player` -/

/-- Where `Player` has the demux thread. -/
def demuxAt (c : Player) (q : Queues) : DemuxLoc :=
  match c.demux with
  | .pushWaiting p =>
    match (q p.kind).thread .demux with
    | .waiting _ => .pushWaiting p
    | .done _ => .top
    | _ => .pushing p
  | loc => loc

/-- What it has of the packets that were pushed. -/
def pushedAt (c : Player) (q : Queues) : List Packet :=
  match c.demux with
  | .pushWaiting p =>
    match (q p.kind).thread .demux with
    | .done _ => c.pushed ++ [p]
    | _ => c.pushed
  | _ => c.pushed

/-- Where it has a decoder. -/
def locAt (loc : DecodeLoc) (place : Place Packet) : DecodeLoc :=
  match loc with
  | .popWaiting =>
    match place with
    | .waiting _ => .popWaiting
    | .done (.popped (some p)) => .decoding p.frame
    | _ => .popping
  | loc => loc

/-- A decoder of `Player`. -/
def decodeAt (d : IDecode) (q : BlockingQueue Packet Side) : IDecode :=
  { d with packetQueue := q.queue, loc := locAt d.loc (q.thread .decoder) }

/-- **The state of `Player`.** -/
def merge (c : Player) (q : Queues) : Player :=
  { c with
    demux := demuxAt c q
    pushed := pushedAt c q
    decode := fun k => decodeAt (c.decode k) (q k) }

/-- Where the demux thread is in the queue of `k`. -/
inductive AtPush (k : Kind) (loc : DemuxLoc) : Place Packet → Prop
  | idle (outside : ∀ p, loc = .pushWaiting p → p.kind ≠ k) : AtPush k loc .idle
  | called {p} (here : loc = .pushWaiting p) (kind : p.kind = k) : AtPush k loc (.called (.push p))
  | waiting {p} (here : loc = .pushWaiting p) (kind : p.kind = k) :
    AtPush k loc (.waiting (.push p))
  | done {p} (here : loc = .pushWaiting p) (kind : p.kind = k) : AtPush k loc (.done (.pushed true))

/-- Where a decoder is in its queue. -/
inductive AtPop (loc : DecodeLoc) : Place Packet → Prop
  | idle (outside : loc ≠ .popWaiting) : AtPop loc .idle
  | called (here : loc = .popWaiting) : AtPop loc (.called .pop)
  | waiting (here : loc = .popWaiting) : AtPop loc (.waiting .pop)
  | done (here : loc = .popWaiting) (p : Packet) : AtPop loc (.done (.popped (some p)))

/-- **The threads are in the queues exactly while they call them.** -/
structure Fits (c : Player) (q : Queues) : Prop where
  push : ∀ k, AtPush k c.demux ((q k).thread .demux)
  pop : ∀ k, AtPop (c.decode k).loc ((q k).thread .decoder)


/-! ### Steps outside the queues -/

variable {output : Kind → FrameOutput} {c d : Player} {q : Queues} {k : Kind}

theorem decodeAt_goto {e : IDecode} {loc : DecodeLoc} {b : BlockingQueue Packet Side}
    (out : loc ≠ .popWaiting) : decodeAt (e.goto loc) b = (decodeAt e b).goto loc := by
  cases loc <;> first | rfl | exact absurd rfl out

/-- A decoder whose frame queue is popped. -/
theorem decodeAt_popFrame (e : IDecode) (b : BlockingQueue Packet Side) :
    decodeAt e.popFrame b = (decodeAt e b).popFrame := by
  have woken (place : Place Packet) :
      locAt e.loc.wakePeek place = (locAt e.loc place).wakePeek := by
    cases here : e.loc <;> simp only [DecodeLoc.wakePeek, locAt]
    split <;> rfl
  have loc : locAt e.popFrame.loc (b.thread .decoder) = (decodeAt e b).popFrame.loc := by
    by_cases clears : e.frameQueue.clears = none
    · exact (congrArg (locAt · _) (if_pos clears)).trans (if_pos clears).symm
    · exact (congrArg (locAt · _) (if_neg clears)).trans ((woken _).trans (if_neg clears).symm)
  exact congrArg (fun loc => { e.popFrame with packetQueue := b.queue, loc := loc }) loc

theorem merge_setDecode (e : IDecode) :
    merge (c.setDecode k e) q = (merge c q).setDecode k (decodeAt e (q k)) := by
  have same : (fun j => decodeAt (Function.update c.decode k e j) (q j)) =
      Function.update (fun j => decodeAt (c.decode j) (q j)) k (decodeAt e (q k)) := by
    funext j
    by_cases self : j = k
    · subst self
      simp only [Function.update_self]
    · simp only [Function.update_of_ne self]
  simp only [merge, Player.setDecode, demuxAt, pushedAt, same]

/-- A test of what `merge` keeps. -/
theorem ite_map {α β : Type} {P : Prop} {here there : Decidable P} {f : α → β} {a b : Option β}
    {a' b' : Option α} (yes : a = a'.map f) (no : b = b'.map f) :
    @ite _ P here a b = Option.map f (@ite _ P there a' b') := by
  by_cases holds : P
  · rw [if_pos holds, if_pos holds, yes]
  · rw [if_neg holds, if_neg holds, no]

theorem own_demux (out : calls c .demux = false) :
    (merge c q).demuxNext = c.demuxNext.map (merge · q) := by
  obtain ⟨file, decode, frames, lastFramePts, demux, audioSync, videoSync, callback, stop,
    abortRequest, pauseRequest, isExist, playExit, demuxExit, pushed⟩ := c
  cases demux with
  | top => cases file <;> exact ite_map rfl (ite_map rfl rfl)
  | routing p => exact ite_map rfl rfl
  | exited => rfl
  | pushing p => simp [calls] at out
  | pushWaiting p => simp [calls] at out

theorem own_decode {made : Bool} (out : calls c (.decode k made) = false) :
    Player.decodeNext (output k) k made (merge c q) =
      (Player.decodeNext (output k) k made c).map (merge · q) := by
  have goto {loc : DecodeLoc} (other : loc ≠ .popWaiting) :
      some ((merge c q).setDecode k (((merge c q).decode k).goto loc)) =
        (some (c.setDecode k ((c.decode k).goto loc))).map (merge · q) := by
    rw [Option.map_some, merge_setDecode, decodeAt_goto other]
    rfl
  have at' : ((merge c q).decode k).loc =
      locAt (c.decode k).loc ((q k).thread .decoder) := rfl
  have frameQueue : ((merge c q).decode k).frameQueue = (c.decode k).frameQueue := rfl
  cases here : (c.decode k).loc with
  | top =>
    simp only [Player.decodeNext, at', here, locAt]
    exact ite_map (goto nofun) (ite_map rfl (goto nofun))
  | popping => simp [calls, here] at out
  | popWaiting => simp [calls, here] at out
  | decoding frame =>
    simp only [Player.decodeNext, at', here, locAt]
    exact goto (by split_ifs <;> nofun)
  | peeking frame =>
    simp only [Player.decodeNext, at', here, locAt, frameQueue]
    split <;> exact goto nofun
  | peekWoken frame =>
    simp only [Player.decodeNext, at', here, locAt, frameQueue]
    split <;> exact goto nofun
  | filling frame j =>
    simp only [Player.decodeNext, at', here, locAt, Option.map_some, merge_setDecode]
    rfl
  | pushing =>
    simp only [Player.decodeNext, at', here, locAt, Option.map_some, merge_setDecode]
    rfl
  | peekWaiting frame => simp only [Player.decodeNext, at', here, locAt, Option.map_none]
  | exited => simp only [Player.decodeNext, at', here, locAt, Option.map_none]

/-- The frame on screen or in the speaker leaves its queue. -/
theorem merge_popFrame :
    (merge c q).setDecode k ((merge c q).decode k).popFrame =
      merge (c.setDecode k (c.decode k).popFrame) q := by
  rw [merge_setDecode, decodeAt_popFrame]
  rfl

theorem own_audio {resampled : Bool} :
    (merge c q).audioNext resampled = (c.audioNext resampled).map (merge · q) := by
  have at' : (merge c q).audioSync = c.audioSync := rfl
  cases here : c.audioSync with
  | top =>
    simp only [Player.audioNext, at', here]
    exact ite_map rfl (ite_map rfl rfl)
  | looking =>
    simp only [Player.audioNext, at', here]
    exact ite_map rfl rfl
  | putting =>
    simp only [Player.audioNext, at', here]
    exact ite_map rfl rfl
  | popping =>
    simp only [Player.audioNext, at', here, merge_popFrame]
    rfl
  | updating =>
    simp only [Player.audioNext, at', here]
    rfl
  | putWoken =>
    simp only [Player.audioNext, at', here]
    rfl
  | putWaiting => simp only [Player.audioNext, at', here, Option.map_none]
  | exited => simp only [Player.audioNext, at', here, Option.map_none]

theorem own_video : (merge c q).videoNext = c.videoNext.map (merge · q) := by
  have at' : (merge c q).videoSync = c.videoSync := rfl
  cases here : c.videoSync with
  | top =>
    simp only [Player.videoNext, at', here]
    exact ite_map rfl (ite_map rfl rfl)
  | looking =>
    simp only [Player.videoNext, at', here]
    exact ite_map rfl rfl
  | popping =>
    simp only [Player.videoNext, at', here, merge_popFrame]
    rfl
  | showing =>
    simp only [Player.videoNext, at', here]
    rfl
  | exited => simp only [Player.videoNext, at', here, Option.map_none]

theorem own_take : (merge c q).take = c.take.map (merge · q) := by
  unfold Player.take
  refine ite_map rfl ?_
  have frames : (merge c q).frames = c.frames := rfl
  rw [frames]
  cases c.frames <;> rfl

theorem own_callback : (merge c q).callbackNext = c.callbackNext.map (merge · q) := by
  have at' : (merge c q).callback = c.callback := rfl
  cases here : c.callback with
  | idle =>
    simp only [Player.callbackNext, at', here]
    exact ite_map rfl (ite_map rfl rfl)
  | pausing =>
    simp only [Player.callbackNext, at', here]
    exact ite_map (ite_map rfl rfl) rfl
  | getting =>
    simp only [Player.callbackNext, at', here]
    exact ite_map rfl own_take
  | getWoken =>
    simp only [Player.callbackNext, at', here]
    exact own_take
  | getWaiting => simp only [Player.callbackNext, at', here, Option.map_none]
  | exited => simp only [Player.callbackNext, at', here, Option.map_none]

theorem own_stop : (merge c q).stopNext = c.stopNext.map (merge · q) := by
  have at' : (merge c q).stop = c.stop := rfl
  have stopDecode (k : Kind) : (merge c q).stopDecode k = merge (c.stopDecode k) q := by
    unfold Player.stopDecode
    rw [merge_setDecode]
    rfl
  cases here : c.stop <;> simp only [Player.stopNext, at', here, stopDecode] <;> rfl

/-- **A step outside the queues is the same step of `Player`.** -/
theorem own {l : Player.Label} (out : calls c l = false) :
    Player.next output (merge c q) l = (Player.next output c l).map (merge · q) := by
  cases l with
  | demux => exact own_demux out
  | decode k made => exact own_decode out
  | audioSync resampled => exact own_audio
  | videoSync => exact own_video
  | callback => exact own_callback
  | stop => exact own_stop
  | pause request => exact ite_map rfl rfl

/-- A step outside the queues neither enters nor leaves one. -/
structure Outside (c d : Player) : Prop where
  demux : ∀ p, d.demux = .pushWaiting p ↔ c.demux = .pushWaiting p
  decode : ∀ k, (d.decode k).loc = .popWaiting ↔ (c.decode k).loc = .popWaiting

theorem popFrame_popWaiting (e : IDecode) : e.popFrame.loc = .popWaiting ↔ e.loc = .popWaiting := by
  rcases Player.popFrame_loc e with same | woken
  · rw [same]
  · rw [woken]
    cases e.loc <;> simp [DecodeLoc.wakePeek]

theorem Outside.same {d : Player} (demux : d.demux = c.demux) (decode : d.decode = c.decode) :
    Outside c d :=
  ⟨fun p => by rw [demux], fun k => by rw [decode]⟩

theorem Outside.demux_goto {d : Player} (before : ∀ p, c.demux ≠ .pushWaiting p)
    (after : ∀ p, d.demux ≠ .pushWaiting p) (decode : d.decode = c.decode) : Outside c d :=
  ⟨fun p => iff_of_false (after p) (before p), fun k => by rw [decode]⟩

/-- The queues see no change of a decoder. -/
theorem Outside.setDecode {e : IDecode} {d : Player}
    (same : e.loc = .popWaiting ↔ (c.decode k).loc = .popWaiting)
    (demux : d.demux = c.demux) (decode : d.decode = (c.setDecode k e).decode) : Outside c d where
  demux p := by rw [demux]
  decode j := by
    rw [decode]
    exact Iff.of_eq (Player.setDecode_same (fun e => e.loc = .popWaiting) (propext same) j)

theorem outside_of_step {l : Player.Label} (out : calls c l = false)
    (enabled : Player.next output c l = some d) : Outside c d := by
  cases Player.step_of_next enabled with
  | demuxMove move =>
    refine Outside.demux_goto ?_ ?_ rfl
    · cases move <;> simp_all [calls]
    · cases move <;> simp_all [calls]
  | demuxEof here nothing => exact Outside.demux_goto (by simp [here]) (by simp) rfl
  | demuxRead p rest here front clear => exact Outside.demux_goto (by simp [here]) (by simp) rfl
  | demuxPush p here room => simp [calls, here] at out
  | decodeStep k made own =>
    refine Outside.setDecode ?_ rfl rfl
    cases own with
    | move move =>
      cases move with
      | null frame here aborted => rcases here with here | here <;> simp [here, IDecode.goto]
      | _ => simp_all [calls, IDecode.goto]
    | make frame here makes => simp [here, IDecode.goto]
    | skip frame here skips => simp [here, IDecode.goto]
    | fill frame j here => simp [here, IDecode.fill]
    | push here => simp [here, IDecode.pushFrame]
  | decodePop k made p rest here front => simp [calls, here] at out
  | audioPop resampled here => exact Outside.setDecode (popFrame_popWaiting _) rfl rfl
  | videoPop here => exact Outside.setDecode (popFrame_popWaiting _) rfl rfl
  | stopAudio here =>
    exact Outside.setDecode (k := .audio) (e := { c.decode .audio with isExit := true })
      Iff.rfl rfl rfl
  | stopVideo here =>
    exact Outside.setDecode (k := .video) (e := { c.decode .video with isExit := true })
      Iff.rfl rfl rfl
  | _ => exact Outside.same rfl rfl

theorem AtPush.congr {loc loc' : DemuxLoc} {place : Place Packet} (at' : AtPush k loc place)
    (same : ∀ p, loc' = .pushWaiting p ↔ loc = .pushWaiting p) : AtPush k loc' place := by
  cases at' with
  | idle out => exact .idle fun p here => out p ((same p).mp here)
  | called here kind => exact .called ((same _).mpr here) kind
  | waiting here kind => exact .waiting ((same _).mpr here) kind
  | done here kind => exact .done ((same _).mpr here) kind

theorem AtPop.congr {loc loc' : DecodeLoc} {place : Place Packet} (at' : AtPop loc place)
    (same : loc' = .popWaiting ↔ loc = .popWaiting) : AtPop loc' place := by
  cases at' with
  | idle out => exact .idle fun here => out (same.mp here)
  | called here => exact .called (same.mpr here)
  | waiting here => exact .waiting (same.mpr here)
  | done here p => exact .done (same.mpr here) p

theorem Fits.outside (fits : Fits c q) (outside : Outside c d) : Fits d q where
  push k := (fits.push k).congr outside.demux
  pop k := (fits.pop k).congr (outside.decode k)

/-! ### Steps at the queues -/

/-- What a state of the program and of the queues is in `Player`. -/
theorem merge_eq {x : Player}
    (rest : { c with demux := x.demux, pushed := x.pushed, decode := x.decode } = x)
    (demux : demuxAt c q = x.demux) (sent : pushedAt c q = x.pushed)
    (decode : ∀ j, decodeAt (c.decode j) (q j) = x.decode j) : merge c q = x := by
  rw [← rest, ← demux, ← sent, ← funext decode]
  rfl

/-- One queue changes. -/
theorem update_queue {b : BlockingQueue Packet Side} {P : Kind → BlockingQueue Packet Side → Prop}
    (mine : P k b) (others : ∀ j, j ≠ k → P j (q j)) (j : Kind) :
    P j (Function.update q k b j) := by
  by_cases self : j = k
  · subst self
    rw [Function.update_self]
    exact mine
  · rw [Function.update_of_ne self]
    exact others j self

theorem AtPush.eq_idle {loc : DemuxLoc} {place : Place Packet} (at' : AtPush k loc place)
    (out : ∀ p, loc = .pushWaiting p → p.kind ≠ k) : place = .idle := by
  cases at' with
  | idle => rfl
  | called here kind => exact absurd kind (out _ here)
  | waiting here kind => exact absurd kind (out _ here)
  | done here kind => exact absurd kind (out _ here)

theorem AtPush.elsewhere {loc loc' : DemuxLoc} {place : Place Packet} (at' : AtPush k loc place)
    (out : ∀ p, loc = .pushWaiting p → p.kind ≠ k)
    (out' : ∀ p, loc' = .pushWaiting p → p.kind ≠ k) : AtPush k loc' place := by
  rw [at'.eq_idle out]
  exact .idle out'

/-- The demux thread calls `push`. -/
theorem callPush_step {p : Packet} (fits : Fits c q) (here : c.demux = .pushing p) {r : Queues}
    (moved : r = Function.update q p.kind ((q p.kind).put .demux (.called (.push p)))) :
    Fits { c with demux := .pushWaiting p } r ∧
      merge { c with demux := .pushWaiting p } r = merge c q := by
  subst moved
  have at' : Function.update q p.kind ((q p.kind).put .demux (.called (.push p))) p.kind =
      (q p.kind).put .demux (.called (.push p)) := Function.update_self ..
  refine ⟨⟨?_, ?_⟩, merge_eq rfl ?_ ?_ ?_⟩
  · refine update_queue (P := fun j b => AtPush j _ (b.thread .demux)) (.called rfl rfl) ?_
    intro j other
    refine (fits.push j).elsewhere (by simp [here]) ?_
    rintro _ ⟨⟩ kind
    exact other kind.symm
  · exact update_queue (P := fun j b => AtPop _ (b.thread .decoder)) (fits.pop p.kind)
      fun j _ => fits.pop j
  · simp only [merge, demuxAt, here, at']
    rfl
  · simp only [merge, pushedAt, here, at']
    rfl
  · exact update_queue (P := fun j b => decodeAt (c.decode j) b = decodeAt (c.decode j) (q j)) rfl
      fun _ _ => rfl

/-- Its `push` returns. -/
theorem retPush_step {p : Packet} (fits : Fits c q) (here : c.demux = .pushWaiting p)
    {r : Queues} (stored : (q p.kind).thread .demux = .done (.pushed true))
    (moved : r = Function.update q p.kind ((q p.kind).put .demux .idle)) :
    Fits { c with demux := .top, pushed := c.pushed ++ [p] } r ∧
      merge { c with demux := .top, pushed := c.pushed ++ [p] } r = merge c q := by
  subst moved
  refine ⟨⟨?_, ?_⟩, merge_eq rfl ?_ ?_ ?_⟩
  · refine update_queue (P := fun j b => AtPush j _ (b.thread .demux)) (.idle (by simp)) ?_
    intro j other
    refine (fits.push j).elsewhere ?_ (by simp)
    intro p' there kind
    rw [here] at there
    cases there
    exact other kind.symm
  · exact update_queue (P := fun j b => AtPop _ (b.thread .decoder)) (fits.pop p.kind)
      fun j _ => fits.pop j
  · simp only [merge, demuxAt, here, stored]
  · simp only [merge, pushedAt, here, stored]
  · exact update_queue (P := fun j b => decodeAt (c.decode j) b = decodeAt (c.decode j) (q j)) rfl
      fun _ _ => rfl

/-- A decoder moves in its queue, where the demux thread stays. -/
theorem demux_stays {b : BlockingQueue Packet Side} (demux : d.demux = c.demux)
    (sent : d.pushed = c.pushed) (same : b.thread .demux = (q k).thread .demux) :
    demuxAt d (Function.update q k b) = demuxAt c q ∧
      pushedAt d (Function.update q k b) = pushedAt c q := by
  have thread (j : Kind) : (Function.update q k b j).thread .demux = (q j).thread .demux :=
    update_queue (P := fun j b => b.thread .demux = (q j).thread .demux) same (fun _ _ => rfl) j
  simp only [demuxAt, pushedAt, demux, sent, thread, and_self]

/-- A decoder calls `pop`, or its `pop` returns. -/
theorem pop_step {loc : DecodeLoc} {place : Place Packet} (fits : Fits c q) {r : Queues}
    (moved : r = Function.update q k ((q k).put .decoder place)) (at' : AtPop loc place)
    (same : locAt loc place = locAt (c.decode k).loc ((q k).thread .decoder)) :
    Fits (c.setDecode k ((c.decode k).goto loc)) r ∧
      merge (c.setDecode k ((c.decode k).goto loc)) r = merge c q := by
  subst moved
  have still := demux_stays (c := c) (d := c.setDecode k ((c.decode k).goto loc)) (q := q) (k := k)
    (b := (q k).put .decoder place) rfl rfl rfl
  refine ⟨⟨?_, ?_⟩, merge_eq rfl still.1 still.2 ?_⟩
  · exact update_queue (P := fun j b => AtPush j _ (b.thread .demux)) (fits.push k)
      fun j _ => fits.push j
  · intro j
    by_cases self : j = k
    · subst self
      rw [Player.setDecode_decode, if_pos rfl, Function.update_self]
      exact at'
    · rw [Player.setDecode_decode, if_neg self, Function.update_of_ne self]
      exact fits.pop j
  · intro j
    by_cases self : j = k
    · subst self
      rw [Player.setDecode_decode, if_pos rfl, Function.update_self]
      exact congrArg (fun loc => { c.decode j with packetQueue := (q j).queue, loc := loc }) same
    · rw [Player.setDecode_decode, if_neg self, Function.update_of_ne self]
      rfl

/-- A packet is stored, and the decoder goes on. -/
theorem decodeAt_pushPacket {e : IDecode} {b : BlockingQueue Packet Side} (p : Packet)
    {place : Place Packet} (pop : AtPop e.loc (b.thread .decoder)) :
    decodeAt e (BlockingQueue.put ⟨b.queue ++ [p], fun u => (b.thread u).wakePop⟩ .demux place) =
      (decodeAt e b).pushPacket p := by
  have loc :
      locAt e.loc (b.thread .decoder).wakePop = (locAt e.loc (b.thread .decoder)).wakePop := by
    generalize b.thread .decoder = there at pop
    cases pop with
    | idle out => cases e.loc <;> rfl
    | called here => simp only [here, locAt, Place.wakePop, DecodeLoc.wakePop]
    | waiting here => simp only [here, locAt, Place.wakePop, DecodeLoc.wakePop]
    | done here p => simp only [here, locAt, Place.wakePop, DecodeLoc.wakePop]
  exact congrArg (fun loc => { e with packetQueue := b.queue ++ [p], loc := loc }) loc

/-- The decoder of one queue changes. -/
theorem decode_update {e : IDecode} {b : BlockingQueue Packet Side}
    (same : decodeAt (c.decode k) b = e) (j : Kind) :
    decodeAt (c.decode j) (Function.update q k b j) = ((merge c q).setDecode k e).decode j := by
  refine update_queue
    (P := fun j b => decodeAt (c.decode j) b = ((merge c q).setDecode k e).decode j) ?_ ?_ j
  · rw [Player.setDecode_decode, if_pos rfl, same]
  · intro j other
    rw [Player.setDecode_decode, if_neg other]
    rfl

theorem AtPop.wakePop {loc : DecodeLoc} {place : Place Packet} (at' : AtPop loc place) :
    AtPop loc place.wakePop := by
  cases at' with
  | idle out => exact .idle out
  | called here => exact .called here
  | waiting here => exact .called here
  | done here p => exact .done here p

theorem AtPush.wakePush {place : Place Packet} {loc : DemuxLoc}
    (at' : AtPush k loc place) : AtPush k loc place.wakePush := by
  cases at' with
  | idle out => exact .idle out
  | called here kind => exact .called here kind
  | waiting here kind => exact .called here kind
  | done here kind => exact .done here kind

/-- **The step that stores a packet, or finds the queue full, is one of `Player`.** -/
theorem push_act {p : Packet} (fits : Fits c q) (here : c.demux = .pushWaiting p)
    (at' : (q p.kind).thread .demux = .called (.push p)) {r : Queues}
    (moved : r = Function.update q p.kind ((q p.kind).act packetQueueSize .demux (.push p))) :
    Fits c r ∧ Player.next output (merge c q) .demux = some (merge c r) := by
  have pushing : (merge c q).demux = .pushing p := by simp only [merge, demuxAt, here, at']
  have sent : (merge c q).pushed = c.pushed := by simp only [merge, pushedAt, here, at']
  have now (b : BlockingQueue Packet Side) : Function.update q p.kind b p.kind = b :=
    Function.update_self ..
  by_cases room : (q p.kind).queue.length < packetQueueSize
  · rw [show (q p.kind).act packetQueueSize .demux (.push p) = _ from if_pos room] at moved
    subst moved
    refine ⟨⟨?_, ?_⟩, ?_⟩
    · exact update_queue (P := fun j b => AtPush j _ (b.thread .demux)) (.done here rfl)
        fun j _ => fits.push j
    · exact update_queue (P := fun j b => AtPop _ (b.thread .decoder)) (fits.pop p.kind).wakePop
        fun j _ => fits.pop j
    · have step : Player.next output (merge c q) .demux = some
          { (merge c q).setDecode p.kind (((merge c q).decode p.kind).pushPacket p) with
            demux := .top
            pushed := c.pushed ++ [p] } := by
        simp only [Player.next, Player.demuxNext, pushing, sent]
        exact if_pos room
      refine step.trans (congrArg some (merge_eq rfl ?_ ?_ ?_).symm)
      · simp only [demuxAt, here, now]
        rfl
      · simp only [pushedAt, here, now]
        rfl
      · exact decode_update (decodeAt_pushPacket p (fits.pop p.kind))
  · rw [show (q p.kind).act packetQueueSize .demux (.push p) = _ from if_neg room] at moved
    subst moved
    refine ⟨⟨?_, ?_⟩, ?_⟩
    · exact update_queue (P := fun j b => AtPush j _ (b.thread .demux)) (.waiting here rfl)
        fun j _ => fits.push j
    · exact update_queue (P := fun j b => AtPop _ (b.thread .decoder)) (fits.pop p.kind)
        fun j _ => fits.pop j
    · have step : Player.next output (merge c q) .demux =
          some { merge c q with demux := .pushWaiting p } := by
        simp only [Player.next, Player.demuxNext, pushing]
        exact if_neg room
      refine step.trans (congrArg some (merge_eq rfl ?_ ?_ ?_).symm)
      · simp only [demuxAt, here, now]
        rfl
      · simp only [pushedAt, here, now, sent]
        rfl
      · exact update_queue (P := fun j b => decodeAt (c.decode j) b = decodeAt (c.decode j) (q j))
          rfl fun _ _ => rfl

/-- A packet is removed, and the demux thread goes on. -/
theorem demux_woken {b : BlockingQueue Packet Side}
    (woken : b.thread .demux = ((q k).thread .demux).wakePush)
    (push : ∀ j, AtPush j c.demux ((q j).thread .demux)) :
    demuxAt c (Function.update q k b) = (demuxAt c q).wakePush k ∧
      pushedAt c (Function.update q k b) = pushedAt c q := by
  cases here : c.demux with
  | pushWaiting p =>
    simp only [demuxAt, pushedAt, here]
    by_cases mine : p.kind = k
    · have at' := push k
      subst mine
      rw [Function.update_self, woken]
      generalize (q p.kind).thread .demux = place at at'
      cases at' with
      | idle out => exact absurd rfl (out p here)
      | called there kind => exact ⟨rfl, rfl⟩
      | waiting there kind => exact ⟨(if_pos rfl).symm, rfl⟩
      | done there kind => exact ⟨rfl, rfl⟩
    · rw [Function.update_of_ne mine]
      refine ⟨?_, rfl⟩
      split <;> simp only [DemuxLoc.wakePush, if_neg mine]
  | _ => simp only [demuxAt, pushedAt, here, DemuxLoc.wakePush, and_self]

/-- **The step that removes a packet, or finds the queue empty, is one of `Player`.** -/
theorem pop_act (fits : Fits c q) (at' : (q k).thread .decoder = .called .pop)
    (here : (c.decode k).loc = .popWaiting) {r : Queues}
    (moved : r = Function.update q k ((q k).act packetQueueSize .decoder .pop)) :
    Fits c r ∧ Player.next output (merge c q) (.decode k true) = some (merge c r) := by
  have popping : ((merge c q).decode k).loc = .popping := by
    simp only [merge, decodeAt, here, locAt, at']
  have packets : ((merge c q).decode k).packetQueue = (q k).queue := rfl
  cases queue : (q k).queue with
  | nil =>
    rw [show (q k).act packetQueueSize .decoder .pop = (q k).put .decoder (.waiting .pop) by
      simp only [BlockingQueue.act, queue]] at moved
    subst moved
    refine ⟨⟨?_, ?_⟩, ?_⟩
    · exact update_queue (P := fun j b => AtPush j _ (b.thread .demux)) (fits.push k)
        fun j _ => fits.push j
    · exact update_queue (P := fun j b => AtPop (c.decode j).loc (b.thread .decoder))
        (.waiting here) fun j _ => fits.pop j
    · have step : Player.next output (merge c q) (.decode k true) =
          some ((merge c q).setDecode k (((merge c q).decode k).goto .popWaiting)) := by
        simp only [Player.next, Player.decodeNext, popping, packets, queue]
      have still := demux_stays (c := c) (d := c) (q := q) (k := k)
        (b := (q k).put .decoder (.waiting .pop)) rfl rfl rfl
      have loc : locAt (c.decode k).loc (.waiting .pop) = .popWaiting := by simp only [here, locAt]
      refine step.trans (congrArg some (merge_eq rfl still.1 still.2 ?_).symm)
      refine decode_update ?_
      exact congrArg (fun loc => { c.decode k with packetQueue := (q k).queue, loc := loc }) loc
  | cons p rest =>
    obtain ⟨b, same⟩ : ∃ b, b = BlockingQueue.put ⟨rest, fun u => ((q k).thread u).wakePush⟩
      .decoder (.done (.popped (some p))) := ⟨_, rfl⟩
    rw [show (q k).act packetQueueSize .decoder .pop = b by
      simp only [BlockingQueue.act, queue, same]] at moved
    subst moved same
    refine ⟨⟨?_, ?_⟩, ?_⟩
    · exact update_queue (P := fun j b => AtPush j _ (b.thread .demux)) (fits.push k).wakePush
        fun j _ => fits.push j
    · exact update_queue (P := fun j b => AtPop (c.decode j).loc (b.thread .decoder)) (.done here p)
        fun j _ => fits.pop j
    · have step : Player.next output (merge c q) (.decode k true) =
          some { (merge c q).setDecode k (((merge c q).decode k).popPacket p rest) with
            demux := (merge c q).demux.wakePush k } := by
        simp only [Player.next, Player.decodeNext, popping, packets, queue]
      have woken := demux_woken (c := c) (q := q) (k := k) (b := BlockingQueue.put
        ⟨rest, fun u => ((q k).thread u).wakePush⟩ .decoder (.done (.popped (some p)))) rfl
        fits.push
      have loc : locAt (c.decode k).loc (.done (.popped (some p))) = .decoding p.frame := by
        simp only [here, locAt]
      refine step.trans (congrArg some (merge_eq rfl woken.1 woken.2 ?_).symm)
      refine decode_update ?_
      exact congrArg (fun loc => { c.decode k with packetQueue := rest, loc := loc }) loc

/-! ### All steps -/

variable {r : Queues}

theorem fits_start (file : List Packet) :
    Fits (Player.start file) fun _ => BlockingQueue.new Packet Side :=
  ⟨fun _ => .idle (by simp [Player.start]), fun _ => .idle (by simp [Player.start, IDecode.new])⟩

/-- The player over two blocking queues. -/
abbrev Atomic (output : Kind → FrameOutput) :=
  (program output).inside ((BlockingQueue.component Packet Side packetQueueSize).family Kind)

/-- A step of the threads that shows nothing is outside the queues. -/
theorem own_of_hidden {m : Move} (hidden : shows c m = none) (took : next output c m = some d) :
    ∃ l, calls c l = false ∧ Player.next output c l = some d := by
  cases m with
  | own l =>
    simp only [next] at took
    split_ifs at took with inside
    exact ⟨l, Bool.eq_false_iff.mpr inside, took⟩
  | callPush =>
    simp only [next] at took
    split at took <;> simp_all [shows]
  | retPush =>
    simp only [next] at took
    split at took <;> simp_all [shows]
  | callPop k =>
    simp only [next] at took
    split at took <;> simp_all [shows]
  | retPop k p =>
    simp only [next] at took
    split at took <;> simp_all [shows]

/-- **One step over the blocking queues is one of `Player`, or nothing there.** -/
theorem step_merge {l : Joint Move (Kind × BlockingQueue.Label Packet Side)} (fits : Fits c q)
    (enabled : (Atomic output).next (c, q) l = some (d, r)) :
    Fits d r ∧ (Player.system output).Reaches (merge c q) (merge d r) := by
  cases l with
  | program m =>
    simp only [Component.inside] at enabled
    split_ifs at enabled with hidden
    obtain ⟨d', took, same⟩ := Option.map_eq_some_iff.mp enabled
    cases same
    obtain ⟨l, out, step⟩ := own_of_hidden hidden took
    refine ⟨fits.outside (outside_of_step out step), System.Reaches.single (l := l) ?_⟩
    exact (own out).trans (congrArg (Option.map (merge · q)) step)
  | component l =>
    obtain ⟨k, l⟩ := l
    simp only [Component.inside] at enabled
    split_ifs at enabled with hidden
    obtain ⟨r', took, same⟩ := Option.map_eq_some_iff.mp enabled
    cases same
    obtain ⟨b, step, moved⟩ := Option.map_eq_some_iff.mp took
    obtain ⟨t, call, -, at', rfl⟩ :=
      BlockingQueue.act_of_hidden (Option.map_eq_none_iff.mp hidden) step
    cases t with
    | demux =>
      have place := fits.push k
      rw [at'] at place
      cases place with
      | called here kind =>
        subst kind
        have act : Fits c r ∧ Player.next output (merge c q) .demux = some (merge c r) :=
          push_act fits here at' moved.symm
        exact ⟨act.1, System.Reaches.single (l := .demux) act.2⟩
    | decoder =>
      have place := fits.pop k
      rw [at'] at place
      cases place with
      | called here =>
        have act : Fits c r ∧ Player.next output (merge c q) (.decode k true) = some (merge c r) :=
          pop_act fits at' here moved.symm
        exact ⟨act.1, System.Reaches.single (l := .decode k true) act.2⟩
  | both m l =>
    obtain ⟨k, l⟩ := l
    simp only [Component.inside] at enabled
    split_ifs at enabled with shown
    obtain ⟨d', left, rest⟩ := Option.bind_eq_some_iff.mp enabled
    obtain ⟨r', right, same⟩ := Option.map_eq_some_iff.mp rest
    cases same
    obtain ⟨b, step, moved⟩ := Option.map_eq_some_iff.mp right
    have stays (result : Fits d r ∧ merge d r = merge c q) :
        Fits d r ∧ (Player.system output).Reaches (merge c q) (merge d r) :=
      ⟨result.1, result.2 ▸ System.Reaches.refl _⟩
    apply stays
    cases m with
    | own l => exact absurd rfl shown.1
    | callPush =>
      simp only [program, next, shows] at left shown
      split at left
      · next p here =>
        cases left
        simp only [here] at shown
        obtain ⟨e, event, same⟩ := Option.map_eq_some_iff.mp shown.2.symm
        cases same
        rw [BlockingQueue.put_of_call event step] at moved
        exact callPush_step fits here moved.symm
      · cases left
    | retPush =>
      simp only [program, next, shows] at left shown
      split at left
      · next p here =>
        cases left
        simp only [here] at shown
        obtain ⟨e, event, same⟩ := Option.map_eq_some_iff.mp shown.2.symm
        cases same
        obtain ⟨stored, rfl⟩ := BlockingQueue.put_of_ret event step
        exact retPush_step fits here stored moved.symm
      · cases left
    | callPop j =>
      simp only [program, next, shows] at left shown
      split at left
      · next here =>
        cases left
        simp only [here] at shown
        obtain ⟨e, event, same⟩ := Option.map_eq_some_iff.mp shown.2.symm
        cases same
        rw [BlockingQueue.put_of_call event step] at moved
        exact pop_step fits moved.symm (.called rfl) (by simp only [locAt, here])
      · cases left
    | retPop j p =>
      simp only [program, next, shows] at left shown
      split at left
      · next here =>
        cases left
        simp only [here] at shown
        obtain ⟨e, event, same⟩ := Option.map_eq_some_iff.mp shown.2.symm
        cases same
        obtain ⟨removed, rfl⟩ := BlockingQueue.put_of_ret event step
        exact pop_step fits moved.symm (.idle (by simp)) (by simp only [locAt, here, removed])
      · cases left

/-- The player over two queues of the class. -/
abbrev Real (output : Kind → FrameOutput) :=
  (program output).inside ((Queue.component Packet Side packetQueueSize).family Kind)

/-- **What `Player` has of a state of the threads and the queues**: everything outside the queues,
the packets in them, and where each thread is that is not in a call. -/
structure Shows (c : Player) (t : Kind → Queue.State Packet Side) (p : Player) : Prop where
  rest : { c with demux := p.demux, pushed := p.pushed, decode := p.decode } = p
  packets : ∀ k, (p.decode k).packetQueue = (t k).shared.queue
  decode : ∀ k, c.decode k =
    { p.decode k with loc := (c.decode k).loc, packetQueue := (c.decode k).packetQueue }
  demux : (∀ p', c.demux ≠ .pushWaiting p') → p.demux = c.demux ∧ p.pushed = c.pushed
  pushing : ∀ p', c.demux = .pushWaiting p' → p.demux ∈ [.pushing p', .pushWaiting p', .top] ∧
    p.pushed = if p.demux = .top then c.pushed ++ [p'] else c.pushed
  loc : ∀ k, (c.decode k).loc ≠ .popWaiting → (p.decode k).loc = (c.decode k).loc

theorem shows_merge {t : Kind → Queue.State Packet Side} (fits : Fits c q)
    (packets : ∀ k, (q k).queue = (t k).shared.queue) : Shows c t (merge c q) where
  rest := rfl
  packets := packets
  decode k := rfl
  demux out := by
    cases here : c.demux with
    | pushWaiting p => exact absurd here (out p)
    | _ => simp only [merge, demuxAt, pushedAt, here, and_self]
  pushing p here := by
    have place := fits.push p.kind
    generalize at' : (q p.kind).thread .demux = there at place
    cases place with
    | idle out => exact absurd rfl (out p here)
    | called => simp [merge, demuxAt, pushedAt, here, at']
    | waiting => simp [merge, demuxAt, pushedAt, here, at']
    | done => simp [merge, demuxAt, pushedAt, here, at']
  loc k out := by
    cases here : (c.decode k).loc with
    | popWaiting => exact absurd here out
    | _ => simp only [merge, decodeAt, locAt, here]

/-- **Whatever the player reaches over `Queue<T>`, `Player` reaches.** -/
def RefinesPlayer (output : Kind → FrameOutput) (file : List Packet) : Prop :=
  ∀ c t, (Real output).Reaches (Player.start file, fun _ => Queue.start Packet Side) (c, t) →
    ∃ p, (Player.system output).Reaches (Player.start file) p ∧ Shows c t p

theorem player_refines (output : Kind → FrameOutput) (file : List Packet) :
    RefinesPlayer output file := by
  intro c t reach
  obtain ⟨q, reach', atomic⟩ := (Queue.monitor_simulates.family (K := Kind)).inside (program output)
    (fun _ => Queue.atomic_start) reach
  have merged : Fits c q ∧ (Player.system output).Reaches (Player.start file) (merge c q) := by
    refine System.invariant_reaches (I := fun x : Player × Queues =>
      Fits x.1 x.2 ∧ (Player.system output).Reaches (Player.start file) (merge x.1 x.2))
      ?_ reach' ⟨fits_start file, System.Reaches.refl _⟩
    rintro ⟨c, q⟩ l ⟨d, r⟩ ⟨fits, before⟩ step
    obtain ⟨fits', more⟩ := step_merge fits step
    exact ⟨fits', before.trans more⟩
  exact ⟨merge c q, merged.2, shows_merge merged.1 fun k => (atomic k).queue⟩

/-- The decoder waits in the queue until the packet is pushed, and takes it. -/
example :
    let p : Packet := ⟨.audio, ⟨none, 0, 0, 0, 0, 0, 0, 0, 0, none, none⟩⟩
    ((Real fun _ => AudioDecode.output bytesPerSample).run
      (Player.start [p], fun _ => Queue.start Packet Side)
      ([.program (.own (.decode .audio true)),
          .both (.callPop .audio) (.audio, .call .decoder .popLock)] ++
        List.replicate 5 (.component (.audio, .step .decoder)) ++
        [.program (.own .demux), .program (.own .demux),
          .both .callPush (.audio, .call .demux (.pushLock p))] ++
        List.replicate 5 (.component (.audio, .step .demux)) ++
        [.both .retPush (.audio, .step .demux)] ++
        List.replicate 4 (.component (.audio, .step .decoder)) ++
        [.both (.retPop .audio p) (.audio, .step .decoder)])).map
      (fun x => (x.1.demux, (x.1.decode .audio).loc, x.1.pushed)) =
      some (.top, .decoding p.frame, [p]) := by
  rfl

end PlayerQueues

end Xplay
