/-
**`PacketQueue`: packets in a singly linked list kept by hand.**

Each call holds `mMutex` from its first access to its last, so a run is a sequence of calls; a
`getPacket` that waits has changed nothing, and looks again as a call of its own. A cell is a
`PacketList`; an access to one that is not allocated is `none`.

* `call` — what a call does and returns; `system` — the queue with the packets accepted and taken
  since the last `flush`.
* `Represents` — the list that starts at `first_pkt`, and what the other members say about it.
* `represents_call` — the step lemma: every call keeps this, and none touches a freed cell.
* `packetQueue_holds` — **in every state the two pointers are the ends of the list, the counters count
  it, and it holds the accepted packets that nobody has taken.**
-/

import Xplay.Lib.LinkedList
import Xplay.Lib.System
import Mathlib.Data.BitVec

set_option linter.unusedSectionVars false

namespace Xplay

open Lib

namespace PacketQueue

/-- `AVPacket`: the fields the queue reads or sets. -/
structure AVPacket where
  data : Option Nat
  size : BitVec 32
  stream_index : Int
  duration : BitVec 64
  deriving DecidableEq

/-- What the queue depends on: the bits of a `size_t`, no fewer than those of an `int`, and the size
of a `PacketList`. -/
structure Platform where
  size_t : Nat
  wide : 32 ≤ size_t
  sizeofPacketList : Nat

end PacketQueue

/-- The members of `PacketQueue`, and the cells allocated for it. `nb_packets` is an `int` that does not
overflow: it counts cells of 96 bytes, and `2^31` of them do not fit into the memory of the targets. -/
structure PacketQueue (Addr : Type) where
  heap : Cells Addr PacketQueue.AVPacket
  first_pkt : Option Addr
  last_pkt : Option Addr
  nb_packets : Int
  size : BitVec 32
  duration : BitVec 64
  abort_request : Bool

namespace PacketQueue

variable {Addr : Type} [DecidableEq Addr] (platform : Platform)

/-- `PacketQueue::PacketQueue`. -/
def constructed (Addr : Type) : PacketQueue Addr := ⟨∅, none, none, 0, 0, 0, false⟩

/-- `pkt1->pkt.size + sizeof(*pkt1)`, a `size_t`. -/
def bytes (pkt : AVPacket) : BitVec platform.size_t :=
  pkt.size.signExtend platform.size_t + BitVec.ofNat platform.size_t platform.sizeofPacketList

/-- What a call returns: the value and `*pkt`, nothing, or not yet. -/
inductive Result
  | returns (ret : Int) (pkt : Option AVPacket)
  | done
  | waits
  deriving DecidableEq

/-- `put`; `malloc` is what `av_malloc` returns. -/
def put (q : PacketQueue Addr) (pkt : AVPacket) (malloc : Option Addr) :
    Option (Int × PacketQueue Addr) :=
  if q.abort_request then some (-1, q)
  else
    match malloc with
    | none => some (-1, q)
    | some pkt1 => do
      let heap := q.heap.insert pkt1 ⟨pkt, none⟩
      let (heap, first_pkt) ←
        match q.last_pkt with
        | none => some (heap, some pkt1)
        | some last => do
          let cell ← heap.lookup last
          some (heap.insert last { cell with next := some pkt1 }, q.first_pkt)
      some (0, { q with
        heap := heap
        first_pkt := first_pkt
        last_pkt := some pkt1
        nb_packets := q.nb_packets + 1
        size := (q.size.signExtend platform.size_t + bytes platform pkt).setWidth 32
        duration := q.duration + pkt.duration })

/-- `pushPacket`. -/
def pushPacket (q : PacketQueue Addr) (pkt : AVPacket) (malloc : Option Addr) :
    Option (Result × PacketQueue Addr) := do
  let (ret, q) ← q.put platform pkt malloc
  some (.returns ret none, q)

/-- The packet of `pushNullPacket`, after `av_init_packet`. -/
def nullPacket (stream_index : Int) : AVPacket := ⟨none, 0, stream_index, 0⟩

/-- `getPacket`, up to its return or its wait. -/
def getPacket (q : PacketQueue Addr) (block : Int) : Option (Result × PacketQueue Addr) :=
  if q.abort_request then some (.returns (-1) none, q)
  else
    match q.first_pkt with
    | some pkt1 => do
      let cell ← q.heap.lookup pkt1
      some (.returns 1 (some cell.value), { q with
        heap := q.heap.erase pkt1
        first_pkt := cell.next
        last_pkt := if cell.next = none then none else q.last_pkt
        nb_packets := q.nb_packets - 1
        size := (q.size.signExtend platform.size_t - bytes platform cell.value).setWidth 32
        duration := q.duration - cell.value.duration })
    | none => if block = 0 then some (.returns 0 none, q) else some (.waits, q)

/-- `flush`. -/
def flush (q : PacketQueue Addr) : Option (Result × PacketQueue Addr) := do
  -- `pkt1 = pkt->next` is read before `av_freep(&pkt)`
  let heap ← q.heap.freeFrom q.first_pkt
  some (.done, { q with
    heap := heap
    first_pkt := none
    last_pkt := none
    nb_packets := 0
    size := 0
    duration := 0 })

/-- A call, with what `av_malloc` returns in it. -/
inductive Call (Addr : Type)
  | pushPacket (pkt : AVPacket) (malloc : Option Addr)
  | pushNullPacket (stream_index : Int) (malloc : Option Addr)
  | getPacket (block : Int)
  | flush
  | abort
  | start

/-- What a call does and returns. -/
def call (q : PacketQueue Addr) : Call Addr → Option (Result × PacketQueue Addr)
  | .pushPacket pkt malloc => q.pushPacket platform pkt malloc
  | .pushNullPacket stream_index malloc => q.pushPacket platform (nullPacket stream_index) malloc
  | .getPacket block => q.getPacket platform block
  | .flush => q.flush
  | .abort => some (.done, { q with abort_request := true })
  | .start => some (.done, { q with abort_request := false })

/-- The packet that the call is to put into the queue. -/
def Call.packet : Call Addr → Option AVPacket
  | .pushPacket pkt _ => some pkt
  | .pushNullPacket stream_index _ => some (nullPacket stream_index)
  | _ => none

/-- `av_malloc` fails or returns an address that is not in use. -/
def Call.fresh (heap : Cells Addr AVPacket) : Call Addr → Bool
  | .pushPacket _ malloc | .pushNullPacket _ malloc =>
    malloc.all fun a => (heap.lookup a).isNone
  | _ => true

/-- A queue with the packets accepted and taken since the last `flush`. -/
structure History (Addr : Type) where
  queue : PacketQueue Addr
  accepted : List AVPacket
  taken : List AVPacket

/-- The histories after a call that has returned. -/
def History.record (h : History Addr) (c : Call Addr) (result : Result) (q : PacketQueue Addr) :
    History Addr :=
  match c, result with
  | .pushPacket pkt _, .returns 0 _ => { h with queue := q, accepted := h.accepted ++ [pkt] }
  | .pushNullPacket stream_index _, .returns 0 _ =>
    { h with queue := q, accepted := h.accepted ++ [nullPacket stream_index] }
  | .getPacket _, .returns 1 (some pkt) => { h with queue := q, taken := h.taken ++ [pkt] }
  | .flush, _ => ⟨q, [], []⟩
  | _, _ => { h with queue := q }

/-- The queue under any sequence of calls, with any outcomes of `av_malloc`. -/
def system (Addr : Type) [DecidableEq Addr] (platform : Platform) :
    System (History Addr) (Call Addr) where
  next h c :=
    if c.fresh h.queue.heap then
      (h.queue.call platform c).map fun returned => h.record c returned.1 returned.2
    else none

/-- The call gives up: `getPacket` returns -1 or 0, or a push returns -1. -/
def Refused : Call Addr → Result → Bool
  | .getPacket _, .returns ret _ => ret == -1 || ret == 0
  | .pushPacket _ _, .returns ret _ | .pushNullPacket _ _, .returns ret _ => ret == -1
  | _, _ => false

/-! ### The list and what the members say about it -/

/-- What a packet adds to `size`, as an integer. -/
def weight (pkt : AVPacket) : Int := pkt.size.toInt + platform.sizeofPacketList

/-- A sum over the packets of the list. -/
def total (f : AVPacket → Int) (nodes : List (Addr × AVPacket)) : Int :=
  (nodes.map fun node => f node.2).sum

/-- **The list from `first_pkt` on, its last cell and its counters.** -/
structure Represents (q : PacketQueue Addr) (nodes : List (Addr × AVPacket)) : Prop where
  chain : q.heap.Chain q.first_pkt nodes
  last : q.last_pkt = nodes.getLast?.map Prod.fst
  nb_packets : q.nb_packets = nodes.length
  size : q.size = BitVec.ofInt 32 (total (weight platform) nodes)
  duration : q.duration = BitVec.ofInt 64 (total (fun pkt => pkt.duration.toInt) nodes)

variable {platform}

theorem represents_constructed : Represents platform (constructed Addr) [] where
  chain := .nil
  last := rfl
  nb_packets := rfl
  size := rfl
  duration := rfl

theorem total_snoc (f : AVPacket → Int) (nodes : List (Addr × AVPacket)) (node : Addr × AVPacket) :
    total f (nodes ++ [node]) = total f nodes + f node.2 := by
  simp [total]

theorem total_cons (f : AVPacket → Int) (nodes : List (Addr × AVPacket)) (node : Addr × AVPacket) :
    total f (node :: nodes) = f node.2 + total f nodes := by
  simp [total]

/-- An `int` that becomes a `size_t` and an `int` again is unchanged. -/
theorem setWidth_signExtend (x : BitVec 32) :
    (x.signExtend platform.size_t).setWidth 32 = x := by
  have wide := platform.wide
  ext i inside
  simp only [BitVec.getElem_setWidth, BitVec.getLsbD_signExtend]
  have narrow : i < platform.size_t := by omega
  simp [inside, narrow]

theorem setWidth_bytes (pkt : AVPacket) :
    (bytes platform pkt).setWidth 32 = BitVec.ofInt 32 (weight platform pkt) := by
  rw [bytes, BitVec.setWidth_add _ _ platform.wide, setWidth_signExtend,
    BitVec.setWidth_ofNat_of_le platform.wide, weight, BitVec.ofInt_add, BitVec.ofInt_toInt,
    BitVec.ofInt_natCast]

/-- **Mixing `int` and `size_t`, `size` moves by the packet's weight modulo 2^32.** -/
theorem size_add (size : BitVec 32) (pkt : AVPacket) :
    (size.signExtend platform.size_t + bytes platform pkt).setWidth 32 =
      size + BitVec.ofInt 32 (weight platform pkt) := by
  rw [BitVec.setWidth_add _ _ platform.wide, setWidth_signExtend, setWidth_bytes]

theorem size_sub (size : BitVec 32) (pkt : AVPacket) :
    (size.signExtend platform.size_t - bytes platform pkt).setWidth 32 =
      size - BitVec.ofInt 32 (weight platform pkt) := by
  rw [BitVec.sub_eq_add_neg, BitVec.setWidth_add _ _ platform.wide, setWidth_signExtend,
    BitVec.setWidth_neg_of_le platform.wide, setWidth_bytes, BitVec.sub_eq_add_neg]

/-! ### What a call can do -/

/-- **What a call does to the list**, and what it returns. -/
inductive Effect (q q' : PacketQueue Addr) (nodes : List (Addr × AVPacket)) :
    Call Addr → Result → List (Addr × AVPacket) → Prop
  | accepts {c a pkt} (packet : c.packet = some pkt) :
      Effect q q' nodes c (.returns 0 none) (nodes ++ [(a, pkt)])
  | refuses {c pkt} (packet : c.packet = some pkt) (same : q' = q) :
      Effect q q' nodes c (.returns (-1) none) nodes
  | takes {block a pkt rest} (front : nodes = (a, pkt) :: rest) :
      Effect q q' nodes (.getPacket block) (.returns 1 (some pkt)) rest
  | aborted {block} (same : q' = q) : Effect q q' nodes (.getPacket block) (.returns (-1) none) nodes
  | empty {block} (same : q' = q) : Effect q q' nodes (.getPacket block) (.returns 0 none) nodes
  | waits {block} (same : q' = q) : Effect q q' nodes (.getPacket block) .waits nodes
  | flushes : Effect q q' nodes .flush .done []
  | aborts : Effect q q' nodes .abort .done nodes
  | starts : Effect q q' nodes .start .done nodes

variable {q q' : PacketQueue Addr} {nodes nodes' : List (Addr × AVPacket)}

/-- **A push appends**: `last_pkt` is where the list ends. -/
theorem represents_put (represents : Represents platform q nodes) {a : Addr} (fresh : a ∉ q.heap)
    (running : q.abort_request = false) (pkt : AVPacket) :
    ∃ q', q.put platform pkt (some a) = some (0, q') ∧
      Represents platform q' (nodes ++ [(a, pkt)]) := by
  have counted : q.nb_packets + 1 = ((nodes ++ [(a, pkt)]).length : Int) := by
    rw [represents.nb_packets, List.length_append, List.length_singleton, Nat.cast_succ]
  have sized : (q.size.signExtend platform.size_t + bytes platform pkt).setWidth 32 =
      BitVec.ofInt 32 (total (weight platform) (nodes ++ [(a, pkt)])) := by
    rw [size_add, represents.size, total_snoc, BitVec.ofInt_add]
  have lasts : q.duration + pkt.duration =
      BitVec.ofInt 64 (total (fun pkt => pkt.duration.toInt) (nodes ++ [(a, pkt)])) := by
    rw [represents.duration, total_snoc, BitVec.ofInt_add, BitVec.ofInt_toInt]
  have chain := represents.chain
  have last := represents.last
  rcases List.eq_nil_or_concat' nodes with rfl | ⟨front, ⟨end_, x⟩, rfl⟩
  · have empty := chain.eq_nil_iff.mp rfl
    simp only [List.getLast?_nil, Option.map_none] at last
    simp only [put, running, last, Bool.false_eq_true, if_false]
    exact ⟨_, rfl, .singleton _ _ _, rfl, counted, sized, lasts⟩
  · have other : end_ ≠ a := by
      rintro rfl
      exact fresh (chain.mem_of_address (by simp))
    have here : (q.heap.insert a ⟨pkt, none⟩).lookup end_ = some ⟨x, none⟩ := by
      rw [Finmap.lookup_insert_of_ne _ other, chain.lookup_last]
    simp only [List.getLast?_append, List.getLast?_singleton, Option.some_or, Option.map_some] at last
    simp only [put, running, last, here, Bool.false_eq_true, if_false]
    refine ⟨_, rfl, ?_, ?_, counted, sized, lasts⟩
    · rw [List.append_assoc]
      exact chain.snoc fresh
    · simp

/-- **`getPacket` takes the front**: `last_pkt` follows when it was the only cell. -/
theorem represents_getPacket {a : Addr} {pkt : AVPacket} {rest : List (Addr × AVPacket)}
    (represents : Represents platform q ((a, pkt) :: rest)) (running : q.abort_request = false)
    (block : Int) :
    ∃ q', q.getPacket platform block = some (.returns 1 (some pkt), q') ∧
      Represents platform q' rest := by
  have counted : q.nb_packets - 1 = (rest.length : Int) := by
    rw [represents.nb_packets, List.length_cons, Nat.cast_succ, add_sub_cancel_right]
  have sized : (q.size.signExtend platform.size_t - bytes platform pkt).setWidth 32 =
      BitVec.ofInt 32 (total (weight platform) rest) := by
    rw [size_sub, represents.size, total_cons, BitVec.ofInt_add]
    exact add_sub_cancel_left _ _
  have lasts : q.duration - pkt.duration =
      BitVec.ofInt 64 (total (fun pkt => pkt.duration.toInt) rest) := by
    rw [represents.duration, total_cons, BitVec.ofInt_add, BitVec.ofInt_toInt]
    exact add_sub_cancel_left _ _
  have chain := represents.chain
  have last := represents.last
  have apart := (List.nodup_cons.mp chain.nodup).1
  generalize starts : q.first_pkt = first at chain
  cases chain with
  | @cons _ _ next _ here tail =>
    simp only [getPacket, running, starts, here, Bool.false_eq_true, if_false]
    refine ⟨_, rfl, ?_, ?_, counted, sized, lasts⟩
    · exact tail.frame fun b member =>
        Finmap.lookup_erase_ne (ne_of_mem_of_not_mem member apart)
    · cases rest with
      | nil =>
        cases tail
        rfl
      | cons node rest =>
        cases tail with
        | cons there deeper => simpa using last

theorem represents_flush (represents : Represents platform q nodes) :
    ∃ q', q.flush = some (.done, q') ∧ Represents platform q' [] := by
  obtain ⟨heap', freed, -⟩ := represents.chain.freeFrom
  simp only [flush, freed]
  exact ⟨_, rfl, .nil, rfl, rfl, rfl, rfl⟩

theorem effect_of_push (represents : Represents platform q nodes) {c : Call Addr} {pkt : AVPacket}
    {malloc : Option Addr} (packet : c.packet = some pkt)
    (fresh : malloc.all (fun a => (q.heap.lookup a).isNone) = true) :
    ∃ result q' nodes', q.pushPacket platform pkt malloc = some (result, q') ∧
      Represents platform q' nodes' ∧ Effect q q' nodes c result nodes' := by
  cases aborted : q.abort_request with
  | true =>
    refine ⟨_, q, nodes, ?_, represents, .refuses packet rfl⟩
    simp only [pushPacket, put, aborted, if_true]
    rfl
  | false =>
    cases malloc with
    | none =>
      refine ⟨_, q, nodes, ?_, represents, .refuses packet rfl⟩
      simp only [pushPacket, put, aborted, Bool.false_eq_true, if_false]
      rfl
    | some a =>
      have unused : a ∉ q.heap := Finmap.lookup_eq_none.mp (by simpa using fresh)
      obtain ⟨q', puts, represents'⟩ := represents_put represents unused aborted pkt
      refine ⟨_, q', _, ?_, represents', .accepts packet⟩
      simp only [pushPacket, puts]
      rfl

theorem effect_of_getPacket (represents : Represents platform q nodes) (block : Int) :
    ∃ result q' nodes', q.getPacket platform block = some (result, q') ∧
      Represents platform q' nodes' ∧ Effect q q' nodes (.getPacket block) result nodes' := by
  cases aborted : q.abort_request with
  | true =>
    refine ⟨_, q, nodes, ?_, represents, .aborted rfl⟩
    simp only [getPacket, aborted, if_true]
  | false =>
    cases nodes with
    | nil =>
      have empty := represents.chain.eq_nil_iff.mp rfl
      by_cases blocks : block = 0
      · refine ⟨_, q, [], ?_, represents, .empty rfl⟩
        simp only [getPacket, aborted, empty, blocks, Bool.false_eq_true, if_false, if_true]
      · refine ⟨_, q, [], ?_, represents, .waits rfl⟩
        simp only [getPacket, aborted, empty, blocks, Bool.false_eq_true, if_false]
    | cons node rest =>
      obtain ⟨q', takes, represents'⟩ := represents_getPacket represents aborted block
      exact ⟨_, q', rest, takes, represents', .takes rfl⟩

/-- **The step lemma**: every call keeps the list and its counters, and none touches a cell that is
not allocated. -/
theorem represents_call (represents : Represents platform q nodes) {c : Call Addr}
    (fresh : c.fresh q.heap = true) :
    ∃ result q' nodes', q.call platform c = some (result, q') ∧
      Represents platform q' nodes' ∧ Effect q q' nodes c result nodes' := by
  cases c with
  | pushPacket pkt malloc => exact effect_of_push represents rfl fresh
  | pushNullPacket stream_index malloc => exact effect_of_push represents rfl fresh
  | getPacket block => exact effect_of_getPacket represents block
  | flush =>
    obtain ⟨q', freed, represents'⟩ := represents_flush represents
    exact ⟨_, q', [], freed, represents', .flushes⟩
  | abort => exact ⟨_, _, nodes, rfl, { represents with }, .aborts⟩
  | start => exact ⟨_, _, nodes, rfl, { represents with }, .starts⟩

/-- A call that gives up leaves the queue as it is. -/
theorem Effect.same {c : Call Addr} {result : Result} (effect : Effect q q' nodes c result nodes')
    (refused : Refused c result = true) : q' = q := by
  cases effect with
  | accepts packet =>
    cases c with
    | pushPacket pkt malloc => cases refused
    | pushNullPacket stream_index malloc => cases refused
    | _ => cases packet
  | refuses packet same => exact same
  | takes front => cases refused
  | aborted same => exact same
  | empty same => exact same
  | waits same => exact same
  | flushes => cases refused
  | aborts => cases refused
  | starts => cases refused

/-- **The list holds what was accepted and not taken**, in order. -/
theorem Effect.fifo {h : History Addr} {c : Call Addr} {result : Result}
    (effect : Effect h.queue q' nodes c result nodes')
    (fifo : h.accepted = h.taken ++ nodes.map Prod.snd) :
    (h.record c result q').queue = q' ∧
      (h.record c result q').accepted = (h.record c result q').taken ++ nodes'.map Prod.snd := by
  cases effect with
  | accepts packet =>
    cases c with
    | pushPacket pkt malloc =>
      cases packet
      exact ⟨rfl, by simp [History.record, fifo]⟩
    | pushNullPacket stream_index malloc =>
      cases packet
      exact ⟨rfl, by simp [History.record, fifo]⟩
    | _ => cases packet
  | refuses packet same =>
    cases c with
    | pushPacket pkt malloc => exact ⟨rfl, fifo⟩
    | pushNullPacket stream_index malloc => exact ⟨rfl, fifo⟩
    | _ => cases packet
  | takes front =>
    subst front
    exact ⟨rfl, by simp [History.record, fifo]⟩
  | flushes => exact ⟨rfl, rfl⟩
  | _ => exact ⟨rfl, fifo⟩

/-! ### The main result -/

/-- **A sound queue**: the pointers are the ends of one list that leads to the null pointer, the
counters count it, it holds what was accepted since the last `flush` and not taken, and every call is
defined and changes nothing when it gives up. -/
structure Sound (platform : Platform) (h : History Addr) : Prop where
  null : h.queue.last_pkt = none ↔ h.queue.first_pkt = none
  last : ∀ a, h.queue.last_pkt = some a → h.queue.heap.Reaches h.queue.first_pkt a ∧
    ∃ pkt, h.queue.heap.lookup a = some ⟨pkt, none⟩
  list : ∃ nodes, h.queue.heap.Chain h.queue.first_pkt nodes ∧
    h.queue.nb_packets = nodes.length ∧
    h.queue.size = BitVec.ofInt 32 (total (weight platform) nodes) ∧
    h.queue.duration = BitVec.ofInt 64 (total (fun pkt => pkt.duration.toInt) nodes) ∧
    h.accepted = h.taken ++ nodes.map Prod.snd
  emptied : h.queue.first_pkt = none →
    h.queue.nb_packets = 0 ∧ h.queue.size = 0 ∧ h.queue.duration = 0
  defined : ∀ c, c.fresh h.queue.heap = true → (h.queue.call platform c).isSome
  refused : ∀ c result q', c.fresh h.queue.heap = true →
    h.queue.call platform c = some (result, q') → Refused c result = true → q' = h.queue

/-- The invariant of the runs. -/
def Kept (platform : Platform) (h : History Addr) : Prop :=
  ∃ nodes, Represents platform h.queue nodes ∧ h.accepted = h.taken ++ nodes.map Prod.snd

theorem Kept.sound {h : History Addr} (kept : Kept platform h) : Sound platform h := by
  obtain ⟨nodes, represents, fifo⟩ := kept
  have chain := represents.chain
  refine
    { null := ?_
      last := fun a ends => ?_
      list := ⟨nodes, chain, represents.nb_packets, represents.size, represents.duration, fifo⟩
      emptied := fun empty => ?_
      defined := fun c fresh => ?_
      refused := fun c result q' fresh returned refused => ?_ }
  · rw [← chain.eq_nil_iff, represents.last, Option.map_eq_none_iff, List.getLast?_eq_none_iff]
  · rw [represents.last] at ends
    rcases List.eq_nil_or_concat' nodes with rfl | ⟨front, ⟨end_, x⟩, rfl⟩
    · cases ends
    · simp only [List.getLast?_append, List.getLast?_singleton, Option.some_or, Option.map_some,
        Option.some.injEq] at ends
      subst ends
      exact ⟨chain.reaches (by simp), x, chain.lookup_last⟩
  · have nothing := chain.eq_nil_iff.mpr empty
    subst nothing
    exact ⟨represents.nb_packets, represents.size, represents.duration⟩
  · obtain ⟨result, q', -, returned, -, -⟩ := represents_call represents fresh
    rw [returned]
    rfl
  · obtain ⟨result', q'', nodes', returned', -, effect⟩ := represents_call represents fresh
    obtain ⟨rfl, rfl⟩ := Prod.mk.inj (Option.some.inj (returned.symm.trans returned'))
    exact effect.same refused

theorem kept_step {h h' : History Addr} {c : Call Addr} (kept : Kept platform h)
    (step : (system Addr platform).next h c = some h') : Kept platform h' := by
  obtain ⟨nodes, represents, fifo⟩ := kept
  simp only [system] at step
  split at step
  case isTrue fresh =>
    obtain ⟨result, q', nodes', returned, represents', effect⟩ := represents_call represents fresh
    rw [returned, Option.map_some, Option.some.injEq] at step
    subst step
    obtain ⟨queue, fifo'⟩ := effect.fifo fifo
    refine ⟨nodes', ?_, fifo'⟩
    rw [queue]
    exact represents'
  case isFalse => cases step

/-- **Every sequence of calls, with `av_malloc` failing wherever it may, leaves a sound queue.** -/
theorem packetQueue_holds (platform : Platform) (calls : List (Call Addr)) (h : History Addr)
    (run : (system Addr platform).run ⟨constructed Addr, [], []⟩ calls = some h) :
    Sound platform h := by
  have kept : Kept platform h :=
    System.invariant_run (I := Kept platform) (fun _ _ _ kept step => kept_step kept step) run
      ⟨[], represents_constructed, rfl⟩
  exact kept.sound

/-- A `size_t` of 64 bits and cells of 96 bytes. -/
def bits64 : Platform := ⟨64, by decide, 96⟩

/-- A push, a null packet, a failed allocation and a `getPacket`. -/
def pushes : List (Call Nat) :=
  [.pushPacket ⟨some 5, 100, 0, 40⟩ (some 1), .pushNullPacket 0 (some 2),
    .pushPacket ⟨some 6, 200, 0, 40⟩ none, .getPacket 1]

/-- The null packet is left. -/
theorem packetQueue_holds_pushes :
    ∃ h, (system Nat bits64).run ⟨constructed Nat, [], []⟩ pushes = some h ∧
      h.queue.first_pkt = some 2 ∧ h.queue.last_pkt = some 2 ∧ h.queue.size = 96 ∧
      Sound bits64 h :=
  ⟨_, rfl, rfl, rfl, rfl, packetQueue_holds bits64 pushes _ rfl⟩

/-- A push that returns 0 has changed the list and the counters. -/
theorem push_returns_zero :
    ∃ q', (constructed Nat).call bits64 (.pushPacket ⟨some 5, 100, 0, 40⟩ (some 1)) =
        some (.returns 0 none, q') ∧
      q'.first_pkt = some 1 ∧ (constructed Nat).first_pkt = none ∧
      q'.nb_packets = 1 ∧ (constructed Nat).nb_packets = 0 :=
  ⟨_, rfl, rfl, rfl, rfl, rfl⟩

end PacketQueue

end Xplay
