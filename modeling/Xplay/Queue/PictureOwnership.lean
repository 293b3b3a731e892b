/-
**Who releases a decoded picture.**

`VideoDecode::decodePacket` decodes into an `AVFrame` of its own, and moves the picture into the
`AVFrame` of the slot it was granted; `MediaSync2::videoPlay` draws what the slot's `decodeDatas`
points at, and `popFrame` releases the slot's picture. `decodeDatas` is a copy of the pointers, which
`unrefFrame` does not clear, and `decodePacket` writes `size` before it. The pictures are cells of a
`Heap`, over the hand-off of the two threads.

The copy of the pointers and the move of the picture are one step here: in between the pointers name
the picture of the decoder's own frame. The `AVFrame` structures themselves are left out.

* `pictures_owned_iff` — every picture is owned throughout a run exactly if none is drawn from a slot
  whose pointers the decoder has not replaced yet.
* `flush_leaves` — `flush`, with which `~IDecode` ends, releases all pictures but the kept one.
-/

import Xplay.Lib.Fate
import Xplay.Lib.Loop
import Xplay.Lib.Ownership
import Xplay.Queue.FrameQueueHandOff

namespace Xplay.PictureOwnership

open Lib FrameQueue

/-- What a slot points at: the picture its `AVFrame` owns, and `decodeDatas`. -/
structure Slot where
  frame : Option Nat
  decodeDatas : Option Nat

/-- The hand-off with its pictures. `frame` is the one the decoder's own `AVFrame` owns. `copied`: the
decoder has replaced the pointers of the slot it filled; `drawn`: `videoPlay` has drawn the frame it
saw. -/
structure Pictures where
  base : HandOff
  heap : Heap
  frame : Option Nat
  slots : Nat → Slot
  copied : Bool
  drawn : Bool

inductive Label
  | receive (ret : Int) (frame : AVFrame)
  | obtain
  /-- The fields of the slot, up to `size`. -/
  | fill
  /-- `memcpy` and `av_frame_move_ref`. -/
  | copy
  | push
  | look
  | render
  | pop

namespace Pictures

def start (maxSize : Nat) : Pictures :=
  ⟨HandOff.start maxSize, Heap.empty, none, fun _ => ⟨none, none⟩, false, false⟩

/-- `av_frame_unref` and `av_frame_move_ref`, after the pointers were copied. -/
def moveRef (s : Pictures) (k : Nat) : Pictures :=
  { s with
    heap := s.heap.releaseAt (s.slots k).frame
    frame := none
    slots := Function.update s.slots k ⟨s.frame, s.frame⟩
    copied := true }

/-- The slots and the pictures after `popFrame`. -/
def unref (s : Pictures) : Pictures :=
  match s.base.queue.clears with
  | none => s
  | some k =>
    { s with
      heap := s.heap.releaseAt (s.slots k).frame
      slots := Function.update s.slots k { s.slots k with frame := none } }

/-- `GLVideoView::render` reads the pointers of the current frame, if it has any. -/
def render (s : Pictures) : Heap :=
  if s.base.queue.currentFrame.size = 0 then s.heap
  else (s.slots s.base.queue.currentIndex).decodeDatas.elim s.heap s.heap.use

/-- **One step**, of a decoder that hands frames on as `output` says. -/
def next (output : FrameOutput) (s : Pictures) : Label → Option Pictures
  | .receive ret frame =>
    (HandOff.next output s.base (.receive ret frame)).map fun base =>
      if ret < 0 then { s with base := base }
      else { s with base := base, heap := s.heap.alloc, frame := some s.heap.fresh }
  | .obtain => (HandOff.next output s.base .obtain).map fun base => { s with base := base }
  | .fill =>
    (HandOff.next output s.base .fill).map fun base => { s with base := base, copied := false }
  | .copy =>
    match s.base.producer with
    | .filled k => if s.copied then none else some (s.moveRef k)
    | _ => none
  | .push =>
    if s.copied then
      (HandOff.next output s.base .push).map fun base => { s with base := base }
    else none
  | .look =>
    (HandOff.next output s.base .look).map fun base => { s with base := base, drawn := false }
  | .render =>
    if s.base.consumer = .popping ∧ s.drawn = false then
      some { s with heap := s.render, drawn := true }
    else none
  | .pop =>
    if s.drawn then
      (HandOff.next output s.base .pop).map fun base => { s.unref with base := base }
    else none

def system (tb frame_rate : AVRational) : System Pictures Label :=
  ⟨next (VideoDecode.output tb frame_rate)⟩

/-- The pictures that somebody is to release: the decoder's own, and those of the slots. -/
def held (s : Pictures) : List Nat :=
  s.frame.toList ++ slotted (List.range s.base.queue.maxSize) (Slot.frame ∘ s.slots)

/-- **Every picture is held once or was released once, and no released picture was drawn.** -/
def Owned (s : Pictures) : Prop := s.heap.Accounts s.held

/-- The slot that is filled and still has the pointers it had. -/
def copying (s : Pictures) : Option Nat :=
  match s.base.producer with
  | .filled k => if s.copied then none else some k
  | _ => none

/-- **What is drawn has pointers of its own**: the current frame is not the one the decoder is
filling, unless its slot was not used before. -/
def Whole (s : Pictures) : Label → Prop
  | .render =>
    s.base.queue.currentFrame.size ≠ 0 → s.copying = some s.base.queue.currentIndex →
      (s.slots s.base.queue.currentIndex).decodeDatas = none
  | _ => True

end Pictures

/-! ### The slots of the ring -/

/-- The slot owns no picture, and its pointers name none that is left. -/
def Spent (h : Heap) (x : Slot) : Prop :=
  x.frame = none ∧ ∀ p, x.decodeDatas = some p → h.released p ≠ 0

theorem Spent.later {h h' : Heap} {x : Slot} (spent : Spent h x) (later : h.Later h') :
    Spent h' x :=
  ⟨spent.1, fun p names => later.released p (spent.2 p names)⟩

/-- **The slots from `lo` on own the pictures that they point at**, and the others are spent. -/
structure Stored (h : Heap) (slots : Nat → Slot) (m lo : Nat) (content : List Slot) : Prop where
  window : Window slots m lo content
  own : ∀ x ∈ content, x.decodeDatas = x.frame
  spent : Outside slots m lo content.length (Spent h)

namespace Stored

variable {h h' : Heap} {slots : Nat → Slot} {m lo : Nat} {content : List Slot}

theorem later (stored : Stored h slots m lo content) (later : h.Later h') :
    Stored h' slots m lo content :=
  ⟨stored.window, stored.own, fun i behind below => (stored.spent i behind below).later later⟩

theorem empty (m lo : Nat) : Stored h (fun _ => ⟨none, none⟩) m lo [] :=
  ⟨Window.empty, fun _ member => absurd member List.not_mem_nil, fun _ _ _ => ⟨rfl, nofun⟩⟩

/-- **A picture is moved** into the first slot behind the stored ones. -/
theorem append (stored : Stored h slots m lo content) (room : content.length < m)
    (picture : Option Nat) :
    Stored h (Function.update slots ((lo + content.length) % m) ⟨picture, picture⟩) m lo
      (content ++ [⟨picture, picture⟩]) where
  window := stored.window.append room _
  own x member := by
    rcases List.mem_append.mp member with before | new
    · exact stored.own x before
    · rw [List.mem_singleton.mp new]
  spent := by
    rw [List.length_append]
    exact stored.spent.append _

/-- **The picture at `lo` is released**, and the pointers to it stay. -/
theorem clear {x : Slot} (stored : Stored h slots m lo (x :: content)) (below : lo < m) :
    Stored (h.releaseAt x.frame) (Function.update slots lo { x with frame := none }) m
      ((lo + 1) % m) content where
  window := stored.window.clear_head below _
  own y member := stored.own y (List.mem_cons_of_mem x member)
  spent := by
    have later := h.later_releaseAt x.frame
    have others : Outside slots m lo (content.length + 1) (Spent (h.releaseAt x.frame)) :=
      fun i behind inside => (stored.spent i behind inside).later later
    refine others.clear_head below ⟨rfl, fun p names => ?_⟩
    have same : x.frame = some p := (stored.own x List.mem_cons_self).symm.trans names
    rw [same]
    show (h.release p).released p ≠ 0
    rw [Heap.release_released]
    exact Nat.succ_ne_zero _

/-- The slots that are not stored own nothing. -/
theorem frame_eq_none (stored : Stored h slots m lo content) {k : Nat}
    (behind : content.length ≤ k) (below : k < m) : (slots ((lo + k) % m)).frame = none :=
  (stored.spent k behind below).1

end Stored

namespace Pictures

variable {output : FrameOutput} {s t : Pictures} {more : Nat}

/-- **The ring of slots**: those that the counter tells, and `more`, own pictures, and everything is
accounted for. -/
structure Kept (s : Pictures) (more : Nat) : Prop where
  stored : ∃ content, Stored s.heap s.slots s.base.queue.maxSize s.base.queue.rindex content ∧
    content.length = s.base.queue.size + more
  accounts : s.Owned

theorem kept_start (maxSize : Nat) : Kept (start maxSize) 0 := by
  refine ⟨⟨[], Stored.empty .., rfl⟩, Heap.accounts_empty.perm ?_⟩
  have none : slotted (List.range (min maxSize FRAME_QUEUE_SIZE)) (fun _ => none) = [] :=
    List.filterMap_eq_nil_iff.mpr fun _ _ => rfl
  exact .of_eq none

/-- **`popFrame`** releases the picture at `rindex`, past its keep-last branch. -/
theorem Kept.pop (kept : s.Kept more) (below : s.base.queue.rindex < s.base.queue.maxSize)
    (counted : s.base.queue.clears ≠ none → 0 < s.base.queue.size) (base : HandOff)
    (same : base.queue = s.base.queue.popFrame) : Kept { s.unref with base := base } more := by
  by_cases keep : s.base.queue.keepLast = true ∧ s.base.queue.showIndex = 0
  · have idle : s.unref = s := by rw [unref, clears_of_keep keep]
    rw [popFrame_of_keep keep] at same
    rw [idle]
    refine ⟨?_, ?_⟩
    · dsimp only
      rw [same]
      exact kept.stored
    · show s.heap.Accounts
        (s.frame.toList ++ slotted (List.range base.queue.maxSize) (Slot.frame ∘ s.slots))
      rw [same]
      exact kept.accounts
  · have clears := clears_of_clear keep
    have positive := counted (by rw [clears]; exact nofun)
    obtain ⟨content, stored, count⟩ := kept.stored
    obtain ⟨x, rest, rfl⟩ : ∃ x rest, content = x :: rest :=
      List.exists_cons_of_length_pos (by omega)
    have head : s.slots s.base.queue.rindex = x := stored.window.head below
    have cleared : s.unref = { s with
        heap := s.heap.releaseAt x.frame
        slots := Function.update s.slots s.base.queue.rindex { x with frame := none } } := by
      rw [unref, clears]
      dsimp only
      rw [head]
    rw [popFrame_of_clear keep, wrap_succ below, if_pos positive] at same
    rw [cleared]
    refine ⟨⟨rest, ?_, ?_⟩, ?_⟩
    · dsimp only
      rw [same]
      exact stored.clear below
    · dsimp only
      rw [same]
      rw [List.length_cons] at count
      dsimp only
      omega
    · show (s.heap.releaseAt x.frame).Accounts (s.frame.toList ++
        slotted (List.range base.queue.maxSize) (Slot.frame ∘ Function.update s.slots s.base.queue.rindex
          { x with frame := none }))
      rw [same, Function.comp_update]
      dsimp only
      have before := slotted_perm (List.mem_range.mpr below) (Slot.frame ∘ s.slots)
      have after :=
        slotted_update_perm List.nodup_range (List.mem_range.mpr below) (Slot.frame ∘ s.slots) none
      rw [Function.comp_apply, head] at before
      refine Heap.Accounts.releaseAt (kept.accounts.perm ?_)
      refine ((after.append_left _).append_left _).trans ?_
      refine List.Perm.trans ?_ (before.symm.append_left _)
      rw [Option.toList_none, List.nil_append, ← List.append_assoc, ← List.append_assoc]
      exact List.perm_append_comm.append_right _

/-- The frame that the decoder has filled is moved. -/
def moved (s : Pictures) : Nat :=
  match s.base.producer with
  | .filled _ => if s.copied then 1 else 0
  | _ => 0

theorem filled_of_copying {k : Nat} (copying : s.copying = some k) :
    s.base.producer = .filled k ∧ s.moved = 0 := by
  unfold Pictures.copying at copying
  split at copying
  case h_1 here =>
    split_ifs at copying with copied
    cases copying
    refine ⟨here, ?_⟩
    rw [moved, here]
    exact if_neg copied
  case h_2 => cases copying

/-- A frame that can be seen and was not moved is being filled. -/
theorem copying_of_lt (less : s.moved < s.base.ahead) :
    ∃ k, s.base.producer = .filled k ∧ s.copying = some k := by
  unfold moved HandOff.ahead at less
  unfold copying
  cases here : s.base.producer with
  | filled k =>
    by_cases copied : s.copied = true
    · simp [here, copied] at less
    · exact ⟨k, rfl, if_neg copied⟩
  | _ => simp [here] at less

/-- **The invariant of every run.** -/
structure Sound (output : FrameOutput) (s : Pictures) : Prop where
  safe : ∃ stored, HandOff.Safe output s.base stored
  kept : s.Kept s.moved
  receiving : s.base.producer = .receiving → s.frame = none
  copied : ∀ k, s.base.producer = .filled k → s.copied = true → s.frame = none

theorem sound_start {maxSize : Nat} (two : 2 ≤ maxSize) : (start maxSize).Sound output where
  safe := ⟨[], HandOff.safe_start two⟩
  kept := kept_start maxSize
  receiving _ := rfl
  copied _ filled := nomatch filled

/-- The hand-off keeps its own invariant. -/
theorem Sound.safe_next (sound : s.Sound output) {l : HandOff.Label} {base : HandOff}
    (step : HandOff.next output s.base l = some base) : ∃ stored, HandOff.Safe output base stored := by
  obtain ⟨_, safe⟩ := sound.safe
  exact HandOff.safe_step (HandOff.step_of_next step) safe

/-- **A frame is decoded**: the decoder's own `AVFrame`, which owned nothing, owns a new picture. -/
theorem sound_receive {tb frame_rate : AVRational}
    (sound : s.Sound (VideoDecode.output tb frame_rate)) {ret : Int} {frame : AVFrame}
    (took : s.next (VideoDecode.output tb frame_rate) (.receive ret frame) = some t) :
    t.Sound (VideoDecode.output tb frame_rate) := by
  obtain ⟨base, step, rfl⟩ := Option.map_eq_some_iff.mp took
  have safe := sound.safe_next step
  dsimp only [HandOff.next] at step
  split at step
  case isFalse => cases step
  case isTrue here =>
    have none := sound.receiving here
    have still : s.moved = 0 := by rw [moved, here]
    have kept := sound.kept
    rw [still] at kept
    split at step
    case h_1 skipped =>
      cases step
      have error : ret < 0 := by
        by_contra not
        have taken : VideoDecode.received ret frame ≠ Option.none := by
          rw [VideoDecode.received, if_neg (fun error => not error.1)]
          exact nofun
        exact taken skipped
      rw [if_pos error]
      exact ⟨safe, sound.kept, sound.receiving, sound.copied⟩
    case h_2 handed _ =>
      cases step
      by_cases error : ret < 0
      · rw [if_pos error]
        exact ⟨safe, ⟨kept.stored, kept.accounts⟩, nofun, nofun⟩
      · rw [if_neg error]
        refine ⟨safe, ⟨?_, ?_⟩, nofun, nofun⟩
        · obtain ⟨content, stored, count⟩ := kept.stored
          exact ⟨content, stored.later (Heap.later_alloc _), count⟩
        · have accounts : s.heap.Accounts s.held := kept.accounts
          rw [held, none] at accounts
          exact accounts.alloc

/-- `peekWritable` grants the slot, or there is none. -/
theorem sound_obtain (sound : s.Sound output) (took : s.next output .obtain = some t) :
    t.Sound output := by
  obtain ⟨base, step, rfl⟩ := Option.map_eq_some_iff.mp took
  have safe := sound.safe_next step
  dsimp only [HandOff.next] at step
  split at step
  case h_2 => cases step
  case h_1 frame here =>
    have still : s.moved = 0 := by rw [moved, here]
    have kept := sound.kept
    rw [still] at kept
    split at step
    case h_2 => cases step
    case h_1 =>
      cases step
      exact ⟨safe, ⟨kept.stored, kept.accounts⟩, nofun, nofun⟩

/-- The fields of the slot are written. -/
theorem sound_fill (sound : s.Sound output) (took : s.next output .fill = some t) :
    t.Sound output := by
  obtain ⟨base, step, rfl⟩ := Option.map_eq_some_iff.mp took
  have safe := sound.safe_next step
  dsimp only [HandOff.next] at step
  split at step
  case h_2 => cases step
  case h_1 frame k here =>
    cases step
    have still : s.moved = 0 := by rw [moved, here]
    have kept := sound.kept
    rw [still] at kept
    exact ⟨safe, ⟨kept.stored, kept.accounts⟩, nofun, nofun⟩

/-- The slot that is being filled is the first one behind the stored ones. -/
theorem Sound.filled (sound : s.Sound output) {k : Nat} (here : s.base.producer = .filled k) :
    k = (s.base.queue.rindex + s.base.queue.size) % s.base.queue.maxSize ∧
      s.base.queue.size < s.base.queue.maxSize := by
  obtain ⟨_, safe⟩ := sound.safe
  obtain ⟨same, room⟩ := safe.granted k (by rw [HandOff.held, here])
  exact ⟨same.trans safe.shared.ring.windex_eq, room⟩

/-- **The picture is moved**, into a slot that owned none. -/
theorem sound_copy (sound : s.Sound output) (took : s.next output .copy = some t) :
    t.Sound output := by
  dsimp only [next] at took
  split at took
  case h_2 => cases took
  case h_1 k here =>
    obtain ⟨place, room⟩ := sound.filled here
    split_ifs at took with copied
    cases took
    have still : s.moved = 0 := by rw [moved, here]; exact if_neg copied
    have now : (s.moveRef k).moved = 1 := by
      dsimp only [moved, moveRef]
      rw [here]
      rfl
    obtain ⟨content, stored, count⟩ := sound.kept.stored
    rw [still, Nat.add_zero] at count
    rw [← count] at place room
    have nothing : (s.slots k).frame = none := by
      rw [place]
      exact stored.frame_eq_none (Nat.le_refl _) room
    refine ⟨sound.safe, ?_, fun receiving => ?_, fun _ _ _ => rfl⟩
    · rw [now]
      refine ⟨⟨content ++ [⟨s.frame, s.frame⟩], ?_, ?_⟩, ?_⟩
      · dsimp only [moveRef]
        rw [nothing, place]
        exact stored.append room s.frame
      · rw [List.length_append, count]
        rfl
      · have below : k < s.base.queue.maxSize := by
          rw [place]
          exact Nat.mod_lt _ (Nat.zero_lt_of_lt room)
        have before := slotted_perm (List.mem_range.mpr below) (Slot.frame ∘ s.slots)
        have after :=
          slotted_update_perm List.nodup_range (List.mem_range.mpr below) (Slot.frame ∘ s.slots) s.frame
        rw [Function.comp_apply, nothing] at before
        show (s.heap.releaseAt (s.slots k).frame).Accounts ([] ++
          slotted (List.range s.base.queue.maxSize)
            (Slot.frame ∘ Function.update s.slots k ⟨s.frame, s.frame⟩))
        rw [nothing, Function.comp_update]
        refine sound.kept.accounts.perm (after.trans ?_)
        exact before.symm.append_left s.frame.toList
    · exact nomatch here.symm.trans receiving

theorem sound_push (sound : s.Sound output) (took : s.next output .push = some t) :
    t.Sound output := by
  dsimp only [next] at took
  split_ifs at took with copied
  obtain ⟨base, step, rfl⟩ := Option.map_eq_some_iff.mp took
  have safe := sound.safe_next step
  dsimp only [HandOff.next] at step
  split at step
  case h_2 => cases step
  case h_1 k here =>
    cases step
    have moved : s.moved = 1 := by rw [moved, here]; exact if_pos copied
    have kept := sound.kept
    rw [moved] at kept
    exact ⟨safe, ⟨kept.stored, kept.accounts⟩, fun _ => sound.copied k here copied, nofun⟩

theorem sound_look (sound : s.Sound output) (took : s.next output .look = some t) :
    t.Sound output := by
  obtain ⟨base, step, rfl⟩ := Option.map_eq_some_iff.mp took
  have safe := sound.safe_next step
  dsimp only [HandOff.next] at step
  split_ifs at step <;> cases step
  · exact ⟨safe, ⟨sound.kept.stored, sound.kept.accounts⟩, sound.receiving, sound.copied⟩
  · exact ⟨safe, ⟨sound.kept.stored, sound.kept.accounts⟩, sound.receiving, sound.copied⟩

theorem sound_pop (sound : s.Sound output) (took : s.next output .pop = some t) :
    t.Sound output := by
  dsimp only [next] at took
  split_ifs at took
  obtain ⟨base, step, rfl⟩ := Option.map_eq_some_iff.mp took
  have safe' := sound.safe_next step
  obtain ⟨_, safe⟩ := sound.safe
  dsimp only [HandOff.next] at step
  split_ifs at step with here
  cases step
  have ring := safe.ringSafe
  have kept := sound.kept.pop ring.rindex_lt (ring.counted here) {
    s.base with queue := s.base.queue.popFrame, consumer := .looking, pops := s.base.pops + 1 } rfl
  have frame : s.unref.frame = s.frame := by unfold unref; split <;> rfl
  have copied : s.unref.copied = s.copied := by unfold unref; split <;> rfl
  refine ⟨safe', ?_, fun receiving => frame.trans (sound.receiving receiving), ?_⟩
  · have same : moved { s.unref with base := { s.base with
        queue := s.base.queue.popFrame, consumer := .looking, pops := s.base.pops + 1 } } =
        s.moved := by
      unfold moved
      dsimp only
      rw [copied]
    rw [same]
    exact kept
  · intro k filled moved
    exact frame.trans (sound.copied k filled (copied.symm.trans moved))

/-- **What is drawn.** -/
theorem fate_render (sound : s.Sound output) (took : s.next output .render = some t) :
    Fate (s.Whole .render) (t.Sound output) t.Owned := by
  dsimp only [next] at took
  split_ifs at took with here
  cases took
  obtain ⟨_, safe⟩ := sound.safe
  have unchanged (heap : s.render = s.heap) :
      Sound output { s with heap := s.render, drawn := true } := by
    rw [heap]
    exact ⟨sound.safe, ⟨sound.kept.stored, sound.kept.accounts⟩, sound.receiving, sound.copied⟩
  by_cases size : s.base.queue.currentFrame.size = 0
  · refine .of_sound (fun not => absurd size not) (unchanged ?_)
    rw [render, if_pos size]
  cases names : (s.slots s.base.queue.currentIndex).decodeDatas with
  | none =>
    refine .of_sound (fun _ _ => names) (unchanged ?_)
    rw [render, if_neg size, names]
    rfl
  | some p =>
    have used : s.render = s.heap.use p := by
      rw [render, if_neg size, names]
      rfl
    obtain ⟨content, stored, count⟩ := sound.kept.stored
    have seen := safe.shared.bound here.1
    have all := safe.shared.ring.count
    rcases Nat.lt_or_ge s.base.queue.showIndex content.length with moved | behind
    · have member := List.getElem_mem moved
      have cell : s.slots s.base.queue.currentIndex = content[s.base.queue.showIndex] :=
        stored.window.holds _ _ (List.getElem?_eq_getElem moved)
      have own : (s.slots s.base.queue.currentIndex).frame = some p := by
        rw [cell, ← stored.own _ member, ← cell, names]
      have below : s.base.queue.currentIndex < s.base.queue.maxSize :=
        Nat.mod_lt _ safe.shared.ring.maxSize_pos
      have holds : p ∈ s.held := List.mem_append_right _ (mem_slotted (List.mem_range.mpr below) own)
      refine .of_sound (fun _ copying => ?_) ?_
      · obtain ⟨filled, still⟩ := filled_of_copying copying
        obtain ⟨place, room⟩ := sound.filled filled
        have less : content.length = s.base.queue.size := by rw [count, still]; rfl
        rw [less] at moved
        have apart := safe.shared.ring.windex_ne room moved
        rw [safe.shared.ring.windex_eq] at apart
        exact absurd place apart
      · rw [used]
        exact ⟨sound.safe, ⟨⟨content, stored.later (Heap.later_use ..), count⟩,
          sound.kept.accounts.use holds⟩, sound.receiving, sound.copied⟩
    · have atMost := safe.shared.ahead_le
      obtain ⟨k, filled, copying⟩ := copying_of_lt (s := s) (by omega)
      obtain ⟨place, room⟩ := sound.filled filled
      have first : s.base.queue.showIndex = s.base.queue.size := by omega
      have torn : s.copying = some s.base.queue.currentIndex := by
        rw [copying, place, currentIndex, first]
      have gone : s.heap.released p ≠ 0 := (stored.spent _ behind (first ▸ room)).2 p names
      refine .of_broken (fun whole => ?_) ?_
      · exact nomatch names.symm.trans (whole size torn)
      · show ¬s.render.Accounts s.held
        rw [used]
        exact Heap.not_accounts_use gone _

/-- **The step lemma.** -/
theorem step_fate {tb frame_rate : AVRational} {l : Label}
    (sound : s.Sound (VideoDecode.output tb frame_rate))
    (took : s.next (VideoDecode.output tb frame_rate) l = some t) :
    Fate (s.Whole l) (t.Sound (VideoDecode.output tb frame_rate)) t.Owned := by
  cases l with
  | receive ret frame => exact .of_sound trivial (sound_receive sound took)
  | obtain => exact .of_sound trivial (sound_obtain sound took)
  | fill => exact .of_sound trivial (sound_fill sound took)
  | copy => exact .of_sound trivial (sound_copy sound took)
  | push => exact .of_sound trivial (sound_push sound took)
  | look => exact .of_sound trivial (sound_look sound took)
  | render => exact fate_render sound took
  | pop => exact .of_sound trivial (sound_pop sound took)

/-- **The decoded pictures are owned throughout a run exactly if none is drawn from a slot that the
decoder is filling**, and that still has the pointers of an earlier picture. -/
def OwnedIffWhole (tb frame_rate : AVRational) : Prop :=
  ∀ maxSize, 2 ≤ maxSize → ∀ labels,
    (system tb frame_rate).Steps (fun _ _ t => t.Owned) (start maxSize) labels ↔
      (system tb frame_rate).Steps (fun s l _ => s.Whole l) (start maxSize) labels

theorem pictures_owned_iff (tb frame_rate : AVRational) : OwnedIffWhole tb frame_rate := by
  intro maxSize two labels
  exact (system tb frame_rate).steps_iff_of_fate (fun _ sound => sound.kept.accounts)
    (fun _ _ _ sound took => step_fate sound took) (sound_start two) labels

/-- The third picture is drawn in the first slot of two before its pointers are there, with those of
the first picture. -/
example :
    let received := [.receive 0 { AVFrame.blank with linesize0 := 1, height := 1 }, .obtain, .fill]
    let taken := [.look, .render, .pop]
    (((system ⟨1, 90000⟩ ⟨25, 1⟩).run (start 2)
      (received ++ [.copy, .push] ++ taken ++ received ++ [.copy, .push] ++ taken ++
        received ++ [.look, .render])).map fun s => s.heap.misused) = some true := by
  decide

/-! ### `flush` -/

/-- `FrameQueue::popFrame`. -/
def popFrame (s : Pictures) : Pictures :=
  { s.unref with base := { s.base with queue := s.base.queue.popFrame } }

/-- `FrameQueue::flush`, as `~IDecode` calls it. -/
def Flushes : Pictures → Nat → Pictures → Prop :=
  Loops (fun s => decide (0 < s.base.queue.getFrameSize)) popFrame

/-- What a round of `flush` keeps. -/
structure Flushing (s : Pictures) : Prop where
  kept : s.Kept 0
  rindex_lt : s.base.queue.rindex < s.base.queue.maxSize
  showIndex_le : s.base.queue.showIndex ≤ 1
  keepLast : s.base.queue.keepLast = true

/-- The frames that are left to show. -/
def left (s : Pictures) : Nat := s.base.queue.size - s.base.queue.showIndex

/-- **One round.** -/
theorem Flushing.popFrame (flushing : s.Flushing) (more : 0 < s.left) :
    s.popFrame.Flushing ∧ s.popFrame.left + 1 = s.left ∧
      min 1 s.popFrame.base.queue.size = min 1 s.base.queue.size := by
  unfold Pictures.left at more ⊢
  have counted : s.base.queue.clears ≠ none → 0 < s.base.queue.size := fun _ => by omega
  have kept : s.popFrame.Kept 0 := flushing.kept.pop flushing.rindex_lt counted _ rfl
  have shows := flushing.showIndex_le
  by_cases keep : s.base.queue.keepLast = true ∧ s.base.queue.showIndex = 0
  · have same : s.popFrame.base.queue = { s.base.queue with showIndex := 1 } :=
      popFrame_of_keep keep
    have first := keep.2
    refine ⟨⟨kept, ?_, ?_, ?_⟩, ?_, ?_⟩ <;> rw [same]
    · exact flushing.rindex_lt
    · exact flushing.keepLast
    · dsimp only
      omega
  · have same : s.popFrame.base.queue = _ := popFrame_of_clear keep
    have positive : 0 < s.base.queue.size := by omega
    rw [if_pos positive, wrap_succ flushing.rindex_lt] at same
    have past : s.base.queue.showIndex ≠ 0 := fun first => keep ⟨flushing.keepLast, first⟩
    refine ⟨⟨kept, ?_, ?_, ?_⟩, ?_, ?_⟩ <;> rw [same] <;> dsimp only
    · exact Nat.mod_lt _ (Nat.zero_lt_of_lt flushing.rindex_lt)
    · exact shows
    · exact flushing.keepLast
    · omega
    · omega

/-- The loop is left when no frame is left to show. -/
theorem test_eq (s : Pictures) :
    decide (0 < s.base.queue.getFrameSize) = decide (0 < s.left) := by
  rw [decide_eq_decide, getFrameSize, left]
  omega

/-- **The rounds of `flush`.** -/
theorem Flushing.flushes (flushing : s.Flushing) :
    ∃ t, s.Flushes s.left t ∧ t.Flushing ∧ t.frame = s.frame ∧
      min 1 t.base.queue.size = min 1 s.base.queue.size := by
  refine Loops.countdown (fun t => t.Flushing ∧ t.frame = s.frame ∧
    min 1 t.base.queue.size = min 1 s.base.queue.size) left (fun t _ => t.test_eq) ?_
    ⟨flushing, rfl, rfl⟩
  intro t ⟨flushing, frame, size⟩ test
  rw [test_eq] at test
  obtain ⟨flushing, less, same⟩ := flushing.popFrame (of_decide_eq_true test)
  have own : t.popFrame.frame = t.frame := by
    unfold Pictures.popFrame unref
    dsimp only
    split <;> rfl
  exact ⟨⟨flushing, own.trans frame, same.trans size⟩, less⟩

/-- **A flushed queue holds one picture at most**, the one in its first slot. -/
theorem Flushing.accounts (flushing : s.Flushing) (out : s.left = 0) :
    s.heap.Accounts
      (s.frame.toList ++ (s.slots s.base.queue.rindex).frame.toList) := by
  obtain ⟨content, stored, count⟩ := flushing.kept.stored
  have shows := flushing.showIndex_le
  unfold left at out
  have one : content.length ≤ 1 := by omega
  have others : slottedBut (List.range s.base.queue.maxSize) s.base.queue.rindex
      (Slot.frame ∘ s.slots) = [] :=
    slottedBut_eq_nil List.nodup_range fun j inside other =>
      ((stored.spent.mono one).elsewhere flushing.rindex_lt (List.mem_range.mp inside) other).1
  have apart := slotted_perm (List.mem_range.mpr flushing.rindex_lt) (Slot.frame ∘ s.slots)
  rw [others, List.append_nil] at apart
  exact flushing.kept.accounts.perm (apart.symm.append_left _)

/-- **`flush` leaves one picture at most in the ring**: after a run in which everything drawn was whole,
and while no slot is granted, it ends with all pictures released once, but for the one in the first
slot, which nobody releases any more, and the one the decoder has in hand. -/
def FlushLeavesKept (tb frame_rate : AVRational) : Prop :=
  ∀ maxSize, 2 ≤ maxSize → ∀ labels s,
    (system tb frame_rate).run (start maxSize) labels = some s →
    (system tb frame_rate).Steps (fun s l _ => s.Whole l) (start maxSize) labels →
    s.base.held = none → ∃ t, s.Flushes (s.base.queue.size - s.base.queue.showIndex) t ∧
      t.frame = s.frame ∧ t.base.queue.size = min 1 s.base.queue.size ∧
      t.heap.Accounts (t.frame.toList ++ (t.slots t.base.queue.rindex).frame.toList)

theorem flush_leaves (tb frame_rate : AVRational) : FlushLeavesKept tb frame_rate := by
  intro maxSize two labels s run whole free
  have sound : s.Sound (VideoDecode.output tb frame_rate) :=
    (system tb frame_rate).run_of_fate (fun _ _ _ sound took => step_fate sound took)
      (sound_start two) whole run
  obtain ⟨_, safe⟩ := sound.safe
  have still : s.moved = 0 := by
    unfold HandOff.held at free
    unfold moved
    split at free
    case h_3 unfilled => split <;> simp_all
    all_goals cases free
  have kept := sound.kept
  rw [still] at kept
  have flushing : s.Flushing :=
    ⟨kept, safe.shared.ring.rindex_lt, safe.shared.ring.showIndex_le, safe.shared.keepLast⟩
  obtain ⟨t, ends, flushed, frame, size⟩ := flushing.flushes
  have out : t.left = 0 := by
    have test := ends.out
    rw [test_eq] at test
    exact Nat.eq_zero_of_not_pos (of_decide_eq_false test)
  have shows := flushed.showIndex_le
  refine ⟨t, ends, frame, ?_, flushed.accounts out⟩
  unfold left at out
  omega

end Pictures

end Xplay.PictureOwnership
