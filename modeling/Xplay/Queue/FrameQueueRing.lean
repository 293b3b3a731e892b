/-
**The ring of `FrameQueue` between its two threads.**

* `Core` — what the two indices, the counter and the slots say of each other between any two steps.
* `Core.producer_moves`, `Core.consumer_moves`, `Core.other_moves` — what a step of the decoder, of the
  consumer and of any other thread keeps of it.
-/

import Xplay.Queue.FrameSlots

set_option linter.unusedSectionVars false

namespace Xplay.FrameSlots

open Lib Lib.Monitor

/-- The decoder was granted a slot and has not counted it yet. -/
def room : Status Cond Loc → Nat
  | .running (.peekSlot _) | .running (.granted _) | .running (.fill _ _) => 1
  | .running .pushWindex | .running .pushLock | .running .pushSize => 1
  | _ => 0

/-- The granted slot is filled and not counted. -/
def ahead : Status Cond Loc → Nat
  | .running .pushWindex | .running .pushLock | .running .pushSize => 1
  | _ => 0

/-- `windex` is past the slot that is not counted. -/
def moved : Status Cond Loc → Nat
  | .running .pushLock | .running .pushSize => 1
  | _ => 0

/-- `popFrame` has cleared the slot at `rindex`. -/
def cleared : Status Cond Loc → Nat
  | .running .popRindex => 1
  | _ => 0

/-- `rindex` is past a cleared slot that is still counted. -/
def taken : Status Cond Loc → Nat
  | .running .popLock | .running .popSize => 1
  | _ => 0

/-- The slot the decoder was granted. -/
def slot : Status Cond Loc → Option Nat
  | .running (.peekSlot k) | .running (.granted k) | .running (.fill k _) => some k
  | _ => none

/-- The decoder goes on to the test of `abort_request`. -/
def resuming : Status Cond Loc → Bool
  | .relocking _ | .running .peekAbort => true
  | _ => false

/-- **The indices, the counter and the slots between any two steps**, for a decoder at `P` and a
consumer at `C`. -/
structure Core (d : Data) (P C : Status Cond Loc) : Prop where
  rindex_lt : 0 < d.queue.maxSize → d.queue.rindex < d.queue.maxSize
  size_le : d.queue.size + room P ≤ d.queue.maxSize
  taken_le : cleared C + taken C ≤ d.queue.size
  windex : d.queue.windex =
    (d.queue.rindex + (d.queue.size - taken C) + moved P) % d.queue.maxSize
  /-- The frames lie in the window from `rindex` on. -/
  holds : ∀ i, i < d.queue.maxSize → d.holds ((d.queue.rindex + i) % d.queue.maxSize) =
    decide (cleared C ≤ i ∧ i < d.queue.size - taken C + ahead P)
  slot : ∀ k, slot P = some k → k = d.queue.windex
  resuming : resuming P = true →
    d.queue.size < d.queue.maxSize ∨ d.queue.abortRequest = true
  popNotify : C = .running .popNotify → d.queue.size < d.queue.maxSize

namespace Core

variable {d : Data} {P C : Status Cond Loc}

theorem new (maxSize : Nat) (keepLast : Bool) :
    Core ⟨FrameQueue.new maxSize keepLast, fun _ => false⟩ (.running .producing)
      (.running .consuming) where
  rindex_lt positive := positive
  size_le := Nat.zero_le _
  taken_le := Nat.zero_le _
  windex := (Nat.zero_mod _).symm
  holds i _ := by simp [FrameQueue.new, taken, ahead]
  slot k granted := by cases granted
  resuming back := by cases back
  popNotify there := by cases there

/-- The decoder's slot is the first free one behind the frames. -/
theorem windex_lt (core : Core d P C) (positive : 0 < d.queue.maxSize) :
    d.queue.windex < d.queue.maxSize := by
  rw [core.windex]
  exact Nat.mod_lt _ positive

/-- **A granted slot is granted below the capacity and holds no frame.** -/
theorem grants {k : Nat} (core : Core d (.running (.peekSlot k)) C) :
    d.queue.size < d.queue.maxSize ∧ d.holds k = false := by
  have less : d.queue.size < d.queue.maxSize := core.size_le
  refine ⟨less, ?_⟩
  rw [core.slot k rfl, core.windex]
  have free := core.holds (d.queue.size - taken C) (by omega)
  simp only [ahead, Nat.add_zero, Nat.lt_irrefl, and_false, decide_false] at free
  exact free

/-- **Filling the granted slot** appends to the window. -/
theorem fill {k : Nat} {x : XData} (core : Core d (.running (.fill k x)) C) :
    Core { queue := d.queue.store k x, holds := Function.update d.holds k true }
      (.running .pushWindex) C where
  rindex_lt := core.rindex_lt
  size_le := core.size_le
  taken_le := core.taken_le
  windex := core.windex
  holds i (inside : i < d.queue.maxSize) := by
    have less : d.queue.size < d.queue.maxSize := core.size_le
    have bound := core.taken_le
    have here : k = (d.queue.rindex + (d.queue.size - taken C)) % d.queue.maxSize :=
      (core.slot k rfl).trans core.windex
    show Function.update d.holds k true ((d.queue.rindex + i) % d.queue.maxSize) =
      decide (cleared C ≤ i ∧ i < d.queue.size - taken C + 1)
    by_cases last : i = d.queue.size - taken C
    · rw [last, ← here, Function.update_self]
      symm
      exact decide_eq_true (by omega)
    · rw [here, Function.update_of_ne (slot_ne inside (by omega) last), core.holds i inside]
      simp only [ahead]
      exact decide_eq_decide.mpr (by omega)
  slot _ granted := by cases granted
  resuming back := by cases back
  popNotify := core.popNotify

/-- `++windex`. -/
theorem pushWindex (core : Core d (.running .pushWindex) C) :
    Core
      { d with
        queue.windex := if d.queue.windex + 1 = d.queue.maxSize then 0 else d.queue.windex + 1 }
      (.running .pushLock) C where
  rindex_lt := core.rindex_lt
  size_le := core.size_le
  taken_le := core.taken_le
  windex := by
    have less : d.queue.size < d.queue.maxSize := core.size_le
    simp only [wrap_succ (core.windex_lt (Nat.zero_lt_of_lt less))]
    rw [core.windex, Nat.mod_add_mod]
    rfl
  holds := core.holds
  slot _ granted := by cases granted
  resuming back := by cases back
  popNotify := core.popNotify

/-- `size++`. -/
theorem pushSize (core : Core d (.running .pushSize) C) (apart : C ≠ .running .popNotify) :
    Core { d with queue.size := d.queue.size + 1 } (.running .pushNotify) C where
  rindex_lt := core.rindex_lt
  size_le := core.size_le
  taken_le := Nat.le_succ_of_le core.taken_le
  windex := by
    have bound := core.taken_le
    have behind : d.queue.size + 1 - taken C = d.queue.size - taken C + 1 := by omega
    simp only [behind]
    exact core.windex
  holds i inside := by
    have bound := core.taken_le
    have behind : d.queue.size + 1 - taken C = d.queue.size - taken C + 1 := by omega
    simp only [behind]
    exact core.holds i inside
  slot _ granted := by cases granted
  resuming back := by cases back
  popNotify there := absurd there apart

/-- **Clearing the slot at `rindex`** while a frame is counted. -/
theorem popClear (core : Core d P (.running .popClear)) (counted : 0 < d.queue.size) :
    Core
      { queue :=
          { d.queue with
            queue := Function.update d.queue.queue d.queue.rindex
              (unrefFrame (d.queue.queue d.queue.rindex)) }
        holds := Function.update d.holds d.queue.rindex false }
      P (.running .popRindex) where
  rindex_lt := core.rindex_lt
  size_le := core.size_le
  taken_le := counted
  windex := core.windex
  holds i inside := by
    have first := Nat.mod_eq_of_lt (core.rindex_lt (Nat.zero_lt_of_lt inside))
    show Function.update d.holds d.queue.rindex false
      ((d.queue.rindex + i) % d.queue.maxSize) = _
    by_cases head : i = 0
    · rw [head, Nat.add_zero, first, Function.update_self]
      rfl
    · have other : (d.queue.rindex + i) % d.queue.maxSize ≠
          (d.queue.rindex + 0) % d.queue.maxSize :=
        slot_ne inside (Nat.zero_lt_of_lt inside) head
      rw [Nat.add_zero, first] at other
      rw [Function.update_of_ne other, core.holds i inside]
      simp only [cleared, taken]
      exact decide_eq_decide.mpr (by omega)
  slot := core.slot
  resuming := core.resuming
  popNotify there := by cases there

/-- `++rindex`, past the cleared slot. -/
theorem popRindex (core : Core d P (.running .popRindex)) :
    Core
      { d with
        queue.rindex := if d.queue.rindex + 1 = d.queue.maxSize then 0 else d.queue.rindex + 1 }
      P (.running .popLock) := by
  have counted : 0 < d.queue.size := core.taken_le
  have most := core.size_le
  have below := core.rindex_lt (by omega)
  have some_ahead : ahead P ≤ room P := by
    cases P with
    | running loc => cases loc <;> simp [ahead, room]
    | _ => exact Nat.le_refl 0
  simp only [wrap_succ below]
  exact
    { rindex_lt := fun positive => Nat.mod_lt _ positive
      size_le := most
      taken_le := counted
      windex := by
        have behind : d.queue.rindex + 1 + (d.queue.size - 1) + moved P =
            d.queue.rindex + d.queue.size + moved P := by omega
        simp only [taken, Nat.add_assoc, Nat.mod_add_mod]
        rw [← Nat.add_assoc, ← Nat.add_assoc, behind]
        exact core.windex
      holds := fun i (inside : i < d.queue.maxSize) => by
        have turn : (d.queue.rindex + 1) % d.queue.maxSize + i ≡
            d.queue.rindex + (i + 1) [MOD d.queue.maxSize] := by
          rw [Nat.ModEq, Nat.mod_add_mod, Nat.add_assoc, Nat.add_comm 1 i]
        show d.holds (((d.queue.rindex + 1) % d.queue.maxSize + i) % d.queue.maxSize) = _
        rw [turn]
        by_cases last : i + 1 = d.queue.maxSize
        · rw [last, Nat.add_mod_right]
          have head := core.holds 0 (by omega)
          rw [Nat.add_zero] at head
          rw [head]
          simp only [cleared, taken]
          exact decide_eq_decide.mpr (by omega)
        · rw [core.holds (i + 1) (by omega)]
          simp only [cleared, taken]
          exact decide_eq_decide.mpr (by omega)
      slot := core.slot
      resuming := core.resuming
      popNotify := fun there => by cases there }

/-- `size--`, of a counted frame. -/
theorem popSize (core : Core d P (.running .popSize)) :
    Core
      { d with queue.size := if 0 < d.queue.size then d.queue.size - 1 else d.queue.size }
      P (.running .popNotify) := by
  have counted : 0 < d.queue.size := core.taken_le
  have most := core.size_le
  simp only [if_pos counted]
  exact
    { rindex_lt := core.rindex_lt
      size_le := by
        show d.queue.size - 1 + room P ≤ d.queue.maxSize
        omega
      taken_le := Nat.zero_le _
      windex := core.windex
      holds := core.holds
      slot := core.slot
      resuming := fun back => (core.resuming back).imp_left fun less => by
        show d.queue.size - 1 < d.queue.maxSize
        omega
      popNotify := fun _ => by
        show d.queue.size - 1 < d.queue.maxSize
        omega }

/-- `start`, unless the decoder is on its way past its wait with the queue full. -/
theorem start (core : Core d P C)
    (calm : FrameSlots.resuming P = true → d.queue.size < d.queue.maxSize) :
    Core { d with queue := d.queue.start } P C :=
  ⟨core.rindex_lt, core.size_le, core.taken_le, core.windex, core.holds, core.slot,
    fun back => Or.inl (calm back), core.popNotify⟩

theorem abort (core : Core d P C) : Core { d with queue := d.queue.abort } P C :=
  ⟨core.rindex_lt, core.size_le, core.taken_le, core.windex, core.holds, core.slot,
    fun _ => Or.inr rfl, core.popNotify⟩

/-- **A notification** that finds room, or the queue aborted. -/
theorem wake (core : Core d P C)
    (reason : (∃ n, P = .waiting .notFull n) →
      d.queue.size < d.queue.maxSize ∨ d.queue.abortRequest = true) :
    Core d (Monitor.wake .notFull P) C := by
  cases P with
  | waiting c n =>
    cases c
    exact ⟨core.rindex_lt, core.size_le, core.taken_le, core.windex, core.holds,
      (fun k granted => by cases granted), fun _ => reason ⟨n, rfl⟩, core.popNotify⟩
  | _ => exact core

/-- The decoder moves on without changing the data. -/
theorem goes {P' : Status Cond Loc} (core : Core d P C)
    (size_le : d.queue.size + room P' ≤ d.queue.maxSize) (sameAhead : ahead P' = ahead P)
    (sameMoved : moved P' = moved P)
    (granted : ∀ k, FrameSlots.slot P' = some k → k = d.queue.windex)
    (back : FrameSlots.resuming P' = true →
      d.queue.size < d.queue.maxSize ∨ d.queue.abortRequest = true) : Core d P' C where
  rindex_lt := core.rindex_lt
  size_le := size_le
  taken_le := core.taken_le
  windex := by
    rw [sameMoved]
    exact core.windex
  holds := by
    rw [sameAhead]
    exact core.holds
  slot := granted
  resuming := back
  popNotify := core.popNotify

/-- The decoder moves on to where it has no slot and is not at the test. -/
theorem passes {P' : Status Cond Loc} (core : Core d P C)
    (size_le : d.queue.size + room P' ≤ d.queue.maxSize) (sameAhead : ahead P' = ahead P)
    (sameMoved : moved P' = moved P) (without : FrameSlots.slot P' = none)
    (apart : FrameSlots.resuming P' = false) : Core d P' C :=
  core.goes size_le sameAhead sameMoved (fun _ granted => nomatch without.symm.trans granted)
    fun back => nomatch apart.symm.trans back

/-- **A step of the decoder.** -/
theorem producer_moves {Tid : Type} {d' : Data} {l : Label Tid} {P' : Status Cond Loc}
    (core : Core d P C) (moves : program.Moves d P l d' P') (role : roleOf P = .producer)
    (resumes : ResumesAt (· = .peekAbort) P)
    (apart : C = .running .popNotify → ¬ program.Inside P) : Core d' P' C := by
  have le := core.size_le
  cases moves with
  | call entry =>
    cases calls_of_entry entry with
    | peek => exact core.passes le rfl rfl rfl rfl
    | fill => exact core.goes le rfl rfl core.slot fun back => by cases back
    | _ => cases role
  | relock =>
    cases resumes
    exact core.goes le rfl rfl (fun k none => by cases none) fun _ => core.resuming rfl
  | lock act =>
    cases locks_of_instr act with
    | peek | push =>
      exact core.passes le rfl rfl rfl rfl
    | _ => cases role
  | unlock act =>
    cases unlocks_of_instr act with
    | null | push =>
      exact core.passes le rfl rfl rfl rfl
    | slot => exact core.goes le rfl rfl core.slot fun back => by cases back
    | _ => cases role
  | wait act =>
    cases waits_of_instr act
    exact core.passes le rfl rfl rfl rfl
  | notifyAll act =>
    cases notifies_of_instr act with
    | push => exact core.passes le rfl rfl rfl rfl
    | _ => cases role
  | access act =>
    cases access_of_instr act with
    | peekFull =>
      exact core.passes le rfl rfl rfl rfl
    | peekRoom found =>
      refine core.goes le rfl rfl (fun k none => by cases none) fun _ => ?_
      by_contra neither
      push Not at neither
      exact found ⟨neither.1, Bool.eq_false_of_not_eq_true neither.2⟩
    | peekNull =>
      exact core.passes le rfl rfl rfl rfl
    | peekSlot clear =>
      have less : d.queue.size < d.queue.maxSize :=
        (core.resuming rfl).resolve_right (by rw [clear]; exact Bool.false_ne_true)
      exact core.goes less rfl rfl (fun k same => (Option.some.inj same).symm)
        fun back => by cases back
    | fill => exact core.fill
    | pushWindex => exact core.pushWindex
    | pushSize => exact core.pushSize fun there => apart there ⟨_, rfl, rfl⟩
    | _ => cases role

/-- **A step of the consumer.** -/
theorem consumer_moves {Tid : Type} {d' : Data} {l : Label Tid} {C' : Status Cond Loc}
    (core : Core d P C) (moves : program.Moves d C l d' C') (role : roleOf C = .consumer)
    (resumes : ResumesAt (· = .peekAbort) C)
    (counted : C = .running .popClear → 0 < d.queue.size) : Core d' P C' := by
  cases moves with
  | call entry =>
    cases calls_of_entry entry with
    | pop => exact { core with popNotify := fun there => by cases there }
    | _ => cases role
  | relock =>
    cases resumes
    cases role
  | lock act =>
    cases locks_of_instr act with
    | pop => exact { core with popNotify := fun there => by cases there }
    | _ => cases role
  | unlock act =>
    cases unlocks_of_instr act with
    | pop => exact { core with popNotify := fun there => by cases there }
    | _ => cases role
  | wait act =>
    cases waits_of_instr act
    cases role
  | notifyAll act =>
    cases notifies_of_instr act with
    | pop => exact { core with popNotify := fun there => by cases there }
    | _ => cases role
  | access act =>
    cases access_of_instr act with
    | popKeep => exact { core with popNotify := fun there => by cases there }
    | popPast => exact { core with popNotify := fun there => by cases there }
    | popClear => exact core.popClear (counted rfl)
    | popRindex => exact core.popRindex
    | popSize => exact core.popSize
    | _ => cases role

/-- **A step of any other thread.** -/
theorem other_moves {Tid : Type} {d' : Data} {l : Label Tid} {S S' : Status Cond Loc}
    (core : Core d P C) (moves : program.Moves d S l d' S') (role : roleOf S = .other)
    (calm : S = .running .startStore → FrameSlots.resuming P = true →
      d.queue.size < d.queue.maxSize) : Core d' P C := by
  cases moves with
  | access act =>
    cases access_of_instr act with
    | startStore => exact core.start (calm rfl)
    | abortStore => exact core.abort
    | _ => cases role
  | _ => exact core

end Core

end Xplay.FrameSlots
