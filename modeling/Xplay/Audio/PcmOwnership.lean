/-
**Who frees a buffer of PCM.**

`FFResample::resample` allocates the buffer, `IResample::update` hands copies of the `XData` that
points at it to the observers, `IAudioPlay::update` puts such a copy in the list, and
`SLAudioPlay::playCall` takes it out, copies the samples and drops it. Nobody counts the copies.
The buffers are cells of a `Heap`; `held` is what the audio thread has not handed on yet, what is in
the list, and what the callback took.

Left out are the waits of `update` and `getData`, which hold no buffer of their own.

* `resample_spec` — the resampler hands on a new buffer, or leaves no buffer behind.
* `pcm_owned_iff` — the buffers of a run are owned throughout exactly if every one is handed to one
  observer, and the list is empty whenever the player is destroyed.
-/

import Xplay.Data.XData
import Xplay.Lib.Ownership
import Xplay.Lib.Fate

namespace Xplay

open Lib

namespace XData

/-- `XData::drop`, with what it frees; a packet is no buffer of PCM. -/
def dropFrom (x : XData) (h : Heap) : Heap × XData :=
  (match x.allocType with
    | .packet => h
    | .frame => x.resampleData.elim h h.release, x.drop)

/-- `XData::alloc`, without data to copy. -/
def alloc (x : XData) (size : Int) (h : Heap) : Heap × XData :=
  let dropped := x.dropFrom h
  let x := { dropped.2 with allocType := .frame }
  if size ≤ 0 then (dropped.1, x)
  else (dropped.1.alloc, { x with resampleData := some dropped.1.fresh, size := size })

end XData

namespace PcmOwnership

/-- `FFResample::resample`: whether there is an `swrContext`, the `size` it computes, the `len` that
`swr_convert` returns, and the pts of the frame. -/
def resample (swrContext : Bool) (size len : Int) (pts : Option ℚ) (h : Heap) : Heap × XData :=
  if !swrContext then (h, XData.init)
  else if size = 0 then (h, XData.init)
  else
    let out := XData.init.alloc size h
    if len ≤ 0 then ((out.2.dropFrom out.1).1, XData.init)
    else (out.1, { out.2 with size := size, pts := pts })

/-- The audio thread, in `IResample::update`: in the loop of `notify`, before observer `i`. -/
inductive Sync
  | out
  | notifying (data : XData) (i : Nat)

/-- The OpenSL callback, in `SLAudioPlay::playCall`. -/
inductive Callback
  | out
  | copying (data : XData)
  | dropping (data : XData)

/-- The buffers and who points at them. `observers`: how often the audio player stands in the list of
the resampler's observers. -/
structure Pcm where
  heap : Heap
  observers : Nat
  isExit : Bool
  sync : Sync
  frames : List XData
  callback : Callback

inductive Label
  | addObserver
  | resample (swrContext : Bool) (size len : Int) (pts : Option ℚ)
  | update
  | getData
  | memcpy
  | drop
  | stop
  /-- `~IAudioPlay`. -/
  | destroy

namespace Pcm

/-- Nothing resampled, and nobody to hand it to. -/
def new : Pcm := ⟨Heap.empty, 0, false, .out, [], .out⟩

/-- **One step.** The loop of `notify` and `addObserver` exclude each other. -/
def next (s : Pcm) : Label → Option Pcm
  | .addObserver =>
    match s.sync with
    | .out => some { s with observers := s.observers + 1 }
    | .notifying _ _ => none
  | .resample swrContext size len pts =>
    match s.sync with
    | .out =>
      let d := PcmOwnership.resample swrContext size len pts s.heap
      some { s with heap := d.1, sync := if d.2.size > 0 then .notifying d.2 0 else .out }
    | .notifying _ _ => none
  | .update =>
    match s.sync with
    | .out => none
    | .notifying data i =>
      if i < s.observers then
        some { s with
          frames := if data.size ≤ 0 then s.frames else s.frames ++ [data]
          sync := .notifying data (i + 1) }
      else some { s with sync := .out }
  | .getData =>
    match s.callback with
    | .out =>
      if s.isExit then some s
      else
        match s.frames with
        | [] => none
        | data :: rest =>
          some { s with
            frames := rest
            callback := if data.size ≤ 0 then .out else .copying data }
    | _ => none
  | .memcpy =>
    match s.callback with
    | .copying data =>
      some { s with
        heap := data.resampleData.elim s.heap s.heap.use
        callback := .dropping data }
    | _ => none
  | .drop =>
    match s.callback with
    | .dropping data => some { s with heap := (data.dropFrom s.heap).1, callback := .out }
    | _ => none
  | .stop => some { s with isExit := true }
  | .destroy => some { s with frames := [] }

def system : System Pcm Label := ⟨next⟩

end Pcm

/-! ### Who holds a buffer -/

/-- The buffer that was not handed to an observer yet. -/
def Sync.held : Sync → Option Nat
  | .notifying data 0 => data.resampleData
  | _ => none

/-- The buffer the callback took out of the list. -/
def Callback.held : Callback → Option Nat
  | .copying data | .dropping data => data.resampleData
  | .out => none

/-- The `XData` points at a buffer. -/
def Full (data : XData) : Prop :=
  data.allocType = .frame ∧ data.resampleData ≠ none ∧ 0 < data.size

theorem Full.dropFrom {data : XData} (full : Full data) (h : Heap) :
    ∃ p, data.resampleData = some p ∧ (data.dropFrom h).1 = h.release p := by
  obtain ⟨type, points, -⟩ := full
  obtain ⟨p, same⟩ := Option.ne_none_iff_exists'.mp points
  exact ⟨p, same, by simp [XData.dropFrom, type, same]⟩

/-- **What the resampler hands on**: a new buffer, or nothing, and then no buffer is left behind. -/
theorem resample_spec (swrContext : Bool) (size len : Int) (pts : Option ℚ) {h : Heap}
    {held : List Nat} (accounts : h.Accounts held) :
    (0 < (resample swrContext size len pts h).2.size ∧
      Full (resample swrContext size len pts h).2 ∧
      (resample swrContext size len pts h).2.resampleData = some h.fresh ∧
      (resample swrContext size len pts h).1 = h.alloc) ∨
    ((resample swrContext size len pts h).2.size ≤ 0 ∧
      (resample swrContext size len pts h).1.Accounts held) := by
  unfold resample
  split
  · exact .inr ⟨Int.le_refl 0, accounts⟩
  split
  · exact .inr ⟨Int.le_refl 0, accounts⟩
  -- `drop` in `alloc` finds an `XData` without a packet
  have first : XData.init.dropFrom h = (h, XData.init) := rfl
  rcases Int.lt_or_le 0 size with positive | none
  · have made : XData.init.alloc size h = (h.alloc, { XData.init with
        allocType := .frame
        resampleData := some h.fresh
        size := size }) := by
      simp only [XData.alloc, first, if_neg (Int.not_le.mpr positive)]
    simp only [made]
    split
    · refine .inr ⟨Int.le_refl 0, ?_⟩
      exact accounts.alloc.release
    · exact .inl ⟨positive, ⟨rfl, nofun, positive⟩, rfl, rfl⟩
  · have made : XData.init.alloc size h = (h, { XData.init with allocType := .frame }) := by
      simp only [XData.alloc, first, if_pos none]
    simp only [made]
    split
    · exact .inr ⟨Int.le_refl 0, accounts⟩
    · exact .inr ⟨none, accounts⟩

namespace Pcm

/-- The buffers in the list. -/
def listed (s : Pcm) : List Nat := s.frames.filterMap XData.resampleData

/-- The buffers of the audio thread, of the list and of the callback. -/
def held (s : Pcm) : List Nat := s.sync.held.toList ++ s.listed ++ s.callback.held.toList

/-- **Every buffer is held once or was freed once, and no freed buffer was used.** -/
def Owned (s : Pcm) : Prop := s.heap.Accounts s.held

/-- **The steps that keep it so**: a buffer is handed to the first observer, and to no other; and the
player is destroyed when its list is empty. -/
def Kept (s : Pcm) : Label → Prop
  | .update => ∃ data i, s.sync = .notifying data i ∧ (i = 0 ↔ i < s.observers)
  | .destroy => s.frames = []
  | _ => True

/-- **The account**, and that whoever holds a buffer points at one. -/
structure Sound (s : Pcm) : Prop where
  owned : s.Owned
  sync : ∀ data i, s.sync = .notifying data i → Full data
  frames : ∀ data ∈ s.frames, Full data
  callback : ∀ data, s.callback = .copying data ∨ s.callback = .dropping data → Full data

theorem sound_new : new.Sound where
  owned := Heap.accounts_empty
  sync := fun _ _ there => Sync.noConfusion there
  frames := fun _ there => absurd there List.not_mem_nil
  callback := fun _ there => there.elim (fun h => Callback.noConfusion h) fun h =>
    Callback.noConfusion h

/-- **What becomes of a step**: one that is `Kept` leads on, any other breaks the account. -/
abbrev Fate (s : Pcm) (l : Label) (t : Pcm) : Prop := Lib.Fate (s.Kept l) t.Sound t.Owned

variable {s t : Pcm} {l : Label}

/-- **The audio thread** hands a buffer to its first observer, or to several, or to none. -/
theorem fate_update (sound : s.Sound) (step : s.next .update = some t) : Fate s .update t := by
  have owned : s.heap.Accounts s.held := sound.owned
  dsimp only [next] at step
  split at step
  case h_1 => cases step
  case h_2 data i place =>
    obtain ⟨-, points, positive⟩ := sound.sync data i place
    obtain ⟨p, same⟩ := Option.ne_none_iff_exists'.mp points
    have kept : s.Kept .update ↔ (i = 0 ↔ i < s.observers) := by
      refine ⟨?_, fun iff => ⟨data, i, place, iff⟩⟩
      rintro ⟨data', i', place', iff⟩
      obtain ⟨-, rfl⟩ := Sync.notifying.inj (place.symm.trans place')
      exact iff
    rw [held, place] at owned
    rw [if_neg (Int.not_le.mpr positive)] at step
    split_ifs at step with more <;> cases step
    · have moved : ((s.frames ++ [data]).filterMap XData.resampleData ++ s.callback.held.toList).Perm
          (p :: (s.listed ++ s.callback.held.toList)) := by
        rw [List.filterMap_append, List.filterMap_cons_some same, List.filterMap_nil]
        exact (List.perm_append_singleton p s.listed).append_right _
      rcases i with _ | i
      · rw [Sync.held, same] at owned
        refine .of_sound (kept.mpr ⟨fun _ => more, fun _ => rfl⟩)
          ⟨owned.perm moved, ?_, ?_, sound.callback⟩
        · intro data' i' place'
          obtain ⟨rfl, -⟩ := Sync.notifying.inj place'
          exact sound.sync data 0 place
        · intro data' there
          rcases List.mem_append.mp there with there | there
          · exact sound.frames data' there
          · rw [List.mem_singleton.mp there]
            exact sound.sync data 0 place
      · -- the first observer holds the buffer already
        refine .of_broken (fun holds => nomatch (kept.mp holds).mpr more) fun owned' => ?_
        have twice : s.heap.Accounts (p :: (s.listed ++ s.callback.held.toList)) :=
          owned'.perm moved.symm
        exact twice.not_lost owned
    · rcases i with _ | i
      · rw [Sync.held, same] at owned
        refine .of_broken (fun holds => more ((kept.mp holds).mp rfl)) fun owned' => ?_
        exact Heap.Accounts.not_lost owned owned'
      · refine .of_sound (kept.mpr ⟨nofun, fun lt => absurd lt more⟩)
          ⟨owned, fun _ _ there => Sync.noConfusion there, sound.frames, sound.callback⟩

/-- **The resampler** adds a buffer to those that are held. -/
theorem fate_resample (sound : s.Sound) {swrContext : Bool} {size len : Int} {pts : Option ℚ}
    (step : s.next (.resample swrContext size len pts) = some t) :
    Fate s (.resample swrContext size len pts) t := by
  have owned : s.heap.Accounts s.held := sound.owned
  dsimp only [next] at step
  split at step
  case h_1 place =>
    rw [held, place] at owned
    cases step
    refine .of_sound trivial ?_
    rcases resample_spec swrContext size len pts owned with
      ⟨positive, full, points, allocated⟩ | ⟨none, accounts⟩
    · refine ⟨?_, ?_, sound.frames, sound.callback⟩
      · unfold Owned held
        dsimp only
        rw [if_pos positive, Sync.held, points, allocated]
        exact owned.alloc
      · dsimp only
        rw [if_pos positive]
        intro data i there
        obtain ⟨rfl, -⟩ := Sync.notifying.inj there
        exact full
    · refine ⟨?_, ?_, sound.frames, sound.callback⟩
      · unfold Owned held
        dsimp only
        rw [if_neg (Int.not_lt.mpr none)]
        exact accounts
      · dsimp only
        rw [if_neg (Int.not_lt.mpr none)]
        exact fun _ _ there => Sync.noConfusion there
  case h_2 => cases step

/-- **The callback** takes a buffer out of the list. -/
theorem fate_getData (sound : s.Sound) (step : s.next .getData = some t) : Fate s .getData t := by
  have owned : s.heap.Accounts s.held := sound.owned
  dsimp only [next] at step
  split at step
  case h_1 place =>
    split_ifs at step with exit
    · cases step
      exact .of_sound trivial sound
    split at step
    · cases step
    · rename_i data rest there
      have full := sound.frames data (there ▸ List.mem_cons_self)
      obtain ⟨-, points, positive⟩ := id full
      obtain ⟨p, same⟩ := Option.ne_none_iff_exists'.mp points
      rw [if_neg (Int.not_le.mpr positive)] at step
      cases step
      refine .of_sound trivial ⟨?_, sound.sync, ?_, ?_⟩
      · have before : s.held = s.sync.held.toList ++ (p :: rest.filterMap XData.resampleData) := by
          rw [held, listed, there, place, List.filterMap_cons_some same]
          exact List.append_nil _
        rw [before] at owned
        refine owned.perm ?_
        unfold held listed Callback.held
        dsimp only
        rw [same, List.append_assoc]
        exact (List.perm_append_singleton p _).append_left _
      · exact fun data' there' => sound.frames data' (there ▸ List.mem_cons_of_mem _ there')
      · rintro data' (there' | there')
        · rw [← Callback.copying.inj there']
          exact full
        · exact Callback.noConfusion there'
  case h_2 => cases step

/-- **The callback** reads the samples of a buffer it holds. -/
theorem fate_memcpy (sound : s.Sound) (step : s.next .memcpy = some t) : Fate s .memcpy t := by
  have owned : s.heap.Accounts s.held := sound.owned
  dsimp only [next] at step
  split at step
  case h_1 data place =>
    have full := sound.callback data (.inl place)
    obtain ⟨p, same⟩ := Option.ne_none_iff_exists'.mp full.2.1
    rw [held, place, Callback.held, same] at owned
    rw [same] at step
    cases step
    refine .of_sound trivial ⟨?_, sound.sync, sound.frames, ?_⟩
    · unfold Owned held Callback.held
      dsimp only
      rw [same]
      exact owned.use (List.mem_append_right _ List.mem_cons_self)
    · rintro data' (there | there)
      · exact Callback.noConfusion there
      · rw [← Callback.dropping.inj there]
        exact full
  case h_2 => cases step

/-- **The callback** frees the buffer it holds. -/
theorem fate_drop (sound : s.Sound) (step : s.next .drop = some t) : Fate s .drop t := by
  have owned : s.heap.Accounts s.held := sound.owned
  dsimp only [next] at step
  split at step
  case h_1 data place =>
    obtain ⟨p, same, freed⟩ := (sound.callback data (.inr place)).dropFrom s.heap
    rw [held, place, Callback.held, same] at owned
    rw [freed] at step
    cases step
    refine .of_sound trivial ⟨?_, sound.sync, sound.frames, ?_⟩
    · have first : (s.heap.release p).Accounts (s.sync.held.toList ++ s.listed) :=
        (owned.perm (List.perm_append_singleton p _).symm).release
      exact first.perm (.of_eq (List.append_nil _))
    · rintro data' (there | there) <;> exact Callback.noConfusion there
  case h_2 => cases step

/-- **The destructor** forgets what is in the list. -/
theorem fate_destroy (sound : s.Sound) (step : s.next .destroy = some t) :
    Fate s .destroy t := by
  have owned : s.heap.Accounts s.held := sound.owned
  cases step
  by_cases empty : s.frames = []
  · refine .of_sound empty ⟨?_, sound.sync, fun _ there => absurd there List.not_mem_nil,
      sound.callback⟩
    rw [held, listed, empty] at owned
    exact owned
  · refine .of_broken empty fun owned' => ?_
    obtain ⟨data, rest, there⟩ := List.exists_cons_of_ne_nil empty
    obtain ⟨p, same⟩ := Option.ne_none_iff_exists'.mp
      (sound.frames data (there ▸ List.mem_cons_self)).2.1
    have counts := owned.count_eq owned' p
    unfold held listed at counts
    rw [there, List.filterMap_cons_some same] at counts
    simp only [List.count_append, List.count_cons_self, List.filterMap_nil, List.count_nil] at counts
    omega

theorem fate (sound : s.Sound) (step : s.next l = some t) : Fate s l t := by
  cases l with
  | addObserver =>
    dsimp only [next] at step
    split at step
    · cases step
      exact .of_sound trivial ⟨sound.owned, sound.sync, sound.frames, sound.callback⟩
    · cases step
  | resample => exact fate_resample sound step
  | update => exact fate_update sound step
  | getData => exact fate_getData sound step
  | memcpy => exact fate_memcpy sound step
  | drop => exact fate_drop sound step
  | stop =>
    cases step
    exact .of_sound trivial ⟨sound.owned, sound.sync, sound.frames, sound.callback⟩
  | destroy => exact fate_destroy sound step

/-- **The buffers of a run are owned throughout exactly if all its steps keep them so.** -/
theorem pcm_owned_iff (labels : List Label) :
    system.Steps (fun _ _ t => t.Owned) new labels ↔
      system.Steps (fun s l _ => s.Kept l) new labels :=
  system.steps_iff_of_fate (fun _ sound => sound.owned) (fun _ _ _ sound step => fate sound step)
    sound_new labels

/-- `MediaPlayer::start` was called twice, and one buffer is played. -/
def startedTwice : List Label :=
  [.addObserver, .addObserver, .resample true 4096 1024 none, .update, .update, .update,
    .getData, .memcpy, .drop, .getData, .memcpy, .drop]

/-- The second callback copies samples that the first one freed, and frees them again. -/
example : ∃ s, system.run new startedTwice = some s ∧ s.heap.released 0 = 2 ∧
    s.heap.misused = true :=
  ⟨_, rfl, rfl, rfl⟩

end Pcm

end PcmOwnership

end Xplay
