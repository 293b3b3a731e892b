/-
**`SLAudioPlay::startPlay`, called more than once.**

Every call makes an engine, an output mix and a player of its own, and nothing destroys them. Each
player that starts calls `playCall` back whenever it has played what is enqueued, and all of them copy
into the one `buffer` and enqueue that. A player reads the buffer while it plays, so nothing may be
written to it between `Enqueue` and the next call back.

Left out are the flags that end `playCall`, which are one of its ways to return without a buffer.

* `kept_iff` — **the buffer holds what every player is playing, throughout a run, exactly if** none
  copies into it while another one plays.
* `kept_of_one` — so it does if `startPlay` succeeded once.
-/

import Mathlib.Logic.Function.Basic
import Mathlib.Tactic.Common
import Xplay.Lib.Fate

namespace Xplay

open Lib

namespace StartPlay

/-- What the calls of `startPlay` return, in their order. `playing` is the rest of them. -/
structure SLresults where
  slCreateEngine : Bool
  engine : Bool
  outputMix : Bool
  mixRealize : Bool
  audioPlayer : Bool
  playing : Bool

/-- A player: what it plays, or how far its `playCall` is. Buffers of PCM are numbered in the order in
which `getData` returns them. -/
inductive Player
  | absent
  | blank
  | calling
  | taken (data : Nat)
  | copied (data : Nat)
  | queued (data : Nat)
  | over

/-- `SLAudioPlay`, with the objects that exist. `started` players call back. -/
structure SLAudioPlay where
  engines : Nat
  mixes : Nat
  players : Nat
  started : Nat
  player : Nat → Player
  next : Nat
  buffer : Option Nat

inductive Label
  | startPlay (re : SLresults)
  /-- The player has played what it was playing, and calls back. -/
  | pcmCallback (i : Nat)
  | getData (i : Nat) (found : Bool)
  | memcpy (i : Nat)
  | enqueue (i : Nat)

namespace SLAudioPlay

/-- `SLAudioPlay::SLAudioPlay`. -/
def new : SLAudioPlay := ⟨0, 0, 0, 0, fun _ => .absent, 0, none⟩

/-- `SLAudioPlay::startPlay`. -/
def startPlay (s : SLAudioPlay) (re : SLresults) : SLAudioPlay :=
  if re.slCreateEngine then
    let s := { s with engines := s.engines + 1 }
    if re.engine && re.outputMix then
      let s := { s with mixes := s.mixes + 1 }
      if re.mixRealize && re.audioPlayer then
        let s := { s with players := s.players + 1 }
        if re.playing then
          { s with
            started := s.started + 1
            player := Function.update s.player s.started .blank }
        else s
      else s
    else s
  else s

/-- Moves one player on. -/
def put (s : SLAudioPlay) (i : Nat) (p : Player) : SLAudioPlay :=
  { s with player := Function.update s.player i p }

/-- **One step.** -/
def step (s : SLAudioPlay) : Label → Option SLAudioPlay
  | .startPlay re => some (s.startPlay re)
  | .pcmCallback i =>
    match s.player i with
    | .blank | .queued _ => some (s.put i .calling)
    | _ => none
  | .getData i found =>
    match s.player i with
    | .calling =>
      if found then some { s.put i (.taken s.next) with next := s.next + 1 }
      else some (s.put i .over)
    | _ => none
  | .memcpy i =>
    match s.player i with
    | .taken data => some { s.put i (.copied data) with buffer := some data }
    | _ => none
  | .enqueue i =>
    match s.player i with
    | .copied data => some (s.put i (.queued data))
    | _ => none

def system : System SLAudioPlay Label := ⟨step⟩

end SLAudioPlay

/-- What the player wants to find in the buffer. -/
def Player.plays : Player → Option Nat
  | .copied data | .queued data => some data
  | _ => none

/-- The PCM that the player has. -/
def Player.data : Player → Option Nat
  | .taken data | .copied data | .queued data => some data
  | _ => none

theorem Player.data_of_plays {p : Player} {data : Nat} (plays : p.plays = some data) :
    p.data = some data := by
  cases p <;> first | exact plays | cases plays

namespace SLAudioPlay

/-- **The buffer holds what every player is playing.** -/
def Kept (s : SLAudioPlay) : Prop := ∀ i data, (s.player i).plays = some data → s.buffer = some data

/-- **Nobody copies while another one plays.** -/
def Alone (s : SLAudioPlay) : Label → Prop
  | .memcpy i => ∀ j, j ≠ i → (s.player j).plays = none
  | _ => True

/-- The buffer, and that no two players have the same PCM. -/
structure Sound (s : SLAudioPlay) : Prop where
  kept : s.Kept
  taken : ∀ i data, (s.player i).data = some data → data < s.next
  distinct : ∀ i j data, (s.player i).data = some data → (s.player j).data = some data → i = j
  rest : ∀ i, s.started ≤ i → s.player i = .absent

theorem sound_new : new.Sound :=
  ⟨fun _ _ wants => (nomatch wants), fun _ _ has => (nomatch has), fun _ _ _ has => (nomatch has),
    fun _ _ => rfl⟩

variable {s t : SLAudioPlay} {i : Nat}

/-- **A player moves on** with the PCM it had, or with none. -/
theorem Sound.put (sound : s.Sound) {p : Player} (started : i < s.started)
    (same : ∀ data, p.data = some data → (s.player i).data = some data)
    (plays : ∀ data, p.plays = some data → s.buffer = some data) : (s.put i p).Sound := by
  have data : ∀ j data, ((s.put i p).player j).data = some data →
      (s.player j).data = some data := by
    intro j data has
    by_cases here : j = i
    · subst here
      exact same data (Function.update_self j p s.player ▸ has)
    · exact Function.update_of_ne here p s.player ▸ has
  refine ⟨fun j d wants => ?_, fun j d has => sound.taken j d (data j d has),
    fun j k d has has' => sound.distinct j k d (data j d has) (data k d has'), fun j le => ?_⟩
  · by_cases here : j = i
    · subst here
      exact plays d (Function.update_self j p s.player ▸ wants)
    · exact sound.kept j d (Function.update_of_ne here p s.player ▸ wants)
  · have other : j ≠ i := by
      have le : s.started ≤ j := le
      omega
    exact (Function.update_of_ne other p s.player).trans (sound.rest j le)

/-- A player that is there was started. -/
theorem Sound.started_of (sound : s.Sound) (there : s.player i ≠ .absent) : i < s.started := by
  by_contra not
  exact there (sound.rest i (by omega))

/-- **A call of `startPlay`** adds a player that plays no PCM, or none. -/
theorem sound_startPlay (sound : s.Sound) (re : SLresults) : (s.startPlay re).Sound := by
  unfold startPlay
  split_ifs
  case pos =>
    have blank : ({ s with started := s.started + 1 }.put s.started .blank).Sound := by
      have more : Sound { s with started := s.started + 1 } :=
        ⟨sound.kept, sound.taken, sound.distinct, fun j le => sound.rest j (Nat.le_of_succ_le le)⟩
      exact more.put (Nat.lt_succ_self _) (fun _ has => nomatch has) fun _ plays => nomatch plays
    exact ⟨blank.kept, blank.taken, blank.distinct, blank.rest⟩
  all_goals exact ⟨sound.kept, sound.taken, sound.distinct, sound.rest⟩

/-- **`memcpy`** puts the PCM of a player where the others expect their own. -/
theorem fate_memcpy (sound : s.Sound) (next : s.step (.memcpy i) = some t) :
    Fate (s.Alone (.memcpy i)) t.Sound t.Kept := by
  dsimp only [step] at next
  split at next
  case h_1 data place =>
    cases next
    have has : (s.player i).data = some data := by rw [place]; rfl
    by_cases alone : s.Alone (.memcpy i)
    · refine .of_sound alone ?_
      have started : i < s.started := sound.started_of (by rw [place]; exact nofun)
      have before : Sound { s with buffer := some data } := by
        refine ⟨fun j d wants => ?_, sound.taken, sound.distinct, sound.rest⟩
        by_cases here : j = i
        · subst here
          exact nomatch (place ▸ wants : Player.plays (.taken data) = some d)
        · exact nomatch (alone j here).symm.trans wants
      exact before.put started (fun d same => has.trans same) fun d same => same
    · refine .of_broken alone fun kept => alone fun j other => ?_
      by_contra wants
      obtain ⟨d, plays⟩ := Option.ne_none_iff_exists'.mp wants
      have still : (Function.update s.player i (.copied data) j).plays = some d := by
        rw [Function.update_of_ne other]
        exact plays
      have same : data = d := Option.some.inj (kept j d still)
      subst same
      exact other (sound.distinct j i data (Player.data_of_plays plays) has)
  case h_2 => cases next

/-- **`getData`** gives a player PCM that no other has. -/
theorem sound_getData (sound : s.Sound) {found : Bool}
    (next : s.step (.getData i found) = some t) : t.Sound := by
  dsimp only [step] at next
  split at next
  case h_1 place =>
    have started : i < s.started := sound.started_of (by rw [place]; exact nofun)
    cases found with
    | false =>
      cases next
      exact sound.put started (fun _ has => nomatch has) fun _ plays => nomatch plays
    | true =>
      cases next
      have data : ∀ j d, (Function.update s.player i (.taken s.next) j).data = some d →
          (j = i ∧ d = s.next) ∨ (j ≠ i ∧ (s.player j).data = some d) := by
        intro j d has
        by_cases here : j = i
        · subst here
          rw [Function.update_self] at has
          exact .inl ⟨rfl, (Option.some.inj has).symm⟩
        · rw [Function.update_of_ne here] at has
          exact .inr ⟨here, has⟩
      refine ⟨fun j d wants => ?_, fun j d has => ?_, fun j k d has has' => ?_, fun j le => ?_⟩
      · rcases data j d (Player.data_of_plays wants) with ⟨rfl, -⟩ | ⟨other, -⟩
        · have wants : (Function.update s.player j (.taken s.next) j).plays = some d := wants
          rw [Function.update_self] at wants
          cases wants
        · have wants : (Function.update s.player i (.taken s.next) j).plays = some d := wants
          rw [Function.update_of_ne other] at wants
          exact sound.kept j d wants
      · rcases data j d has with ⟨-, rfl⟩ | ⟨-, has⟩
        · exact Nat.lt_succ_self _
        · exact Nat.lt_succ_of_lt (sound.taken j d has)
      · rcases data j d has with ⟨here, new⟩ | ⟨-, old⟩ <;>
          rcases data k d has' with ⟨here', new'⟩ | ⟨-, old'⟩
        · exact here.trans here'.symm
        · exact absurd (sound.taken k d old') (new ▸ Nat.lt_irrefl _)
        · exact absurd (sound.taken j d old) (new' ▸ Nat.lt_irrefl _)
        · exact sound.distinct j k d old old'
      · have le : s.started ≤ j := le
        have other : j ≠ i := by omega
        exact (Function.update_of_ne other _ s.player).trans (sound.rest j le)
  case h_2 => cases next

theorem step_fate (sound : s.Sound) {l : Label} (next : s.step l = some t) :
    Fate (s.Alone l) t.Sound t.Kept := by
  cases l with
  | startPlay re =>
    cases next
    exact .of_sound trivial (sound_startPlay sound re)
  | pcmCallback i =>
    refine .of_sound trivial ?_
    dsimp only [step] at next
    split at next
    case h_1 place =>
      cases next
      exact sound.put (sound.started_of (by rw [place]; exact nofun)) (fun _ has => nomatch has)
        fun _ plays => nomatch plays
    case h_2 data place =>
      cases next
      exact sound.put (sound.started_of (by rw [place]; exact nofun)) (fun _ has => nomatch has)
        fun _ plays => nomatch plays
    case h_3 => cases next
  | getData i found => exact .of_sound trivial (sound_getData sound next)
  | memcpy i => exact fate_memcpy sound next
  | enqueue i =>
    refine .of_sound trivial ?_
    dsimp only [step] at next
    split at next
    case h_1 data place =>
      cases next
      have has : (s.player i).data = some data := by rw [place]; rfl
      have plays : (s.player i).plays = some data := by rw [place]; rfl
      exact sound.put (sound.started_of (by rw [place]; exact nofun)) (fun d same => has.trans same)
        fun d same => sound.kept i d (plays.trans same)
    case h_2 => cases next

/-- **The buffer holds what every player is playing, throughout a run, exactly if nobody copies while
another one plays.** -/
theorem kept_iff (labels : List Label) :
    system.Steps (fun _ _ t => t.Kept) new labels ↔
      system.Steps (fun s l _ => s.Alone l) new labels :=
  system.steps_iff_of_fate (fun _ sound => sound.kept) (fun _ _ _ sound next => step_fate sound next)
    sound_new labels

theorem started_le {l : Label} (next : s.step l = some t) : s.started ≤ t.started := by
  cases l with
  | startPlay re =>
    cases next
    unfold startPlay
    split_ifs <;> first | exact Nat.le_succ _ | exact Nat.le_refl _
  | getData i found =>
    dsimp only [step] at next
    split at next
    · cases found <;> cases next <;> exact Nat.le_refl _
    · cases next
  | pcmCallback i | memcpy i | enqueue i =>
    dsimp only [step] at next
    split at next <;> cases next <;> exact Nat.le_refl _

/-- A player that is the only one is alone. -/
theorem Sound.alone_of_one (sound : s.Sound) (one : s.started ≤ 1) {l : Label}
    (next : s.step l = some t) : s.Alone l := by
  cases l with
  | memcpy i =>
    intro j other
    dsimp only [step] at next
    split at next
    case h_1 place =>
      have started : i < s.started := sound.started_of (by rw [place]; exact nofun)
      rw [sound.rest j (by omega)]
      rfl
    case h_2 => cases next
  | _ => exact trivial

/-- **If `startPlay` succeeded once, the buffer holds what is played.** -/
theorem kept_of_one {labels : List Label} {s : SLAudioPlay} (run : system.run new labels = some s)
    (one : s.started ≤ 1) : s.Kept := by
  have invariant : s.started ≤ 1 → s.Sound := by
    refine System.invariant_run (I := fun s => s.started ≤ 1 → s.Sound) ?_ run fun _ => sound_new
    intro s l t sound next one
    have one' : s.started ≤ 1 := Nat.le_trans (started_le next) one
    exact (step_fate (sound one') next).keeps ((sound one').alone_of_one one' next)
  exact (invariant one).kept

end SLAudioPlay

end StartPlay

end Xplay
