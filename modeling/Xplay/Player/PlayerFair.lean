/-
**A fair schedule shows every frame of a file that flows, and of no other file.**

A playing player has only so much to do (`effort`), so from some point on its threads only poll
(`exists_settled`). Fairness then says of every thread that it cannot go on: the player is at rest
(`rests_of_settled`), and on a file that flows nothing is left. On any other file some run comes to
rest before everything is shown, and goes on polling for ever (`fairPlay_showsAll_iff`).
-/

import Xplay.Player.PlayerEffort
import Xplay.Player.PlayerSchedule
import Xplay.Player.PlayerStandstill

namespace Xplay

open Lib

namespace Player

/-- **Every fair schedule shows the whole file**, from every state a playing player reaches. -/
def ShowsAll (output : Kind → FrameOutput) (file : List Packet) : Prop :=
  ∀ s, (system output).ReachesBy Playing (start file) s → ∀ run : (system output).Endless,
    run.state 0 = s → (∀ n, Playing (run.label n)) → FairPlay run →
      ∃ n, ∀ m, n ≤ m → ∀ k, ((run.state m).decode k).shown = framesOf k file

variable {output : Kind → FrameOutput} {file : List Packet} {s t : Player} {l : Label}

/-! ### Turns of a playing player -/

/-- What the turns of the `MediaSync2` threads leave alone. -/
structure Alike (s t : Player) : Prop where
  demux : t.demux = s.demux
  decode : t.decode = s.decode
  callback : t.callback = s.callback
  frames : t.frames = s.frames
  lastFramePts : t.lastFramePts = s.lastFramePts

theorem Alike.trans {u : Player} (first : Alike s t) (second : Alike t u) : Alike s u :=
  ⟨second.demux.trans first.demux, second.decode.trans first.decode,
    second.callback.trans first.callback, second.frames.trans first.frames,
    second.lastFramePts.trans first.lastFramePts⟩

/-- **A turn of a playing player** is one of a `MediaSync2` thread: it looks, or sees nothing to take
and sleeps. -/
inductive Turn (s : Player) : Label → Player → Prop
  | audioLook (resampled : Bool) (here : s.audioSync = .top) :
    Turn s (.audioSync resampled) { s with audioSync := .looking }
  | audioSleep (resampled : Bool) (here : s.audioSync = .looking) (deaf : s.Deaf) :
    Turn s (.audioSync resampled) { s with audioSync := .top }
  | videoLook (here : s.videoSync = .top) : Turn s .videoSync { s with videoSync := .looking }
  | videoSleep (here : s.videoSync = .looking) (dark : s.Dark) :
    Turn s .videoSync { s with videoSync := .top }

theorem Turn.alike (turn : Turn s l t) : Alike s t := by
  cases turn <;> exact ⟨rfl, rfl, rfl, rfl, rfl⟩

theorem turn_of_turns (calm : Calm s) (playing : Playing l) (turns : Turns s l t)
    (enabled : (system output).next s l = some t) : Turn s l t := by
  obtain ⟨abort, pause, sync, play, isExit, demuxExit⟩ := calm
  cases l with
  | demux =>
    obtain ⟨here, there⟩ := turns
    have loops : s.demuxExit = false := by
      by_contra exit
      rw [demuxExit (by simpa using exit)] at here
      cases here
    simp only [system, next, demuxNext, here, abort, pause, loops] at enabled
    cases front : s.file <;> simp [front] at enabled <;> subst enabled <;> cases there
  | decode k made =>
    obtain ⟨here, there⟩ := turns
    simp only [system, next, decodeNext, here, abort, pause, isExit k] at enabled
    simp at enabled
    subst enabled
    simp [IDecode.goto] at there
  | audioSync resampled =>
    obtain ⟨here | here, there⟩ := turns
    · have looks : (system output).next s (.audioSync resampled) =
          some { s with audioSync := .looking } := by
        simp [system, next, audioNext, here, abort, pause, sync]
      cases looks.symm.trans enabled
      exact .audioLook resampled here
    · simp only [system, next, audioNext, here] at enabled
      split at enabled <;> cases enabled
      · exact .audioSleep resampled here ‹_›
      · rcases there with there | there <;> cases there
  | videoSync =>
    obtain ⟨here | here, there⟩ := turns
    · have looks : (system output).next s .videoSync = some { s with videoSync := .looking } := by
        simp [system, next, videoNext, here, abort, pause, sync]
      cases looks.symm.trans enabled
      exact .videoLook here
    · simp only [system, next, videoNext, here] at enabled
      split at enabled <;> cases enabled
      · exact .videoSleep here ‹_›
      · rcases there with there | there <;> cases there
  | callback =>
    obtain ⟨here, there⟩ := turns
    simp [system, next, callbackNext, here, pause] at enabled
    subst enabled
    cases there
  | stop => exact playing.elim
  | pause request => exact playing.elim

/-! ### Threads that can step -/

theorem audio_enabled (waits : s.audioSync ≠ .putWaiting) (gone : s.audioSync ≠ .exited) :
    (system output).next s (.audioSync true) ≠ none := by
  simp only [system, next, audioNext]
  generalize s.audioSync = loc at waits gone ⊢
  cases loc with
  | putWaiting => exact absurd rfl waits
  | exited => exact absurd rfl gone
  | updating | putWoken | popping => exact Option.some_ne_none _
  | looking | putting => dsimp only; split <;> exact Option.some_ne_none _
  | top => dsimp only; split <;> [exact Option.some_ne_none _; (split <;> exact Option.some_ne_none _)]

theorem video_enabled (gone : s.videoSync ≠ .exited) :
    (system output).next s .videoSync ≠ none := by
  simp only [system, next, videoNext]
  generalize s.videoSync = loc at gone ⊢
  cases loc with
  | exited => exact absurd rfl gone
  | showing | popping => exact Option.some_ne_none _
  | looking => dsimp only; split <;> exact Option.some_ne_none _
  | top => dsimp only; split <;> [exact Option.some_ne_none _; (split <;> exact Option.some_ne_none _)]

/-- A callback with a buffer to take can step. -/
theorem callback_enabled (some : s.frames ≠ []) (waits : s.callback ≠ .getWaiting)
    (gone : s.callback ≠ .exited) : (system output).next s .callback ≠ none := by
  obtain ⟨x, rest, front⟩ := List.exists_cons_of_ne_nil some
  simp only [system, next, callbackNext, take, front]
  generalize s.callback = loc at waits gone ⊢
  cases loc with
  | getWaiting => exact absurd rfl waits
  | exited => exact absurd rfl gone
  | idle => dsimp only; split <;> [exact Option.some_ne_none _; (split <;> exact Option.some_ne_none _)]
  | pausing => dsimp only; split <;> [(split <;> exact Option.some_ne_none _); exact Option.some_ne_none _]
  | getting => dsimp only; split <;> [exact Option.some_ne_none _; (split <;> exact Option.some_ne_none _)]
  | getWoken => dsimp only; split <;> exact Option.some_ne_none _

/-! ### Where a fair run settles -/

section Settled

variable {run : (system output).Endless}

/-- From the `n`th step on the threads only poll. -/
def Settled (run : (system output).Endless) (n : Nat) : Prop :=
  ∀ m, n ≤ m → Turn (run.state m) (run.label m) (run.state (m + 1))

/-- Every state of the run is one of a playing player. -/
def InFlow (file : List Packet) (run : (system output).Endless) : Prop :=
  ∀ n, Sound output (run.state n) ∧ Flow output file (run.state n)

theorem inFlow_of_reach (reach : (system output).ReachesBy Playing (start file) (run.state 0))
    (playing : ∀ n, Playing (run.label n)) : InFlow file run := fun n =>
  run.invariant (I := fun s => Sound output s ∧ Flow output file s) (n := 0)
    (fun m _ ⟨sound, flow⟩ =>
      have step := step_of_next (run.step m)
      ⟨sound_step sound step, flow_step sound flow (playing m) step⟩)
    (flow_run (sound_start file) (flow_start output file) reach) (Nat.zero_le n)

/-- **Every run settles.** -/
theorem exists_settled (inFlow : InFlow file run) (playing : ∀ n, Playing (run.label n)) :
    ∃ n, Settled run n := by
  have paid : ∀ m, (worked (run.state m) (run.label m) (run.state (m + 1))).length +
      (run.state (m + 1)).effort ≤ (run.state m).effort := fun m =>
    effort_step (inFlow m).1 (step_of_next (run.step m))
  obtain ⟨n, -, same⟩ := run.settles effort (n := 0) fun m _ =>
    (Nat.le_add_left _ _).trans (paid m)
  refine ⟨n, fun m later => turn_of_turns (inFlow m).2.calm (playing m) ?_ (run.step m)⟩
  by_contra works
  have paid := paid m
  rw [same m later, worked, if_neg works, List.length_singleton] at paid
  omega

variable {n : Nat}

theorem Settled.alike (settled : Settled run n) {m : Nat} (later : n ≤ m) :
    Alike (run.state n) (run.state m) :=
  run.invariant (I := Alike (run.state n))
    (fun i after alike => alike.trans (settled i after).alike) ⟨rfl, rfl, rfl, rfl, rfl⟩ later

/-- A thread that does not poll has no step. -/
theorem Settled.disabled (settled : Settled run n) (fair : FairPlay run) {w : Worker}
    (audio : w ≠ .audioSync) (video : w ≠ .videoSync) :
    ∃ m, n ≤ m ∧ ∀ l, Own w l → (system output).next (run.state m) l = none := by
  refine run.disabled_of_fair (fair w) fun m later own => ?_
  have turn := settled m later
  generalize run.label m = l, run.state m = s, run.state (m + 1) = t at own turn
  cases w with
  | audioSync => exact audio rfl
  | videoSync => exact video rfl
  | decode k =>
    obtain ⟨made, rfl⟩ := own
    cases turn
  | demux | callback =>
    cases own
    cases turn

/-- **The demux thread waits, or is gone.** -/
theorem Settled.demux (settled : Settled run n) (fair : FairPlay run) :
    (run.state n).demux = .exited ∨ ∃ p, (run.state n).demux = .pushWaiting p := by
  obtain ⟨m, later, none⟩ := settled.disabled fair (w := .demux) nofun nofun
  rw [← (settled.alike later).demux]
  by_contra moves
  obtain ⟨gone, waits⟩ := not_or.mp moves
  obtain ⟨t, enabled⟩ := demux_enabled (not_exists.mp waits) gone
  cases (none .demux rfl).symm.trans enabled

/-- **The decoders wait.** -/
theorem Settled.decode (settled : Settled run n) (inFlow : InFlow file run) (fair : FairPlay run)
    (k : Kind) : ((run.state n).decode k).loc = .popWaiting ∨
      ∃ frame, ((run.state n).decode k).loc = .peekWaiting frame := by
  obtain ⟨m, later, none⟩ := settled.disabled fair (w := .decode k) nofun nofun
  rw [← (settled.alike later).decode]
  by_contra moves
  obtain ⟨pops, peeks⟩ := not_or.mp moves
  obtain ⟨t, enabled⟩ : ∃ t, decodeNext (output k) k true (run.state m) = some t :=
    decode_enabled pops (not_exists.mp peeks) ((inFlow m).2.alive.decode k)
  cases (none (.decode k true) ⟨true, rfl⟩).symm.trans enabled

/-- **The callback has taken every buffer.** -/
theorem Settled.frames (settled : Settled run n) (inFlow : InFlow file run) (fair : FairPlay run) :
    (run.state n).frames = [] := by
  obtain ⟨m, later, none⟩ := settled.disabled fair (w := .callback) nofun nofun
  rw [← (settled.alike later).frames]
  by_contra some
  obtain ⟨sound, flow⟩ := inFlow m
  exact callback_enabled some (fun waits => some (sound.getWaiting waits)) flow.alive.callback
    (none .callback rfl)

/-- **The audio thread looks, and sees nothing it may take.** -/
theorem Settled.audio (settled : Settled run n) (inFlow : InFlow file run) (fair : FairPlay run) :
    ∃ m, n ≤ m ∧ (run.state m).audioSync = .looking ∧ (run.state m).Deaf := by
  obtain ⟨m, later, ⟨resampled, own⟩, looks⟩ := run.comes (fair .audioSync)
    (fun s => s.audioSync = .looking) (n := n)
    (fun m later => by
      refine ⟨.audioSync true, ⟨true, rfl⟩, audio_enabled (fun waits => ?_)
        (inFlow m).2.alive.audioSync⟩
      have many := (inFlow m).1.putWaiting waits
      rw [(settled.alike later).frames, settled.frames inFlow fair] at many
      cases many)
    (fun m later ⟨resampled, own⟩ away => by
      have turn := settled m later
      rw [own] at turn
      generalize run.state (m + 1) = t at turn
      cases turn with
      | audioLook resampled here => rfl
      | audioSleep resampled here deaf => exact absurd here away)
    (fun m later other looks => by
      have turn := settled m later
      generalize run.label m = l, run.state (m + 1) = t at other turn
      cases turn with
      | audioLook resampled here => exact absurd ⟨resampled, rfl⟩ other
      | audioSleep resampled here deaf => exact absurd ⟨resampled, rfl⟩ other
      | videoLook here => exact looks
      | videoSleep here dark => exact looks)
  refine ⟨m, later, looks, ?_⟩
  have turn := settled m later
  rw [own] at turn
  generalize run.state (m + 1) = t at turn
  cases turn with
  | audioLook resampled here => exact absurd (here.symm.trans looks) nofun
  | audioSleep resampled here deaf => exact deaf

/-- **The video thread looks, and sees no frame.** -/
theorem Settled.video (settled : Settled run n) (inFlow : InFlow file run) (fair : FairPlay run) :
    ∃ m, n ≤ m ∧ (run.state m).videoSync = .looking ∧ (run.state m).Dark := by
  obtain ⟨m, later, own, looks⟩ := run.comes (fair .videoSync)
    (fun s => s.videoSync = .looking) (n := n)
    (fun m later => ⟨.videoSync, rfl, video_enabled (inFlow m).2.alive.videoSync⟩)
    (fun m later own away => by
      have turn := settled m later
      rw [show run.label m = .videoSync from own] at turn
      generalize run.state (m + 1) = t at turn
      cases turn with
      | videoLook here => rfl
      | videoSleep here dark => exact absurd here away)
    (fun m later other looks => by
      have turn := settled m later
      generalize run.label m = l, run.state (m + 1) = t at other turn
      cases turn with
      | audioLook resampled here => exact looks
      | audioSleep resampled here deaf => exact looks
      | videoLook here => exact absurd rfl other
      | videoSleep here dark => exact absurd rfl other)
  refine ⟨m, later, looks, ?_⟩
  have turn := settled m later
  rw [show run.label m = .videoSync from own] at turn
  generalize run.state (m + 1) = t at turn
  cases turn with
  | videoLook here => exact absurd (here.symm.trans looks) nofun
  | videoSleep here dark => exact dark

/-- The `MediaSync2` threads stay at the top of their loops. -/
theorem Settled.loose (settled : Settled run n) {m i : Nat} (later : n ≤ m) (after : m ≤ i) :
    ((run.state m).audioSync.bound = false → (run.state i).audioSync.bound = false) ∧
      ((run.state m).videoSync.bound = false → (run.state i).videoSync.bound = false) := by
  refine run.invariant (I := fun s =>
    ((run.state m).audioSync.bound = false → s.audioSync.bound = false) ∧
      ((run.state m).videoSync.bound = false → s.videoSync.bound = false))
    (fun j after ⟨audio, video⟩ => ?_) ⟨id, id⟩ after
  have turn := settled j (later.trans after)
  generalize run.label j = l, run.state (j + 1) = t at turn
  cases turn with
  | audioLook | audioSleep => exact ⟨fun _ => rfl, video⟩
  | videoLook | videoSleep => exact ⟨audio, fun _ => rfl⟩

/-- **A fair run comes to rest**, and stays there. -/
theorem exists_rests (inFlow : InFlow file run) (playing : ∀ n, Playing (run.label n))
    (fair : FairPlay run) : ∃ n, ∀ m, n ≤ m → Rests (run.state m) := by
  obtain ⟨n, settled⟩ := exists_settled inFlow playing
  obtain ⟨a, laterA, audio, deaf⟩ := settled.audio inFlow fair
  obtain ⟨v, laterV, video, dark⟩ := settled.video inFlow fair
  refine ⟨a + v, fun m later => ?_⟩
  have alikeA := settled.alike laterA
  have alikeV := settled.alike laterV
  have alike := settled.alike (show n ≤ m by omega)
  refine ⟨⟨?_, fun k => ?_, ?_, ?_⟩, ?_, ?_⟩
  · rw [alike.demux]
    exact settled.demux fair
  · rw [alike.decode]
    exact settled.decode inFlow fair k
  · exact (settled.loose laterV (by omega)).2 (by rw [video]; rfl)
  · unfold Dark at dark ⊢
    rwa [alike.decode, ← alikeV.decode]
  · exact (settled.loose laterA (by omega)).1 (by rw [audio]; rfl)
  · unfold Deaf at deaf ⊢
    rwa [alike.decode, ← alikeA.decode, alike.lastFramePts, ← alikeA.lastFramePts]

end Settled

/-! ### What a player at rest has shown -/

namespace Rests

/-- **A player at rest has nothing left exactly if it has shown the whole file.** -/
theorem not_left_iff (rests : Rests s) (sound : Sound output s) (flow : Flow output file s) :
    ¬s.Left ↔ ∀ k, (s.decode k).shown = framesOf k file := by
  have order := flow.order
  have size := rests.unshown_size sound
  -- the file: what is shown, what a decoder holds, what the demux thread holds, what is not read
  have parts : ∀ k, framesOf k file = (s.decode k).shown ++ ((s.decode k).unshown ++
      (s.decode k).loc.hand ++ (s.decode k).packetQueue.map Packet.frame ++
        framesOf k s.demux.hand ++ framesOf k s.file) := by
    intro k
    rw [← order, framesOf_append, framesOf_append, ← flow.stream k]
    simp only [IDecode.stream, List.append_assoc]
  constructor
  · intro nothing k
    obtain ⟨read, nothing⟩ := not_or.mp nothing
    obtain ⟨hand, nothing⟩ := not_or.mp nothing
    obtain ⟨packets, nothing⟩ := not_or.mp (not_exists.mp nothing k)
    obtain ⟨frame, unshown⟩ := not_or.mp nothing
    have length := size k
    have none : (s.decode k).unshown = [] := List.length_eq_zero_iff.mp (by omega)
    rw [parts k, none, not_not.mp frame, not_not.mp packets, not_not.mp hand, not_not.mp read]
    simp [framesOf]
  · intro shown left
    have nothing : ∀ k, (s.decode k).unshown = [] ∧ (s.decode k).loc.hand = [] ∧
        (s.decode k).packetQueue = [] ∧ framesOf k s.demux.hand = [] ∧ framesOf k s.file = [] := by
      intro k
      have same := (parts k).symm.trans (shown k).symm
      simpa [and_assoc] using same
    have none : ∀ packets : List Packet, (∀ k, framesOf k packets = []) → packets = [] := by
      intro packets empty
      cases packets with
      | nil => rfl
      | cons p rest =>
        have head := empty p.kind
        rw [framesOf_cons rfl] at head
        cases head
    rcases left with read | hand | ⟨k, packets | hand | frames⟩
    · exact read (none s.file fun k => (nothing k).2.2.2.2)
    · exact hand (none s.demux.hand fun k => (nothing k).2.2.2.1)
    · exact packets (nothing k).2.2.1
    · exact hand (nothing k).2.1
    · rw [← size k, (nothing k).1] at frames
      cases frames

/-- **A player at rest shows nothing more.** -/
theorem shown_step (rests : Rests s) (polls : s.Idle l) (step : Step output s l t) :
    t.decode = s.decode := by
  cases step with
  | audioPop resampled here =>
    have loose := rests.audioSync
    rw [here] at loose
    cases loose
  | videoPop here =>
    have loose := rests.videoSync
    rw [here] at loose
    cases loose
  | demuxPush | decodeStep | decodePop | stopAudio | stopVideo => exact polls.elim
  | _ => rfl

end Rests

/-- **A fair schedule shows every frame exactly of the files that flow.** -/
theorem fairPlay_showsAll_iff (output : Kind → FrameOutput) (file : List Packet) :
    ShowsAll output file ↔ Flows output file := by
  constructor
  · intro shows
    refine flows_of_deadlockFree fun s reach left => ?_
    obtain ⟨sound, flow⟩ := flow_run (sound_start file) (flow_start output file) reach
    by_contra stays
    have rests := (not_moves_iff sound flow).mp stays
    -- the player at rest is scheduled fairly, and polls for ever
    obtain ⟨run, begins, fair, labels⟩ := exists_fair output (s := s) .videoSync
      (I := fun t => Rests t ∧ Sound output t ∧ Flow output file t)
      (fun t l u ⟨rests, sound, flow⟩ enabled own => by
        have step := step_of_next enabled
        have playing : Playing l := by
          rcases own with rfl | ⟨w, rfl⟩
          · trivial
          · cases w <;> trivial
        exact ⟨rests.step (rests.idle flow playing enabled) step, sound_step sound step,
          flow_step sound flow playing step⟩)
      (fun t ⟨_, _, flow⟩ => Option.ne_none_iff_exists'.mp (video_enabled flow.alive.videoSync))
      ⟨rests, sound, flow⟩
    have playing : ∀ n, Playing (run.label n) := by
      intro n
      rcases labels n with own | ⟨w, own⟩ <;> rw [own]
      · trivial
      · cases w <;> trivial
    obtain ⟨n, shown⟩ := shows s reach run begins playing fair
    obtain ⟨rests', sound', flow', same⟩ := run.invariant (n := 0) (m := n)
      (I := fun t => Rests t ∧ Sound output t ∧ Flow output file t ∧ t.decode = s.decode)
      (fun m _ ⟨rests, sound, flow, same⟩ =>
        have step := step_of_next (run.step m)
        have polls := rests.idle flow (playing m) (run.step m)
        ⟨rests.step polls step, sound_step sound step, flow_step sound flow (playing m) step,
          (rests.shown_step polls step).trans same⟩)
      (by rw [begins]; exact ⟨rests, sound, flow, rfl⟩) (Nat.zero_le n)
    refine (rests.not_left_iff sound flow).mpr (fun k => ?_) left
    rw [← same]
    exact shown n (Nat.le_refl n) k
  · intro flows s reach run begins playing fair
    have inFlow : InFlow file run := inFlow_of_reach (begins ▸ reach) playing
    obtain ⟨n, rests⟩ := exists_rests inFlow playing fair
    refine ⟨n, fun m later => ?_⟩
    obtain ⟨sound, flow⟩ := inFlow m
    exact ((rests m later).not_left_iff sound flow).mp ((rests m later).not_left sound flow flows)

end Player

end Xplay
