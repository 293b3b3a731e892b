/-
**Workers nobody wakes after `stop`.**

`stop` notifies the condition variables of the audio output only, so a thread in a wait set stays
there once its peer has gone. `Stuck` says this of a state for every blocking call, `stuck_step` that
it lasts, and `not_released_of_stuck` that `stop` does not release such a worker.
-/

import Xplay.Player.PlayerStop

namespace Xplay

open Lib

namespace Player

/-! ### Threads nobody wakes -/

/-- The `MediaSync2` thread of `k` takes no frame before it exits. -/
def Leaves (s : Player) : Kind → Prop
  | .audio => s.audioSync = .top ∨ s.audioSync = .exited
  | .video => s.videoSync = .top ∨ s.videoSync = .exited

/-- **A worker nobody wakes any more**, with what keeps it where it is. -/
inductive Stuck (s : Player) : Worker → Prop
  | push (p : Packet) (here : s.demux = .pushing p ∨ s.demux = .pushWaiting p)
    (full : packetQueueSize ≤ (s.decode p.kind).packetQueue.length)
    (passed : (s.decode p.kind).loc ≠ .popping) : Stuck s .demux
  | pop (k : Kind) (here : (s.decode k).loc = .popping ∨ (s.decode k).loc = .popWaiting)
    (nothing : s.nextPacket k = none) : Stuck s (.decode k)
  | peek (k : Kind) (frame : AVFrame) (here : (s.decode k).loc = .peekWaiting frame)
    (leaves : s.Leaves k) : Stuck s (.decode k)
  | put (here : s.audioSync = .putWaiting) : Stuck s .audioSync
  | get (here : s.callback = .getWaiting) (leaves : s.Leaves .audio) : Stuck s .callback

variable {output : Kind → FrameOutput} {s s' t : Player} {l : Label}

/-- A `MediaSync2` thread at its flag check leaves. -/
theorem leaves_step (halted : Halted output s) (step : Step output s l s') {k : Kind}
    (leaves : s.Leaves k) : s'.Leaves k := by
  have aborted := halted.aborted
  have returned := halted.returned
  cases k with
  | audio =>
    cases step with
    | audioMove resampled move => cases move <;> simp_all [Leaves]
    | audioPut resampled here => rcases here with ⟨here, -⟩ | here <;> simp_all [Leaves]
    | audioPop resampled here => simp_all [Leaves]
    | callbackTake x rest here front clear =>
      rcases leaves with here | here
      · exact .inl (by show s.audioSync.wakePut = .top; rw [here]; rfl)
      · exact .inr (by show s.audioSync.wakePut = .exited; rw [here]; rfl)
    | stopNotFull here =>
      rw [returned] at here
      cases here
    | _ => exact leaves
  | video =>
    cases step with
    | videoMove move => cases move <;> simp_all [Leaves]
    | videoShow here => simp_all [Leaves]
    | videoPop here => simp_all [Leaves]
    | _ => exact leaves

/-- A thread that leaves pops nothing. -/
theorem Leaves.not_popsFrame {k : Kind} (leaves : s.Leaves k) : ¬s.PopsFrame l k := by
  intro pops
  cases k with
  | audio => rcases leaves with here | here <;> simp [PopsFrame, here] at pops
  | video => rcases leaves with here | here <;> simp [PopsFrame, here] at pops

/-- A demux thread that pushes into a full queue stays there, its decoder past the pop. -/
theorem stuck_push (halted : Halted output s) (step : Step output s l s') {p : Packet}
    (here : s.demux = .pushing p ∨ s.demux = .pushWaiting p)
    (full : packetQueueSize ≤ (s.decode p.kind).packetQueue.length)
    (passed : (s.decode p.kind).loc ≠ .popping) : Stuck s' .demux := by
  have aborted := halted.aborted
  have keep : ∀ k d, d.packetQueue = (s.decode k).packetQueue →
      (d.loc = .popping → (s.decode k).loc = .popping) →
      packetQueueSize ≤ ((s.setDecode k d).decode p.kind).packetQueue.length ∧
        ((s.setDecode k d).decode p.kind).loc ≠ .popping := by
    intro k d queue loc
    rw [setDecode_decode]
    split
    · next kind => exact ⟨by rwa [queue, ← kind], fun pops => passed (by rw [kind]; exact loc pops)⟩
    · exact ⟨full, passed⟩
  cases step with
  | demuxMove move =>
    cases move with
    | full q there full' =>
      have same : q = p := by
        rw [there] at here
        rcases here with same | bad
        · exact DemuxLoc.pushing.inj same
        · cases bad
      exact .push p (.inr (by rw [same])) full passed
    | _ => simp_all
  | demuxEof there nothing => simp_all
  | demuxRead q rest there front clear => simp_all
  | demuxPush q there room =>
    have same : q = p := by
      rw [there] at here
      rcases here with same | bad
      · exact DemuxLoc.pushing.inj same
      · cases bad
    subst same
    exact absurd full (Nat.not_le.mpr room)
  | decodePop k made q rest there front =>
    have other : k ≠ p.kind := fun same => passed (same ▸ there)
    have still : s.demux.wakePush k = .pushing p ∨ s.demux.wakePush k = .pushWaiting p := by
      rcases here with here | here
      · exact .inl (by rw [here]; rfl)
      · exact .inr (by rw [here]; exact if_neg (Ne.symm other))
    refine .push p still ?_ ?_ <;> simpa [Ne.symm other]
  | decodeStep k made own =>
    obtain ⟨full, passed⟩ := keep k _ own.packetQueue fun pops => by
      cases own with
      | move move =>
        cases move with
        | pop there clear =>
          rw [aborted] at clear
          cases clear
        | _ => cases pops
      | _ => cases pops
    exact .push p here full passed
  | audioPop resampled there =>
    obtain ⟨full, passed⟩ := keep .audio (s.decode .audio).popFrame rfl (popFrame_popping _).mp
    exact .push p here full passed
  | videoPop there =>
    obtain ⟨full, passed⟩ := keep .video (s.decode .video).popFrame rfl (popFrame_popping _).mp
    exact .push p here full passed
  | stopAudio there =>
    obtain ⟨full, passed⟩ := keep .audio { s.decode .audio with isExit := true } rfl id
    exact .push p here full passed
  | stopVideo there =>
    obtain ⟨full, passed⟩ := keep .video { s.decode .video with isExit := true } rfl id
    exact .push p here full passed
  | _ => exact .push p here full passed

/-- A decoder waits for a packet that nobody brings. -/
theorem stuck_pop (halted : Halted output s) (step : Step output s l s') {k : Kind}
    (here : (s.decode k).loc = .popping ∨ (s.decode k).loc = .popWaiting)
    (nothing : s.nextPacket k = none) : Stuck s' (.decode k) := by
  by_cases own : ∃ made, l = .decode k made
  · obtain ⟨made, rfl⟩ := own
    cases step with
    | @decodeStep _ _ d own =>
      have waits : d.loc = .popWaiting ∧ d.packetQueue = (s.decode k).packetQueue := by
        refine ⟨?_, own.packetQueue⟩
        cases own with
        | move move =>
          cases move with
          | empty there nothing => rfl
          | null frame there flag => rcases there with there | there <;> simp_all
          | _ => simp_all
        | _ => simp_all
      refine .pop k (.inr ?_) ?_
      · rw [setDecode_decode, if_pos rfl, waits.1]
      · unfold nextPacket at nothing ⊢
        rw [setDecode_decode, if_pos rfl, waits.2]
        exact nothing
    | decodePop _ _ p rest there front =>
      unfold nextPacket at nothing
      rw [front] at nothing
      cases nothing
  · have other : ∀ made, l ≠ .decode k made := fun made same => own ⟨made, same⟩
    refine .pop k ?_ ?_
    · by_cases pops : s.PopsFrame l k
      · rw [decode_popsFrame step pops]
        rcases popFrame_loc (s.decode k) with same | same <;> rw [same]
        · exact here
        · rcases here with here | here <;> rw [here]
          · exact .inl rfl
          · exact .inr rfl
      · obtain ⟨-, -, same | same⟩ := decode_other step other pops <;> rw [same]
        · exact here
        · rcases here with here | here <;> rw [here] <;> exact .inl rfl
    · refine Option.eq_none_iff_forall_ne_some.mpr fun p next => ?_
      have before := nextPacket_step halted.aborted step
        (fun made same => absurd same (other made)) next
      rw [nothing] at before
      cases before

/-- A decoder waits for room that nobody makes. -/
theorem stuck_peek (halted : Halted output s) (step : Step output s l s') {k : Kind}
    {frame : AVFrame} (here : (s.decode k).loc = .peekWaiting frame) (leaves : s.Leaves k) :
    Stuck s' (.decode k) := by
  refine .peek k frame ?_ (leaves_step halted step leaves)
  by_cases own : ∃ made, l = .decode k made
  · obtain ⟨made, rfl⟩ := own
    cases step with
    | decodeStep _ _ own =>
      cases own with
      | move move => cases move <;> simp_all
      | _ => simp_all
    | decodePop _ _ p rest there front =>
      rw [here] at there
      cases there
  · obtain ⟨-, -, same | same⟩ :=
      decode_other step (fun made same => own ⟨made, same⟩) leaves.not_popsFrame
    · rw [same, here]
    · rw [same, here]
      rfl

/-- The audio thread waits for a callback that only exits. -/
theorem stuck_put (halted : Halted output s) (step : Step output s l s')
    (here : s.audioSync = .putWaiting) : Stuck s' .audioSync := by
  have playExit := halted.playExit
  have returned := halted.returned
  refine .put ?_
  cases step with
  | audioMove resampled move => cases move <;> simp_all
  | audioPut resampled there => rcases there with ⟨there, -⟩ | there <;> simp_all
  | audioPop resampled there => simp_all
  | callbackTake x rest there front clear => simp_all
  | stopNotFull there => simp_all
  | _ => exact here

/-- The callback waits for an audio thread that leaves. -/
theorem stuck_get (halted : Halted output s) (step : Step output s l s')
    (here : s.callback = .getWaiting) (leaves : s.Leaves .audio) : Stuck s' .callback := by
  have returned := halted.returned
  refine .get ?_ (leaves_step halted step leaves)
  cases step with
  | callbackMove move => cases move <;> simp_all
  | callbackTake x rest there front clear => rcases there with there | there <;> simp_all
  | audioPut resampled there =>
    rcases leaves with gone | gone <;> rcases there with ⟨there, -⟩ | there <;>
      (rw [gone] at there; cases there)
  | stopNotEmpty there => simp_all
  | _ => exact here

/-- **Nobody wakes it later either.** -/
theorem stuck_step (halted : Halted output s) (step : Step output s l s') {w : Worker}
    (stuck : Stuck s w) : Stuck s' w := by
  cases stuck with
  | push p here full passed => exact stuck_push halted step here full passed
  | pop k here nothing => exact stuck_pop halted step here nothing
  | peek k frame here leaves => exact stuck_peek halted step here leaves
  | put here => exact stuck_put halted step here
  | get here leaves => exact stuck_get halted step here leaves

/-- A stuck worker has not exited. -/
theorem Stuck.not_exited {w : Worker} (stuck : Stuck s w) : ¬s.Exited w := by
  intro exited
  cases stuck with
  | push p here full passed => rcases here with here | here <;> simp_all [Exited]
  | pop k here nothing => rcases here with here | here <;> simp_all [Exited]
  | peek k frame here leaves => simp_all [Exited]
  | put here => simp_all [Exited]
  | get here leaves => simp_all [Exited]

/-- **It is never released.** -/
theorem not_released_of_stuck (halted : Halted output s) {w : Worker} (stuck : Stuck s w) :
    ¬Released output s := by
  intro released
  obtain ⟨t, reach, exited⟩ := released w
  obtain ⟨-, still⟩ := System.invariant_reaches (I := fun s => Halted output s ∧ Stuck s w)
    (fun _ _ _ ⟨halted, stuck⟩ enabled =>
      ⟨halted.step (step_of_next enabled), stuck_step halted (step_of_next enabled) stuck⟩)
    reach ⟨halted, stuck⟩
  exact still.not_exited exited

end Player

end Xplay
