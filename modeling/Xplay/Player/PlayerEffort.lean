/-
**A player has only so much to do.**

Besides the turns of its polling loops (`Turns`) and the calls of `pause` and `resume`, every step of
a player takes a packet, a frame or a buffer of PCM closer to its end, or a thread to its exit.
`effort` counts the steps of this kind that are left, `effort_step` says that each of them lowers it
and no step raises it, and so no schedule makes more of them than a start has (`player_work_bounded`).
-/

import Xplay.Lib.History
import Xplay.Player.PlayerSound

namespace Xplay

open Lib

/-! ### What is left to do -/

/-- The steps a demux thread has before it exits, with those its packet makes for the others. -/
def DemuxLoc.effort : DemuxLoc → Nat
  | exited => 0
  | top => 1
  | routing _ => 21
  | pushing _ => 20
  | pushWaiting _ => 19

/-- The steps a decoder thread has before it waits for a packet or exits, with those its frame makes
for a consumer. -/
def DecodeLoc.effort : DecodeLoc → Nat
  | popWaiting | exited => 0
  | popping => 1
  | top => 2
  | pushing => 3
  | filling _ _ => 13
  | peekWaiting _ | peekWoken _ => 14
  | peeking _ => 15
  | decoding _ => 16

/-- The steps an audio thread has before it exits, with those its PCM makes for the callback. -/
def AudioLoc.effort : AudioLoc → Nat
  | exited => 0
  | popping => 1
  | putWaiting | putWoken => 6
  | putting => 7
  | updating => 8
  | top | looking => 9

def VideoLoc.effort : VideoLoc → Nat
  | exited => 0
  | popping => 1
  | showing => 2
  | top | looking => 3

def CallbackLoc.effort : CallbackLoc → Nat
  | exited => 0
  | getWaiting | getWoken => 1
  | getting => 2
  | pausing => 3
  | idle => 4

theorem DemuxLoc.effort_wakePush (loc : DemuxLoc) (k : Kind) :
    (loc.wakePush k).effort ≤ loc.effort + 1 := by
  cases loc with
  | pushWaiting p =>
    show (if p.kind = k then DemuxLoc.pushing p else .pushWaiting p).effort ≤ 20
    split
    · exact Nat.le_refl 20
    · exact Nat.le_succ 19
  | _ => exact Nat.le_succ _

theorem DecodeLoc.effort_wakePop (loc : DecodeLoc) : loc.wakePop.effort ≤ loc.effort + 1 := by
  cases loc <;> simp [wakePop, effort]

@[simp] theorem DecodeLoc.effort_wakePeek (loc : DecodeLoc) : loc.wakePeek.effort = loc.effort := by
  cases loc <;> rfl

@[simp] theorem AudioLoc.effort_wakePut (loc : AudioLoc) : loc.wakePut.effort = loc.effort := by
  cases loc <;> rfl

@[simp] theorem CallbackLoc.effort_wakeGet (loc : CallbackLoc) :
    loc.wakeGet.effort = loc.effort := by
  cases loc <;> rfl

namespace IDecode

def effort (d : IDecode) : Nat :=
  17 * d.packetQueue.length + d.loc.effort + 9 * d.unshown.length

/-- A frame that is popped is no longer anybody's work. -/
theorem effort_popFrame {d : IDecode} (some : d.unshown ≠ []) : d.popFrame.effort + 9 = d.effort := by
  obtain ⟨frame, rest, unshown⟩ := List.exists_cons_of_ne_nil some
  have same : d.popFrame.loc.effort = d.loc.effort := by
    rcases Player.popFrame_loc d with same | woken
    · rw [same]
    · rw [woken, DecodeLoc.effort_wakePeek]
  unfold effort
  rw [same]
  simp only [popFrame, unshown, List.tail_cons, List.length_cons]
  omega

theorem effort_goto (d : IDecode) (loc : DecodeLoc) :
    (d.goto loc).effort + d.loc.effort = d.effort + loc.effort := by
  simp only [effort, goto]
  omega

end IDecode

namespace Player

def effort (s : Player) : Nat :=
  21 * s.file.length + s.demux.effort + (s.decode .audio).effort + (s.decode .video).effort +
    s.audioSync.effort + s.videoSync.effort + 4 * s.frames.length + s.callback.effort +
    (8 - s.stop.rank)

theorem effort_start (file : List Packet) : (start file).effort = 21 * file.length + 29 := rfl

theorem effort_setDecode (s : Player) (k : Kind) (d : IDecode) :
    (s.setDecode k d).effort + (s.decode k).effort = s.effort + d.effort := by
  cases k <;> simp only [effort, setDecode_decode] <;> simp only [setDecode] <;> grind

/-! ### Turns of the polling loops -/

/-- A turn of a polling loop: the thread looks at its flags, and at its queue, and sleeps. A call of
`pause` or `resume` is not a step of the player's own. -/
def Turns (s : Player) (l : Label) (t : Player) : Prop :=
  match l with
  | .demux => s.demux = .top ∧ t.demux = .top
  | .decode k _ => (s.decode k).loc = .top ∧ (t.decode k).loc = .top
  | .audioSync _ => (s.audioSync = .top ∨ s.audioSync = .looking) ∧
      (t.audioSync = .top ∨ t.audioSync = .looking)
  | .videoSync => (s.videoSync = .top ∨ s.videoSync = .looking) ∧
      (t.videoSync = .top ∨ t.videoSync = .looking)
  | .callback => s.callback = .pausing ∧ t.callback = .pausing
  | .stop => False
  | .pause _ => True

instance (s : Player) (l : Label) (t : Player) : Decidable (Turns s l t) := by
  cases l <;> unfold Turns <;> infer_instance

/-- The steps of a run that are more than turns of a polling loop. -/
def worked (s : Player) (l : Label) (t : Player) : List Label := if Turns s l t then [] else [l]

variable {output : Kind → FrameOutput} {s t : Player} {l : Label}

/-- A step pays for itself if it lowers the effort, and a turn of a polling loop if it does not raise
it. -/
theorem pays_of_less (less : t.effort < s.effort) :
    (worked s l t).length + t.effort ≤ s.effort := by
  have few : (worked s l t).length ≤ 1 := by
    unfold worked
    split <;> simp
  omega

theorem pays_of_turn (turn : Turns s l t) (same : t.effort = s.effort) :
    (worked s l t).length + t.effort ≤ s.effort := by
  unfold worked
  rw [if_pos turn, same]
  exact Nat.le_of_eq (Nat.zero_add _)

/-- **The demux thread pays.** -/
theorem demux_pays (step : Step output s .demux t) :
    (worked s .demux t).length + t.effort ≤ s.effort := by
  cases step with
  | demuxMove move =>
    cases move with
    | poll here pause => exact pays_of_turn ⟨here, rfl⟩ (by simp [effort, here])
    | quit here flag | drop p here flag | route p here clear | full p here full =>
      exact pays_of_less (by simp [effort, here, DemuxLoc.effort])
  | demuxEof here nothing => exact pays_of_less (by simp [effort, here, DemuxLoc.effort])
  | demuxRead p rest here front clear =>
    refine pays_of_less ?_
    simp only [effort, here, front, DemuxLoc.effort, List.length_cons]
    omega
  | demuxPush p here room =>
    refine pays_of_less ?_
    have total := effort_setDecode s p.kind ((s.decode p.kind).pushPacket p)
    have woken := (s.decode p.kind).loc.effort_wakePop
    have pushed : ((s.decode p.kind).pushPacket p).effort ≤ (s.decode p.kind).effort + 18 := by
      simp only [IDecode.effort, IDecode.pushPacket, List.length_append, List.length_singleton]
      omega
    simp only [effort, setDecode, here, DemuxLoc.effort] at total ⊢
    omega

/-- **A decoder thread that takes no packet pays.** -/
theorem decodeStep_pays {k : Kind} {made : Bool} {d : IDecode}
    (own : DecodeStep (output k) s (s.decode k) made d) :
    (worked s (.decode k made) (s.setDecode k d)).length + (s.setDecode k d).effort ≤ s.effort := by
  have total := effort_setDecode s k d
  have less : d.effort < (s.decode k).effort →
      (worked s (.decode k made) (s.setDecode k d)).length + (s.setDecode k d).effort ≤ s.effort :=
    fun less => pays_of_less (by omega)
  cases own with
  | move move =>
    have moved := (s.decode k).effort_goto
    cases move with
    | poll here pause =>
      refine pays_of_turn ⟨here, by rw [setDecode_decode, if_pos rfl]; rfl⟩ ?_
      have moved := moved .top
      rw [here] at moved
      omega
    | null frame here aborted =>
      have moved := moved .top
      rcases here with here | here <;> rw [here] at moved <;> simp only [DecodeLoc.effort] at moved <;>
        exact less (by omega)
    | quit here | pop here | empty here | wait frame here | grant frame here | woken frame here =>
      refine less ?_
      simp only [IDecode.effort, IDecode.goto, here, DecodeLoc.effort]
      omega
  | make frame here makes | skip frame here skips =>
    refine less ?_
    simp only [IDecode.effort, IDecode.goto, here, DecodeLoc.effort]
    omega
  | fill frame j here =>
    refine less ?_
    simp only [IDecode.effort, IDecode.fill, here, DecodeLoc.effort, List.length_append,
      List.length_singleton]
    omega
  | push here =>
    refine less ?_
    simp only [IDecode.effort, IDecode.pushFrame, here, DecodeLoc.effort]
    omega

/-- **A decoder thread pays.** -/
theorem decode_pays {k : Kind} {made : Bool} (step : Step output s (.decode k made) t) :
    (worked s (.decode k made) t).length + t.effort ≤ s.effort := by
  cases step with
  | decodeStep k made own => exact decodeStep_pays own
  | decodePop k made p rest here front =>
    refine pays_of_less ?_
    have total := effort_setDecode s k ((s.decode k).popPacket p rest)
    have woken := s.demux.effort_wakePush k
    have popped : ((s.decode k).popPacket p rest).effort + 2 = (s.decode k).effort := by
      simp only [IDecode.effort, IDecode.popPacket, here, front, DecodeLoc.effort, List.length_cons]
      omega
    simp only [effort, setDecode] at total ⊢
    omega

/-- **The audio thread pays**, with the frame it pops for the way back to its loop. -/
theorem audio_pays (sound : Sound output s) {resampled : Bool}
    (step : Step output s (.audioSync resampled) t) :
    (worked s (.audioSync resampled) t).length + t.effort ≤ s.effort := by
  cases step with
  | audioMove resampled move =>
    cases move with
    | poll here => exact pays_of_turn ⟨.inl here, .inl rfl⟩ (by simp [effort, here])
    | look here clear =>
      exact pays_of_turn ⟨.inl here, .inr rfl⟩ (by simp [effort, here, AudioLoc.effort])
    | blank here closed =>
      exact pays_of_turn ⟨.inr here, .inl rfl⟩ (by simp [effort, here, AudioLoc.effort])
    | quit here | see here | resampled here | lost here | full here =>
      exact pays_of_less (by simp [effort, here, AudioLoc.effort])
  | audioPut resampled here =>
    refine pays_of_less ?_
    have before : 6 ≤ s.audioSync.effort := by
      rcases here with ⟨here, -⟩ | here <;> rw [here] <;> decide
    have after : AudioLoc.popping.effort = 1 := rfl
    simp only [effort, put, after, CallbackLoc.effort_wakeGet, List.length_append,
      List.length_singleton]
    omega
  | audioPop resampled here =>
    refine pays_of_less ?_
    obtain ⟨stored, held⟩ := sound.held .audio
    have bound : s.Bound .audio := by
      unfold Player.Bound
      rw [here]
      rfl
    have popped := IDecode.effort_popFrame (held.unshown_ne_nil bound)
    have total := effort_setDecode s .audio (s.decode .audio).popFrame
    simp only [effort, setDecode, here, AudioLoc.effort] at total ⊢
    omega

/-- **The video thread pays.** -/
theorem video_pays (sound : Sound output s) (step : Step output s .videoSync t) :
    (worked s .videoSync t).length + t.effort ≤ s.effort := by
  cases step with
  | videoMove move =>
    cases move with
    | poll here => exact pays_of_turn ⟨.inl here, .inl rfl⟩ (by simp [effort, here])
    | look here clear =>
      exact pays_of_turn ⟨.inl here, .inr rfl⟩ (by simp [effort, here, VideoLoc.effort])
    | blank here closed =>
      exact pays_of_turn ⟨.inr here, .inl rfl⟩ (by simp [effort, here, VideoLoc.effort])
    | quit here | see here => exact pays_of_less (by simp [effort, here, VideoLoc.effort])
  | videoShow here => exact pays_of_less (by simp [effort, here, VideoLoc.effort])
  | videoPop here =>
    refine pays_of_less ?_
    obtain ⟨stored, held⟩ := sound.held .video
    have bound : s.Bound .video := by
      unfold Player.Bound
      rw [here]
      rfl
    have popped := IDecode.effort_popFrame (held.unshown_ne_nil bound)
    have total := effort_setDecode s .video (s.decode .video).popFrame
    simp only [effort, setDecode, here, VideoLoc.effort] at total ⊢
    omega

/-- **The callback pays**, with the buffer it takes for its next call. -/
theorem callback_pays (step : Step output s .callback t) :
    (worked s .callback t).length + t.effort ≤ s.effort := by
  cases step with
  | callbackMove move =>
    cases move with
    | poll here => exact pays_of_turn ⟨here, rfl⟩ (by simp [effort, here])
    | quit here flag =>
      refine pays_of_less ?_
      rcases here with here | here <;> simp [effort, here, CallbackLoc.effort]
    | leave here flag =>
      refine pays_of_less ?_
      rcases here with here | here <;> simp [effort, here, CallbackLoc.effort]
    | pause here | call here | resume here | empty here =>
      exact pays_of_less (by simp [effort, here, CallbackLoc.effort])
  | callbackTake x rest here front clear =>
    refine pays_of_less ?_
    have before : 1 ≤ s.callback.effort := by
      rcases here with here | here <;> rw [here] <;> decide
    have after : CallbackLoc.idle.effort = 4 := rfl
    simp only [effort, front, AudioLoc.effort_wakePut, after, List.length_cons]
    omega

/-- **`stop` pays**, one of its statements after the other. -/
theorem stop_pays (step : Step output s .stop t) :
    (worked s .stop t).length + t.effort ≤ s.effort := by
  have stopped : ∀ k loc, (s.stopDecode k).effort = s.effort →
      8 - loc.rank < 8 - s.stop.rank →
      ({ s.stopDecode k with stop := loc } : Player).effort < s.effort := by
    intro k loc same less
    rw [← same]
    simp only [effort, stopDecode, setDecode] at same ⊢
    omega
  refine pays_of_less ?_
  cases step with
  | stopAudio here =>
    refine stopped .audio .videoDecode ?_ (by rw [here]; decide)
    have total := effort_setDecode s .audio { s.decode .audio with isExit := true }
    exact Nat.add_right_cancel total
  | stopVideo here =>
    refine stopped .video .returned ?_ (by rw [here]; decide)
    have total := effort_setDecode s .video { s.decode .video with isExit := true }
    exact Nat.add_right_cancel total
  | stopAbort here | stopSync here | stopPlay here | stopNotEmpty here | stopNotFull here
  | stopDemux here => simp [effort, here, StopLoc.rank]

/-- **The step lemma**: every step pays for itself. -/
theorem effort_step (sound : Sound output s) (step : Step output s l t) :
    (worked s l t).length + t.effort ≤ s.effort := by
  cases l with
  | demux => exact demux_pays step
  | decode k made => exact decode_pays step
  | audioSync resampled => exact audio_pays sound step
  | videoSync => exact video_pays sound step
  | callback => exact callback_pays step
  | stop => exact stop_pays step
  | pause request =>
    cases step with
    | pause request here => exact pays_of_turn trivial rfl

/-- **A player makes at most 21 steps for a packet, and 29 more**, besides the turns of its polling
loops and the calls of `pause` and `resume`: whatever the schedule, paused, stopped or neither. -/
theorem player_work_bounded (output : Kind → FrameOutput) (file : List Packet)
    (labels : List Label) (s : Player) (run : (system output).run (start file) labels = some s) :
    ((system output).history worked (start file) labels).length ≤ 21 * file.length + 29 := by
  obtain ⟨-, paid⟩ := System.history_length_le worked (I := Sound output) effort
    (fun s l t sound enabled =>
      have step := step_of_next enabled
      ⟨sound_step sound step, effort_step sound step⟩)
    run (sound_start file)
  rw [effort_start] at paid
  omega

/-- A player on a file of one packet, once its demux thread has pushed it. -/
theorem player_work_pushed : ∃ s,
    (system (decoders ⟨1, 25⟩ ⟨25, 1⟩)).run (start [⟨.video, AVFrame.blank⟩])
      (List.replicate 3 .demux) = some s ∧
    ((system (decoders ⟨1, 25⟩ ⟨25, 1⟩)).history worked (start [⟨.video, AVFrame.blank⟩])
      (List.replicate 3 .demux)).length ≤ 50 :=
  ⟨_, rfl, player_work_bounded _ _ _ _ rfl⟩

end Player

end Xplay
