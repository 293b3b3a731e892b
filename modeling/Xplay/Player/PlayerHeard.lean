/-
**What is heard**, in every run: played, paused or stopped.

* `heard`, `sounded` — the audio frames the audio thread is done with, and what became of them: a
  buffer the callback enqueued, or nothing from the resampler. The buffers are the frames heard, in
  order, but for those the resampler gave nothing for (`pcm_inOrder`).
* No audio frame is taken before a video frame with a pts other than 0 was shown (`picture_first`).
-/

import Xplay.Lib.History
import Xplay.Player.PlayerOrder

namespace Xplay

open Lib

namespace Player

variable {output : Kind → FrameOutput} {file : List Packet} {s t : Player} {l : Label}

/-! ### The audio that is heard -/

/-- The audio frames the audio thread is done with: those popped, and the one it is to pop. -/
def heard (s : Player) : List AVFrame :=
  (s.decode .audio).shown ++
    if s.audioSync = .popping then (s.decode .audio).unshown.take 1 else []

/-- What becomes of an audio frame. -/
inductive Sounded
  /-- `playCall` enqueues its PCM. -/
  | enqueued (data : XData)
  /-- The resampler gives nothing for it. -/
  | nothing (frame : AVFrame)

/-- What a step makes of the audio. -/
def sounded (s : Player) (l : Label) (_ : Player) : List Sounded :=
  match l with
  | .callback =>
    if (s.callback = .getting ∨ s.callback = .getWoken) ∧ s.playExit = false then
      (s.frames.take 1).map .enqueued
    else []
  | .audioSync false =>
    if s.audioSync = .updating then ((s.decode .audio).unshown.take 1).map .nothing else []
  | _ => []

/-- The buffers that were enqueued. -/
def buffers (log : List Sounded) : List XData :=
  log.filterMap fun
    | .enqueued data => some data
    | .nothing _ => none

/-- The frames the resampler gave nothing for. -/
def silent (log : List Sounded) : List AVFrame :=
  log.filterMap fun
    | .enqueued _ => none
    | .nothing frame => some frame

@[simp] theorem buffers_append (left right : List Sounded) :
    buffers (left ++ right) = buffers left ++ buffers right := List.filterMap_append

@[simp] theorem silent_append (left right : List Sounded) :
    silent (left ++ right) = silent left ++ silent right := List.filterMap_append

@[simp] theorem buffers_enqueued (data : XData) : buffers [.enqueued data] = [data] := rfl
@[simp] theorem buffers_nothing (frame : AVFrame) : buffers [.nothing frame] = [] := rfl
@[simp] theorem silent_enqueued (data : XData) : silent [.enqueued data] = [] := rfl
@[simp] theorem silent_nothing (frame : AVFrame) : silent [.nothing frame] = [frame] := rfl

/-- A buffer has the size and the pts of the frame it was resampled from. -/
def Carries (output : FrameOutput) (data : XData) (frame : AVFrame) : Prop :=
  data.size = output.size frame ∧ data.pts = output.pts frame

/-- **What is enqueued or waits for it is what was heard**, in order, but for what was silent. -/
structure Accounted (output : FrameOutput) (s : Player) (log : List Sounded) : Prop where
  inOrder : ∃ frames, List.Forall₂ (Carries output) (buffers log ++ s.frames) frames ∧
    frames.Sublist s.heard
  count : (buffers log).length + s.frames.length + (silent log).length = s.heard.length

theorem accounted_start (output : FrameOutput) (file : List Packet) :
    Accounted output (start file) [] :=
  ⟨⟨[], .nil, List.nil_sublist _⟩, rfl⟩

/-- A step that makes nothing of the audio and lets no frame be heard. -/
theorem Accounted.same {output : FrameOutput} {log : List Sounded} (accounted : Accounted output s log)
    (none : sounded s l t = []) (frames : t.frames = s.frames) (heard : t.heard = s.heard) :
    Accounted output t (log ++ sounded s l t) := by
  obtain ⟨inOrder, count⟩ := accounted
  rw [none, List.append_nil]
  exact ⟨by rw [frames, heard]; exact inOrder, by rw [frames, heard]; exact count⟩

/-- Nothing is heard of an audio thread that moves elsewhere. -/
theorem heard_away {loc : AudioLoc} (before : s.audioSync ≠ .popping) (after : loc ≠ .popping) :
    ({ s with audioSync := loc } : Player).heard = s.heard := by
  unfold heard
  rw [if_neg before, if_neg after]

/-- Changing a decoder leaves alone what is heard, if the audio keeps its shown frames, and its first
unshown one while the audio thread is to pop it. -/
theorem heard_setDecode {k : Kind} {d : IDecode} (shown : d.shown = (s.decode k).shown)
    (front : s.audioSync = .popping → k = .audio →
      d.unshown.take 1 = (s.decode k).unshown.take 1) : (s.setDecode k d).heard = s.heard := by
  cases k with
  | video => rfl
  | audio =>
    show (d.shown ++ if s.audioSync = .popping then d.unshown.take 1 else []) = s.heard
    rw [shown]
    unfold heard
    split
    · next here => rw [front here rfl]
    · rfl

/-- The frame an audio thread is bound to is the one in the slot it looks at. -/
theorem current_of_bound (sound : Sound output s) (bound : s.audioSync.bound = true) :
    ∃ frame rest, (s.decode .audio).unshown = frame :: rest ∧
      Carries (output .audio) (s.decode .audio).frameQueue.currentFrame frame := by
  obtain ⟨stored, held⟩ := sound.held .audio
  rcases held.current with ⟨frame, rest, unshown, size, pts⟩ | ⟨nothing, -⟩
  · exact ⟨frame, rest, unshown, size, pts⟩
  · exact absurd nothing (held.unshown_ne_nil bound)

/-- **The audio thread's moves**: it hands a frame on to the resampler, who may lose it. -/
theorem accounted_audioMove (sound : Sound output s) {log : List Sounded}
    (accounted : Accounted (output .audio) s log) {resampled : Bool} {loc : AudioLoc}
    (enabled : (system output).next s (.audioSync resampled) = some { s with audioSync := loc })
    (move : AudioMove s loc) :
    Accounted (output .audio) { s with audioSync := loc }
      (log ++ sounded s (.audioSync resampled) { s with audioSync := loc }) := by
  have away : s.audioSync ≠ .updating → s.audioSync ≠ .popping → loc ≠ .popping →
      Accounted (output .audio) { s with audioSync := loc }
        (log ++ sounded s (.audioSync resampled) { s with audioSync := loc }) := by
    intro other before after
    refine accounted.same ?_ rfl (heard_away before after)
    cases resampled with
    | true => rfl
    | false => exact if_neg other
  cases move with
  | poll here | quit here | look here | blank here | see here | full here =>
    exact away (by rw [here]; nofun) (by rw [here]; nofun) nofun
  | resampled here =>
    cases resampled with
    | true => exact accounted.same rfl rfl (heard_away (by rw [here]; nofun) nofun)
    | false => simp [system, next, audioNext, here] at enabled
  | lost here =>
    cases resampled with
    | true => simp [system, next, audioNext, here] at enabled
    | false =>
      obtain ⟨frame, rest, unshown, -⟩ := current_of_bound sound (by rw [here]; rfl)
      obtain ⟨⟨frames, same, sublist⟩, count⟩ := accounted
      have emits : sounded s (.audioSync false) { s with audioSync := .popping } =
          [.nothing frame] := by
        simp [sounded, here, unshown]
      have heard : ({ s with audioSync := .popping } : Player).heard = s.heard ++ [frame] := by
        simp [heard, here, unshown]
      rw [emits]
      refine ⟨⟨frames, ?_, ?_⟩, ?_⟩
      · simpa using same
      · rw [heard]
        exact sublist.trans (List.sublist_append_left _ _)
      · simp only [heard, buffers_append, silent_append, buffers_nothing, silent_nothing,
          List.append_nil, List.length_append, List.length_singleton]
        omega

/-- **The step lemma.** -/
theorem accounted_step (sound : Sound output s) {log : List Sounded}
    (accounted : Accounted (output .audio) s log) (enabled : (system output).next s l = some t) :
    Accounted (output .audio) t (log ++ sounded s l t) := by
  have step := step_of_next enabled
  cases step with
  | demuxPush p here room => exact accounted.same rfl rfl (heard_setDecode rfl fun _ _ => rfl)
  | decodePop k made p rest here front =>
    exact accounted.same rfl rfl (heard_setDecode rfl fun _ _ => rfl)
  | decodeStep k made own =>
    refine accounted.same rfl rfl (heard_setDecode own.shown fun popping kind => ?_)
    subst kind
    obtain ⟨first, rest, unshown, -⟩ := current_of_bound sound (by rw [popping]; rfl)
    cases own with
    | fill frame j here => simp [IDecode.fill, unshown]
    | _ => rfl
  | audioMove resampled move => exact accounted_audioMove sound accounted enabled move
  | audioPut resampled here =>
    have bound : s.audioSync.bound = true := by rcases here with ⟨here, -⟩ | here <;> rw [here] <;> rfl
    have before : s.audioSync ≠ .popping ∧ s.audioSync ≠ .updating := by
      rcases here with ⟨here, -⟩ | here <;> rw [here] <;> simp
    obtain ⟨frame, rest, unshown, carries⟩ := current_of_bound sound bound
    obtain ⟨⟨frames, same, sublist⟩, count⟩ := accounted
    have none : sounded s (.audioSync resampled) s.put = [] := by
      cases resampled with
      | true => rfl
      | false => exact if_neg before.2
    have heard' : s.put.heard = s.heard ++ [frame] := by
      simp [heard, put, before.1, unshown]
    rw [none, List.append_nil]
    refine ⟨⟨frames ++ [frame], ?_, ?_⟩, ?_⟩
    · show List.Forall₂ _ (buffers log ++ (s.frames ++ [_])) _
      rw [← List.append_assoc]
      exact List.rel_append same (.cons carries .nil)
    · rw [heard']
      exact sublist.append (List.Sublist.refl _)
    · rw [heard']
      simp only [put, List.length_append, List.length_singleton]
      omega
  | audioPop resampled here =>
    refine accounted.same ?_ rfl ?_
    · cases resampled with
      | true => rfl
      | false => exact if_neg (by simp [here])
    · show (s.decode .audio).popFrame.shown ++ [] = s.heard
      simp [heard, here, IDecode.popFrame]
  | callbackMove move =>
    refine accounted.same ?_ rfl rfl
    cases move with
    | pause here | poll here | call here | resume here =>
      refine if_neg fun takes => ?_
      rcases takes.1 with there | there <;> simp [here] at there
    | quit here flag =>
      refine if_neg fun takes => ?_
      rcases here with here | here <;> rcases takes.1 with there | there <;> simp [here] at there
    | empty here nothing => simp [sounded, nothing]
    | leave here flag => exact if_neg fun takes => by simp [flag] at takes
  | callbackTake x rest here front clear =>
    obtain ⟨⟨frames, same, sublist⟩, count⟩ := accounted
    have woken : ({ s with
        frames := rest
        audioSync := s.audioSync.wakePut
        callback := .idle } : Player).heard = s.heard := by
      unfold heard
      cases loc : s.audioSync <;> simp [AudioLoc.wakePut]
    have emits : sounded s .callback { s with
        frames := rest
        audioSync := s.audioSync.wakePut
        callback := .idle } = [.enqueued x] := by
      simp [sounded, here, clear, front]
    rw [emits]
    refine ⟨⟨frames, ?_, by rwa [woken]⟩, ?_⟩
    · rw [front] at same
      simpa using same
    · rw [front, List.length_cons] at count
      simp only [woken, buffers_append, silent_append, buffers_enqueued, silent_enqueued,
        List.append_nil, List.length_append, List.length_singleton]
      omega
  | stopNotFull here =>
    refine accounted.same rfl rfl ?_
    unfold heard
    cases loc : s.audioSync <;> simp [AudioLoc.wakePut]
  | stopAudio here => exact accounted.same rfl rfl (heard_setDecode rfl fun _ _ => rfl)
  | stopVideo here => exact accounted.same rfl rfl (heard_setDecode rfl fun _ _ => rfl)
  | _ => exact accounted.same rfl rfl rfl

/-! ### The picture comes first -/

/-- A video frame with a pts other than 0 was shown. -/
def Pictured (output : FrameOutput) (s : Player) : Prop :=
  ∃ frame ∈ s.seen, output.pts frame ≠ some 0

/-- What the gate of the audio thread is open for was shown. -/
theorem pictured_of_gate {output : FrameOutput} (gate : s.lastFramePts = lastPts output s.seen)
    (opens : s.lastFramePts ≠ some 0) : Pictured output s := by
  rw [gate] at opens
  cases last : s.seen.getLast? with
  | none => simp [lastPts, last] at opens
  | some frame =>
    refine ⟨frame, List.mem_of_getLast? last, ?_⟩
    simpa [lastPts, last] using opens

/-- A video frame that was shown stays so. -/
theorem seen_mono (sound : Sound output s) (step : Step output s l t) {frame : AVFrame}
    (member : frame ∈ s.seen) : frame ∈ t.seen := by
  have keep : ∀ k d, d.shown = (s.decode k).shown →
      (s.videoSync = .popping → k = .video → d.unshown.take 1 = (s.decode k).unshown.take 1) →
      frame ∈ (s.setDecode k d).seen := by
    intro k d shown front
    cases k with
    | audio => exact member
    | video =>
      show frame ∈ d.shown ++ if s.videoSync = .popping then d.unshown.take 1 else []
      rw [shown]
      unfold seen at member
      split
      · next here => rwa [if_pos here, ← front here rfl] at member
      · next away => rwa [if_neg away] at member
  have left : s.videoSync ≠ .popping → frame ∈ (s.decode .video).shown := by
    intro away
    unfold seen at member
    rwa [if_neg away, List.append_nil] at member
  cases step with
  | demuxPush p here room => exact keep p.kind _ rfl fun _ _ => rfl
  | decodePop k made p rest here front => exact keep k _ rfl fun _ _ => rfl
  | decodeStep k made own =>
    refine keep k _ own.shown fun popping kind => ?_
    subst kind
    obtain ⟨stored, held⟩ := sound.held .video
    have bound : s.Bound .video := by
      unfold Player.Bound
      rw [popping]
      rfl
    obtain ⟨first, rest, unshown⟩ := List.exists_cons_of_ne_nil (held.unshown_ne_nil bound)
    cases own with
    | fill frame j here => simp [IDecode.fill, unshown]
    | _ => rfl
  | videoMove move =>
    refine List.mem_append_left _ (left ?_)
    cases move with
    | poll here | quit here | look here | blank here | see here =>
      simp [here]
  | videoShow here => exact List.mem_append_left _ (left (by simp [here]))
  | videoPop here =>
    show frame ∈ (s.decode .video).popFrame.shown ++ []
    unfold seen at member
    rwa [if_pos here, ← List.append_nil (_ ++ _)] at member
  | stopVideo here => exact keep .video _ rfl fun _ _ => rfl
  | _ => exact member

/-- The audio thread is bound to a frame only once the picture is there. -/
theorem pictured_step (sound : Sound output s)
    (gate : s.lastFramePts = lastPts (output .video) s.seen)
    (bound : s.audioSync.bound = true → Pictured (output .video) s)
    (step : Step output s l t) (after : t.audioSync.bound = true) : Pictured (output .video) t := by
  have stays : s.audioSync.bound = true → Pictured (output .video) t := fun before =>
    have ⟨frame, member, opens⟩ := bound before
    ⟨frame, seen_mono sound step member, opens⟩
  cases step with
  | audioMove resampled move =>
    cases move with
    | see here saw opens => exact pictured_of_gate gate opens
    | resampled here | lost here | full here => exact stays (by rw [here]; rfl)
    | poll here | quit here | look here | blank here => cases after
  | audioPut resampled here => exact stays (by rcases here with ⟨here, -⟩ | here <;> rw [here] <;> rfl)
  | audioPop resampled here => cases after
  | callbackTake x rest here front clear => exact stays (by simpa using after)
  | stopNotFull here => exact stays (by simpa using after)
  | _ => exact stays after

/-- An audio thread that is bound to no frame takes none in one step. -/
theorem heard_step (step : Step output s l t) (loose : s.audioSync.bound = false) :
    t.heard = s.heard := by
  have away : s.audioSync ≠ .popping := by
    intro here
    rw [here] at loose
    cases loose
  have woken : ∀ loc : AudioLoc, loc.bound = false → loc.wakePut = loc := by
    intro loc loose
    cases loc with
    | putWaiting => cases loose
    | _ => rfl
  cases step with
  | demuxPush p here room => exact heard_setDecode rfl fun here => absurd here away
  | decodePop k made p rest here front => exact heard_setDecode rfl fun here => absurd here away
  | decodeStep k made own => exact heard_setDecode own.shown fun here => absurd here away
  | audioMove resampled move =>
    refine heard_away away ?_
    cases move with
    | lost here =>
      rw [here] at loose
      cases loose
    | _ => nofun
  | audioPut resampled here =>
    rcases here with ⟨here, -⟩ | here <;> rw [here] at loose <;> cases loose
  | audioPop resampled here => exact absurd here away
  | callbackTake x rest here front clear =>
    unfold heard
    rw [woken _ loose]
  | stopNotFull here =>
    unfold heard
    rw [woken _ loose]
  | stopAudio here => exact heard_setDecode rfl fun here => absurd here away
  | stopVideo here => exact heard_setDecode rfl fun here => absurd here away
  | _ => rfl

/-- No audio before the picture: once the audio thread has taken an audio frame, or is bound to one, a
video frame with a pts other than 0 was shown. -/
def PictureFirst (output : Kind → FrameOutput) (file : List Packet) : Prop :=
  ∀ labels s, (system output).run (start file) labels = some s →
    s.heard ≠ [] ∨ s.audioSync.bound = true → Pictured (output .video) s

/-- **No audio is taken before a picture was shown**, whatever the schedule. -/
theorem picture_first (output : Kind → FrameOutput) (file : List Packet) :
    PictureFirst output file := by
  intro labels s run
  obtain ⟨-, -, pictured⟩ := System.invariant_run
    (I := fun s => Sound output s ∧ s.lastFramePts = lastPts (output .video) s.seen ∧
      (s.heard ≠ [] ∨ s.audioSync.bound = true → Pictured (output .video) s))
    (fun s l t ⟨sound, gate, pictured⟩ enabled => by
      have step := step_of_next enabled
      refine ⟨sound_step sound step, seen_step sound gate step, fun after => ?_⟩
      rcases after with some | bound
      · have before : Pictured (output .video) s := by
          by_cases bound : s.audioSync.bound = true
          · exact pictured (.inr bound)
          · rw [heard_step step (by simpa using bound)] at some
            exact pictured (.inl some)
        obtain ⟨frame, member, opens⟩ := before
        exact ⟨frame, seen_mono sound step member, opens⟩
      · exact pictured_step sound gate (fun bound => pictured (.inr bound)) step bound)
    run ⟨sound_start file, rfl, fun none => by rcases none with none | none <;> simp [heard, start,
      IDecode.new, AudioLoc.bound] at none⟩
  exact pictured

/-- What was heard is part of the audio of the file, in its order. -/
theorem heard_sublist (s : Player) : s.heard.Sublist (stages .audio s) := by
  unfold heard stages IDecode.stream
  simp only [List.append_assoc]
  refine List.Sublist.append_left ?_ _
  split
  · exact (List.take_sublist 1 _).trans (List.sublist_append_left _ _)
  · exact List.nil_sublist _

/-- The PCM of a run: the buffers enqueued and those still waiting are, in order, the audio frames
that were heard but for those the resampler gave nothing for; and what was heard is audio of the file,
in its order. -/
def PcmInOrder (output : Kind → FrameOutput) (file : List Packet) : Prop :=
  ∀ labels s, (system output).run (start file) labels = some s →
    Accounted (output .audio) s ((system output).history sounded (start file) labels) ∧
      s.heard.Sublist (framesOf .audio file)

/-- **PCM is enqueued in the order of the file**, a buffer for each frame at most, whatever the
schedule. -/
theorem pcm_inOrder (output : Kind → FrameOutput) (file : List Packet) : PcmInOrder output file := by
  intro labels s run
  obtain ⟨-, accounted⟩ := System.invariant_history sounded
    (I := fun s log => Sound output s ∧ Accounted (output .audio) s log)
    (fun s l t log ⟨sound, accounted⟩ enabled =>
      ⟨sound_step sound (step_of_next enabled), accounted_step sound accounted enabled⟩)
    run [] ⟨sound_start file, accounted_start _ file⟩
  rw [List.nil_append] at accounted
  refine ⟨accounted, ?_⟩
  have kept := (stages_run (sound_start file) run .audio).1
  rw [stages_start] at kept
  exact (heard_sublist s).trans kept

end Player

end Xplay
