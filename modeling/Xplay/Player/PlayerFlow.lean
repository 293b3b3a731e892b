/-
**Where every packet is** while a player plays: neither paused nor stopped, its decoders making one
frame of every packet (`Playing`).

* `stream` — the frames a decoder was given, in order: the shown ones, the unshown ones, the one in
  its thread's hand, the packets in its queue.
* `Flow` — the packets that were read are the pushed ones and the one in the demux thread's hand; the
  pushed ones of each stream are its decoder's; the audio thread's gate is the last video frame shown.
-/

import Xplay.Player.PlayerSound

namespace Xplay

open Lib

/-- The packet in the demux thread's hand. -/
def DemuxLoc.hand : DemuxLoc → List Packet
  | routing p | pushing p | pushWaiting p => [p]
  | _ => []

/-- The frame in a decoder thread's hand. -/
def DecodeLoc.hand : DecodeLoc → List AVFrame
  | decoding frame | peeking frame | peekWaiting frame | peekWoken frame | filling frame _ => [frame]
  | _ => []

@[simp] theorem DemuxLoc.hand_wakePush (loc : DemuxLoc) (k : Kind) :
    (loc.wakePush k).hand = loc.hand := by
  cases loc with
  | pushWaiting p =>
    show DemuxLoc.hand (if p.kind = k then .pushing p else .pushWaiting p) = [p]
    split <;> rfl
  | _ => rfl

@[simp] theorem DecodeLoc.hand_wakePop (loc : DecodeLoc) : loc.wakePop.hand = loc.hand := by
  cases loc <;> rfl

@[simp] theorem DecodeLoc.hand_wakePeek (loc : DecodeLoc) : loc.wakePeek.hand = loc.hand := by
  cases loc <;> rfl

/-- The frames of the packets of one stream. -/
def framesOf (k : Kind) (packets : List Packet) : List AVFrame :=
  (packets.filter (·.kind = k)).map Packet.frame

@[simp] theorem framesOf_append (k : Kind) (left right : List Packet) :
    framesOf k (left ++ right) = framesOf k left ++ framesOf k right := by
  simp [framesOf]

theorem framesOf_singleton (k : Kind) (p : Packet) :
    framesOf k [p] = if p.kind = k then [p.frame] else [] := by
  unfold framesOf
  split <;> simp_all

theorem framesOf_cons {k : Kind} {p : Packet} (kind : p.kind = k) (rest : List Packet) :
    framesOf k (p :: rest) = p.frame :: framesOf k rest := by
  simp [framesOf, kind]

/-- `lastFramePts` once the video frames are shown. -/
def lastPts (output : FrameOutput) (frames : List AVFrame) : Option ℚ :=
  (frames.getLast?.map output.pts).getD (some 0)

@[simp] theorem lastPts_concat (output : FrameOutput) (frames : List AVFrame) (frame : AVFrame) :
    lastPts output (frames ++ [frame]) = output.pts frame := by
  simp [lastPts]

/-! ### One decoder -/

namespace IDecode

/-- The frames a decoder was given, in order. -/
def stream (d : IDecode) : List AVFrame :=
  d.shown ++ d.unshown ++ d.loc.hand ++ d.packetQueue.map Packet.frame

theorem stream_goto {d : IDecode} {loc : DecodeLoc} (hand : loc.hand = d.loc.hand) :
    (d.goto loc).stream = d.stream := by
  simp only [stream, goto, hand]

theorem stream_pushPacket (d : IDecode) (p : Packet) :
    (d.pushPacket p).stream = d.stream ++ [p.frame] := by
  simp [stream, pushPacket]

theorem stream_popPacket {d : IDecode} {p : Packet} {rest : List Packet} (here : d.loc = .popping)
    (front : d.packetQueue = p :: rest) : (d.popPacket p rest).stream = d.stream := by
  simp [stream, popPacket, here, front, DecodeLoc.hand]

theorem stream_fill {output : FrameOutput} {d : IDecode} {frame : AVFrame} {j : Nat}
    (here : d.loc = .filling frame j) : (d.fill output frame j).stream = d.stream := by
  simp [stream, fill, here, DecodeLoc.hand]

theorem stream_pushFrame {d : IDecode} (here : d.loc = .pushing) :
    d.pushFrame.stream = d.stream := by
  simp [stream, pushFrame, here, DecodeLoc.hand]

theorem stream_popFrame (d : IDecode) : d.popFrame.stream = d.stream := by
  have hand : d.popFrame.loc.hand = d.loc.hand := by
    unfold popFrame
    split <;> simp
  unfold stream
  rw [hand]
  show d.shown ++ d.unshown.take 1 ++ d.unshown.tail ++ _ ++ _ = _
  rw [List.append_assoc d.shown, ← List.drop_one, List.take_append_drop]
  rfl

end IDecode

/-! ### Notifications -/

theorem DemuxLoc.wakePush_eq_exited {k : Kind} {loc : DemuxLoc} :
    loc.wakePush k = .exited ↔ loc = .exited := by
  cases loc with
  | pushWaiting p =>
    show (if p.kind = k then DemuxLoc.pushing p else .pushWaiting p) = .exited ↔ _
    split <;> exact iff_of_false nofun nofun
  | _ => exact Iff.rfl

theorem DecodeLoc.wakePop_eq_exited {loc : DecodeLoc} : loc.wakePop = .exited ↔ loc = .exited := by
  cases loc with
  | popWaiting => exact iff_of_false nofun nofun
  | _ => exact Iff.rfl

theorem AudioLoc.wakePut_eq_exited {loc : AudioLoc} : loc.wakePut = .exited ↔ loc = .exited := by
  cases loc with
  | putWaiting => exact iff_of_false nofun nofun
  | _ => exact Iff.rfl

theorem CallbackLoc.wakeGet_eq_exited {loc : CallbackLoc} :
    loc.wakeGet = .exited ↔ loc = .exited := by
  cases loc with
  | getWaiting => exact iff_of_false nofun nofun
  | _ => exact Iff.rfl

namespace Player

/-! ### Playing -/

/-- A step of a player that is neither paused nor stopped, and whose decoders make one frame of every
packet. -/
def Playing : Label → Prop
  | .decode _ made => made = true
  | .stop | .pause _ => False
  | _ => True

/-- No thread was asked to stop or to pause. -/
structure Calm (s : Player) : Prop where
  abortRequest : s.abortRequest = false
  pauseRequest : s.pauseRequest = false
  isExist : s.isExist = false
  playExit : s.playExit = false
  isExit : ∀ k, (s.decode k).isExit = false
  demuxExit : s.demuxExit = true → s.demux = .exited

/-- No thread is gone, but the demux thread at the end of the file. -/
structure Alive (s : Player) : Prop where
  demux : s.demux = .exited → s.file = []
  decode : ∀ k, (s.decode k).loc ≠ .exited
  audioSync : s.audioSync ≠ .exited
  videoSync : s.videoSync ≠ .exited
  callback : s.callback ≠ .exited

/-- The video frames that were shown: those popped, and the one the video thread is to pop. -/
def seen (s : Player) : List AVFrame :=
  (s.decode .video).shown ++
    if s.videoSync = .popping then (s.decode .video).unshown.take 1 else []

/-- **Where the packets of the file are.** -/
structure Flow (output : Kind → FrameOutput) (file : List Packet) (s : Player) : Prop where
  calm : Calm s
  alive : Alive s
  order : s.pushed ++ s.demux.hand ++ s.file = file
  stream : ∀ k, (s.decode k).stream = framesOf k s.pushed
  kept : ∀ k, (s.decode k).frameQueue.showIndex = min (s.decode k).shown.length 1
  gate : s.lastFramePts = lastPts (output .video) s.seen

variable {output : Kind → FrameOutput} {file : List Packet} {s s' : Player} {l : Label}

theorem flow_start (output : Kind → FrameOutput) (file : List Packet) :
    Flow output file (start file) where
  calm := ⟨rfl, rfl, rfl, rfl, fun _ => rfl, nofun⟩
  alive := ⟨nofun, fun _ => nofun, nofun, nofun, nofun⟩
  order := rfl
  stream _ := rfl
  kept _ := rfl
  gate := rfl

/-- **Nobody asks a playing player to stop.** -/
theorem calm_step (calm : Calm s) (playing : Playing l) (step : Step output s l s') : Calm s' := by
  have keep : ∀ k d, d.isExit = (s.decode k).isExit →
      ∀ k', ((s.setDecode k d).decode k').isExit = false := fun _ _ same k' =>
    (setDecode_same IDecode.isExit same k').trans (calm.isExit k')
  obtain ⟨abort, pause, sync, play, isExit, demuxExit⟩ := calm
  cases step with
  | demuxMove move =>
    refine ⟨abort, pause, sync, play, isExit, fun exit => ?_⟩
    have exited := demuxExit exit
    cases move <;> simp_all
  | demuxEof here nothing => exact ⟨abort, pause, sync, play, isExit, fun _ => rfl⟩
  | demuxRead p rest here front clear =>
    refine ⟨abort, pause, sync, play, isExit, fun exit => ?_⟩
    have exited := demuxExit exit
    simp_all
  | demuxPush p here room =>
    refine ⟨abort, pause, sync, play, keep p.kind _ rfl, fun exit => ?_⟩
    have exited := demuxExit exit
    simp_all
  | decodePop k made p rest here front =>
    refine ⟨abort, pause, sync, play, keep k _ rfl, fun exit => ?_⟩
    show s.demux.wakePush k = .exited
    rw [demuxExit exit]
    rfl
  | decodeStep k made own => exact ⟨abort, pause, sync, play, keep k _ own.isExit, demuxExit⟩
  | audioPop resampled here => exact ⟨abort, pause, sync, play, keep .audio _ rfl, demuxExit⟩
  | videoPop here => exact ⟨abort, pause, sync, play, keep .video _ rfl, demuxExit⟩
  | stopAbort here | stopSync here | stopPlay here | stopNotEmpty here | stopNotFull here
  | stopDemux here | stopAudio here | stopVideo here => exact playing.elim
  | pause request here => exact playing.elim
  | _ => exact ⟨abort, pause, sync, play, isExit, demuxExit⟩

/-- A playing decoder thread that only moves keeps the frame in its hand, and goes on. -/
theorem hand_of_move (calm : Calm s) {d : IDecode} {loc : DecodeLoc} (own : d.isExit = false)
    (started : d.frameQueue.abortRequest = false) (move : DecodeMove s d loc) :
    loc.hand = d.loc.hand ∧ loc ≠ .exited := by
  cases move with
  | quit here flag =>
    rcases flag with flag | flag
    · rw [own] at flag
      cases flag
    · rw [calm.abortRequest] at flag
      cases flag
  | null frame here aborted =>
    rw [started] at aborted
    cases aborted
  | poll here => exact ⟨by rw [here], nofun⟩
  | pop here clear => exact ⟨by rw [here]; rfl, nofun⟩
  | empty here nothing => exact ⟨by rw [here]; rfl, nofun⟩
  | wait frame here full => exact ⟨by rw [here]; rfl, nofun⟩
  | grant frame here room => exact ⟨by rw [here]; rfl, nofun⟩
  | woken frame here => exact ⟨by rw [here]; rfl, nofun⟩

/-- **No thread of a playing player exits**, but the demux thread at the end of the file. -/
theorem alive_step (sound : Sound output s) (calm : Calm s) (alive : Alive s)
    (step : Step output s l s') : Alive s' := by
  have keep : ∀ k d, d.loc ≠ .exited → ∀ k', ((s.setDecode k d).decode k').loc ≠ .exited :=
    fun _ _ goes => setDecode_all (P := fun _ d => d.loc ≠ .exited) goes alive.decode
  have popped : ∀ k, (s.decode k).popFrame.loc ≠ .exited := fun k gone =>
    alive.decode k ((popFrame_exited _).mp gone)
  obtain ⟨demux, decode, audio, video, callback⟩ := alive
  cases step with
  | demuxMove move =>
    refine ⟨fun gone => ?_, decode, audio, video, callback⟩
    cases move with
    | quit here flag =>
      rcases flag with flag | flag
      · rw [calm.abortRequest] at flag
        cases flag
      · exact demux (calm.demuxExit flag)
    | _ => cases gone
  | demuxEof here nothing => exact ⟨fun _ => nothing, decode, audio, video, callback⟩
  | demuxRead p rest here front clear => exact ⟨(by rintro ⟨⟩), decode, audio, video, callback⟩
  | demuxPush p here room =>
    exact ⟨(by rintro ⟨⟩), keep p.kind _ fun gone =>
      decode p.kind (DecodeLoc.wakePop_eq_exited.mp gone), audio, video, callback⟩
  | decodeStep k made own =>
    obtain ⟨stored, held⟩ := sound.held k
    refine ⟨demux, keep k _ ?_, audio, video, callback⟩
    cases own with
    | move move => exact (hand_of_move calm (calm.isExit k) held.started move).2
    | _ => rintro ⟨⟩
  | decodePop k made p rest here front =>
    exact ⟨fun gone => demux (DemuxLoc.wakePush_eq_exited.mp gone), keep k _ (by rintro ⟨⟩), audio,
      video, callback⟩
  | audioMove resampled move =>
    refine ⟨demux, decode, ?_, video, callback⟩
    cases move with
    | quit here flag => simp [calm.abortRequest, calm.isExist] at flag
    | _ => exact fun gone => by cases gone
  | audioPut resampled here =>
    exact ⟨demux, decode, (by rintro ⟨⟩), video, fun gone =>
      callback (CallbackLoc.wakeGet_eq_exited.mp gone)⟩
  | audioPop resampled here =>
    exact ⟨demux, keep .audio _ (popped .audio), (by rintro ⟨⟩), video, callback⟩
  | videoMove move =>
    refine ⟨demux, decode, audio, ?_, callback⟩
    cases move with
    | quit here flag => simp [calm.abortRequest, calm.isExist] at flag
    | _ => exact fun gone => by cases gone
  | videoShow here => exact ⟨demux, decode, audio, (by rintro ⟨⟩), callback⟩
  | videoPop here =>
    exact ⟨demux, keep .video _ (popped .video), audio, (by rintro ⟨⟩), callback⟩
  | callbackMove move =>
    refine ⟨demux, decode, audio, video, ?_⟩
    cases move with
    | quit here flag => simp [calm.abortRequest, calm.playExit] at flag
    | leave here flag =>
      rw [calm.playExit] at flag
      cases flag
    | _ => exact fun gone => by cases gone
  | callbackTake x rest here front clear =>
    exact ⟨demux, decode, fun gone => audio (AudioLoc.wakePut_eq_exited.mp gone), video,
      (by rintro ⟨⟩)⟩
  | stopNotEmpty here =>
    exact ⟨demux, decode, audio, video, fun gone => callback (CallbackLoc.wakeGet_eq_exited.mp gone)⟩
  | stopNotFull here =>
    exact ⟨demux, decode, fun gone => audio (AudioLoc.wakePut_eq_exited.mp gone), video, callback⟩
  | stopAudio here => exact ⟨demux, keep .audio _ (decode .audio), audio, video, callback⟩
  | stopVideo here => exact ⟨demux, keep .video _ (decode .video), audio, video, callback⟩
  | _ => exact ⟨demux, decode, audio, video, callback⟩

/-- **The packets that were read are pushed in order**, the last of them from the demux thread's
hand. -/
theorem order_step (calm : Calm s) (order : s.pushed ++ s.demux.hand ++ s.file = file)
    (step : Step output s l s') : s'.pushed ++ s'.demux.hand ++ s'.file = file := by
  cases step with
  | demuxMove move =>
    cases move with
    | poll here => rwa [here] at order
    | quit here flag => rwa [here] at order
    | drop p here flag => simp [calm.abortRequest, calm.isExit] at flag
    | route p here clear => rwa [here] at order
    | full p here full => rwa [here] at order
  | demuxEof here nothing => rwa [here] at order
  | demuxRead p rest here front clear =>
    rw [here, front] at order
    simpa [DemuxLoc.hand] using order
  | demuxPush p here room =>
    rw [here] at order
    show s.pushed ++ [p] ++ [] ++ s.file = file
    rwa [List.append_nil]
  | decodePop k made p rest here front =>
    show s.pushed ++ (s.demux.wakePush k).hand ++ s.file = file
    rwa [DemuxLoc.hand_wakePush]
  | _ => exact order

/-- **What was pushed is what the decoders were given**, in order. -/
theorem stream_step (sound : Sound output s) (flow : Flow output file s) (playing : Playing l)
    (step : Step output s l s') (k : Kind) : (s'.decode k).stream = framesOf k s'.pushed := by
  have keep : ∀ k' d, d.stream = (s.decode k').stream →
      ((s.setDecode k' d).decode k).stream = framesOf k s.pushed := fun _ _ same =>
    (setDecode_same IDecode.stream same k).trans (flow.stream k)
  cases step with
  | demuxPush p here room =>
    simp only [setDecode_decode, framesOf_append, framesOf_singleton]
    split
    · next kind =>
      rw [IDecode.stream_pushPacket, if_pos kind.symm, flow.stream, kind]
    · next other =>
      rw [if_neg (Ne.symm other), List.append_nil]
      exact flow.stream k
  | decodeStep k' made own =>
    obtain ⟨stored, held⟩ := sound.held k'
    refine keep k' _ ?_
    cases own with
    | move move =>
      exact IDecode.stream_goto (hand_of_move flow.calm (flow.calm.isExit k') held.started move).1
    | make frame here makes => exact IDecode.stream_goto (by rw [here]; rfl)
    | skip frame here skips => exact absurd (skips.symm.trans playing) (by decide)
    | fill frame j here => exact IDecode.stream_fill here
    | push here => exact IDecode.stream_pushFrame here
  | decodePop k' made p rest here front => exact keep k' _ (IDecode.stream_popPacket here front)
  | audioPop resampled here => exact keep .audio _ (IDecode.stream_popFrame _)
  | videoPop here => exact keep .video _ (IDecode.stream_popFrame _)
  | stopAudio here => exact keep .audio _ rfl
  | stopVideo here => exact keep .video _ rfl
  | _ => exact flow.stream k

/-- **A frame is kept from the first pop on.** -/
theorem kept_step (sound : Sound output s)
    (kept : ∀ k, (s.decode k).frameQueue.showIndex = min (s.decode k).shown.length 1)
    (step : Step output s l s') (k : Kind) :
    (s'.decode k).frameQueue.showIndex = min (s'.decode k).shown.length 1 := by
  have keep : ∀ k' d, d.frameQueue.showIndex = min d.shown.length 1 →
      ((s.setDecode k' d).decode k).frameQueue.showIndex =
        min ((s.setDecode k' d).decode k).shown.length 1 := fun _ _ shown =>
    setDecode_all (P := fun _ d => d.frameQueue.showIndex = min d.shown.length 1) shown kept k
  have popped : ∀ k', s.Bound k' →
      (s.decode k').popFrame.frameQueue.showIndex =
        min (s.decode k').popFrame.shown.length 1 := by
    intro k' bound
    obtain ⟨stored, held⟩ := sound.held k'
    obtain ⟨frame, rest, unshown⟩ := List.exists_cons_of_ne_nil (held.unshown_ne_nil bound)
    show (s.decode k').frameQueue.popFrame.showIndex = _
    rw [held.shared.popFrame_showIndex]
    simp [IDecode.popFrame, unshown]
  cases step with
  | demuxPush p here room => exact keep p.kind _ (kept p.kind)
  | decodeStep k' made own => exact keep k' _ (by rw [own.showIndex, own.shown]; exact kept k')
  | decodePop k' made p rest here front => exact keep k' _ (kept k')
  | audioPop resampled here =>
    exact keep .audio _ (popped .audio (by unfold Player.Bound; rw [here]; rfl))
  | videoPop here =>
    exact keep .video _ (popped .video (by unfold Player.Bound; rw [here]; rfl))
  | stopAudio here => exact keep .audio _ (kept .audio)
  | stopVideo here => exact keep .video _ (kept .video)
  | _ => exact kept k

/-- **The gate of the audio thread is the last video frame shown.** -/
theorem seen_step (sound : Sound output s) (gate : s.lastFramePts = lastPts (output .video) s.seen)
    (step : Step output s l s') : s'.lastFramePts = lastPts (output .video) s'.seen := by
  have keep : ∀ k d, d.shown = (s.decode k).shown →
      (s.videoSync = .popping → k = .video → d.unshown.take 1 = (s.decode k).unshown.take 1) →
      s.lastFramePts = lastPts (output .video) (s.setDecode k d).seen := by
    intro k d shown front
    cases k with
    | audio => exact gate
    | video =>
      show _ = lastPts (output .video)
        (d.shown ++ if s.videoSync = .popping then d.unshown.take 1 else [])
      rw [gate, shown]
      unfold seen
      split
      · next here => rw [front here rfl]
      · rfl
  obtain ⟨stored, held⟩ := sound.held .video
  cases step with
  | demuxPush p here room => exact keep p.kind _ rfl fun _ _ => rfl
  | decodePop k made p rest here front => exact keep k _ rfl fun _ _ => rfl
  | decodeStep k made own =>
    refine keep k _ own.shown fun popping kind => ?_
    subst kind
    -- the video thread is to pop a frame that is there
    have bound : s.Bound .video := by
      unfold Player.Bound
      rw [popping]
      rfl
    obtain ⟨first, rest, unshown⟩ := List.exists_cons_of_ne_nil (held.unshown_ne_nil bound)
    cases own with
    | fill frame j here => simp [IDecode.fill, unshown]
    | _ => rfl
  | audioPop resampled here => exact gate
  | videoMove move =>
    have stays : ∀ loc, s.videoSync ≠ .popping → loc ≠ .popping →
        s.lastFramePts = lastPts (output .video) ({ s with videoSync := loc } : Player).seen := by
      intro loc before after
      rw [gate]
      unfold seen
      rw [if_neg before, if_neg after]
    cases move with
    | poll here => exact stays .top (by rw [here]; exact nofun) nofun
    | quit here flag => exact stays .exited (by rw [here]; exact nofun) nofun
    | look here clear => exact stays .looking (by rw [here]; exact nofun) nofun
    | blank here none => exact stays .top (by rw [here]; exact nofun) nofun
    | see here saw => exact stays .showing (by rw [here]; exact nofun) nofun
  | videoShow here =>
    have bound : s.Bound .video := by
      unfold Player.Bound
      rw [here]
      rfl
    rcases held.current with ⟨frame, rest, unshown, -, pts⟩ | ⟨nothing, -⟩
    · show (s.decode .video).frameQueue.currentFrame.pts =
        lastPts (output .video) ((s.decode .video).shown ++ (s.decode .video).unshown.take 1)
      rw [unshown, pts]
      exact (lastPts_concat _ _ _).symm
    · exact absurd nothing (held.unshown_ne_nil bound)
  | videoPop here =>
    refine gate.trans (congrArg _ ?_)
    unfold seen
    rw [if_pos here]
    exact (List.append_nil _).symm
  | stopAudio here => exact gate
  | stopVideo here => exact keep .video _ rfl fun _ _ => rfl
  | _ => exact gate

/-- **The step lemma.** -/
theorem flow_step (sound : Sound output s) (flow : Flow output file s) (playing : Playing l)
    (step : Step output s l s') : Flow output file s' where
  calm := calm_step flow.calm playing step
  alive := alive_step sound flow.calm flow.alive step
  order := order_step flow.calm flow.order step
  stream := stream_step sound flow playing step
  kept := kept_step sound flow.kept step
  gate := seen_step sound flow.gate step

/-- **The run lemma.** -/
theorem flow_run (sound : Sound output s) (flow : Flow output file s)
    (reach : (system output).ReachesBy Playing s s') : Sound output s' ∧ Flow output file s' :=
  System.invariant_reachesBy (I := fun s => Sound output s ∧ Flow output file s)
    (fun _ _ _ ⟨sound, flow⟩ playing enabled =>
      have step := step_of_next enabled
      ⟨sound_step sound step, flow_step sound flow playing step⟩)
    reach ⟨sound, flow⟩

end Player

end Xplay
