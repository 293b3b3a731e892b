/-
**Which blocking calls still come back once `stop` has begun.**

`MediaPlayer::stop` only sets flags, and a flag is looked at between two blocking calls. A worker
that is in a blocking call then, or on the way to one, comes back from it only if the peer that
makes room or data for it is itself past its last flag check. `Attended` says this of a state, for
every blocking call.

* `nextPacket_step`, `due_step` — no packet and no frame turns up that was not on the way.
* `attended_step` — what is attended when `stop` returns stays attended.
-/

import Xplay.Player.PlayerSound

namespace Xplay

open Lib

/-- The decoder goes through `peekWritable` before it exits. -/
def DecodeLoc.peeks : DecodeLoc → Bool
  | popping | popWaiting | decoding _ | peeking _ | peekWaiting _ => true
  | _ => false

/-- The frame a decoder thread still fills in, when the next packet is `next`. -/
def DecodeLoc.coming (next : Option Packet) : DecodeLoc → Option AVFrame
  | popping | popWaiting => next.map Packet.frame
  | decoding frame | peeking frame | peekWaiting frame | peekWoken frame | filling frame _ =>
    some frame
  | _ => none

/-- The packet a demux thread is pushing to the decoder of `k`. -/
def DemuxLoc.offers (k : Kind) : DemuxLoc → Option Packet
  | pushing p => if p.kind = k then some p else none
  | _ => none

namespace Player

/-! ### What may still happen -/

/-- The packet a decoder takes next. -/
def nextPacket (s : Player) (k : Kind) : Option Packet :=
  (s.decode k).packetQueue.head?.or (s.demux.offers k)

/-- The frame a decoder still fills in. -/
def coming (s : Player) (k : Kind) : Option AVFrame :=
  (s.decode k).loc.coming (s.nextPacket k)

/-- The frame a `MediaSync2` thread takes next. -/
def due (s : Player) (k : Kind) : Option AVFrame :=
  match (s.decode k).unshown with
  | frame :: _ => some frame
  | [] => s.coming k

/-- The pts the video thread may still take over. -/
def MaySet (output : Kind → FrameOutput) (s : Player) (pts : Option ℚ) : Prop :=
  ∃ frame, s.due .video = some frame ∧ (output .video).pts frame = pts ∧
    (s.videoSync = .showing ∨ s.videoSync = .looking ∧ (output .video).size frame ≠ 0)

/-- The audio thread may still get into `resample->update`. -/
def MayUpdate (output : Kind → FrameOutput) (s : Player) : Prop :=
  s.audioSync = .looking ∧
    (∃ frame, s.due .audio = some frame ∧ (output .audio).size frame ≠ 0) ∧
    (s.lastFramePts ≠ some 0 ∨ ∃ pts, s.MaySet output pts ∧ pts ≠ some 0)

/-- The `MediaSync2` thread of `k` pops a frame before it exits. -/
def WillPop (output : Kind → FrameOutput) (s : Player) : Kind → Prop
  | .audio => s.audioSync.bound = true ∨
      s.audioSync = .looking ∧ (s.decode .audio).frameQueue.currentFrame.size ≠ 0 ∧
        s.lastFramePts ≠ some 0 ∧ ∀ pts, s.MaySet output pts → pts ≠ some 0
  | .video => s.videoSync.bound = true ∨
      s.videoSync = .looking ∧ (s.decode .video).frameQueue.currentFrame.size ≠ 0

/-- **Every blocking call a worker is in, or on the way to, is attended to**:

* a push into a full packet queue by its decoder, which stands at the pop;
* a pop from an empty one by the demux thread, which stands at the push;
* a `peekWritable` on a full frame queue by a consumer that pops, and not for the first time;
* `IAudioPlay::update` does not find too many PCM frames;
* `getData` on an empty list by the audio thread, which stands at the end of `update`; a callback
  that waits for `resume` is on the way to `getData`. -/
structure Attended (output : Kind → FrameOutput) (s : Player) : Prop where
  push : ∀ p, s.demux = .pushing p ∨ s.demux = .pushWaiting p →
    (s.decode p.kind).packetQueue.length < packetQueueSize ∨ (s.decode p.kind).loc = .popping
  pop : ∀ k, (s.decode k).loc = .popping ∨ (s.decode k).loc = .popWaiting → s.nextPacket k ≠ none
  peek : ∀ k, (s.decode k).loc.peeks = true →
    (s.decode k).frameQueue.size < (s.decode k).frameQueue.maxSize ∨
      (s.decode k).frameQueue.showIndex = 1 ∧ s.WillPop output k
  put : s.audioSync = .updating ∨ s.audioSync = .putting ∨ s.MayUpdate output →
    s.frames.length ≤ maxFrameBuffer
  putWaiting : s.audioSync ≠ .putWaiting
  get : s.callback = .pausing ∨ s.callback = .getting ∨ s.callback = .getWaiting →
    s.frames ≠ [] ∨ s.audioSync = .putting ∨ s.audioSync = .putWoken

variable {output : Kind → FrameOutput} {s s' : Player} {l : Label}

/-! ### Frames that are due -/

/-- The step is a `popFrame` on the frame queue of `k`. -/
def PopsFrame (s : Player) (l : Label) : Kind → Prop
  | .audio => (∃ resampled, l = .audioSync resampled) ∧ s.audioSync = .popping
  | .video => l = .videoSync ∧ s.videoSync = .popping

/-- A notification for one decoder offers nothing to the other. -/
theorem offers_wakePush {k k' : Kind} (other : k' ≠ k) (loc : DemuxLoc) :
    (loc.wakePush k').offers k = loc.offers k := by
  cases loc with
  | pushWaiting p =>
    show DemuxLoc.offers k (if p.kind = k' then .pushing p else .pushWaiting p) = none
    split
    · next same =>
      show (if p.kind = k then some p else none) = none
      rw [if_neg (fun kind => other (same.symm.trans kind))]
    · rfl
  | _ => rfl

/-- **Once `stop` has begun, no decoder gets a packet it would not have got before.** -/
theorem nextPacket_step (aborted : s.abortRequest = true) (step : Step output s l s') {k : Kind}
    {p : Packet} (other : ∀ made, l = .decode k made → (s.decode k).loc ≠ .popping)
    (next : s'.nextPacket k = some p) : s.nextPacket k = some p := by
  -- the packet queue is unchanged, and the demux thread offers what it did, or nothing
  have keep : (s'.decode k).packetQueue = (s.decode k).packetQueue →
      (s'.demux.offers k = s.demux.offers k ∨ s'.demux.offers k = none) →
      s.nextPacket k = some p := by
    intro same offers
    unfold nextPacket at next ⊢
    rw [same] at next
    rcases offers with offers | offers <;> rw [offers] at next
    · exact next
    · rw [Option.or_none] at next
      rw [next]
      rfl
  have queue : ∀ k' d, d.packetQueue = (s.decode k').packetQueue →
      ((s.setDecode k' d).decode k).packetQueue = (s.decode k).packetQueue := fun _ _ same =>
    setDecode_same IDecode.packetQueue same k
  cases step with
  | demuxMove move =>
    cases move with
    | route q here clear =>
      rw [aborted] at clear
      cases clear
    | _ => exact keep rfl (.inr rfl)
  | demuxEof here nothing => exact keep rfl (.inr rfl)
  | demuxRead q rest here front clear => exact keep rfl (.inr rfl)
  | demuxPush q here room =>
    by_cases kind : k = q.kind
    · subst kind
      unfold nextPacket at next ⊢
      simp only [setDecode_decode, if_true] at next
      rw [here]
      show (s.decode q.kind).packetQueue.head?.or (if q.kind = q.kind then some q else none) = _
      rw [if_pos rfl, ← next]
      show _ = (((s.decode q.kind).packetQueue ++ [q]).head?).or none
      rw [List.head?_append, Option.or_none]
      rfl
    · refine keep ?_ (.inr rfl)
      simp only [setDecode_decode, if_neg kind]
  | decodePop k' made q rest here front =>
    by_cases kind : k' = k
    · subst kind
      exact absurd here (other made rfl)
    · refine keep ?_ (.inl (offers_wakePush kind _))
      simp only [setDecode_decode, if_neg (Ne.symm kind)]
  | decodeStep k' made own => exact keep (queue k' _ own.packetQueue) (.inl rfl)
  | audioPop resampled here => exact keep (queue .audio _ rfl) (.inl rfl)
  | videoPop here => exact keep (queue .video _ rfl) (.inl rfl)
  | stopAudio here => exact keep (queue .audio _ rfl) (.inl rfl)
  | stopVideo here => exact keep (queue .video _ rfl) (.inl rfl)
  | _ => exact next

/-- **What a decoder's own steps and `popFrame` leave to it**: no other step touches its frames, or
moves its thread but out of the wait for a packet. -/
theorem decode_other (step : Step output s l s') {k : Kind} (other : ∀ made, l ≠ .decode k made)
    (stays : ¬s.PopsFrame l k) :
    (s'.decode k).frameQueue = (s.decode k).frameQueue ∧
      (s'.decode k).unshown = (s.decode k).unshown ∧
      ((s'.decode k).loc = (s.decode k).loc ∨ (s'.decode k).loc = (s.decode k).loc.wakePop) := by
  have elsewhere : ∀ k' d, k' ≠ k → (s.setDecode k' d).decode k = s.decode k := by
    intro k' d differ
    rw [setDecode_decode, if_neg (Ne.symm differ)]
  have keep : ∀ d, d = s.decode k → d.frameQueue = (s.decode k).frameQueue ∧
      d.unshown = (s.decode k).unshown ∧
      (d.loc = (s.decode k).loc ∨ d.loc = (s.decode k).loc.wakePop) := by
    rintro d rfl
    exact ⟨rfl, rfl, .inl rfl⟩
  have flag : ∀ k', (s.stopDecode k').decode k = s.decode k ∨
      (s.stopDecode k').decode k = { s.decode k with isExit := true } := by
    intro k'
    unfold stopDecode
    rw [setDecode_decode]
    split
    · next same => exact .inr (by rw [same])
    · exact .inl rfl
  cases step with
  | demuxPush p here room =>
    by_cases kind : k = p.kind
    · subst kind
      simp only [setDecode_decode, if_true]
      exact ⟨rfl, rfl, .inr rfl⟩
    · exact keep _ (elsewhere p.kind _ (Ne.symm kind))
  | decodeStep k' made own =>
    exact keep _ (elsewhere k' _ fun same => other made (by rw [same]))
  | decodePop k' made p rest here front =>
    exact keep _ (elsewhere k' _ fun same => other made (by rw [same]))
  | audioPop resampled here =>
    cases k with
    | audio => exact absurd ⟨⟨resampled, rfl⟩, here⟩ stays
    | video => exact ⟨rfl, rfl, .inl rfl⟩
  | videoPop here =>
    cases k with
    | audio => exact ⟨rfl, rfl, .inl rfl⟩
    | video => exact absurd ⟨rfl, here⟩ stays
  | stopAudio here => rcases flag .audio with same | same <;> simp [same]
  | stopVideo here => rcases flag .video with same | same <;> simp [same]
  | _ => exact ⟨rfl, rfl, .inl rfl⟩

/-- **What `popFrame` does to its decoder.** -/
theorem decode_popsFrame (step : Step output s l s') {k : Kind} (pops : s.PopsFrame l k) :
    s'.decode k = (s.decode k).popFrame := by
  cases k with
  | audio =>
    obtain ⟨⟨resampled, rfl⟩, here⟩ := pops
    cases step with
    | audioMove _ move => cases move <;> simp_all
    | audioPut _ there => simp_all
    | audioPop _ there => rfl
  | video =>
    obtain ⟨rfl, here⟩ := pops
    cases step with
    | videoMove move => cases move <;> simp_all
    | videoShow there => simp_all
    | videoPop there => rfl

/-- Fewer packets bring fewer frames. -/
theorem coming_imp {next next' : Option Packet} (fewer : ∀ p, next' = some p → next = some p)
    {loc : DecodeLoc} {frame : AVFrame} (coming : loc.coming next' = some frame) :
    loc.coming next = some frame := by
  have front : next'.map Packet.frame = some frame → next.map Packet.frame = some frame := by
    intro front
    obtain ⟨p, here, same⟩ := Option.map_eq_some_iff.mp front
    rw [fewer p here, Option.map_some, same]
  cases loc with
  | popping => exact front coming
  | popWaiting => exact front coming
  | _ => exact coming

/-- A frame that was filled in is due before one that comes. -/
theorem due_keep {t : Player} {k : Kind} {frame : AVFrame}
    (unshown : (t.decode k).unshown = (s.decode k).unshown)
    (coming : t.coming k = some frame → s.coming k = some frame)
    (due : t.due k = some frame) : s.due k = some frame := by
  unfold Player.due at due ⊢
  rw [unshown] at due
  split at due
  · exact due
  · exact coming due

/-- A decoder thread's own step keeps its frame or lets it go, if it does not fill it in. -/
theorem coming_own (aborted : s.abortRequest = true) {out : FrameOutput} {d d' : IDecode}
    {made : Bool} (own : DecodeStep out s d made d') {next : Option Packet} {frame : AVFrame}
    (coming : d'.loc.coming next = some frame) : d.loc.coming next = some frame := by
  cases own with
  | move move =>
    cases move with
    | pop here clear =>
      rw [aborted] at clear
      cases clear
    | empty here nothing => rwa [here]
    | wait f here full => rwa [here]
    | grant f here room => rwa [here]
    | woken f here => rwa [here]
    | _ => cases coming
  | make f here makes => rwa [here]
  | _ => cases coming

/-- The steps of the decoder itself. -/
theorem due_decode (aborted : s.abortRequest = true) {k : Kind} {made : Bool}
    (step : Step output s (.decode k made) s') {frame : AVFrame} (due : s'.due k = some frame) :
    s.due k = some frame := by
  cases step with
  | @decodeStep _ _ d own =>
    have same : (s.setDecode k d).nextPacket k = s.nextPacket k := by
      simp only [nextPacket, setDecode_decode, if_true, own.packetQueue]
      rfl
    have later : (s.setDecode k d).coming k = some frame → s.coming k = some frame := by
      intro later
      unfold coming at later
      rw [same, setDecode_decode, if_pos rfl] at later
      exact coming_own aborted own later
    have filled : (s.decode k).unshown = d.unshown ∨
        ∃ f j, (s.decode k).loc = .filling f j ∧ d.unshown = (s.decode k).unshown ++ [f] := by
      cases own with
      | fill f j here => exact .inr ⟨f, j, here, rfl⟩
      | _ => exact .inl rfl
    rcases filled with unshown | ⟨f, j, here, unshown⟩
    · refine due_keep ?_ later due
      rw [setDecode_decode, if_pos rfl, unshown]
    · simp only [Player.due, setDecode_decode, if_true, unshown] at due
      unfold Player.due
      cases front : (s.decode k).unshown with
      | nil =>
        rw [front] at due
        unfold coming
        rw [here]
        exact due
      | cons first rest =>
        rw [front] at due
        exact due
  | decodePop _ _ p rest here front =>
    refine due_keep (t := { s.setDecode k ((s.decode k).popPacket p rest) with
      demux := s.demux.wakePush k }) ?_ (fun later => ?_) due
    · simp only [setDecode_decode, if_true]
      rfl
    · simp only [Player.coming, setDecode_decode, if_true] at later
      unfold coming nextPacket
      rw [here, front]
      exact later

/-- **Once `stop` has begun, no frame becomes due that was not due before**, unless one is popped. -/
theorem due_step (aborted : s.abortRequest = true) (step : Step output s l s') {k : Kind}
    {frame : AVFrame} (stays : ¬s.PopsFrame l k) (due : s'.due k = some frame) :
    s.due k = some frame := by
  by_cases own : ∃ made, l = .decode k made
  · obtain ⟨made, rfl⟩ := own
    exact due_decode aborted step due
  · have other : ∀ made, l ≠ .decode k made := fun made same => own ⟨made, same⟩
    obtain ⟨-, unshown, loc⟩ := decode_other step other stays
    refine due_keep unshown (fun later => ?_) due
    have fewer := fun p => nextPacket_step (p := p) aborted step
      fun made same => absurd same (other made)
    have later := coming_imp fewer later
    rcases loc with loc | loc <;> rw [loc] at later
    · exact later
    · unfold coming
      cases here : (s.decode k).loc <;> rw [here] at later <;> exact later

/-- The pts the video thread may take over are those it could take over before. -/
theorem maySet_step (sound : Sound output s) (aborted : s.abortRequest = true)
    (step : Step output s l s') {pts : Option ℚ} (later : s'.MaySet output pts) :
    s.MaySet output pts := by
  obtain ⟨frame, due, carries, stands⟩ := later
  have keep : s.videoSync = s'.videoSync → s.MaySet output pts := by
    intro same
    refine ⟨frame, due_step aborted step ?_ due, carries, by rwa [same]⟩
    rintro ⟨-, here⟩
    rw [← same, here] at stands
    rcases stands with bad | ⟨bad, -⟩ <;> cases bad
  cases step with
  | videoMove move =>
    cases move with
    | look here clear =>
      rw [aborted] at clear
      cases clear
    | see here saw =>
      have due : s.due .video = some frame := due
      refine ⟨frame, due, carries, .inr ⟨here, ?_⟩⟩
      obtain ⟨stored, held⟩ := sound.held .video
      rcases held.current with ⟨first, rest, unshown, size, -⟩ | ⟨-, blank⟩
      · unfold Player.due at due
        rw [unshown] at due
        cases due
        rwa [size] at saw
      · exact absurd blank saw
    | _ => rcases stands with bad | ⟨bad, -⟩ <;> cases bad
  | videoShow here => rcases stands with bad | ⟨bad, -⟩ <;> cases bad
  | videoPop here => rcases stands with bad | ⟨bad, -⟩ <;> cases bad
  | _ => exact keep rfl

/-- **The gate of the audio thread** opens only to a pts the video thread could take over. -/
theorem gate_step (sound : Sound output s) (step : Step output s l s') :
    s'.lastFramePts = s.lastFramePts ∨ s.MaySet output s'.lastFramePts := by
  cases step with
  | videoShow here =>
    obtain ⟨stored, held⟩ := sound.held .video
    have bound : s.Bound .video := by
      unfold Player.Bound
      rw [here]
      rfl
    rcases held.current with ⟨frame, rest, unshown, -, pts⟩ | ⟨nothing, -⟩
    · refine .inr ⟨frame, ?_, pts.symm, .inl here⟩
      unfold due
      rw [unshown]
    · exact absurd nothing (held.unshown_ne_nil bound)
  | _ => exact .inl rfl

/-- A frame the audio thread sees is due. -/
theorem due_of_current (sound : Sound output s) {k : Kind}
    (saw : (s.decode k).frameQueue.currentFrame.size ≠ 0) :
    ∃ frame, s.due k = some frame ∧ (output k).size frame ≠ 0 := by
  obtain ⟨stored, held⟩ := sound.held k
  rcases held.current with ⟨frame, rest, unshown, size, -⟩ | ⟨-, blank⟩
  · refine ⟨frame, ?_, by rwa [← size]⟩
    unfold due
    rw [unshown]
  · exact absurd blank saw

/-- **No way into `resample->update` opens** that was not open before. -/
theorem mayUpdate_step (sound : Sound output s) (aborted : s.abortRequest = true)
    (step : Step output s l s') (later : s'.MayUpdate output) : s.MayUpdate output := by
  obtain ⟨looking, ⟨frame, due, size⟩, gate⟩ := later
  have opens : s.lastFramePts ≠ some 0 ∨ ∃ pts, s.MaySet output pts ∧ pts ≠ some 0 := by
    rcases gate with gate | ⟨pts, set, gate⟩
    · rcases gate_step sound step with same | set
      · exact .inl (by rwa [← same])
      · exact .inr ⟨_, set, gate⟩
    · exact .inr ⟨pts, maySet_step sound aborted step set, gate⟩
  have keep : s.audioSync = s'.audioSync → s.MayUpdate output := by
    intro same
    rw [← same] at looking
    refine ⟨looking, ⟨frame, due_step aborted step ?_ due, size⟩, opens⟩
    rintro ⟨-, here⟩
    rw [looking] at here
    cases here
  cases step with
  | audioMove resampled move =>
    cases move with
    | look here clear =>
      rw [aborted] at clear
      cases clear
    | _ => cases looking
  | audioPut resampled here => cases looking
  | audioPop resampled here => cases looking
  | callbackTake x rest here front clear =>
    refine keep ?_
    show s.audioSync = s.audioSync.wakePut
    cases here : s.audioSync <;> simp_all [AudioLoc.wakePut]
  | stopNotFull here =>
    refine keep ?_
    show s.audioSync = s.audioSync.wakePut
    cases here : s.audioSync <;> simp_all [AudioLoc.wakePut]
  | _ => exact keep rfl

/-- **A consumer that will pop goes on to pop**, and its queue is left alone until then. -/
theorem willPop_step (sound : Sound output s) (aborted : s.abortRequest = true)
    (step : Step output s l s') {k : Kind} (stays : ¬s.PopsFrame l k)
    (same : (s'.decode k).frameQueue = (s.decode k).frameQueue) (will : s.WillPop output k) :
    s'.WillPop output k := by
  cases k with
  | audio =>
    have gate : s.lastFramePts ≠ some 0 → (∀ pts, s.MaySet output pts → pts ≠ some 0) →
        s'.lastFramePts ≠ some 0 ∧ ∀ pts, s'.MaySet output pts → pts ≠ some 0 := by
      intro gate opens
      refine ⟨?_, fun pts later => opens pts (maySet_step sound aborted step later)⟩
      rcases gate_step sound step with same | set
      · rwa [same]
      · exact opens _ set
    have keep : s'.audioSync = s.audioSync → s'.WillPop output .audio := by
      intro loc
      rcases will with bound | ⟨looking, saw, closed, opens⟩
      · exact .inl (by rwa [loc])
      · exact .inr ⟨by rwa [loc], by rwa [same], gate closed opens⟩
    cases step with
    | audioMove resampled move =>
      rcases will with bound | ⟨looking, saw, closed, opens⟩
      · cases move with
        | resampled here => exact .inl rfl
        | lost here => exact .inl rfl
        | full here full => exact .inl rfl
        | poll here | quit here flag | look here clear | blank here blank | see here saw gate =>
          rw [here] at bound
          cases bound
      · cases move with
        | see here saw gate => exact .inl rfl
        | blank here blank =>
          rcases blank with blank | blank
          · exact absurd blank saw
          · exact absurd blank closed
        | poll here | quit here flag | look here clear | resampled here | lost here
        | full here full =>
          rw [here] at looking
          cases looking
    | audioPut resampled here => exact .inl rfl
    | audioPop resampled here => exact absurd ⟨⟨resampled, rfl⟩, here⟩ stays
    | callbackTake x rest here front clear =>
      rcases will with bound | ⟨looking, saw, closed, opens⟩
      · exact .inl ((AudioLoc.bound_wakePut _).trans bound)
      · exact keep (by show s.audioSync.wakePut = s.audioSync; rw [looking]; rfl)
    | stopNotFull here =>
      rcases will with bound | ⟨looking, saw, closed, opens⟩
      · exact .inl ((AudioLoc.bound_wakePut _).trans bound)
      · exact keep (by show s.audioSync.wakePut = s.audioSync; rw [looking]; rfl)
    | _ => exact keep rfl
  | video =>
    have keep : s'.videoSync = s.videoSync → s'.WillPop output .video := by
      intro loc
      rcases will with bound | ⟨looking, saw⟩
      · exact .inl (by rwa [loc])
      · exact .inr ⟨by rwa [loc], by rwa [same]⟩
    cases step with
    | videoMove move =>
      rcases will with bound | ⟨looking, saw⟩
      · cases move with
        | poll here | quit here flag | look here clear | blank here blank | see here saw =>
          rw [here] at bound
          cases bound
      · cases move with
        | see here saw => exact .inl rfl
        | blank here blank => exact absurd blank saw
        | poll here | quit here flag | look here clear =>
          rw [here] at looking
          cases looking
    | videoShow here => exact .inl rfl
    | videoPop here => exact absurd ⟨rfl, here⟩ stays
    | _ => exact keep rfl

/-! ### What is attended stays attended -/

/-- A notification moves no thread into a push, or out of one. -/
theorem wakePush_pushes {loc : DemuxLoc} {k : Kind} {p : Packet}
    (pushes : loc.wakePush k = .pushing p ∨ loc.wakePush k = .pushWaiting p) :
    loc = .pushing p ∨ loc = .pushWaiting p := by
  cases loc with
  | pushWaiting q =>
    have same : q = p := by
      unfold DemuxLoc.wakePush at pushes
      simp only at pushes
      split at pushes <;> rcases pushes with here | here <;> cases here <;> rfl
    exact .inr (by rw [same])
  | pushing q => exact pushes
  | _ => rcases pushes with here | here <;> cases here

/-- **A push stays attended.** -/
theorem attendedPush_step (sound : Sound output s) (aborted : s.abortRequest = true)
    (attended : Attended output s) (step : Step output s l s') {p : Packet}
    (pushes : s'.demux = .pushing p ∨ s'.demux = .pushWaiting p) :
    (s'.decode p.kind).packetQueue.length < packetQueueSize ∨
      (s'.decode p.kind).loc = .popping := by
  -- the demux thread was in this push before, and the decoder at the pop stays there
  have keep : ∀ k d, d.packetQueue = (s.decode k).packetQueue →
      ((s.decode k).loc = .popping → d.packetQueue = [] ∨ d.loc = .popping) →
      (s.demux = .pushing p ∨ s.demux = .pushWaiting p) →
      ((s.setDecode k d).decode p.kind).packetQueue.length < packetQueueSize ∨
        ((s.setDecode k d).decode p.kind).loc = .popping := by
    intro k d queue loc pushes
    rw [setDecode_decode]
    split
    · next kind =>
      rcases attended.push p pushes with room | here
      · exact .inl (by rwa [queue, ← kind])
      · rcases loc (by rwa [← kind]) with nothing | here
        · exact .inl (by rw [nothing]; decide)
        · exact .inr here
    · exact attended.push p pushes
  cases step with
  | demuxMove move =>
    cases move with
    | route q here clear =>
      rw [aborted] at clear
      cases clear
    | full q here full =>
      rcases pushes with bad | same
      · cases bad
      · cases same
        exact attended.push p (.inl here)
    | _ => rcases pushes with bad | bad <;> cases bad
  | demuxEof here nothing => rcases pushes with bad | bad <;> cases bad
  | demuxRead q rest here front clear => rcases pushes with bad | bad <;> cases bad
  | demuxPush q here room => rcases pushes with bad | bad <;> cases bad
  | decodePop k made q rest here front =>
    have before := wakePush_pushes pushes
    simp only [setDecode_decode]
    split
    · next kind =>
      -- the pop makes room
      have fits := sound.packets k
      rw [front, List.length_cons] at fits
      exact .inl fits
    · exact attended.push p before
  | decodeStep k made own =>
    refine keep k _ own.packetQueue (fun popping => ?_) pushes
    cases own with
    | move move =>
      cases move with
      | empty here nothing => exact .inl nothing
      | null frame here flag =>
        rw [popping] at here
        rcases here with here | here <;> cases here
      | _ => simp_all
    | _ => simp_all
  | audioPop resampled here =>
    exact keep .audio _ rfl (fun popping => .inr ((popFrame_popping _).mpr popping)) pushes
  | videoPop here =>
    exact keep .video _ rfl (fun popping => .inr ((popFrame_popping _).mpr popping)) pushes
  | stopAudio here => exact keep .audio _ rfl .inr pushes
  | stopVideo here => exact keep .video _ rfl .inr pushes
  | _ => exact attended.push p pushes

/-- The packet a decoder takes next stays, until it takes it. -/
theorem nextPacket_stays (aborted : s.abortRequest = true)
    (step : Step output s l s') {k : Kind} (other : ∀ made, l ≠ .decode k made)
    (next : s.nextPacket k ≠ none) : s'.nextPacket k ≠ none := by
  -- the packet is in the queue, or the demux thread keeps offering it
  have keep : (s'.decode k).packetQueue = (s.decode k).packetQueue →
      (s.demux.offers k = none ∨ s'.demux.offers k = s.demux.offers k) →
      s'.nextPacket k ≠ none := by
    intro queue offers
    unfold nextPacket at next ⊢
    rw [queue]
    rcases offers with offers | offers
    · rw [offers, Option.or_none] at next
      intro nothing
      exact next (Option.or_eq_none_iff.mp nothing).1
    · rwa [offers]
  have queue : ∀ k' d, d.packetQueue = (s.decode k').packetQueue →
      ((s.setDecode k' d).decode k).packetQueue = (s.decode k).packetQueue := fun _ _ same =>
    setDecode_same IDecode.packetQueue same k
  cases step with
  | demuxMove move =>
    cases move with
    | route q here clear =>
      rw [aborted] at clear
      cases clear
    | full q here full =>
      by_cases kind : q.kind = k
      · subst kind
        unfold nextPacket
        cases front : (s.decode q.kind).packetQueue with
        | nil =>
          rw [front] at full
          cases full
        | cons first rest => exact nofun
      · exact keep rfl (.inl (by rw [here]; exact if_neg kind))
    | poll here => exact keep rfl (.inl (by rw [here]; rfl))
    | quit here flag => exact keep rfl (.inl (by rw [here]; rfl))
    | drop q here flag => exact keep rfl (.inl (by rw [here]; rfl))
  | demuxEof here nothing => exact keep rfl (.inl (by rw [here]; rfl))
  | demuxRead q rest here front clear => exact keep rfl (.inl (by rw [here]; rfl))
  | demuxPush q here room =>
    by_cases kind : k = q.kind
    · subst kind
      unfold nextPacket
      simp only [setDecode_decode, if_true, IDecode.pushPacket]
      cases (s.decode q.kind).packetQueue <;> exact nofun
    · refine keep ?_ (.inl (by rw [here]; exact if_neg (Ne.symm kind)))
      simp only [setDecode_decode, if_neg kind]
  | decodePop k' made q rest here front =>
    have differ : k' ≠ k := fun same => other made (by rw [same])
    refine keep ?_ (.inr (offers_wakePush differ _))
    simp only [setDecode_decode, if_neg (Ne.symm differ)]
  | decodeStep k' made own => exact keep (queue k' _ own.packetQueue) (.inr rfl)
  | audioPop resampled here => exact keep (queue .audio _ rfl) (.inr rfl)
  | videoPop here => exact keep (queue .video _ rfl) (.inr rfl)
  | stopAudio here => exact keep (queue .audio _ rfl) (.inr rfl)
  | stopVideo here => exact keep (queue .video _ rfl) (.inr rfl)
  | _ => exact next

/-- **A pop stays attended.** -/
theorem attendedPop_step (aborted : s.abortRequest = true)
    (attended : Attended output s) (step : Step output s l s') {k : Kind}
    (pops : (s'.decode k).loc = .popping ∨ (s'.decode k).loc = .popWaiting) :
    s'.nextPacket k ≠ none := by
  by_cases own : ∃ made, l = .decode k made
  · -- the decoder itself goes from the pop to the wait, or out of both
    obtain ⟨made, rfl⟩ := own
    cases step with
    | decodeStep _ _ own =>
      simp only [setDecode_decode, if_true] at pops
      have here : (s.decode k).loc = .popping := by
        cases own with
        | move move =>
          cases move with
          | pop here clear =>
            rw [aborted] at clear
            cases clear
          | empty here nothing => exact here
          | _ => rcases pops with bad | bad <;> cases bad
        | _ => rcases pops with bad | bad <;> cases bad
      have next := attended.pop k (.inl here)
      unfold nextPacket at next ⊢
      simp only [setDecode_decode, if_true, own.packetQueue]
      exact next
    | decodePop _ _ p rest here front =>
      simp only [setDecode_decode, if_true] at pops
      rcases pops with bad | bad <;> cases bad
  · have other : ∀ made, l ≠ .decode k made := fun made same => own ⟨made, same⟩
    refine nextPacket_stays aborted step other (attended.pop k ?_)
    have woken : ∀ loc : DecodeLoc, (loc.wakePop = .popping ∨ loc.wakePop = .popWaiting) ∨
        (loc.wakePeek = .popping ∨ loc.wakePeek = .popWaiting) →
        loc = .popping ∨ loc = .popWaiting := by
      intro loc pops
      cases loc <;> simp_all [DecodeLoc.wakePop, DecodeLoc.wakePeek]
    by_cases popsFrame : s.PopsFrame l k
    · rw [decode_popsFrame step popsFrame] at pops
      rcases popFrame_loc (s.decode k) with loc | loc <;> rw [loc] at pops
      · exact pops
      · exact woken _ (.inr pops)
    · obtain ⟨-, -, loc | loc⟩ := decode_other step other popsFrame <;> rw [loc] at pops
      · exact pops
      · exact woken _ (.inl pops)

/-- A decoder that goes through `peekWritable` was bound to, and has left its queue alone. -/
theorem peeks_step (aborted : s.abortRequest = true) (step : Step output s l s') {k : Kind}
    (stays : ¬s.PopsFrame l k) (peeks : (s'.decode k).loc.peeks = true) :
    (s'.decode k).frameQueue = (s.decode k).frameQueue ∧ (s.decode k).loc.peeks = true := by
  by_cases own : ∃ made, l = .decode k made
  · obtain ⟨made, rfl⟩ := own
    cases step with
    | decodeStep _ _ own =>
      simp only [setDecode_decode, if_true] at peeks ⊢
      cases own with
      | move move =>
        refine ⟨rfl, ?_⟩
        cases move with
        | pop here clear =>
          rw [aborted] at clear
          cases clear
        | empty here nothing => rw [here]; rfl
        | wait frame here full => rw [here]; rfl
        | _ => cases peeks
      | make frame here makes => exact ⟨rfl, by rw [here]; rfl⟩
      | _ => cases peeks
    | decodePop _ _ p rest here front =>
      simp only [setDecode_decode, if_true]
      exact ⟨rfl, by rw [here]; rfl⟩
  · have other : ∀ made, l ≠ .decode k made := fun made same => own ⟨made, same⟩
    obtain ⟨queue, -, loc | loc⟩ := decode_other step other stays <;> rw [loc] at peeks
    · exact ⟨queue, peeks⟩
    · refine ⟨queue, ?_⟩
      revert peeks
      cases (s.decode k).loc <;> exact id

/-- **A `peekWritable` stays attended.** -/
theorem attendedPeek_step (sound : Sound output s) (aborted : s.abortRequest = true)
    (attended : Attended output s) (step : Step output s l s') {k : Kind}
    (peeks : (s'.decode k).loc.peeks = true) :
    (s'.decode k).frameQueue.size < (s'.decode k).frameQueue.maxSize ∨
      (s'.decode k).frameQueue.showIndex = 1 ∧ s'.WillPop output k := by
  by_cases popsFrame : s.PopsFrame l k
  · -- the pop makes room, as the kept frame was taken before
    have popped := decode_popsFrame step popsFrame
    have before : (s.decode k).loc.peeks = true := by
      rw [popped] at peeks
      rcases popFrame_loc (s.decode k) with loc | loc <;> rw [loc] at peeks
      · exact peeks
      · revert peeks
        cases (s.decode k).loc <;> exact fun peeks => by first | exact peeks | rfl
    have bound : s.Bound k := by
      cases k with
      | audio =>
        unfold Player.Bound
        rw [popsFrame.2]
        rfl
      | video =>
        unfold Player.Bound
        rw [popsFrame.2]
        rfl
    obtain ⟨stored, held⟩ := sound.held k
    have max := FrameQueue.popFrame_maxSize (s.decode k).frameQueue
    have fits : (s.decode k).frameQueue.size ≤ (s.decode k).frameQueue.maxSize :=
      Nat.le_of_add_right_le held.shared.ring.size_le
    rw [popped]
    show (s.decode k).frameQueue.popFrame.size < (s.decode k).frameQueue.popFrame.maxSize ∨ _
    rcases attended.peek k before with room | ⟨later, -⟩
    · have less := held.shared.popFrame_size_le bound
      exact .inl (by omega)
    · have less := held.shared.popFrame_size_later bound (by omega)
      exact .inl (by omega)
  · obtain ⟨queue, before⟩ := peeks_step aborted step popsFrame peeks
    rw [queue]
    rcases attended.peek k before with room | ⟨later, will⟩
    · exact .inl room
    · exact .inr ⟨later, willPop_step sound aborted step popsFrame queue will⟩

/-- **`IAudioPlay::update` stays attended**: nobody adds PCM frames before it does. -/
theorem attendedPut_step (sound : Sound output s) (aborted : s.abortRequest = true)
    (attended : Attended output s) (step : Step output s l s')
    (puts : s'.audioSync = .updating ∨ s'.audioSync = .putting ∨ s'.MayUpdate output) :
    s'.frames.length ≤ maxFrameBuffer := by
  have before : s.audioSync = s'.audioSync →
      s.audioSync = .updating ∨ s.audioSync = .putting ∨ s.MayUpdate output := by
    intro same
    rcases puts with here | here | may
    · exact .inl (same.trans here)
    · exact .inr (.inl (same.trans here))
    · exact .inr (.inr (mayUpdate_step sound aborted step may))
  cases step with
  | audioMove resampled move =>
    refine attended.put ?_
    rcases puts with here | here | may
    · cases here
      cases move with
      | see here saw gate => exact .inr (.inr ⟨here, due_of_current sound saw, .inl gate⟩)
    · cases here
      cases move with
      | resampled here => exact .inl here
    · exact .inr (.inr (mayUpdate_step sound aborted (.audioMove resampled move) may))
  | audioPut resampled here => rcases puts with bad | bad | ⟨bad, -⟩ <;> cases bad
  | audioPop resampled here => rcases puts with bad | bad | ⟨bad, -⟩ <;> cases bad
  | callbackTake x rest here front clear =>
    have fits := attended.put (before ?_)
    · rw [front] at fits
      exact Nat.le_of_succ_le fits
    · show s.audioSync = s.audioSync.wakePut
      cases here : s.audioSync with
      | putWaiting => exact absurd here attended.putWaiting
      | _ => rfl
  | stopNotFull here =>
    refine attended.put (before ?_)
    show s.audioSync = s.audioSync.wakePut
    cases here : s.audioSync with
    | putWaiting => exact absurd here attended.putWaiting
    | _ => rfl
  | _ => exact attended.put (before rfl)

/-- The audio thread does not wait for the callback. -/
theorem attendedPutWaiting_step (attended : Attended output s) (step : Step output s l s') :
    s'.audioSync ≠ .putWaiting := by
  cases step with
  | audioMove resampled move =>
    cases move with
    | full here full => exact absurd (attended.put (.inr (.inl here))) (Nat.not_le.mpr full)
    | _ => exact nofun
  | audioPut resampled here => exact nofun
  | audioPop resampled here => exact nofun
  | callbackTake x rest here front clear => exact wakePut_ne _
  | stopNotFull here => exact wakePut_ne _
  | _ => exact attended.putWaiting

/-- **`getData` stays attended.** -/
theorem attendedGet_step (sound : Sound output s) (late : 7 ≤ s.stop.rank)
    (attended : Attended output s) (step : Step output s l s')
    (gets : s'.callback = .pausing ∨ s'.callback = .getting ∨ s'.callback = .getWaiting) :
    s'.frames ≠ [] ∨ s'.audioSync = .putting ∨ s'.audioSync = .putWoken := by
  have aborted := sound.aborted (Nat.le_of_add_left_le late)
  cases step with
  | callbackMove move =>
    cases move with
    | pause here clear | call here clear =>
      rw [aborted] at clear
      cases clear
    | poll here => exact attended.get (.inl here)
    | resume here clear => exact attended.get (.inl here)
    | empty here nothing => exact attended.get (.inr (.inl here))
    | _ => rcases gets with bad | bad | bad <;> cases bad
  | callbackTake x rest here front clear => rcases gets with bad | bad | bad <;> cases bad
  | audioMove resampled move =>
    rcases attended.get gets with some | here | here
    · exact .inl some
    · cases move with
      | full here full => exact absurd (attended.put (.inr (.inl here))) (Nat.not_le.mpr full)
      | _ => simp_all
    · cases move <;> simp_all
  | audioPut resampled here =>
    exact .inl (List.append_ne_nil_of_right_ne_nil _ (List.cons_ne_nil _ _))
  | audioPop resampled here =>
    rcases attended.get gets with some | there | there
    · exact .inl some
    · rw [here] at there
      cases there
    · rw [here] at there
      cases there
  | stopNotEmpty here | stopNotFull here =>
    rw [here] at late
    exact absurd late (by decide)
  | _ => exact attended.get gets

/-- **The step lemma**: what is attended when `stop` is about to return stays attended. -/
theorem attended_step (sound : Sound output s) (late : 7 ≤ s.stop.rank)
    (attended : Attended output s) (step : Step output s l s') : Attended output s' :=
  have aborted := sound.aborted (Nat.le_of_add_left_le late)
  { push := fun _ pushes => attendedPush_step sound aborted attended step pushes
    pop := fun _ pops => attendedPop_step aborted attended step pops
    peek := fun _ peeks => attendedPeek_step sound aborted attended step peeks
    put := fun puts => attendedPut_step sound aborted attended step puts
    putWaiting := attendedPutWaiting_step attended step
    get := fun gets => attendedGet_step sound late attended step gets }

end Player

end Xplay
