/-
**Who releases a packet.**

`readPacket` allocates a packet and pushes it to a decoder, whose `decodePacket` pops it, sends it
to the codec and drops it; both loops then go on using the local name of the packet they dropped.
Packets are cells of a `Heap`: `held` is what `avPacket`, the two queues and the two `input`s name,
and every `av_packet_*` and `avcodec_*` call on a packet is a use or a release. An allocation never
reuses the address of a released packet.

Left out are the `XData` that `readPacket` allocates for each packet (never deleted) and the frames.

* `fate_demux`, `fate_audio`, `fate_video` — a step keeps the account exactly if it is `Kept`.
* `packets_owned_iff` — the packets of a run are owned throughout exactly if all its steps are.
-/

import Xplay.Decode.FrameOutput
import Xplay.Lib.Ownership
import Xplay.Lib.System

set_option linter.unusedSectionVars false

namespace Xplay

open Lib

namespace PacketOwnership

/-- Where a packet that was read goes by its `stream_index`: `DecodeMediaType`. -/
inductive DecodeMediaType
  | none
  | audio
  | video
  deriving DecidableEq, Repr

/-- `FFDemux::readPacket`, with the packet of `avPacket` while it is the demuxer's. -/
inductive Demux
  | out
  | head
  | reading (avPacket : Nat)
  | freeing (avPacket : Nat) (ret : Int)
  | pushing (avPacket : Nat) (type : DecodeMediaType)

/-- `AudioDecode::decodePacket`, with the packet of `pkt`. `input` names it too until it is
dropped, which sets `input.packet` to null. -/
inductive Audio
  | out
  | head
  | popped (pkt : Nat)
  | dropping (pkt : Nat) (failed : Bool)
  | receiving (pkt : Nat)
  | received (pkt : Nat) (failed : Bool)
  | peeking

/-- `VideoDecode::decodePacket`, with the packet of `packet`, which keeps its value from one round
to the next and has no value at the start. -/
inductive Video
  | out
  | head (packet : Option Nat)
  | popped (packet : Nat)
  | failed (packet : Nat)
  | dropping (packet : Nat) (failed : Bool)
  | receiving (packet : Nat)
  | peeking (packet : Nat)
  | pushed (packet : Nat)
  | leaving (packet : Option Nat)

/-- The packets, the two packet queues and the three loops. -/
structure Packets where
  heap : Heap
  demux : Demux
  audioPackets : List Nat
  videoPackets : List Nat
  audio : Audio
  video : Video

namespace Packets

/-- No loop was entered. -/
def new : Packets := ⟨Heap.empty, .out, [], [], .out, .out⟩

/-- What `readPacket` does next. `exits`: `abortRequest` or `isExit`; `sleeps`: `pauseRequest`. -/
inductive DemuxLabel
  | enters
  | exits
  | sleeps
  | av_packet_alloc
  | av_read_frame (ret : Int) (type : DecodeMediaType)
  | av_packet_free
  | pushPacket (accepted : Bool)
  | passes

/-- What `decodePacket` does next. `exits`: `isExit`, `abortRequest`, or `pop` returns `false`. The
packet that the uninitialised `packet` of the video loop happens to name, if any, comes with
`enters`. -/
inductive DecodeLabel
  | enters (packet : Option Nat)
  | exits
  | sleeps
  | pop
  | avcodec_send_packet (ret : Int)
  | drop
  | avcodec_receive_frame (ret : Int)
  | av_packet_unref
  | peekWritable (granted : Bool)
  | av_packet_free

inductive Label
  | demux (l : DemuxLabel)
  | audio (l : DecodeLabel)
  | video (l : DecodeLabel)

/-- **One step of `readPacket`.** A packet of neither stream is passed over, and what `pushPacket`
returns is not looked at. -/
def nextDemux (s : Packets) (l : DemuxLabel) : Option Packets :=
  match s.demux, l with
  | .out, .enters => some { s with demux := .head }
  | .head, .exits => some { s with demux := .out }
  | .head, .sleeps => some s
  | .head, .av_packet_alloc =>
    some { s with heap := s.heap.alloc, demux := .reading s.heap.fresh }
  | .reading avPacket, .av_read_frame ret type =>
    if ret ≠ 0 then some { s with demux := .freeing avPacket ret }
    else some { s with demux := .pushing avPacket type }
  | .freeing avPacket ret, .av_packet_free =>
    some { s with
      heap := s.heap.release avPacket
      demux := if ret = AVERROR_EOF then .out else .head }
  | .pushing avPacket .audio, .pushPacket accepted =>
    some { s with
      audioPackets := if accepted then s.audioPackets ++ [avPacket] else s.audioPackets
      demux := .head }
  | .pushing avPacket .video, .pushPacket accepted =>
    some { s with
      videoPackets := if accepted then s.videoPackets ++ [avPacket] else s.videoPackets
      demux := .head }
  | .pushing _ .none, .passes => some { s with demux := .head }
  | _, _ => none

/-- **One step of `AudioDecode::decodePacket`.** A packet that the codec is too full for is not sent
again. -/
def nextAudio (s : Packets) (l : DecodeLabel) : Option Packets :=
  match s.audio, l with
  | .out, .enters _ => some { s with audio := .head }
  | .head, .exits => some { s with audio := .out }
  | .head, .sleeps => some s
  | .head, .pop =>
    match s.audioPackets with
    | [] => none
    | pkt :: rest => some { s with audioPackets := rest, audio := .popped pkt }
  | .popped pkt, .avcodec_send_packet ret =>
    some { s with
      heap := s.heap.use pkt
      audio :=
        if ret < 0 then if ret = AVERROR_EAGAIN then .head else .dropping pkt true
        else .dropping pkt false }
  | .dropping pkt failed, .drop =>
    some { s with
      heap := s.heap.release pkt
      audio := if failed then .head else .receiving pkt }
  | .receiving pkt, .avcodec_receive_frame ret => some { s with audio := .received pkt (ret < 0) }
  | .received pkt failed, .av_packet_unref =>
    some { s with heap := s.heap.use pkt, audio := if failed then .head else .peeking }
  | .peeking, .peekWritable granted => some { s with audio := if granted then .head else .out }
  | _, _ => none

/-- **One step of `VideoDecode::decodePacket`.** -/
def nextVideo (s : Packets) (l : DecodeLabel) : Option Packets :=
  match s.video, l with
  | .out, .enters packet =>
    if packet.all (· < s.heap.fresh) then some { s with video := .head packet } else none
  | .head packet, .exits => some { s with video := .leaving packet }
  | .head _, .sleeps => some s
  | .head _, .pop =>
    match s.videoPackets with
    | [] => none
    | packet :: rest => some { s with videoPackets := rest, video := .popped packet }
  | .popped packet, .avcodec_send_packet ret =>
    some { s with
      heap := s.heap.use packet
      video :=
        if ret < 0 ∧ ret ≠ AVERROR_EAGAIN ∧ ret ≠ AVERROR_EOF then .failed packet
        else .dropping packet false }
  | .failed packet, .av_packet_unref =>
    some { s with heap := s.heap.use packet, video := .dropping packet true }
  | .dropping packet failed, .drop =>
    some { s with
      heap := s.heap.release packet
      video := if failed then .head packet else .receiving packet }
  | .receiving packet, .avcodec_receive_frame ret =>
    some { s with
      video := if ret < 0 ∧ ret ≠ AVERROR_EOF then .pushed packet else .peeking packet }
  | .peeking packet, .peekWritable granted =>
    some { s with video := if granted then .pushed packet else .leaving packet }
  | .pushed packet, .av_packet_unref =>
    some { s with heap := s.heap.use packet, video := .head packet }
  | .leaving packet, .av_packet_free =>
    some { s with heap := packet.elim s.heap s.heap.release, video := .out }
  | _, _ => none

def next (s : Packets) : Label → Option Packets
  | .demux l => s.nextDemux l
  | .audio l => s.nextAudio l
  | .video l => s.nextVideo l

def system : System Packets Label := ⟨next⟩

end Packets

/-! ### Who holds a packet -/

/-- The packet that is the demuxer's. -/
def Demux.held : Demux → Option Nat
  | .out | .head => none
  | .reading p | .freeing p _ | .pushing p _ => some p

/-- The packet of `input`. -/
def Audio.held : Audio → Option Nat
  | .popped p | .dropping p _ => some p
  | .out | .head | .receiving _ | .received _ _ | .peeking => none

/-- The packet that `pkt` still names after `input` was dropped. -/
def Audio.dropped : Audio → Option Nat
  | .receiving p | .received p _ => some p
  | .out | .head | .popped _ | .dropping _ _ | .peeking => none

/-- The packet of `input`. -/
def Video.held : Video → Option Nat
  | .popped p | .failed p | .dropping p _ => some p
  | .out | .head _ | .receiving _ | .peeking _ | .pushed _ | .leaving _ => none

/-- The packet that `packet` still names after `input` was dropped. -/
def Video.dropped : Video → Option Nat
  | .receiving p | .peeking p | .pushed p => some p
  | .out | .head _ | .popped _ | .failed _ | .dropping _ _ | .leaving _ => none

/-- The packet that `packet` names between two rounds. -/
def Video.remembered : Video → Option Nat
  | .head packet | .leaving packet => packet
  | .out | .popped _ | .failed _ | .dropping _ _ | .receiving _ | .peeking _ | .pushed _ => none

namespace Packets

/-- The packets that the demuxer, the two queues and the two decoder loops hold. -/
def held (s : Packets) : List Nat :=
  s.demux.held.toList ++ s.audioPackets ++ s.videoPackets ++ s.audio.held.toList ++
    s.video.held.toList

/-- **Every packet is held once or was released once, and no released packet was used.** -/
def Owned (s : Packets) : Prop := s.heap.Accounts s.held

/-- **The steps that keep it so.** All packets read belong to a decoder and are accepted; the codec
of the audio decoder is never too full; and no loop gets to a call on the packet it dropped: the
`av_packet_unref` after `avcodec_receive_frame`, or the `av_packet_free` at the end of the video
loop. -/
def Kept (s : Packets) : Label → Prop
  | .demux .passes => False
  | .demux (.pushPacket accepted) => accepted = true
  | .audio (.avcodec_send_packet ret) => ret ≠ AVERROR_EAGAIN
  | .audio .av_packet_unref => False
  | .video .av_packet_unref => ∃ packet, s.video = .failed packet
  | .video .av_packet_free => s.video = .leaving none
  | _ => True

/-- **The account, and what the local names of the decoder loops point at.** -/
structure Sound (s : Packets) : Prop where
  owned : s.Owned
  audio : ∀ p ∈ s.audio.dropped, s.heap.released p ≠ 0
  video : ∀ p ∈ s.video.dropped, s.heap.released p ≠ 0
  remembered : ∀ p ∈ s.video.remembered, p < s.heap.fresh

theorem sound_new : new.Sound :=
  ⟨Heap.accounts_empty, by rintro _ ⟨⟩, by rintro _ ⟨⟩, by rintro _ ⟨⟩⟩

/-! ### One step -/

variable {s t : Packets}

/-- The holdings with those of the audio loop and its queue first. -/
theorem owned_audio : s.Owned ↔ s.heap.Accounts (s.audio.held.toList ++ s.audioPackets ++
    (s.demux.held.toList ++ s.videoPackets ++ s.video.held.toList)) := by
  have same : s.held.Perm (s.audio.held.toList ++ s.audioPackets ++
      (s.demux.held.toList ++ s.videoPackets ++ s.video.held.toList)) :=
    List.perm_iff_count.mpr fun q => by
      simp only [held, List.count_append]
      omega
  exact ⟨fun owned => owned.perm same.symm, fun owned => owned.perm same⟩

/-- The holdings with those of the video loop and its queue first. -/
theorem owned_video : s.Owned ↔ s.heap.Accounts (s.video.held.toList ++ s.videoPackets ++
    (s.demux.held.toList ++ s.audioPackets ++ s.audio.held.toList)) := by
  have same : s.held.Perm (s.video.held.toList ++ s.videoPackets ++
      (s.demux.held.toList ++ s.audioPackets ++ s.audio.held.toList)) :=
    List.perm_iff_count.mpr fun q => by
      simp only [held, List.count_append]
      omega
  exact ⟨fun owned => owned.perm same.symm, fun owned => owned.perm same⟩

theorem perm_queue (p : Nat) (a b : List Nat) : (a ++ (b ++ [p])).Perm ([p] ++ a ++ b) := by
  rw [← List.append_assoc, List.append_assoc [p]]
  exact List.perm_append_comm

/-- What a step leaves to be shown: the account, and what a loop learns about its local name. -/
theorem Sound.step (sound : s.Sound) (later : s.heap.Later t.heap) (owned : t.Owned)
    (audio : ∀ p ∈ t.audio.dropped, p ∈ s.audio.dropped ∨ t.heap.released p ≠ 0)
    (video : ∀ p ∈ t.video.dropped, p ∈ s.video.dropped ∨ t.heap.released p ≠ 0)
    (remembered : ∀ p ∈ t.video.remembered, p ∈ s.video.remembered ∨ p < t.heap.fresh) :
    t.Sound where
  owned := owned
  audio p names :=
    (audio p names).elim (fun known => later.released p (sound.audio p known)) id
  video p names :=
    (video p names).elim (fun known => later.released p (sound.video p known)) id
  remembered p names :=
    (remembered p names).elim
      (fun known => lt_of_lt_of_le (sound.remembered p known) later.fresh) id

/-- **What becomes of a step**: one that is `Kept` leads on, any other breaks the account. -/
structure Fate (s : Packets) (l : Label) (t : Packets) : Prop where
  keeps : s.Kept l → t.Sound
  breaks : ¬s.Kept l → ¬t.Owned

theorem Fate.of_sound {l : Label} (kept : s.Kept l) (sound : t.Sound) : Fate s l t :=
  ⟨fun _ => sound, fun not => absurd kept not⟩

theorem Fate.of_broken {l : Label} (not : ¬s.Kept l) (broken : ¬t.Owned) : Fate s l t :=
  ⟨fun kept => absurd kept not, fun _ => broken⟩

/-- **The demuxer** lets go of a packet of neither stream, and of one whose push is refused. -/
theorem fate_demux (sound : s.Sound) {l : DemuxLabel} (step : s.nextDemux l = some t) :
    Fate s (.demux l) t := by
  have keeps : ∀ {t : Packets}, s.heap.Later t.heap → t.Owned → t.audio = s.audio →
      t.video = s.video → t.Sound := fun later owned audio video =>
    sound.step later owned (fun _ names => .inl (audio ▸ names))
      (fun _ names => .inl (video ▸ names)) fun _ names => .inl (video ▸ names)
  have owned : s.heap.Accounts s.held := sound.owned
  unfold nextDemux at step
  split at step
  case h_1 place =>
    cases step
    rw [held, place] at owned
    exact .of_sound trivial (keeps (.refl _) owned rfl rfl)
  case h_2 place =>
    cases step
    rw [held, place] at owned
    exact .of_sound trivial (keeps (.refl _) owned rfl rfl)
  case h_3 =>
    cases step
    exact .of_sound trivial sound
  case h_4 place =>
    cases step
    rw [held, place] at owned
    exact .of_sound trivial (keeps (Heap.later_alloc _) owned.alloc rfl rfl)
  case h_5 avPacket ret type place =>
    rw [held, place] at owned
    split_ifs at step <;> cases step <;> exact .of_sound trivial (keeps (.refl _) owned rfl rfl)
  case h_6 avPacket ret place =>
    cases step
    rw [held, place] at owned
    have released := Heap.Accounts.release owned
    refine .of_sound trivial (keeps (Heap.later_release _ avPacket) ?_ rfl rfl)
    unfold Owned held
    split_ifs <;> exact released
  case h_7 avPacket accepted place =>
    cases step
    rw [held, place] at owned
    cases accepted with
    | true =>
      have queued := (perm_queue avPacket [] s.audioPackets).append_right s.videoPackets
      exact .of_sound rfl (keeps (.refl _)
        (owned.perm ((queued.append_right _).append_right _)) rfl rfl)
    | false => exact .of_broken (by rintro ⟨⟩) owned.not_lost
  case h_8 avPacket accepted place =>
    cases step
    rw [held, place] at owned
    cases accepted with
    | true =>
      have queued := perm_queue avPacket s.audioPackets s.videoPackets
      exact .of_sound rfl (keeps (.refl _)
        (owned.perm ((queued.append_right _).append_right _)) rfl rfl)
    | false => exact .of_broken (by rintro ⟨⟩) owned.not_lost
  case h_9 avPacket place =>
    cases step
    rw [held, place] at owned
    exact .of_broken id owned.not_lost
  case h_10 => cases step

/-- **The audio loop** lets go of a packet that is not sent, and uses one it dropped. -/
theorem fate_audio (sound : s.Sound) {l : DecodeLabel} (step : s.nextAudio l = some t) :
    Fate s (.audio l) t := by
  have keeps : ∀ {t : Packets}, s.heap.Later t.heap → t.Owned → t.video = s.video →
      (∀ p ∈ t.audio.dropped, p ∈ s.audio.dropped ∨ t.heap.released p ≠ 0) → t.Sound :=
    fun later owned video audio => sound.step later owned audio
      (fun _ names => .inl (video ▸ names)) fun _ names => .inl (video ▸ names)
  have owned := owned_audio.mp sound.owned
  unfold nextAudio at step
  split at step
  case h_1 place =>
    cases step
    rw [place] at owned
    exact .of_sound trivial (keeps (.refl _) (owned_audio.mpr owned) rfl (by rintro _ ⟨⟩))
  case h_2 place =>
    cases step
    rw [place] at owned
    exact .of_sound trivial (keeps (.refl _) (owned_audio.mpr owned) rfl (by rintro _ ⟨⟩))
  case h_3 =>
    cases step
    exact .of_sound trivial sound
  case h_4 place =>
    split at step
    · cases step
    · rename_i pkt rest queue
      cases step
      rw [place, queue] at owned
      exact .of_sound trivial (keeps (.refl _) (owned_audio.mpr owned) rfl (by rintro _ ⟨⟩))
  case h_5 pkt ret place =>
    cases step
    rw [place] at owned
    have used := Heap.Accounts.use owned (p := pkt) List.mem_cons_self
    by_cases full : ret = AVERROR_EAGAIN
    · subst full
      exact .of_broken (fun kept => kept rfl) fun owned' => used.not_lost (owned_audio.mp owned')
    · refine .of_sound full (keeps (Heap.later_use _ pkt) (owned_audio.mpr ?_) rfl ?_)
      · dsimp only
        split_ifs <;> exact used
      · dsimp only
        split_ifs <;> rintro _ ⟨⟩
  case h_6 pkt failed place =>
    cases step
    rw [place] at owned
    have released := Heap.Accounts.release owned
    have gone : (s.heap.release pkt).released pkt ≠ 0 := by
      rw [Heap.release_released]
      exact Nat.succ_ne_zero _
    cases failed with
    | true =>
      exact .of_sound trivial (keeps (Heap.later_release _ pkt) (owned_audio.mpr released) rfl
        (by rintro _ ⟨⟩))
    | false =>
      exact .of_sound trivial (keeps (Heap.later_release _ pkt) (owned_audio.mpr released) rfl
        (by rintro _ ⟨⟩; exact .inr gone))
  case h_7 pkt ret place =>
    cases step
    rw [place] at owned
    exact .of_sound trivial (keeps (.refl _) (owned_audio.mpr owned) rfl
      (by rintro _ ⟨⟩; exact .inl (place ▸ rfl)))
  case h_8 pkt failed place =>
    cases step
    have gone : s.heap.released pkt ≠ 0 := sound.audio pkt (place ▸ rfl)
    exact .of_broken id (Heap.not_accounts_use gone _)
  case h_9 granted place =>
    cases step
    rw [place] at owned
    cases granted <;>
      exact .of_sound trivial (keeps (.refl _) (owned_audio.mpr owned) rfl (by rintro _ ⟨⟩))
  case h_10 => cases step

/-- **The video loop** uses a packet it dropped at the end of a round, and releases it, or what its
local name happened to be, when it leaves. -/
theorem fate_video (sound : s.Sound) {l : DecodeLabel} (step : s.nextVideo l = some t) :
    Fate s (.video l) t := by
  have keeps : ∀ {t : Packets}, s.heap.Later t.heap → t.Owned → t.audio = s.audio →
      (∀ p ∈ t.video.dropped, p ∈ s.video.dropped ∨ t.heap.released p ≠ 0) →
      (∀ p ∈ t.video.remembered, p ∈ s.video.remembered ∨ p < t.heap.fresh) → t.Sound :=
    fun later owned audio => sound.step later owned fun _ names => .inl (audio ▸ names)
  have owned := owned_video.mp sound.owned
  unfold nextVideo at step
  split at step
  case h_1 packet place =>
    rw [place] at owned
    split_ifs at step with known
    cases step
    refine .of_sound trivial (keeps (.refl _) (owned_video.mpr owned) rfl (by rintro _ ⟨⟩) ?_)
    rintro p ⟨⟩
    exact .inr (of_decide_eq_true known)
  case h_2 packet place =>
    cases step
    rw [place] at owned
    exact .of_sound trivial (keeps (.refl _) (owned_video.mpr owned) rfl (by rintro _ ⟨⟩)
      fun p names => .inl (place ▸ names))
  case h_3 =>
    cases step
    exact .of_sound trivial sound
  case h_4 place =>
    split at step
    · cases step
    · rename_i packet rest queue
      cases step
      rw [place, queue] at owned
      exact .of_sound trivial (keeps (.refl _) (owned_video.mpr owned) rfl (by rintro _ ⟨⟩)
        (by rintro _ ⟨⟩))
  case h_5 packet ret place =>
    cases step
    rw [place] at owned
    have used := Heap.Accounts.use owned (p := packet) List.mem_cons_self
    refine .of_sound trivial (keeps (Heap.later_use _ packet) (owned_video.mpr ?_) rfl ?_ ?_)
    · dsimp only
      split_ifs <;> exact used
    · dsimp only
      split_ifs <;> rintro _ ⟨⟩
    · dsimp only
      split_ifs <;> rintro _ ⟨⟩
  case h_6 packet place =>
    cases step
    rw [place] at owned
    have used := Heap.Accounts.use owned (p := packet) List.mem_cons_self
    exact .of_sound ⟨packet, place⟩ (keeps (Heap.later_use _ packet) (owned_video.mpr used) rfl
      (by rintro _ ⟨⟩) (by rintro _ ⟨⟩))
  case h_7 packet failed place =>
    cases step
    rw [place] at owned
    have live := Heap.Accounts.live owned (p := packet) List.mem_cons_self
    have released := Heap.Accounts.release owned
    have gone : (s.heap.release packet).released packet ≠ 0 := by
      rw [Heap.release_released]
      exact Nat.succ_ne_zero _
    cases failed with
    | true =>
      exact .of_sound trivial (keeps (Heap.later_release _ packet) (owned_video.mpr released) rfl
        (by rintro _ ⟨⟩) (by rintro _ ⟨⟩; exact .inr live.1))
    | false =>
      exact .of_sound trivial (keeps (Heap.later_release _ packet) (owned_video.mpr released) rfl
        (by rintro _ ⟨⟩; exact .inr gone) (by rintro _ ⟨⟩))
  case h_8 packet ret place =>
    cases step
    rw [place] at owned
    refine .of_sound trivial (keeps (.refl _) (owned_video.mpr ?_) rfl ?_ ?_)
    · dsimp only
      split_ifs <;> exact owned
    · dsimp only
      split_ifs <;> exact fun p names => .inl (place ▸ names)
    · dsimp only
      split_ifs <;> rintro _ ⟨⟩
  case h_9 packet granted place =>
    have gone : s.heap.released packet ≠ 0 := sound.video packet (place ▸ rfl)
    cases step
    rw [place] at owned
    cases granted with
    | true =>
      exact .of_sound trivial (keeps (.refl _) (owned_video.mpr owned) rfl
        (by rintro _ ⟨⟩; exact .inr gone) (by rintro _ ⟨⟩))
    | false =>
      exact .of_sound trivial (keeps (.refl _) (owned_video.mpr owned) rfl (by rintro _ ⟨⟩)
        (by rintro _ ⟨⟩; exact .inr (owned.known gone)))
  case h_10 packet place =>
    cases step
    have gone : s.heap.released packet ≠ 0 := sound.video packet (place ▸ rfl)
    refine .of_broken ?_ (Heap.not_accounts_use gone _)
    rintro ⟨q, failed⟩
    exact nomatch place.symm.trans failed
  case h_11 packet place =>
    cases step
    rw [place] at owned
    cases packet with
    | none =>
      exact .of_sound place (keeps (.refl _) (owned_video.mpr owned) rfl (by rintro _ ⟨⟩)
        (by rintro _ ⟨⟩))
    | some p =>
      have known : p < s.heap.fresh := sound.remembered p (place ▸ rfl)
      refine .of_broken (fun kept => nomatch place.symm.trans kept) fun owned' => ?_
      exact owned.not_release known (owned_video.mp owned')
  case h_12 => cases step

theorem fate (sound : s.Sound) {l : Label} (step : s.next l = some t) : Fate s l t :=
  match l, step with
  | .demux _, step => fate_demux sound step
  | .audio _, step => fate_audio sound step
  | .video _, step => fate_video sound step

/-! ### Every run -/

/-- **The packets of a run are owned throughout exactly if all its steps keep them so.** -/
theorem packets_owned_iff (labels : List Label) :
    system.Steps (fun _ _ t => t.Owned) new labels ↔
      system.Steps (fun s l _ => s.Kept l) new labels := by
  refine System.steps_iff (I := Sound) ?_ ?_ sound_new labels
  · intro s l t sound step
    have fate := fate sound step
    exact ⟨fun owned => by_contra fun not => fate.breaks not owned,
      fun kept => (fate.keeps kept).owned⟩
  · intro s l t sound step kept
    exact (fate sound step).keeps kept

/-- One audio packet that the codec takes. -/
def oneSent : List Label :=
  [.demux .enters, .demux .av_packet_alloc, .demux (.av_read_frame 0 .audio),
    .demux (.pushPacket true), .audio (.enters none), .audio .pop, .audio (.avcodec_send_packet 0),
    .audio .drop, .audio (.avcodec_receive_frame 0), .audio .av_packet_unref]

/-- **The audio loop calls `av_packet_unref` on the packet it just dropped.** -/
theorem oneSent_misused :
    ∃ s, system.run new oneSent = some s ∧ s.heap.released 0 = 1 ∧ s.heap.misused = true ∧
      ¬s.Owned :=
  ⟨_, rfl, rfl, rfl, fun owned => nomatch owned.clean⟩

end Packets

end PacketOwnership

end Xplay
