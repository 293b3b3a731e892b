/-
**The end of the file loses the frames that a decoder holds back.**

At `AVERROR_EOF` the demuxer stops itself; nobody sends the null packet that would make the decoders
hand out what they still hold, though `VideoDecode` has branches for `AVERROR_EOF`.

`delayed k` is a decoder that holds the last `k` frames back until further packets come, or an empty
one. `CaughtUp` says of a stream's packets that nothing is held or waiting in such a decoder after
the last of them, `endOfFile_iff` that no frame of the selected streams is lost exactly then. When no
packet is empty that means that there is no delay, or no packet (`caughtUp_iff`).

A packet of the selected video stream goes to the audio decoder when no audio stream was selected
and the index left over for it is the same; then no frame of the stream is pushed.
-/

import Xplay.Decode.DecodePacket
import Xplay.Demux.ReadPacket

namespace Xplay

open Lib Codec

/-! ### A decoder with a delay -/

/-- The frames in a decoder: those it holds back, and those it has ready. -/
structure Delay where
  held : List AVFrame
  pending : List AVFrame

/-- **A decoder of delay `k`**: a packet's frame is ready after `k` further packets, or after an
empty one. -/
def delayed (k : Nat) (frameOf : AVPacket → AVFrame) : Codec where
  State := Delay
  opened := ⟨[], []⟩
  pending := Delay.pending
  send s packet :=
    if packet.size = 0 then (0, ⟨[], s.pending ++ s.held⟩)
    else
      let frames := s.held ++ [frameOf packet]
      (0, ⟨frames.drop (frames.length - k), s.pending ++ frames.take (frames.length - k)⟩)
  receive s :=
    match s.pending with
    | [] => (AVERROR_EAGAIN, AVFrame.blank, s)
    | frame :: rest => (0, frame, { s with pending := rest })
  pending_opened := rfl
  send_accepts s packet _ := by
    split_ifs <;> exact List.prefix_append _ _
  send_refuses s packet refused := by
    split_ifs at refused <;> cases refused
  send_fails s packet failed := by
    split_ifs at failed <;> cases failed
  receive_hands s frame rest here := by simp [here]
  receive_waits s none := by simp [none]

/-- The frames of a stream's packets. -/
def streamFrames (frameOf : AVPacket → AVFrame) (packets : List AVPacket) : List AVFrame :=
  (packets.filter fun packet => packet.size ≠ 0).map frameOf

/-- How many frames become ready with each packet, when `held` are held back to begin with. -/
def due (k : Nat) : Nat → List AVPacket → List Nat
  | _, [] => []
  | held, packet :: packets =>
    if packet.size = 0 then held :: due k 0 packets
    else (held + 1 - k) :: due k (min (held + 1) k) packets

/-- How many frames are held back in the end. -/
def kept (k : Nat) : Nat → List AVPacket → Nat
  | held, [] => held
  | held, packet :: packets =>
    if packet.size = 0 then kept k 0 packets else kept k (min (held + 1) k) packets

/-- **Nothing is left in the decoder**: there is no delay, or the last packet is an empty one, and in
every tail of the packets at most as many frames become ready as there are packets. -/
structure CaughtUp (k : Nat) (packets : List AVPacket) : Prop where
  ends : k = 0 ∨ ∀ packet ∈ packets.getLast?, packet.size = 0
  received : ∀ tail, tail <:+ due k 0 packets → tail.sum ≤ tail.length

section Delayed

variable {k : Nat} {frameOf : AVPacket → AVFrame} {loop : Loop}

/-- The frames that the decoder holds back. -/
def heldBack (s : (delayed k frameOf).State) : List AVFrame := Delay.held s

/-- Every packet is accepted. -/
theorem send_delayed (s : (delayed k frameOf).State) (packet : AVPacket) :
    ((delayed k frameOf).send s packet).1 = 0 := by
  simp only [delayed]
  split_ifs <;> rfl

/-- Receiving leaves the frames that are held back. -/
theorem receive_delayed (s : (delayed k frameOf).State) :
    heldBack ((delayed k frameOf).receive s).2.2 = heldBack s := by
  simp only [delayed, heldBack]
  split <;> rfl

/-- **What one round does** to a decoder of delay `k`. -/
theorem round_spec (on : loop.goesOn 0 = true) (d : Decoding (delayed k frameOf))
    (packet : AVPacket) :
    ∃ made : List AVFrame,
      (loop.round d packet).answers = d.answers ++ [(0, made)] ∧
      made ++ heldBack (loop.round d packet).state =
        heldBack d.state ++ streamFrames frameOf [packet] ∧
      made.length = (if packet.size = 0 then (heldBack d.state).length
        else (heldBack d.state).length + 1 - k) ∧
      (heldBack (loop.round d packet).state).length =
        (if packet.size = 0 then 0 else min ((heldBack d.state).length + 1) k) := by
  have round : loop.round d packet = (d.sent packet).received loop.handOn := by
    unfold Loop.round
    rw [send_delayed, if_pos on]
  have answers : (loop.round d packet).answers = d.answers ++ [(0, d.made packet)] := by
    rw [round, ← send_delayed d.state packet]
    rfl
  have state : heldBack (loop.round d packet).state =
      heldBack ((delayed k frameOf).send d.state packet).2 := by
    rw [round]
    exact receive_delayed _
  refine ⟨d.made packet, answers, ?_⟩
  rw [state]
  unfold Decoding.made heldBack
  by_cases empty : packet.size = 0
  · simp [delayed, streamFrames, empty]
  · simp only [delayed, if_neg empty, List.drop_left, List.take_append_drop, streamFrames]
    refine ⟨by simp [empty], ?_, ?_⟩
    · rw [List.length_take, List.length_append, List.length_singleton]
      omega
    · rw [List.length_drop, List.length_append, List.length_singleton]
      omega

/-- **What a run of rounds does.** -/
theorem rounds_spec (on : loop.goesOn 0 = true) (packets : List AVPacket)
    (d : Decoding (delayed k frameOf)) :
    ∃ made : List (List AVFrame),
      (packets.foldl loop.round d).answers = d.answers ++ made.map (0, ·) ∧
      made.flatten ++ heldBack (packets.foldl loop.round d).state =
        heldBack d.state ++ streamFrames frameOf packets ∧
      made.map List.length = due k (heldBack d.state).length packets ∧
      (heldBack (packets.foldl loop.round d).state).length =
        kept k (heldBack d.state).length packets := by
  induction packets generalizing d with
  | nil => exact ⟨[], by simp, by simp [streamFrames], rfl, rfl⟩
  | cons packet packets ih =>
    obtain ⟨first, answers, frames, length, held⟩ := round_spec on d packet
    obtain ⟨made, answers', frames', lengths, held'⟩ := ih (loop.round d packet)
    refine ⟨first :: made, ?_, ?_, ?_, ?_⟩
    · rw [List.foldl_cons, answers', answers, List.append_assoc]
      rfl
    · rw [List.foldl_cons, List.flatten_cons, List.append_assoc, frames', ← List.append_assoc,
        frames, List.append_assoc, streamFrames, streamFrames, ← List.map_append, ← List.filter_append]
      rfl
    · rw [List.map_cons, lengths, length, held, due]
      split_ifs <;> rfl
    · rw [List.foldl_cons, held', held, kept]
      split_ifs <;> rfl

/-- The frames in the decoder, when each round receives one. -/
theorem behind_made (on : loop.goesOn 0 = true) (made : List (List AVFrame)) :
    behind loop.goesOn (made.map (0, ·)) = backlog id (fun _ => 1) 0 (made.map List.length) := by
  unfold behind
  generalize 0 = left
  induction made generalizing left with
  | nil => rfl
  | cons first made ih =>
    simp only [List.map_cons, backlog, on, id]
    exact ih _

/-- Nothing is held back in the end exactly when there is no delay or the last packet is empty. -/
theorem kept_eq_zero_iff (packets : List AVPacket) :
    kept k 0 packets = 0 ↔ k = 0 ∨ ∀ packet ∈ packets.getLast?, packet.size = 0 := by
  have last : ∀ (packets : List AVPacket) (packet : AVPacket) (held : Nat),
      kept k held (packets ++ [packet]) =
        if packet.size = 0 then 0 else min (kept k held packets + 1) k := by
    intro packets packet
    induction packets with
    | nil => exact fun held => rfl
    | cons first packets ih =>
      intro held
      simp only [List.cons_append, kept]
      split_ifs <;> simp_all
  rcases List.eq_nil_or_concat packets with rfl | ⟨init, packet, rfl⟩
  · simp [kept]
  · rw [List.concat_eq_append, last, List.getLast?_concat]
    by_cases empty : packet.size = 0
    · simp [empty]
    · simp only [empty, if_false, Option.mem_some_iff, forall_eq', or_false]
      omega

/-- **No frame of the packets is lost exactly when the decoder has caught up.** -/
theorem pushed_iff (on : loop.goesOn 0 = true) (packets : List AVPacket) :
    (packets.foldl loop.round (Decoding.new (delayed k frameOf))).pushed =
        (streamFrames frameOf packets).map loop.handed ↔ CaughtUp k packets := by
  obtain ⟨made, answers, frames, lengths, held⟩ :=
    rounds_spec on packets (Decoding.new (delayed k frameOf))
  have keeps : Keeps loop (packets.foldl loop.round (Decoding.new (delayed k frameOf))) :=
    keeps_run loop packets
  generalize packets.foldl loop.round (Decoding.new (delayed k frameOf)) = d at *
  have made' : d.answers.flatMap Prod.snd = made.flatten := by
    rw [answers]
    simp [Decoding.new, List.flatMap_map, List.flatMap_id']
  have all : (streamFrames frameOf packets).map loop.handed =
      d.pushed ++ ((delayed k frameOf).pending d.state ++ heldBack d.state).map loop.handed := by
    rw [List.map_append, ← List.append_assoc, ← keeps.frames, made', ← List.map_append, frames]
    rfl
  have waiting : (delayed k frameOf).pending d.state = [] ↔
      ∀ tail, tail <:+ due k 0 packets → tail.sum ≤ tail.length := by
    have left : ((delayed k frameOf).pending d.state).length =
        backlog id (fun _ => 1) 0 (due k 0 packets) := by
      rw [keeps.pending, answers]
      exact (behind_made on made).trans (congrArg _ lengths)
    rw [← List.length_eq_zero_iff, left, backlog_eq_zero_iff]
    simp [Served]
  have back : heldBack d.state = [] ↔ k = 0 ∨ ∀ packet ∈ packets.getLast?, packet.size = 0 := by
    rw [← List.length_eq_zero_iff, held]
    exact kept_eq_zero_iff packets
  rw [all, List.self_eq_append_right, List.map_eq_nil_iff, List.append_eq_nil_iff, waiting, back]
  constructor
  · rintro ⟨received, ends⟩
    exact ⟨ends, received⟩
  · exact fun caught => ⟨caught.received, caught.ends⟩

end Delayed

/-- **Without empty packets**, nothing is left in the decoder exactly when there is no delay, or no
packet. -/
theorem caughtUp_iff (k : Nat) (packets : List AVPacket)
    (full : ∀ packet ∈ packets, packet.size ≠ 0) : CaughtUp k packets ↔ k = 0 ∨ packets = [] := by
  constructor
  · rintro ⟨none | empty, -⟩
    · exact Or.inl none
    · refine Or.inr (List.getLast?_eq_none_iff.mp ?_)
      cases last : packets.getLast? with
      | none => rfl
      | some packet => exact absurd (empty packet last) (full packet (List.mem_of_getLast? last))
  · rintro (rfl | rfl)
    · refine ⟨Or.inl rfl, fun tail suffix => ?_⟩
      have single : ∀ (packets : List AVPacket), ∀ n ∈ due 0 0 packets, n ≤ 1 := by
        intro packets
        induction packets with
        | nil => simp [due]
        | cons packet packets ih =>
          unfold due
          split_ifs
          · exact List.forall_mem_cons.mpr ⟨Nat.zero_le 1, ih⟩
          · exact List.forall_mem_cons.mpr ⟨Nat.le_refl 1, ih⟩
      have most := List.sum_le_card_nsmul tail 1 fun n member =>
        single packets n (suffix.subset member)
      simpa using most
    · refine ⟨Or.inr (by simp), fun tail suffix => ?_⟩
      cases List.suffix_nil.mp suffix
      exact Nat.le_refl 0

/-! ### The demuxer -/

namespace FFDemux

/-- The answers of `av_read_frame` up to `AVERROR_EOF`. -/
def reading (reads : List (Int × AVPacket)) (last : AVPacket) : List Label :=
  reads.map (fun r => .read r.1 r.2) ++ [.read AVERROR_EOF last]

/-- The packets of a stream among the answers. -/
def ofStream (i : Nat) (reads : List (Int × AVPacket)) : List AVPacket :=
  (reads.filter fun r => r.1 = 0 ∧ r.2.stream_index = i).map Prod.snd

/-- The packets in a decoder's queue. -/
def packets (queue : List XData) : List AVPacket := queue.filterMap XData.packet

/-- What reading keeps of the demuxer. -/
def SameStreams (d d' : FFDemux) : Prop :=
  d'.audioStreamIndex = d.audioStreamIndex ∧ d'.videoStreamIndex = d.videoStreamIndex ∧
    d'.selectedAudio = d.selectedAudio ∧ d'.selectedVideo = d.selectedVideo

/-- The packets that go to the video decoder. -/
def toVideo (d : FFDemux) (reads : List (Int × AVPacket)) : List AVPacket :=
  if d.audioStreamIndex = d.videoStreamIndex then [] else ofStream d.videoStreamIndex reads

variable {d d' : FFDemux}

theorem ofStream_cons (i : Nat) (r : Int × AVPacket) (reads : List (Int × AVPacket)) :
    ofStream i (r :: reads) = ofStream i [r] ++ ofStream i reads := by
  rw [ofStream, ofStream, ofStream, ← List.map_append, ← List.filter_append]
  rfl

/-- A packet that is read goes to the decoder whose index it has. -/
theorem readPacket_packets {packet : AVPacket} (read : d.readPacket packet = some d') :
    SameStreams d d' ∧
      packets d'.audioDecode = packets d.audioDecode ++ ofStream d.audioStreamIndex [(0, packet)] ∧
      packets d'.videoDecode = packets d.videoDecode ++ toVideo d [(0, packet)] := by
  obtain ⟨output, filled, rfl⟩ := Option.map_eq_some_iff.mp read
  have same : output.packet = some packet := by
    obtain ⟨_, -, rfl⟩ := Option.map_eq_some_iff.mp filled
    rfl
  unfold route
  split_ifs with audio video
  · refine ⟨⟨rfl, rfl, rfl, rfl⟩, ?_, ?_⟩
    · simp [packets, ofStream, same, audio]
    · by_cases both : d.audioStreamIndex = d.videoStreamIndex
      · simp [toVideo, both]
      · simp [toVideo, ofStream, both, audio]
  · have apart : ¬d.audioStreamIndex = d.videoStreamIndex := fun both =>
      audio (video.trans both.symm)
    refine ⟨⟨rfl, rfl, rfl, rfl⟩, ?_, ?_⟩
    · simp [ofStream, audio]
    · simp [packets, toVideo, ofStream, same, video, apart]
  · refine ⟨⟨rfl, rfl, rfl, rfl⟩, ?_, ?_⟩
    · simp [ofStream, audio]
    · simp [toVideo, ofStream, video]

/-- **What the decoders are pushed** while the demuxer reads. -/
theorem reads_packets {reads : List (Int × AVPacket)}
    (run : system.run d (reads.map fun r => .read r.1 r.2) = some d') :
    SameStreams d d' ∧
      packets d'.audioDecode = packets d.audioDecode ++ ofStream d.audioStreamIndex reads ∧
      packets d'.videoDecode = packets d.videoDecode ++ toVideo d reads := by
  induction reads generalizing d with
  | nil =>
    cases run
    exact ⟨⟨rfl, rfl, rfl, rfl⟩, by simp [ofStream], by simp [toVideo, ofStream]⟩
  | cons r reads ih =>
    obtain ⟨ret, packet⟩ := r
    obtain ⟨middle, step, rest⟩ := system.run_cons_eq_some.mp run
    obtain ⟨same', audio', video'⟩ := ih rest
    have first : SameStreams d middle ∧
        packets middle.audioDecode =
          packets d.audioDecode ++ ofStream d.audioStreamIndex [(ret, packet)] ∧
        packets middle.videoDecode = packets d.videoDecode ++ toVideo d [(ret, packet)] := by
      simp only [system, next] at step
      split_ifs at step with closed failed own
      · cases step
        exact ⟨⟨rfl, rfl, rfl, rfl⟩, by simp [ofStream, failed], by simp [toVideo, ofStream, failed]⟩
      · cases not_not.mp failed
        exact readPacket_packets step
    obtain ⟨⟨audioIndex, videoIndex, audioStream, videoStream⟩, audio, video⟩ := first
    obtain ⟨audioIndex', videoIndex', audioStream', videoStream'⟩ := same'
    refine ⟨⟨audioIndex'.trans audioIndex, videoIndex'.trans videoIndex,
      audioStream'.trans audioStream, videoStream'.trans videoStream⟩, ?_, ?_⟩
    · rw [audio', audio, audioIndex, List.append_assoc, ← ofStream_cons]
    · rw [video', video, toVideo, toVideo, toVideo, videoIndex, audioIndex, List.append_assoc]
      split_ifs
      · rfl
      · rw [← ofStream_cons]

/-! ### The main result -/

/-- The frames pushed when the audio decoder has drained its queue. -/
def audioPushed (codec : Codec) (d : FFDemux) : List AVFrame :=
  ((packets d.audioDecode).foldl AudioDecode.decodePacket (Decoding.new codec)).pushed

/-- The frames pushed when the video decoder has drained its queue. -/
def videoPushed (codec : Codec) (d : FFDemux) : List AVFrame :=
  ((packets d.videoDecode).foldl VideoDecode.decodePacket (Decoding.new codec)).pushed

/-- Two decoders, by the frame of a packet and their delay. -/
structure Decoders where
  audioFrame : AVPacket → AVFrame
  audioDelay : Nat
  videoFrame : AVPacket → AVFrame
  videoDelay : Nat

/-- **No frame is lost**: the frames of the selected streams are pushed, each once and in order. -/
structure NoFrameLost (decoders : Decoders) (reads : List (Int × AVPacket)) (d : FFDemux) :
    Prop where
  audio : ∀ i, d.selectedAudio = some i →
    audioPushed (delayed decoders.audioDelay decoders.audioFrame) d =
      (streamFrames decoders.audioFrame (ofStream i reads)).map Loop.audio.handed
  video : ∀ i, d.selectedVideo = some i →
    videoPushed (delayed decoders.videoDelay decoders.videoFrame) d =
      (streamFrames decoders.videoFrame (ofStream i reads)).map Loop.video.handed

/-- **The condition**, on the demuxer before it reads and what it reads: each decoder has caught up
when its stream ends. When no audio stream is selected and the index left over is the video stream's,
that stream has no frames. -/
structure EndsEmpty (decoders : Decoders) (reads : List (Int × AVPacket)) (d : FFDemux) : Prop where
  audio : ∀ i, d.selectedAudio = some i → CaughtUp decoders.audioDelay (ofStream i reads)
  video : ∀ i, d.selectedVideo = some i →
    if d.audioStreamIndex = i then streamFrames decoders.videoFrame (ofStream i reads) = []
    else CaughtUp decoders.videoDelay (ofStream i reads)

/-- **At the end of the file no frame is lost exactly when the decoders have caught up**, for a
demuxer that has not read before. -/
theorem endOfFile_iff (decoders : Decoders) (labels : List Label) (d : FFDemux)
    (opened : system.run new labels = some d) (noAudio : d.audioDecode = [])
    (noVideo : d.videoDecode = []) (reads : List (Int × AVPacket)) (last : AVPacket)
    (d' : FFDemux) (run : system.run d (reading reads last) = some d') :
    NoFrameLost decoders reads d' ↔ EndsEmpty decoders reads d := by
  have selects := selects_run opened
  rw [reading, System.run_append, Option.bind_eq_some_iff] at run
  obtain ⟨middle, read, ends⟩ := run
  obtain ⟨⟨audioIndex, videoIndex, audioStream, videoStream⟩, audio, video⟩ := reads_packets read
  have stopped : d' = { middle with isExit := true } := by
    obtain ⟨after, step, rest⟩ := system.run_cons_eq_some.mp ends
    cases rest
    simp only [system, next] at step
    split_ifs at step with closed failed
    · cases step
      simp [AVERROR_EOF]
    · exact absurd (by decide) failed
  subst stopped
  have audio' : ∀ i, d.selectedAudio = some i →
      (audioPushed (delayed decoders.audioDelay decoders.audioFrame)
          { middle with isExit := true } =
        (streamFrames decoders.audioFrame (ofStream i reads)).map Loop.audio.handed ↔
      CaughtUp decoders.audioDelay (ofStream i reads)) := by
    intro i selected
    have queue : packets middle.audioDecode = ofStream i reads := by
      rw [audio, noAudio, (selects.audio i selected).1]
      rfl
    rw [audioPushed, queue, ← Loop.audio_round]
    exact pushed_iff rfl _
  have video' : ∀ i, d.selectedVideo = some i →
      (videoPushed (delayed decoders.videoDelay decoders.videoFrame)
          { middle with isExit := true } =
        (streamFrames decoders.videoFrame (ofStream i reads)).map Loop.video.handed ↔
      if d.audioStreamIndex = i then streamFrames decoders.videoFrame (ofStream i reads) = []
      else CaughtUp decoders.videoDelay (ofStream i reads)) := by
    intro i selected
    have queue : packets middle.videoDecode =
        if d.audioStreamIndex = i then [] else ofStream i reads := by
      rw [video, noVideo, toVideo, (selects.video i selected).1]
      rfl
    rw [videoPushed, queue, ← Loop.video_round]
    split_ifs with taken
    · exact ⟨fun none => List.map_eq_nil_iff.mp none.symm, fun none => none ▸ rfl⟩
    · exact pushed_iff rfl _
  constructor
  · rintro ⟨allAudio, allVideo⟩
    refine ⟨fun i selected => (audio' i selected).mp (allAudio i ?_),
      fun i selected => (video' i selected).mp (allVideo i ?_)⟩
    · exact audioStream.trans selected
    · exact videoStream.trans selected
  · rintro ⟨audioEmpty, videoEmpty⟩
    refine ⟨fun i selected => ?_, fun i selected => ?_⟩
    · have selected := audioStream.symm.trans selected
      exact (audio' i selected).mpr (audioEmpty i selected)
    · have selected := videoStream.symm.trans selected
      exact (video' i selected).mpr (videoEmpty i selected)

/-- A video packet and an audio packet of `videoAndAudio`. -/
def twoPackets : List (Int × AVPacket) := [(0, ⟨0, 1, 100⟩), (0, ⟨1, 2, 100⟩)]

/-- Decoders whose frames name the packet's contents; the video decoder has a delay. -/
def named (videoDelay : Nat) : Decoders where
  audioFrame packet := { AVFrame.blank with data := some packet.data }
  audioDelay := 0
  videoFrame packet := { AVFrame.blank with data := some packet.data }
  videoDelay := videoDelay

/-- The demuxer with `videoAndAudio` open. -/
def twoStreams : FFDemux := new.openUrl (.opened videoAndAudio)

theorem endOfFile_undelayed :
    ∃ d, system.run twoStreams (reading twoPackets ⟨0, 0, 0⟩) = some d ∧
      NoFrameLost (named 0) twoPackets d := by
  refine ⟨_, rfl, ?_⟩
  refine (endOfFile_iff (named 0) [.openUrl (.opened videoAndAudio)] twoStreams rfl rfl rfl
    twoPackets ⟨0, 0, 0⟩ _ rfl).mpr ⟨fun i selected => ?_, fun i selected => ?_⟩
  · cases selected
    exact (caughtUp_iff 0 (ofStream 1 twoPackets) (by decide)).mpr (Or.inl rfl)
  · cases selected
    exact (caughtUp_iff 0 (ofStream 0 twoPackets) (by decide)).mpr (Or.inl rfl)

/-- **A video decoder of delay 1 keeps the only frame of its stream.** -/
theorem endOfFile_loses :
    ∃ d, system.run twoStreams (reading twoPackets ⟨0, 0, 0⟩) = some d ∧
      videoPushed (delayed (named 1).videoDelay (named 1).videoFrame) d = [] ∧
      ¬NoFrameLost (named 1) twoPackets d := by
  refine ⟨_, rfl, rfl, fun lossless => ?_⟩
  exact absurd (lossless.video 0 rfl) (by decide)

end FFDemux

end Xplay
