/-
**The decode loops lose no frame exactly when the decoder is never behind.**

`Codec` is libavcodec behind its send/receive contract. `AudioDecode.decodePacket` and
`VideoDecode.decodePacket` are one round of the two loops: pop a packet, send it once, receive once.
A packet the decoder answers with `EAGAIN` is gone, and frames beyond the one received stay in the
decoder until a later packet's round.

`decoders_lossless_iff`: nothing is lost exactly when no packet is answered with `EAGAIN` and in
every tail of the packets no more frames are made than rounds go on to `avcodec_receive_frame`.
-/

import Xplay.Decode.FrameOutput
import Xplay.Lib.Backlog

namespace Xplay

open Lib

/-- **libavcodec's contract**: a packet is accepted and adds frames behind the pending ones, or
refused with `EAGAIN` while frames are pending, or rejected with another error; the pending frames
are handed out in order, and with none pending the answer is `EAGAIN`. -/
structure Codec where
  State : Type
  opened : State
  pending : State → List AVFrame
  /-- `avcodec_send_packet`. -/
  send : State → AVPacket → Int × State
  /-- `avcodec_receive_frame`. -/
  receive : State → Int × AVFrame × State
  pending_opened : pending opened = []
  send_accepts : ∀ s p, 0 ≤ (send s p).1 → pending s <+: pending (send s p).2
  send_refuses : ∀ s p, (send s p).1 = AVERROR_EAGAIN → pending s ≠ []
  send_fails : ∀ s p, (send s p).1 < 0 → pending (send s p).2 = pending s
  receive_hands : ∀ s frame rest, pending s = frame :: rest →
    (receive s).1 = 0 ∧ (receive s).2.1 = frame ∧ pending (receive s).2.2 = rest
  receive_waits : ∀ s, pending s = [] →
    (receive s).1 = AVERROR_EAGAIN ∧ pending (receive s).2.2 = []

namespace Codec

/-- A decoder thread: the state of its codec, the answer to each packet with the frames that packet
made pending, and the frames pushed to its `FrameQueue`. -/
structure Decoding (codec : Codec) where
  state : codec.State
  answers : List (Int × List AVFrame)
  pushed : List AVFrame

variable (codec : Codec)

/-- A freshly opened decoder. -/
def Decoding.new : Decoding codec := ⟨codec.opened, [], []⟩

variable {codec}

namespace Decoding

/-- The frames a packet makes pending. -/
def made (d : Decoding codec) (packet : AVPacket) : List AVFrame :=
  (codec.pending (codec.send d.state packet).2).drop (codec.pending d.state).length

/-- `avcodec_send_packet`, and its answer. -/
def sent (d : Decoding codec) (packet : AVPacket) : Decoding codec :=
  { d with
    state := (codec.send d.state packet).2
    answers := d.answers ++ [((codec.send d.state packet).1, d.made packet)] }

/-- `avcodec_receive_frame`, and `pushFrame` for a frame the loop goes on with. -/
def received (handOn : Int → AVFrame → Option AVFrame) (d : Decoding codec) : Decoding codec :=
  { d with
    state := (codec.receive d.state).2.2
    pushed := d.pushed ++ (handOn (codec.receive d.state).1 (codec.receive d.state).2.1).toList }

end Decoding

end Codec

open Codec

/-- One round of the loop of `AudioDecode::decodePacket`, with the packet it popped. -/
def AudioDecode.decodePacket {codec : Codec} (d : Decoding codec) (packet : AVPacket) :
    Decoding codec :=
  let ret := (codec.send d.state packet).1
  if ret < 0 then
    -- the packet is dropped, and on `EAGAIN` only forgotten; neither is sent again
    d.sent packet
  else (d.sent packet).received AudioDecode.received

/-- One round of the loop of `VideoDecode::decodePacket`, with the packet it popped. -/
def VideoDecode.decodePacket {codec : Codec} (d : Decoding codec) (packet : AVPacket) :
    Decoding codec :=
  let ret := (codec.send d.state packet).1
  if ret < 0 ∧ ret ≠ AVERROR_EAGAIN ∧ ret ≠ AVERROR_EOF then d.sent packet
  else
    -- `EAGAIN` and `AVERROR_EOF` fall through: the packet is dropped and one frame received
    (d.sent packet).received VideoDecode.received

namespace Codec

/-- What the two loops differ in: the answers that go on to `avcodec_receive_frame`, and how a
received frame is handed on. -/
structure Loop where
  goesOn : Int → Bool
  handOn : Int → AVFrame → Option AVFrame
  /-- The frame handed on for one that was received. -/
  handed : AVFrame → AVFrame
  handOn_ok : ∀ frame, handOn 0 frame = some (handed frame)
  handOn_again : ∀ frame, handOn AVERROR_EAGAIN frame = none

namespace Loop

/-- The loop of `AudioDecode`. -/
def audio : Loop where
  goesOn ret := !decide (ret < 0)
  handOn := AudioDecode.received
  handed frame := frame
  handOn_ok _ := rfl
  handOn_again _ := rfl

/-- The loop of `VideoDecode`. -/
def video : Loop where
  goesOn ret := !decide (ret < 0 ∧ ret ≠ AVERROR_EAGAIN ∧ ret ≠ AVERROR_EOF)
  handOn := VideoDecode.received
  handed frame := { frame with pts := frame.best_effort_timestamp }
  handOn_ok _ := rfl
  handOn_again _ := rfl

/-- One round. -/
def round {codec : Codec} (loop : Loop) (d : Decoding codec) (packet : AVPacket) : Decoding codec :=
  if loop.goesOn (codec.send d.state packet).1 then (d.sent packet).received loop.handOn
  else d.sent packet

theorem audio_round {codec : Codec} :
    (audio.round : Decoding codec → AVPacket → Decoding codec) = AudioDecode.decodePacket := by
  funext d packet
  unfold round AudioDecode.decodePacket audio
  simp only [Bool.not_eq_true', decide_eq_false_iff_not, ite_not]

theorem video_round {codec : Codec} :
    (video.round : Decoding codec → AVPacket → Decoding codec) = VideoDecode.decodePacket := by
  funext d packet
  unfold round VideoDecode.decodePacket video
  simp only [Bool.not_eq_true', decide_eq_false_iff_not, ite_not]

end Loop

/-! ### The frames in the decoder -/

variable {codec : Codec}

/-- The frames in the decoder after these answers, when each round that goes on receives one. -/
def behind (goesOn : Int → Bool) (answers : List (Int × List AVFrame)) : Nat :=
  backlog (fun answer => answer.2.length) (fun answer => (goesOn answer.1).toNat) 0 answers

/-- A packet adds what it makes behind the pending frames, nothing unless it is accepted. -/
theorem Decoding.pending_sent (d : Decoding codec) (packet : AVPacket) :
    codec.pending (d.sent packet).state = codec.pending d.state ++ d.made packet := by
  show codec.pending (codec.send d.state packet).2 = _
  unfold Decoding.made
  rcases Int.lt_or_le (codec.send d.state packet).1 0 with failed | accepted
  · rw [codec.send_fails d.state packet failed, List.drop_length, List.append_nil]
  · obtain ⟨added, pending⟩ := codec.send_accepts d.state packet accepted
    rw [← pending, List.drop_left]

/-- **What a decode loop keeps**: the frames made are the pushed ones and the ones in the decoder,
in order, and only a decoder that is behind refuses a packet. -/
structure Keeps (loop : Loop) (d : Decoding codec) : Prop where
  frames : (d.answers.flatMap Prod.snd).map loop.handed =
    d.pushed ++ (codec.pending d.state).map loop.handed
  pending : (codec.pending d.state).length = behind loop.goesOn d.answers
  refused : ∀ earlier answer later, d.answers = earlier ++ answer :: later →
    answer.1 = AVERROR_EAGAIN → behind loop.goesOn earlier ≠ 0

theorem keeps_new (loop : Loop) : Keeps loop (Decoding.new codec) where
  frames := by
    show [] = [] ++ (codec.pending codec.opened).map loop.handed
    rw [codec.pending_opened]
    rfl
  pending := by
    show (codec.pending codec.opened).length = 0
    rw [codec.pending_opened]
    rfl
  refused earlier answer later split := by
    have empty : [] = earlier ++ answer :: later := split
    simp at empty

section Round

variable {loop : Loop} {d : Decoding codec}

/-- A round's one receive hands the first pending frame on, if there is one. -/
theorem receive_spec (loop : Loop) (d : Decoding codec) :
    (d.received loop.handOn).pushed ++
        (codec.pending (d.received loop.handOn).state).map loop.handed =
      d.pushed ++ (codec.pending d.state).map loop.handed ∧
    (codec.pending (d.received loop.handOn).state).length =
      (codec.pending d.state).length - 1 := by
  unfold Decoding.received
  cases pending : codec.pending d.state with
  | nil =>
    obtain ⟨again, left⟩ := codec.receive_waits d.state pending
    simp [again, left, loop.handOn_again]
  | cons frame rest =>
    obtain ⟨ok, same, left⟩ := codec.receive_hands d.state frame rest pending
    simp [ok, same, left, loop.handOn_ok]

/-- The answers after one more packet. -/
theorem refused_append {packet : AVPacket} (keeps : Keeps loop d) :
    ∀ earlier answer later, (d.sent packet).answers = earlier ++ answer :: later →
      answer.1 = AVERROR_EAGAIN → behind loop.goesOn earlier ≠ 0 := by
  intro earlier answer later split again
  rcases List.eq_nil_or_concat later with rfl | ⟨init, last, rfl⟩
  · obtain ⟨rfl, same⟩ := List.append_inj' split rfl
    have refused : (codec.send d.state packet).1 = AVERROR_EAGAIN := by
      rw [← again, ← List.singleton_inj.mp same]
    rw [← keeps.pending]
    exact fun none => codec.send_refuses d.state packet refused (List.length_eq_zero_iff.mp none)
  · have before : d.answers = earlier ++ answer :: init := by
      rw [List.concat_eq_append, ← List.cons_append, ← List.append_assoc] at split
      exact (List.append_inj' split rfl).1
    exact keeps.refused earlier answer init before again

/-- **The step lemma**: a round keeps the frames. -/
theorem keeps_round (keeps : Keeps loop d) (packet : AVPacket) :
    Keeps loop (loop.round d packet) := by
  have sent : ((d.sent packet).answers.flatMap Prod.snd).map loop.handed =
      (d.sent packet).pushed ++ (codec.pending (d.sent packet).state).map loop.handed := by
    rw [d.pending_sent, List.map_append, ← List.append_assoc]
    show _ = d.pushed ++ (codec.pending d.state).map loop.handed ++ _
    rw [← keeps.frames, ← List.map_append]
    show ((d.answers ++ [_]).flatMap Prod.snd).map loop.handed = _
    rw [List.flatMap_append, List.flatMap_singleton]
  have length : (codec.pending (d.sent packet).state).length =
      behind loop.goesOn d.answers + (d.made packet).length := by
    rw [d.pending_sent, List.length_append, keeps.pending]
  have answered : behind loop.goesOn (d.sent packet).answers =
      behind loop.goesOn d.answers + (d.made packet).length -
        (loop.goesOn (codec.send d.state packet).1).toNat := backlog_append _ _ 0 d.answers _
  unfold Loop.round
  split
  · next on =>
    obtain ⟨frames, fewer⟩ := receive_spec loop (d.sent packet)
    refine ⟨sent.trans frames.symm, ?_, refused_append keeps⟩
    show _ = behind loop.goesOn (d.sent packet).answers
    rw [fewer, length, answered, on]
    rfl
  · next off =>
    refine ⟨sent, ?_, refused_append keeps⟩
    rw [length, answered, Bool.eq_false_iff.mpr off]
    rfl

end Round

/-- **The run lemma.** -/
theorem keeps_run (loop : Loop) (packets : List AVPacket) :
    Keeps loop (packets.foldl loop.round (Decoding.new codec)) := by
  suffices general : ∀ d : Decoding codec, Keeps loop d → Keeps loop (packets.foldl loop.round d) from
    general _ (keeps_new loop)
  induction packets with
  | nil => exact fun _ keeps => keeps
  | cons packet packets ih => exact fun d keeps => ih _ (keeps_round keeps packet)

/-! ### The main result -/

/-- **Lossless**: no packet is dropped on `EAGAIN`, and the frames made are pushed once each and in
order. -/
def Lossless (handed : AVFrame → AVFrame) (d : Decoding codec) : Prop :=
  (∀ answer ∈ d.answers, answer.1 ≠ AVERROR_EAGAIN) ∧
    d.pushed = (d.answers.flatMap Prod.snd).map handed

/-- **The decoder keeps up**: it takes every packet it is sent while it is behind, and in every tail
of the packets no more frames are made than rounds receive one. -/
structure KeepsUp (goesOn : Int → Bool) (answers : List (Int × List AVFrame)) : Prop where
  takes : ∀ earlier answer later, answers = earlier ++ answer :: later →
    behind goesOn earlier ≠ 0 → answer.1 ≠ AVERROR_EAGAIN
  catchesUp : ∀ tail, tail <:+ answers →
    Served (fun answer => answer.2.length) (fun answer => (goesOn answer.1).toNat) tail

theorem Keeps.lossless_iff {loop : Loop} {d : Decoding codec} (keeps : Keeps loop d) :
    Lossless loop.handed d ↔ KeepsUp loop.goesOn d.answers := by
  have pushed : d.pushed = (d.answers.flatMap Prod.snd).map loop.handed ↔
      behind loop.goesOn d.answers = 0 := by
    rw [keeps.frames, List.self_eq_append_right, List.map_eq_nil_iff, ← List.length_eq_zero_iff,
      keeps.pending]
  unfold Lossless
  rw [pushed]
  constructor
  · rintro ⟨accepted, drained⟩
    refine ⟨fun earlier answer later split _ => accepted answer ?_,
      (backlog_eq_zero_iff _ _ _).mp drained⟩
    rw [split]
    exact List.mem_append_right _ List.mem_cons_self
  · rintro ⟨takes, catchesUp⟩
    refine ⟨fun answer member again => ?_, (backlog_eq_zero_iff _ _ _).mpr catchesUp⟩
    obtain ⟨earlier, later, split⟩ := List.append_of_mem member
    exact takes earlier answer later split (keeps.refused earlier answer later split again) again

/-- A decoder that makes at most one frame in a round, none in one that does not receive, keeps
up. -/
theorem keepsUp_of_single {goesOn : Int → Bool} {answers : List (Int × List AVFrame)}
    (single : ∀ answer ∈ answers, answer.2.length ≤ (goesOn answer.1).toNat) :
    KeepsUp goesOn answers := by
  have served : ∀ tail : List (Int × List AVFrame), (∀ answer ∈ tail, answer ∈ answers) →
      Served (fun answer => answer.2.length) (fun answer => (goesOn answer.1).toNat) tail :=
    fun tail within => served_of_each _ _ fun answer member => single answer (within answer member)
  refine ⟨fun earlier answer later split late => absurd ?_ late, fun tail suffix =>
    served tail fun answer member => suffix.subset member⟩
  refine (backlog_eq_zero_iff _ _ earlier).mpr fun tail suffix => served tail fun answer member => ?_
  rw [split]
  exact List.mem_append_left _ (suffix.subset member)

/-- **The decode loops lose nothing exactly when the decoder keeps up**, whatever the decoder and
the packets. -/
theorem decoders_lossless_iff (codec : Codec) (packets : List AVPacket) :
    (Lossless Loop.audio.handed (packets.foldl AudioDecode.decodePacket (Decoding.new codec)) ↔
      KeepsUp Loop.audio.goesOn
        (packets.foldl AudioDecode.decodePacket (Decoding.new codec)).answers) ∧
    (Lossless Loop.video.handed (packets.foldl VideoDecode.decodePacket (Decoding.new codec)) ↔
      KeepsUp Loop.video.goesOn
        (packets.foldl VideoDecode.decodePacket (Decoding.new codec)).answers) := by
  rw [← Loop.audio_round, ← Loop.video_round]
  exact ⟨(keeps_run Loop.audio packets).lossless_iff, (keeps_run Loop.video packets).lossless_iff⟩

/-- A decoder that makes two frames of every packet, and refuses packets until both are taken. -/
def twoFrames : Codec where
  State := List AVFrame
  opened := []
  pending := id
  send pending _ :=
    match pending with
    | [] => (0, [AVFrame.blank, AVFrame.blank])
    | _ :: _ => (AVERROR_EAGAIN, pending)
  receive pending :=
    match pending with
    | [] => (AVERROR_EAGAIN, AVFrame.blank, [])
    | frame :: rest => (0, frame, rest)
  pending_opened := rfl
  send_accepts pending _ accepted := by
    cases pending with
    | nil => exact List.nil_prefix
    | cons frame rest => cases accepted
  send_refuses pending _ again := by
    cases pending with
    | nil => cases again
    | cons frame rest => exact List.cons_ne_nil frame rest
  send_fails pending _ failed := by
    cases pending with
    | nil => cases failed
    | cons frame rest => rfl
  receive_hands pending frame rest here := by
    cases (show pending = frame :: rest from here)
    exact ⟨rfl, rfl, rfl⟩
  receive_waits pending none := by
    cases (show pending = [] from none)
    exact ⟨rfl, rfl⟩

/-- **Two packets of two frames each lose a packet and a frame** in the audio loop, and in the video
loop a packet. -/
theorem decoders_lose : ∃ packets : List AVPacket,
    ¬Lossless Loop.audio.handed
        (packets.foldl AudioDecode.decodePacket (Decoding.new twoFrames)) ∧
      ¬Lossless Loop.video.handed
        (packets.foldl VideoDecode.decodePacket (Decoding.new twoFrames)) := by
  refine ⟨[⟨0, 1, 1⟩, ⟨0, 2, 1⟩], fun lossless => ?_, fun lossless => ?_⟩
  · exact lossless.1 (AVERROR_EAGAIN, []) (by decide) rfl
  · exact lossless.1 (AVERROR_EAGAIN, []) (by decide) rfl

end Codec

end Xplay
