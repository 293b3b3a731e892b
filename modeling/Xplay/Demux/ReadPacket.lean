/-
**`FFDemux::readPacket` sends packets to the decoders by what `open` left behind.**

`audioStreamIndex`, `videoStreamIndex` and `pStream` outlive the container they were set for: the
indices start at 0 and keep their value when a container has no stream of that kind, and `pStream`
is the stream of the first packet ever read. `Routable` says when this does no harm to a packet,
and `readPacket_routes` that a packet is sent where it belongs, with its own stream's time base,
exactly then.
-/

import Xplay.Data.XData
import Xplay.Decode.FrameOutput
import Xplay.Lib.System

namespace Xplay

open Lib

/-- `AVMediaType`. -/
inductive AVMediaType
  | unknown
  | video
  | audio
  | data
  | subtitle
  | attachment
  deriving DecidableEq, Repr

/-- `AVStream`, with what `av_guess_frame_rate` makes of it. -/
structure AVStream where
  codec_type : AVMediaType
  time_base : AVRational
  frame_rate : AVRational
  deriving DecidableEq, Repr

/-- `AVFormatContext`, with the answers of `av_find_best_stream`: a stream of the kind asked for, or
a negative number (`none`). -/
structure AVFormatContext where
  streams : List AVStream
  best : AVMediaType → Option Nat
  best_type : ∀ kind i, best kind = some i → (streams[i]?).map AVStream.codec_type = some kind

/-- How `open` goes: `avformat_open_input` fails, `avformat_find_stream_info` does, or neither. -/
inductive Opening
  | failed
  | noInfo (c : AVFormatContext)
  | opened (c : AVFormatContext)

/-- `MEDIA_TYPE_AUDIO`. -/
def MEDIA_TYPE_AUDIO : Int := 0

/-- `MEDIA_TYPE_VIDEO`. -/
def MEDIA_TYPE_VIDEO : Int := 1

/-- A packet that was read, with the streams selected then and the time base of its own stream. -/
structure Read where
  packet : AVPacket
  selectedAudio : Option Nat
  selectedVideo : Option Nat
  timeBase : Option AVRational

/-- `FFDemux`, the packets it pushed to the two decoders, and its history: how often it was opened,
the streams selected in the open container, the packets read. A stream pointer is the number of the
opening it was taken in and the stream's number. -/
structure FFDemux where
  formatContext : Option AVFormatContext
  pStream : Option (Nat × Nat)
  audioStreamIndex : Nat
  videoStreamIndex : Nat
  isExit : Bool
  audioDecode : List XData
  videoDecode : List XData
  opens : Nat
  selectedAudio : Option Nat
  selectedVideo : Option Nat
  reads : List Read

namespace FFDemux

/-- The constructor. -/
def new : FFDemux := ⟨none, none, 0, 0, false, [], [], 0, none, none, []⟩

/-- `FFDemux::close`. -/
def close (d : FFDemux) : FFDemux :=
  { d with formatContext := none, selectedAudio := none, selectedVideo := none }

/-- `FFDemux::getVideoParameter`: what it does to the demuxer. -/
def getVideoParameter (d : FFDemux) : FFDemux :=
  match d.formatContext with
  | none => d
  | some c =>
    match c.best .video with
    | none => d
    | some videoIndex =>
      { d with videoStreamIndex := videoIndex, selectedVideo := some videoIndex }

/-- `FFDemux::getAudioParameter`: what it does to the demuxer. -/
def getAudioParameter (d : FFDemux) : FFDemux :=
  match d.formatContext with
  | none => d
  | some c =>
    match c.best .audio with
    | none => d
    | some audioIndex =>
      { d with audioStreamIndex := audioIndex, selectedAudio := some audioIndex }

/-- `FFDemux::open`. -/
def openUrl (d : FFDemux) (opening : Opening) : FFDemux :=
  let d := { d.close with opens := d.opens + 1 }
  match opening with
  | .failed => d
  | .noInfo c => { d with formatContext := some c }
  | .opened c => { d with formatContext := some c }.getVideoParameter.getAudioParameter

/-- The stream a packet belongs to. -/
def ownStream (d : FFDemux) (packet : AVPacket) : Option AVStream :=
  d.formatContext.bind fun c => c.streams[packet.stream_index]?

/-- The stream a pointer points at; none once its container is closed. -/
def deref (d : FFDemux) (pointer : Nat × Nat) : Option AVStream :=
  if pointer.1 = d.opens then d.formatContext.bind fun c => c.streams[pointer.2]? else none

/-- `pStream` when the packet's `XData` is filled in. -/
def cachedStream (d : FFDemux) (packet : AVPacket) : Nat × Nat :=
  d.pStream.getD (d.opens, packet.stream_index)

/-- The `XData` of a packet; none when it is filled in through a dangling `pStream`. -/
def output (d : FFDemux) (packet : AVPacket) : Option XData :=
  (d.deref (d.cachedStream packet)).map fun stream =>
    { XData.init with
      allocType := .packet
      packet := some packet
      size := packet.size
      frame_rate := stream.frame_rate
      time_base := stream.time_base }

/-- The end of `readPacket`: `pushPacket` to the decoder whose index the packet has. -/
def route (d : FFDemux) (packet : AVPacket) (output : XData) : FFDemux :=
  if packet.stream_index = d.audioStreamIndex then
    { d with audioDecode := d.audioDecode ++ [{ output with audioOrVideo := MEDIA_TYPE_AUDIO }] }
  else if packet.stream_index = d.videoStreamIndex then
    { d with videoDecode := d.videoDecode ++ [{ output with audioOrVideo := MEDIA_TYPE_VIDEO }] }
  else d

/-- One round of the loop of `FFDemux::readPacket` that reads a packet. -/
def readPacket (d : FFDemux) (packet : AVPacket) : Option FFDemux :=
  (d.output packet).map fun output =>
    { d.route packet output with
      pStream := some (d.cachedStream packet)
      reads := d.reads ++
        [⟨packet, d.selectedAudio, d.selectedVideo, (d.ownStream packet).map AVStream.time_base⟩] }

/-- What happens to a demuxer: a container is opened, the thread is started, or `av_read_frame`
returns. -/
inductive Label
  | openUrl (opening : Opening)
  | start
  | read (ret : Int) (packet : AVPacket)

/-- **One step.** A packet belongs to a stream of the open container. -/
def next (d : FFDemux) : Label → Option FFDemux
  | .openUrl opening => some (d.openUrl opening)
  | .start => some { d with isExit := false }
  | .read ret packet =>
    if d.isExit = true ∨ d.formatContext.isNone then none
    else if ret ≠ 0 then some { d with isExit := d.isExit || ret == AVERROR_EOF }
    else if (d.ownStream packet).isSome then d.readPacket packet
    else none

def system : System FFDemux Label := ⟨next⟩

/-! ### Routing -/

/-- **The packet goes where it belongs**: to the audio decoder exactly if its stream is the audio
stream selected in the open container, to the video decoder exactly if it is the selected video
stream, and with the time base of its own stream. -/
def RoutesRight (d : FFDemux) (packet : AVPacket) : Prop :=
  ∃ output d', d.output packet = some output ∧ d.readPacket packet = some d' ∧
    output.packet = some packet ∧
    (d.ownStream packet).map AVStream.time_base = some output.time_base ∧
    d'.audioDecode = d.audioDecode ++ (if d.selectedAudio = some packet.stream_index then
      [{ output with audioOrVideo := MEDIA_TYPE_AUDIO }] else []) ∧
    d'.videoDecode = d.videoDecode ++ (if d.selectedVideo = some packet.stream_index then
      [{ output with audioOrVideo := MEDIA_TYPE_VIDEO }] else [])

/-- **When it does**: an index that no stream of the open container was selected for is not the
packet's, or, for the video index, is that of the selected audio stream; and the stream of the first
packet ever read is a stream of the open container with the packet's time base. -/
structure Routable (d : FFDemux) (packet : AVPacket) : Prop where
  audio : d.selectedAudio = none → packet.stream_index ≠ d.audioStreamIndex
  video : d.selectedVideo = none → packet.stream_index = d.videoStreamIndex →
    d.selectedAudio = some packet.stream_index
  timeBase : ∀ first, d.pStream = some first → (d.deref first).map AVStream.time_base =
    (d.ownStream packet).map AVStream.time_base

/-- **The invariant**: a selected stream has its index set, and is of its kind. -/
structure Selects (d : FFDemux) : Prop where
  audio : ∀ i, d.selectedAudio = some i → d.audioStreamIndex = i ∧
    (d.formatContext.bind fun c => c.streams[i]?).map AVStream.codec_type = some .audio
  video : ∀ i, d.selectedVideo = some i → d.videoStreamIndex = i ∧
    (d.formatContext.bind fun c => c.streams[i]?).map AVStream.codec_type = some .video

theorem selects_new : Selects new where
  audio i selected := by cases selected
  video i selected := by cases selected

theorem Selects.getVideoParameter {d : FFDemux} (selects : Selects d) :
    Selects d.getVideoParameter := by
  unfold FFDemux.getVideoParameter
  split
  · exact selects
  · next c container =>
    split
    · exact selects
    · next videoIndex best =>
      refine ⟨selects.audio, fun i selected => ?_⟩
      cases selected
      refine ⟨rfl, ?_⟩
      simp only [container, Option.bind_some]
      exact c.best_type _ _ best

theorem Selects.getAudioParameter {d : FFDemux} (selects : Selects d) :
    Selects d.getAudioParameter := by
  unfold FFDemux.getAudioParameter
  split
  · exact selects
  · next c container =>
    split
    · exact selects
    · next audioIndex best =>
      refine ⟨fun i selected => ?_, selects.video⟩
      cases selected
      refine ⟨rfl, ?_⟩
      simp only [container, Option.bind_some]
      exact c.best_type _ _ best

/-- After `open` nothing of the former container is selected. -/
theorem selects_open (d : FFDemux) (opening : Opening) : Selects (d.openUrl opening) := by
  unfold FFDemux.openUrl
  cases opening with
  | failed => exact ⟨fun i selected => (by cases selected), fun i selected => (by cases selected)⟩
  | noInfo c => exact ⟨fun i selected => (by cases selected), fun i selected => (by cases selected)⟩
  | opened c =>
    refine Selects.getAudioParameter (Selects.getVideoParameter ?_)
    exact ⟨fun i selected => (by cases selected), fun i selected => (by cases selected)⟩

/-- Reading packets selects nothing. -/
theorem Selects.readPacket {d d' : FFDemux} {packet : AVPacket} (selects : Selects d)
    (read : d.readPacket packet = some d') : Selects d' := by
  obtain ⟨output, -, rfl⟩ := Option.map_eq_some_iff.mp read
  unfold route
  split
  · exact ⟨selects.audio, selects.video⟩
  · split <;> exact ⟨selects.audio, selects.video⟩

/-- **The step lemma.** -/
theorem selects_step {d d' : FFDemux} {l : Label} (selects : Selects d)
    (step : next d l = some d') : Selects d' := by
  cases l with
  | openUrl opening =>
    cases step
    exact selects_open d opening
  | start =>
    cases step
    exact ⟨selects.audio, selects.video⟩
  | read ret packet =>
    simp only [next] at step
    split at step
    · cases step
    · split at step
      · cases step
        exact ⟨selects.audio, selects.video⟩
      · split at step
        · exact selects.readPacket step
        · cases step

/-- **The run lemma.** -/
theorem selects_run {d : FFDemux} {labels : List Label} (run : system.run new labels = some d) :
    Selects d :=
  System.invariant_run (I := Selects) (fun _ _ _ selects step => selects_step selects step) run
    selects_new

section Packet

variable {d : FFDemux} {packet : AVPacket}

/-- No stream is selected for both decoders. -/
theorem Selects.apart (selects : Selects d) {i : Nat} (audio : d.selectedAudio = some i) :
    d.selectedVideo ≠ some i := by
  intro video
  have kinds := (selects.audio i audio).2.symm.trans (selects.video i video).2
  cases kinds

/-- Where the indices send the packet is where the selection does. -/
theorem Routable.sends (routable : Routable d packet) (selects : Selects d) :
    (packet.stream_index = d.audioStreamIndex ↔ d.selectedAudio = some packet.stream_index) ∧
      (packet.stream_index ≠ d.audioStreamIndex →
        (packet.stream_index = d.videoStreamIndex ↔
          d.selectedVideo = some packet.stream_index)) := by
  have audio : packet.stream_index = d.audioStreamIndex ↔
      d.selectedAudio = some packet.stream_index := by
    constructor
    · intro same
      cases selected : d.selectedAudio with
      | none => exact absurd same (routable.audio selected)
      | some i => rw [same, (selects.audio i selected).1]
    · exact fun selected => (selects.audio _ selected).1.symm
  refine ⟨audio, fun other => ⟨fun same => ?_, fun selected => (selects.video _ selected).1.symm⟩⟩
  cases selected : d.selectedVideo with
  | none => exact absurd (audio.mpr (routable.video selected same)) other
  | some i => rw [same, (selects.video i selected).1]

/-- **A routable packet is routed right.** -/
theorem Routable.routesRight (routable : Routable d packet) (selects : Selects d)
    (own : (d.ownStream packet).isSome) : RoutesRight d packet := by
  obtain ⟨stream, belongs⟩ := Option.isSome_iff_exists.mp own
  have timeBase : (d.deref (d.cachedStream packet)).map AVStream.time_base =
      some stream.time_base := by
    unfold cachedStream
    cases first : d.pStream with
    | none =>
      show (d.deref (d.opens, packet.stream_index)).map _ = _
      rw [deref, if_pos rfl]
      exact congrArg (Option.map AVStream.time_base) belongs
    | some pointer =>
      have same := routable.timeBase pointer first
      rw [belongs] at same
      exact same
  obtain ⟨cached, pointed, same⟩ := Option.map_eq_some_iff.mp timeBase
  have output : d.output packet = some
      { XData.init with
        allocType := .packet
        packet := some packet
        size := packet.size
        frame_rate := cached.frame_rate
        time_base := cached.time_base } := by
    rw [FFDemux.output, pointed]
    rfl
  obtain ⟨audio, video⟩ := routable.sends selects
  refine ⟨_, _, output, by rw [readPacket, output]; rfl, rfl, ?_, ?_, ?_⟩
  · rw [belongs]
    exact congrArg some same.symm
  · simp only [← audio, route]
    split
    · rfl
    · split <;> exact (List.append_nil _).symm
  · simp only [route]
    split
    · next here =>
      rw [if_neg (selects.apart (audio.mp here))]
      exact (List.append_nil _).symm
    · next other =>
      simp only [← video other]
      split
      · rfl
      · exact (List.append_nil _).symm

/-- A decoder that is pushed a packet has one more. -/
theorem append_ne_self {α : Type*} (xs : List α) (x : α) : xs ++ [x] ≠ xs ++ [] := by
  simp

/-- **A packet that is routed right is routable.** -/
theorem RoutesRight.routable (right : RoutesRight d packet) : Routable d packet := by
  obtain ⟨output, d', filled, read, -, timeBase, audio, video⟩ := right
  rw [readPacket, filled] at read
  cases read
  refine ⟨fun selected here => ?_, fun selected here => ?_, fun first pointer => ?_⟩
  · simp only [route, if_pos here, selected, reduceCtorEq, if_false] at audio
    exact append_ne_self _ _ audio
  · by_contra other
    by_cases same : packet.stream_index = d.audioStreamIndex
    · simp only [route, if_pos same, if_neg other] at audio
      exact append_ne_self _ _ audio
    · simp only [route, if_neg same, if_pos here, selected, reduceCtorEq, if_false] at video
      exact append_ne_self _ _ video
  · obtain ⟨stream, pointed, rfl⟩ := Option.map_eq_some_iff.mp filled
    rw [cachedStream, pointer, Option.getD_some] at pointed
    rw [timeBase, pointed]
    rfl

end Packet

/-! ### Runs -/

/-- The packets a decoder was pushed, with their time bases. -/
def received (decode : List XData) : List (Option AVPacket × Option AVRational) :=
  decode.map fun x => (x.packet, some x.time_base)

/-- The packets that belong to the streams selected when they were read, with their time bases. -/
def due (selected : Read → Option Nat) (reads : List Read) :
    List (Option AVPacket × Option AVRational) :=
  (reads.filter fun r => selected r == some r.packet.stream_index).map fun r =>
    (some r.packet, r.timeBase)

/-- Each decoder was pushed its own stream's packets, once each and in the order they were read. -/
structure InOrder (d : FFDemux) : Prop where
  audio : received d.audioDecode = due Read.selectedAudio d.reads
  video : received d.videoDecode = due Read.selectedVideo d.reads

theorem due_append {selected : Read → Option Nat} (reads : List Read) (r : Read) :
    due selected (reads ++ [r]) =
      due selected reads ++
        (if selected r = some r.packet.stream_index then [(some r.packet, r.timeBase)] else []) := by
  unfold due
  rw [List.filter_append, List.map_append]
  congr 1
  by_cases member : selected r = some r.packet.stream_index
  · simp [member]
  · simp [member]

/-- What a decoder was pushed when it is pushed `x` or nothing more. -/
theorem received_append (decode : List XData) (x : XData) (P : Prop) [Decidable P] :
    received (decode ++ if P then [x] else []) =
      received decode ++ if P then [(x.packet, some x.time_base)] else [] := by
  unfold received
  rw [List.map_append]
  split <;> rfl

/-- **A packet that is routed right keeps the decoders in order.** -/
theorem InOrder.readPacket {d d' : FFDemux} {packet : AVPacket} (inOrder : InOrder d)
    (right : RoutesRight d packet) (read : d.readPacket packet = some d') : InOrder d' := by
  obtain ⟨output, d'', filled, read', same, timeBase, audio, video⟩ := right
  cases read.symm.trans read'
  have reads : d'.reads = d.reads ++
      [⟨packet, d.selectedAudio, d.selectedVideo, some output.time_base⟩] := by
    obtain ⟨_, -, rfl⟩ := Option.map_eq_some_iff.mp read
    rw [timeBase]
  constructor
  · rw [audio, received_append, inOrder.audio, reads, due_append, same]
  · rw [video, received_append, inOrder.video, reads, due_append, same]

/-- A packet is only read when the condition holds. -/
def Meets (d : FFDemux) : Label → Prop
  | .read 0 packet => Routable d packet
  | _ => True

/-- **Packet routing** after a sequence of openings and packets:

* `exact` — the next packet is routed right exactly when it is routable;
* `inOrder` — while only routable packets were read, each decoder was pushed its own stream's packets
  once each, in order and with their own time bases. -/
structure RoutesExactly (labels : List Label) : Prop where
  exact : ∀ d packet, system.run new labels = some d → (d.ownStream packet).isSome →
    (RoutesRight d packet ↔ Routable d packet)
  inOrder : ∀ d, system.Guarded Meets new labels → system.run new labels = some d → InOrder d

/-- What the decoders were pushed and what was read. -/
def SameHistory (d d' : FFDemux) : Prop :=
  d'.audioDecode = d.audioDecode ∧ d'.videoDecode = d.videoDecode ∧ d'.reads = d.reads

theorem getVideoParameter_history (d : FFDemux) : SameHistory d d.getVideoParameter := by
  unfold getVideoParameter
  split
  · exact ⟨rfl, rfl, rfl⟩
  · split <;> exact ⟨rfl, rfl, rfl⟩

theorem getAudioParameter_history (d : FFDemux) : SameHistory d d.getAudioParameter := by
  unfold getAudioParameter
  split
  · exact ⟨rfl, rfl, rfl⟩
  · split <;> exact ⟨rfl, rfl, rfl⟩

/-- Opening a container pushes nothing. -/
theorem openUrl_history (d : FFDemux) (opening : Opening) : SameHistory d (d.openUrl opening) := by
  cases opening with
  | failed => exact ⟨rfl, rfl, rfl⟩
  | noInfo c => exact ⟨rfl, rfl, rfl⟩
  | opened c =>
    obtain ⟨audio, video, reads⟩ := getAudioParameter_history
      { d.close with opens := d.opens + 1, formatContext := some c }.getVideoParameter
    obtain ⟨audio', video', reads'⟩ := getVideoParameter_history
      { d.close with opens := d.opens + 1, formatContext := some c }
    exact ⟨audio.trans audio', video.trans video', reads.trans reads'⟩

theorem inOrder_step {d d' : FFDemux} {l : Label} (selects : Selects d) (inOrder : InOrder d)
    (meets : Meets d l) (step : next d l = some d') : InOrder d' := by
  cases l with
  | openUrl opening =>
    cases step
    obtain ⟨audio, video, reads⟩ := openUrl_history d opening
    constructor
    · rw [audio, reads, inOrder.audio]
    · rw [video, reads, inOrder.video]
  | start =>
    cases step
    exact ⟨inOrder.audio, inOrder.video⟩
  | read ret packet =>
    simp only [next] at step
    split at step
    · cases step
    · split at step
      · cases step
        exact ⟨inOrder.audio, inOrder.video⟩
      · next success =>
        cases not_not.mp success
        split at step
        · next own => exact inOrder.readPacket (Routable.routesRight meets selects own) step
        · cases step

/-- **`readPacket` routes a packet right exactly when it is routable**, whatever was opened and read
before. -/
theorem readPacket_routesExactly (labels : List Label) : RoutesExactly labels where
  exact d packet run own :=
    ⟨RoutesRight.routable, fun routable => routable.routesRight (selects_run run) own⟩
  inOrder d guarded run := by
    refine (System.invariant_guarded (I := fun d => Selects d ∧ InOrder d) ?_ guarded run
      ⟨selects_new, ⟨rfl, rfl⟩⟩).2
    rintro d l d' ⟨selects, inOrder⟩ meets step
    exact ⟨selects_step selects step, inOrder_step selects inOrder meets step⟩

/-- A container with one video stream. -/
def videoOnly : AVFormatContext where
  streams := [⟨.video, ⟨1, 90000⟩, ⟨25, 1⟩⟩]
  best kind := if kind = .video then some 0 else none
  best_type kind i best := by
    split at best
    · next here =>
      cases best
      rw [here]
      rfl
    · cases best

/-- A container with a video and an audio stream. -/
def videoAndAudio : AVFormatContext where
  streams := [⟨.video, ⟨1, 90000⟩, ⟨25, 1⟩⟩, ⟨.audio, ⟨1, 44100⟩, ⟨0, 0⟩⟩]
  best kind := if kind = .video then some 0 else if kind = .audio then some 1 else none
  best_type kind i best := by
    split at best
    · next here =>
      cases best
      rw [here]
      rfl
    · split at best
      · next here =>
        cases best
        rw [here]
        rfl
      · cases best

/-- **Video packets of a container without audio go to the audio decoder, and an audio packet behind
a video packet gets the video stream's time base.** -/
theorem readPacket_misroutes :
    (∃ d d', system.run new [.openUrl (.opened videoOnly)] = some d ∧
      d.readPacket ⟨0, 1, 100⟩ = some d' ∧ d.selectedVideo = some 0 ∧ d.selectedAudio = none ∧
      d'.audioDecode.length = 1 ∧ d'.videoDecode = [] ∧ ¬RoutesRight d ⟨0, 1, 100⟩) ∧
    ∃ d d', system.run new [.openUrl (.opened videoAndAudio), .read 0 ⟨0, 1, 100⟩] = some d ∧
      d.readPacket ⟨1, 2, 100⟩ = some d' ∧
      d'.audioDecode.map XData.time_base = [⟨1, 90000⟩] ∧ ¬RoutesRight d ⟨1, 2, 100⟩ := by
  refine ⟨⟨_, _, rfl, rfl, rfl, rfl, rfl, rfl, fun right => ?_⟩,
    ⟨_, _, rfl, rfl, rfl, fun right => ?_⟩⟩
  · exact right.routable.audio rfl rfl
  · exact absurd (right.routable.timeBase (1, 0) rfl) (by decide)

end FFDemux

end Xplay
