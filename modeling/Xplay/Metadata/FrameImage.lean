/-
**`getFrame` and the contexts it scales and encodes with.**

`encodeImage` creates the encoder and the scaler of a frame that is asked for at a size only while the
struct has none. `init` keeps them, so that the pair made for the first such frame serves every later
size and every later source. The buffer is that of the decoder's size, the frame in it has the
encoder's. `av_image_get_buffer_size` is a parameter with what `imgutils.h` says of it (`RgbaSizes`).

* `getFrame`, `setDataSource` — the calls, with FFmpeg's answers; `encodes` — what a sequence of calls
  encodes with.
* `Honours` — the contexts were made for this size and this source, and the buffer holds the frame.
* `requests` — the frames that reach `encodeImage` with a size; `Uniform` — the condition on them.
* `honours_iff` — **every frame is honoured exactly when all are asked for at one size, from sources of
  one width, height and pixel format that an image can have, and no larger than these.**
-/

import Xplay.Metadata.Metadata

set_option linter.unusedSectionVars false

namespace Xplay.Metadata

/-- A size that a frame is asked for. -/
structure Size where
  width : Int
  height : Int
  width_pos : 0 < width
  height_pos : 0 < height

/-- The size a PNG encoder is opened for. -/
structure EncoderContext where
  width : Int
  height : Int
  deriving DecidableEq

/-- What `sws_getContext` is called with; the target format is `AV_PIX_FMT_RGBA`. -/
structure SwsContext where
  srcW : Int
  srcH : Int
  srcFormat : Int
  dstW : Int
  dstH : Int
  deriving DecidableEq

/-- The members of `MetadataState` that `getFrame` reads; `videoStream` is the stream's decoder. -/
structure ImageState where
  videoStream : Option AVCodecContext
  pCodecContext : Option EncoderContext
  pSwsContext : Option SwsContext
  pScaleCodecContext : Option EncoderContext
  pScaleSwsContext : Option SwsContext

/-- Before the first source. -/
def ImageState.new : ImageState := ⟨none, none, none, none, none⟩

def AV_CODEC_ID_MJPEG : Nat := 7
def AV_CODEC_ID_PNG : Nat := 61
def AV_CODEC_ID_BMP : Nat := 78
def AV_PIX_FMT_RGBA : Int := 26

/-- `formatSupport`. -/
def formatSupport (codec_id : Nat) (pix_fmt : Int) : Bool :=
  (codec_id == AV_CODEC_ID_PNG || codec_id == AV_CODEC_ID_MJPEG || codec_id == AV_CODEC_ID_BMP) &&
    pix_fmt == AV_PIX_FMT_RGBA

/-- How `avcodec_decode_video2` answers. -/
inductive Decoded
  | fails
  | nothing
  | frame

/-- A packet that `av_read_frame` reads: of another stream, or of the video stream, with the decoder
as decoding leaves it. -/
inductive Packet
  | other
  | video (codec : AVCodecContext) (decoded : Decoded)

/-- FFmpeg's answers in `getFrame`: whether seeking succeeds, and the packets up to the end. -/
structure Answers where
  seeks : Bool
  packets : List Packet

/-- What `encodeImage` encodes with: the decoder, the size asked for (none for -1), the encoder, the
scaler, and the bytes of its buffer. -/
structure Encode where
  pCodecCtx : AVCodecContext
  size : Option Size
  codecCtx : Option EncoderContext
  scaleCtx : Option SwsContext
  numBytes : Int

/-- `initScaleContext`. -/
def initScaleContext (s : ImageState) (pCodecCtx : AVCodecContext) (size : Size) : ImageState :=
  { s with
    pScaleCodecContext := some ⟨size.width, size.height⟩
    pScaleSwsContext := some
      ⟨pCodecCtx.width, pCodecCtx.height, pCodecCtx.pix_fmt, size.width, size.height⟩ }

variable {Dict : Type} [Dictionaries Dict]
  (av_image_get_buffer_size : Int → Int → Int)

/-- `encodeImage`. -/
def encodeImage (s : ImageState) (pCodecCtx : AVCodecContext) (size : Option Size) :
    ImageState × Encode :=
  let numBytes := av_image_get_buffer_size pCodecCtx.width pCodecCtx.height
  match size with
  | none => (s, ⟨pCodecCtx, none, s.pCodecContext, s.pSwsContext, numBytes⟩)
  | some size =>
    let s :=
      if s.pScaleCodecContext = none ∨ s.pScaleSwsContext = none then
        initScaleContext s pCodecCtx size
      else s
    (s, ⟨pCodecCtx, some size, s.pScaleCodecContext, s.pScaleSwsContext, numBytes⟩)

/-- `decodeFrame`, up to `encodeImage`: the decoder then, and whether it has a frame for it. -/
def decodeFrame (codec : AVCodecContext) : List Packet → AVCodecContext × Bool
  | [] => (codec, false)
  | .other :: packets => decodeFrame codec packets
  | .video codec' decoded :: packets =>
    -- a packet that is an image already is returned as it is
    if formatSupport codec.codec_id codec.pix_fmt then (codec, false)
    else
      match decoded with
      | .fails => (codec', false)
      | .nothing => decodeFrame codec' packets
      | .frame => (codec', true)

/-- `getFrame` up to `encodeImage`, with the video stream's decoder. -/
def reaches (codec : AVCodecContext) (timeUs : Int) (answers : Answers) : AVCodecContext × Bool :=
  if timeUs > -1 ∧ answers.seeks = false then (codec, false) else decodeFrame codec answers.packets

/-- `getFrame`. -/
def getFrame (s : ImageState) (timeUs : Int) (size : Option Size) (answers : Answers) :
    ImageState × Option Encode :=
  match s.videoStream with
  | none => (s, none)
  | some codec =>
    let (codec, frame) := reaches codec timeUs answers
    let s := { s with videoStream := some codec }
    if frame then
      let (s, encode) := encodeImage av_image_get_buffer_size s codec size
      (s, some encode)
    else (s, none)

/-- `init` and `setDataSource`: where the video decoder opens, an encoder and a scaler of the source's
own size are made. -/
def setSource (s : ImageState) (c : AVFormatContext Dict) : ImageState :=
  match (openedStream c .video).map AVStream.codec with
  | none => { s with videoStream := none }
  | some codec =>
    { s with
      videoStream := some codec
      pCodecContext := some ⟨codec.width, codec.height⟩
      pSwsContext := some ⟨codec.width, codec.height, codec.pix_fmt, codec.width, codec.height⟩ }

/-- The calls; `getFrame` without a size asks for -1. -/
inductive Call (Dict : Type)
  | setDataSource (c : AVFormatContext Dict)
  | getFrame (timeUs : Int) (size : Option Size) (answers : Answers)

/-- One call, and what it encodes with. -/
def call (s : ImageState) : Call Dict → ImageState × Option Encode
  | .setDataSource c => (setSource s c, none)
  | .getFrame timeUs size answers => getFrame av_image_get_buffer_size s timeUs size answers

/-- What a sequence of calls encodes with. -/
def encodes (s : ImageState) : List (Call Dict) → List Encode
  | [] => []
  | c :: cs =>
    (call av_image_get_buffer_size s c).2.toList ++ encodes (call av_image_get_buffer_size s c).1 cs

/-- What `imgutils.h` says of `av_image_get_buffer_size`, for `AV_PIX_FMT_RGBA` without padding: the
size in bytes of an image, or a negative error code. -/
structure RgbaSizes (av_image_get_buffer_size : Int → Int → Int) : Prop where
  bytes : ∀ width height, 0 ≤ av_image_get_buffer_size width height →
    av_image_get_buffer_size width height = 4 * width * height

/-- **The size asked for is honoured**: the encoder and the scaler were made for it and for the source
as it is, and the buffer holds the frame that is encoded. -/
def Honours (e : Encode) : Prop :=
  ∀ size, e.size = some size →
    e.codecCtx = some ⟨size.width, size.height⟩ ∧
    e.scaleCtx = some
      ⟨e.pCodecCtx.width, e.pCodecCtx.height, e.pCodecCtx.pix_fmt, size.width, size.height⟩ ∧
    ∀ frame, e.codecCtx = some frame → 4 * frame.width * frame.height ≤ e.numBytes

/-! ### The frames that are asked for -/

/-- A frame that reaches `encodeImage` with a size. -/
structure Request where
  codec : AVCodecContext
  size : Size

/-- The two are scaled in the same way. -/
structure SameScaling (first r : Request) : Prop where
  width : r.size.width = first.size.width
  height : r.size.height = first.size.height
  srcW : r.codec.width = first.codec.width
  srcH : r.codec.height = first.codec.height
  srcFormat : r.codec.pix_fmt = first.codec.pix_fmt

/-- The video decoder after a call, and the frame that the call asks `encodeImage` for at a size. -/
def request (video : Option AVCodecContext) : Call Dict → Option AVCodecContext × Option Request
  | .setDataSource c => ((openedStream c .video).map AVStream.codec, none)
  | .getFrame timeUs size answers =>
    match video with
    | none => (none, none)
    | some codec =>
      let (codec, frame) := reaches codec timeUs answers
      (some codec, if frame then size.map fun size => ⟨codec, size⟩ else none)

/-- The frames that a sequence of calls asks for. -/
def requests (video : Option AVCodecContext) : List (Call Dict) → List Request
  | [] => []
  | c :: cs => (request video c).2.toList ++ requests (request video c).1 cs

/-- The source's size is one that an image can have, and the frame is no larger. -/
def Request.Fits (r : Request) : Prop :=
  0 ≤ av_image_get_buffer_size r.codec.width r.codec.height ∧
    r.size.width * r.size.height ≤ r.codec.width * r.codec.height

/-- **The condition**: every frame is scaled like the first one, and is no larger than its source. -/
def Uniform (rs : List Request) : Prop :=
  (∀ r ∈ rs, r.Fits av_image_get_buffer_size) ∧
    ∀ first, rs.head? = some first → ∀ r ∈ rs, SameScaling first r

/-! ### The contexts that the struct keeps -/

variable {size : Int → Int → Int}

/-- The struct has no contexts for sizes, or those of the first request. -/
inductive Kept (s : ImageState) : Option Request → Prop
  | nothing (codec : s.pScaleCodecContext = none) (scaler : s.pScaleSwsContext = none) : Kept s none
  | made (first : Request)
      (codec : s.pScaleCodecContext = some ⟨first.size.width, first.size.height⟩)
      (scaler : s.pScaleSwsContext = some ⟨first.codec.width, first.codec.height,
        first.codec.pix_fmt, first.size.width, first.size.height⟩) : Kept s (some first)

/-- What is encoded with the contexts of the first request. -/
def encodeWith (first r : Request) : Encode where
  pCodecCtx := r.codec
  size := some r.size
  codecCtx := some ⟨first.size.width, first.size.height⟩
  scaleCtx := some ⟨first.codec.width, first.codec.height, first.codec.pix_fmt,
    first.size.width, first.size.height⟩
  numBytes := av_image_get_buffer_size r.codec.width r.codec.height

/-- **A frame is honoured exactly when it is scaled like the first one and no larger than its
source.** -/
theorem honours_encodeWith (sizes : RgbaSizes size) (first r : Request) :
    Honours (encodeWith size first r) ↔ r.Fits size ∧ SameScaling first r := by
  constructor
  · intro honours
    obtain ⟨encoder, scaler, holds⟩ := honours r.size rfl
    simp only [encodeWith, Option.some.injEq, EncoderContext.mk.injEq, SwsContext.mk.injEq]
      at encoder scaler
    have bytes := holds _ rfl
    simp only [encodeWith, encoder.1, encoder.2, Int.mul_assoc] at bytes
    have some : 0 ≤ size r.codec.width r.codec.height := by
      have image := Int.mul_pos r.size.width_pos r.size.height_pos
      omega
    rw [sizes.bytes _ _ some, Int.mul_assoc] at bytes
    refine ⟨⟨some, Int.le_of_mul_le_mul_left bytes (by decide)⟩, ?_⟩
    exact ⟨encoder.1.symm, encoder.2.symm, scaler.1.symm, scaler.2.1.symm, scaler.2.2.1.symm⟩
  · rintro ⟨⟨some, fits⟩, same⟩ size asked
    cases asked
    refine ⟨?_, ?_, ?_⟩
    · simp [encodeWith, same.width, same.height]
    · simp [encodeWith, same.width, same.height, same.srcW, same.srcH, same.srcFormat]
    · rintro frame made
      cases made
      simp only [encodeWith, sizes.bytes _ _ some, ← same.width, ← same.height, Int.mul_assoc]
      exact Int.mul_le_mul_of_nonneg_left fits (by decide)

/-- **What `encodeImage` does**: the first frame with a size makes the contexts, and every one is
encoded with those of the first. -/
theorem encodeImage_spec (size : Int → Int → Int) {s : ImageState} {kept : Option Request}
    (keeps : Kept s kept)
    (r : Request) :
    ∃ s', encodeImage size s r.codec (some r.size) = (s', encodeWith size (kept.getD r) r) ∧
      Kept s' (some (kept.getD r)) ∧ s'.videoStream = s.videoStream := by
  cases keeps with
  | nothing codec scaler =>
    refine ⟨initScaleContext s r.codec r.size, ?_, .made r rfl rfl, rfl⟩
    simp only [encodeImage, codec, true_or, if_true]
    rfl
  | made first codec scaler =>
    refine ⟨s, ?_, .made first codec scaler, rfl⟩
    simp only [encodeImage, codec, scaler, reduceCtorEq, or_self, if_false]
    rfl

theorem Kept.of_same {s s' : ImageState} {kept : Option Request} (keeps : Kept s kept)
    (codec : s'.pScaleCodecContext = s.pScaleCodecContext)
    (scaler : s'.pScaleSwsContext = s.pScaleSwsContext) : Kept s' kept := by
  cases keeps with
  | nothing noCodec noScaler => exact .nothing (codec.trans noCodec) (scaler.trans noScaler)
  | made first made scales => exact .made first (codec.trans made) (scaler.trans scales)

/-- **The step lemma**: the call keeps the contexts of the first request, and honours its own exactly
when it is scaled like that one. -/
theorem call_spec (sizes : RgbaSizes size) {s : ImageState} {kept : Option Request}
    (keeps : Kept s kept) (c : Call Dict) :
    (call size s c).1.videoStream = (request s.videoStream c).1 ∧
      Kept (call size s c).1 (((request s.videoStream c).2.map kept.getD).or kept) ∧
      ((∀ e ∈ (call size s c).2, Honours e) ↔
        ∀ r ∈ (request s.videoStream c).2, r.Fits size ∧ SameScaling (kept.getD r) r) := by
  cases c with
  | setDataSource c =>
    simp only [call, request, setSource]
    cases (openedStream c .video).map AVStream.codec with
    | none => exact ⟨rfl, keeps.of_same rfl rfl, by simp⟩
    | some codec => exact ⟨rfl, keeps.of_same rfl rfl, by simp⟩
  | getFrame timeUs asked answers =>
    simp only [call, request, getFrame]
    cases video : s.videoStream with
    | none => exact ⟨video, keeps, by simp⟩
    | some codec =>
      simp only
      generalize reaches codec timeUs answers = reached
      obtain ⟨codec', frame⟩ := reached
      have keeps' : Kept { s with videoStream := some codec' } kept := keeps.of_same rfl rfl
      cases frame with
      | false => exact ⟨rfl, keeps', by simp⟩
      | true =>
        cases asked with
        | none => exact ⟨rfl, keeps', by simp [encodeImage, Honours]⟩
        | some asked =>
          obtain ⟨s', encoded, kept', same⟩ := encodeImage_spec size keeps' ⟨codec', asked⟩
          simp only at encoded
          simp only [if_true, encoded]
          exact ⟨same, kept', by simp [honours_encodeWith sizes]⟩

/-! ### The main result -/

/-- Every frame is scaled like the first one, kept or to come, and is no larger than its source. -/
def Agrees (size : Int → Int → Int) (kept : Option Request) : List Request → Prop
  | [] => True
  | r :: rs => (r.Fits size ∧ SameScaling (kept.getD r) r) ∧ Agrees size (some (kept.getD r)) rs

theorem agrees_some_iff (first : Request) (rs : List Request) :
    Agrees size (some first) rs ↔ ∀ r ∈ rs, r.Fits size ∧ SameScaling first r := by
  induction rs with
  | nil => exact ⟨fun _ => nofun, fun _ => trivial⟩
  | cons r rs ih => rw [Agrees, Option.getD_some, ih, List.forall_mem_cons]

theorem SameScaling.refl (r : Request) : SameScaling r r := ⟨rfl, rfl, rfl, rfl, rfl⟩

theorem agrees_none_iff (rs : List Request) : Agrees size none rs ↔ Uniform size rs := by
  cases rs with
  | nil => exact ⟨fun _ => ⟨nofun, nofun⟩, fun _ => trivial⟩
  | cons r rs =>
    rw [Agrees, Option.getD_none, agrees_some_iff, Uniform]
    simp only [List.forall_mem_cons, List.head?_cons, Option.some.injEq, forall_eq']
    constructor
    · rintro ⟨⟨fits, same⟩, rest⟩
      exact ⟨⟨fits, fun r' member => (rest r' member).1⟩, same, fun r' member => (rest r' member).2⟩
    · rintro ⟨⟨fits, rest⟩, same, rest'⟩
      exact ⟨⟨fits, same⟩, fun r' member => ⟨rest r' member, rest' r' member⟩⟩

/-- **The run lemma.** -/
theorem encodes_honour_iff (sizes : RgbaSizes size) {s : ImageState} {kept : Option Request}
    (keeps : Kept s kept) (calls : List (Call Dict)) :
    (∀ e ∈ encodes size s calls, Honours e) ↔
      Agrees size kept (requests s.videoStream calls) := by
  induction calls generalizing s kept with
  | nil => simp [encodes, requests, Agrees]
  | cons c cs ih =>
    obtain ⟨video, keeps', honours⟩ := call_spec sizes keeps c
    simp only [Option.mem_def] at honours
    simp only [encodes, requests, List.forall_mem_append, ih keeps', video, Option.mem_toList,
      honours]
    cases (request s.videoStream c).2 with
    | none => simp
    | some r => simp [Agrees]

/-- **Every frame that is asked for at a size is honoured exactly when all of them are scaled like the
first one and are no larger than their sources**, for every sequence of sources, sizes and answers. -/
theorem honours_iff (sizes : RgbaSizes size) (calls : List (Call Dict)) :
    (∀ e ∈ encodes size .new calls, Honours e) ↔ Uniform size (requests none calls) := by
  rw [← agrees_none_iff]
  exact encodes_honour_iff sizes (.nothing rfl rfl) calls

/-- Four bytes for a pixel, `AVERROR(EINVAL)` where there is none. -/
def fourBytes (width height : Int) : Int :=
  if 0 < width ∧ 0 < height then 4 * width * height else -22

theorem fourBytes_sizes : RgbaSizes fourBytes where
  bytes width height some := by
    unfold fourBytes at some ⊢
    split_ifs at some ⊢ with positive
    · rfl
    · exact absurd some (by decide)

/-- The decoder of a video of 10 by 10 pixels. -/
def tenByTen : AVCodecContext := ⟨.video, 1, 10, 10, 0, true⟩

/-- A container with this video. -/
def small : AVFormatContext CaseDict where
  streams := [⟨tenByTen, .video, rfl, ⟨25, 1⟩, none⟩]
  duration := none
  icy_metadata_packet := none
  pb := none
  nb_chapters := 0
  metadata := none

/-- The first frame, asked for at a square size. -/
def ask (side : Int) (positive : 0 < side) : Call CaseDict :=
  .getFrame 0 (some ⟨side, side, positive, positive⟩) ⟨true, [.video tenByTen .frame]⟩

/-- A frame of 5 by 5. -/
theorem honours_small :
    (encodes fourBytes .new [.setDataSource small, ask 5 (by decide)]).length = 1 ∧
      ∀ e ∈ encodes fourBytes .new [.setDataSource small, ask 5 (by decide)], Honours e := by
  refine ⟨by decide, (honours_iff fourBytes_sizes _).mpr
    ⟨fun r member => ?_, fun first starts r member => ?_⟩⟩
  · cases List.mem_singleton.mp member
    exact ⟨by decide, by decide⟩
  · cases List.mem_singleton.mp member
    cases starts
    exact .refl _

/-- A second size is encoded at the first one, and a frame larger than the source does not fit its
buffer. -/
theorem honours_fails :
    ((encodes fourBytes .new [.setDataSource small, ask 5 (by decide), ask 8 (by decide)]).map
        Encode.codecCtx = [some ⟨5, 5⟩, some ⟨5, 5⟩] ∧
      ¬ ∀ e ∈ encodes fourBytes .new [.setDataSource small, ask 5 (by decide), ask 8 (by decide)],
        Honours e) ∧
    ((encodes fourBytes .new [.setDataSource small, ask 20 (by decide)]).map
        (fun e => (e.codecCtx, e.numBytes)) = [(some ⟨20, 20⟩, 400)] ∧
      ¬ ∀ e ∈ encodes fourBytes .new [.setDataSource small, ask 20 (by decide)], Honours e) := by
  refine ⟨⟨by decide, fun honours => ?_⟩, ⟨by decide, fun honours => ?_⟩⟩
  · obtain ⟨encoder, -, -⟩ := honours _ (List.mem_cons_of_mem _ List.mem_cons_self) _ rfl
    revert encoder
    decide
  · obtain ⟨-, -, holds⟩ := honours _ List.mem_cons_self _ rfl
    have bytes := holds _ rfl
    revert bytes
    decide

end Xplay.Metadata
