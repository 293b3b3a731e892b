/-
**`Metadata` and the `setDataSource` that fills the container's dictionary.**

FFmpeg's dictionaries are a parameter with the laws of `dict.h` (`LawfulDictionaries`): they are read
with the exact key and written in the place of the key that agrees up to the case of its letters; a
null pointer is `none`. `setDataSource` looks for the first audio and video stream and names the codec
of every stream in one loop over the streams, opens the two, and writes what it knows of the container
into its dictionary.

* `extractMetadata`, `getMetadata` — the two ways to read.
* `setDataSource` — the container and the struct that a successful call leaves.
* `setDataSource_state` — the struct is the one of `MediaMetadataRetriever`.
* `described_writes` — what the setters behind the loop leave unwritten.
-/

import Xplay.Lib.FoldedDict
import Xplay.Metadata.MediaMetadataRetriever
import Mathlib.Algebra.Ring.Nat
import Mathlib.Data.List.Induction

set_option linter.unusedSectionVars false

namespace Xplay.Metadata

open Lib

/-! ### Dictionaries -/

/-- `av_toupper` of every character. -/
def upper (key : String) : List Char := key.toList.map Char.toUpper

/-- `AVDictionary`: `av_dict_get` with `AV_DICT_MATCH_CASE`, `av_dict_set` and `av_dict_copy` without
flags. -/
class Dictionaries (Dict : Type) where
  av_dict_get : Option Dict → String → Option String
  av_dict_set : Option Dict → String → String → Option Dict
  av_dict_copy : Option Dict → Option Dict → Option Dict

export Dictionaries (av_dict_get av_dict_set av_dict_copy)

/-- **What `dict.h` says of them.** -/
class LawfulDictionaries (Dict : Type) [Dictionaries Dict] : Prop where
  get_null : ∀ key, av_dict_get (none : Option Dict) key = none
  get_set_self : ∀ (m : Option Dict) key value,
    av_dict_get (av_dict_set m key value) key = some value
  /-- The entry is overwritten with its key: `AV_DICT_MATCH_CASE` is for `av_dict_get` only. -/
  get_set_variant : ∀ (m : Option Dict) {key other} value, upper other = upper key →
    other ≠ key → av_dict_get (av_dict_set m key value) other = none
  get_set_other : ∀ (m : Option Dict) {key other} value, upper other ≠ upper key →
    av_dict_get (av_dict_set m key value) other = av_dict_get m other
  get_copy : ∀ {src : Option Dict} {key value}, av_dict_get src key = some value →
    ∀ dst, av_dict_get (av_dict_copy dst src) key = some value

export LawfulDictionaries (get_null get_set_self get_set_variant get_set_other get_copy)

/-- Dictionaries no two of whose keys agree up to the case of their letters. -/
abbrev CaseDict := FoldedDict upper String

instance : Dictionaries CaseDict where
  av_dict_get m key := m.bind fun d => d.get key
  av_dict_set m key value := some ((m.getD .empty).set key value)
  av_dict_copy dst src :=
    (src.map fun src => some ((dst.getD .empty).setAll src.elements)).getD dst

instance : LawfulDictionaries CaseDict where
  get_null _ := rfl
  get_set_self _ key value := FoldedDict.get_set_self _ key value
  get_set_variant _ _ _ value variant differs := FoldedDict.get_set_variant _ value variant differs
  get_set_other m _ _ value apart := by
    cases m with
    | none => exact FoldedDict.get_set_other _ value apart
    | some d => exact FoldedDict.get_set_other d value apart
  get_copy {src _ _} found dst := by
    cases src with
    | none => cases found
    | some src => exact FoldedDict.get_setAll found _

variable {Dict : Type} [Dictionaries Dict]

/-! ### The container -/

/-- `AVCodecContext`, and whether a decoder for it is found and opens. -/
structure AVCodecContext where
  codec_type : AVMediaType
  codec_id : Nat
  width : Int
  height : Int
  pix_fmt : Int
  decodes : Bool

/-- `AVStream`; `codecpar_type` is its `codecpar->codec_type`, which FFmpeg keeps the same as the one
of its `codec`. -/
structure AVStream (Dict : Type) where
  codec : AVCodecContext
  codecpar_type : AVMediaType
  codecpar_eq : codecpar_type = codec.codec_type
  avg_frame_rate : AVRational
  metadata : Option Dict

/-- `AVFormatContext`: `pb` is the answer of `avio_size`, none where there is no `pb`; a `duration` of
none is `AV_NOPTS_VALUE`. -/
structure AVFormatContext (Dict : Type) where
  streams : List (AVStream Dict)
  duration : Option Int
  icy_metadata_packet : Option String
  pb : Option Int
  nb_chapters : Int
  metadata : Option Dict

/-- What `MediaMetadataRetriever` sees of the container. -/
def AVFormatContext.media (c : AVFormatContext Dict) : Media where
  streams := c.streams.map fun stream => ⟨stream.codec.codec_type, stream.codec.decodes⟩
  nb_chapters := c.nb_chapters

/-- `av_dict_set(&pFormatCtx->metadata, key, value, 0)`. -/
def AVFormatContext.set (c : AVFormatContext Dict) (key value : String) : AVFormatContext Dict :=
  { c with metadata := av_dict_set c.metadata key value }

/-- The texts that FFmpeg and `sprintf` of a `double` make. -/
structure Texts where
  avcodec_get_name : Nat → String
  av_get_media_type_string : AVMediaType → Option String
  frameRate : AVRational → String
  audio_string : ∀ kind, av_get_media_type_string kind = some "audio" ↔ kind = .audio
  video_string : ∀ kind, av_get_media_type_string kind = some "video" ↔ kind = .video

/-- The names that the media types have in FFmpeg. -/
def mediaTypeString : AVMediaType → Option String
  | .unknown => none
  | .video => some "video"
  | .audio => some "audio"
  | .data => some "data"
  | .subtitle => some "subtitle"
  | .attachment => some "attachment"

/-- Texts with these names of the codecs. -/
def Texts.ofNames (avcodec_get_name : Nat → String) : Texts where
  avcodec_get_name := avcodec_get_name
  av_get_media_type_string := mediaTypeString
  frameRate _ := ""
  audio_string kind := by cases kind <;> decide
  video_string kind := by cases kind <;> decide

def DURATION := "duration"
def AUDIO_CODEC := "audio_codec"
def VIDEO_CODEC := "video_codec"
def ICY_METADATA := "icy_metadata"
def ROTATE := "rotate"
def FRAME_RATE := "frame_rate"
def CHAPTER_COUNT := "chapter_count"
def FILE_SIZE := "file_size"
def VIDEO_WIDTH := "video_width"
def VIDEO_HEIGHT := "video_height"

/-- The `int` that a 64-bit value becomes. -/
def toInt32 (x : Int) : Int := x.bmod (2 ^ 32)

variable (texts : Texts)

/-- `setShoutcastMetadata`. -/
def setShoutcastMetadata (c : AVFormatContext Dict) : AVFormatContext Dict :=
  match c.icy_metadata_packet with
  | none => c
  | some value => if value = "" then c else c.set ICY_METADATA value

/-- `setDuration`; `AV_TIME_BASE` is 1000000. -/
def setDuration (c : AVFormatContext Dict) : AVFormatContext Dict :=
  let duration :=
    match c.duration with
    | none => 0
    | some duration => toInt32 (duration.tdiv 1000000 * 1000)
  c.set DURATION (toString duration)

/-- `setCodec` of one of the streams. -/
def setCodec (c : AVFormatContext Dict) (stream : AVStream Dict) : AVFormatContext Dict :=
  match texts.av_get_media_type_string stream.codec.codec_type with
  | none => c
  | some codec_type =>
    let codec_name := texts.avcodec_get_name stream.codec.codec_id
    if codec_type = "audio" then c.set AUDIO_CODEC codec_name
    else if codec_type = "video" then c.set VIDEO_CODEC codec_name
    else c

/-- `extractMetadata` of a key. -/
def extractMetadata (c : AVFormatContext Dict) (audioStream videoStream : Option (AVStream Dict))
    (key : String) : Option String :=
  (av_dict_get c.metadata key).or <|
    (audioStream.bind fun stream => av_dict_get stream.metadata key).or <|
      videoStream.bind fun stream => av_dict_get stream.metadata key

/-- `setRotation`. -/
def setRotation (c : AVFormatContext Dict) (audioStream videoStream : Option (AVStream Dict)) :
    AVFormatContext Dict :=
  if extractMetadata c audioStream videoStream ROTATE = none then
    match videoStream.bind AVStream.metadata with
    | none => c
    | some metadata => c.set ROTATE ((av_dict_get (some metadata) ROTATE).getD "0")
  else c

/-- `setFrameRate`. -/
def setFrameRate (c : AVFormatContext Dict) (videoStream : Option (AVStream Dict)) :
    AVFormatContext Dict :=
  match videoStream with
  | none => c
  | some stream =>
    if stream.avg_frame_rate.den ≠ 0 ∧ stream.avg_frame_rate.num ≠ 0 then
      c.set FRAME_RATE (texts.frameRate stream.avg_frame_rate)
    else c

/-- `setFileSize`. -/
def setFileSize (c : AVFormatContext Dict) : AVFormatContext Dict :=
  c.set FILE_SIZE (toString (c.pb.getD (-1)))

/-- `setChapterCount`. -/
def setChapterCount (c : AVFormatContext Dict) : AVFormatContext Dict :=
  c.set CHAPTER_COUNT (toString (toInt32 c.nb_chapters))

/-- `setVideoSize`. -/
def setVideoSize (c : AVFormatContext Dict) (videoStream : Option (AVStream Dict)) :
    AVFormatContext Dict :=
  match videoStream with
  | none => c
  | some stream =>
    (c.set VIDEO_WIDTH (toString stream.codec.width)).set VIDEO_HEIGHT
      (toString stream.codec.height)

/-- The first stream that is a video by its `codecpar`. -/
def firstVideo (c : AVFormatContext Dict) : Option (AVStream Dict) :=
  c.streams.find? fun stream => stream.codecpar_type == .video

/-- `getMetadata`: the container then, and what it leaves in `*metadata`. -/
def getMetadata (c : AVFormatContext Dict) (metadata : Option Dict) :
    AVFormatContext Dict × Option Dict :=
  let c := setShoutcastMetadata c
  let c :=
    match firstVideo c with
    | none => c
    | some videoStream => c.set ROTATE ((av_dict_get videoStream.metadata ROTATE).getD "0")
  (c, av_dict_copy metadata c.metadata)

/-! ### `setDataSource` -/

/-- Where the loop over the streams stands. -/
structure Scan (Dict : Type) where
  i : Nat
  videoIndex : Option Nat
  audioIndex : Option Nat
  context : AVFormatContext Dict

/-- One round of the loop. -/
def Scan.step (scan : Scan Dict) (stream : AVStream Dict) : Scan Dict where
  i := scan.i + 1
  videoIndex :=
    if stream.codec.codec_type = .video ∧ scan.videoIndex = none then some scan.i
    else scan.videoIndex
  audioIndex :=
    if stream.codec.codec_type = .audio ∧ scan.audioIndex = none then some scan.i
    else scan.audioIndex
  context := setCodec texts scan.context stream

/-- The loop over the streams. -/
def scan (c : AVFormatContext Dict) : Scan Dict := c.streams.foldl (Scan.step texts)
    ⟨0, none, none, c⟩

/-- The stream is opened if there is one. -/
def openIndex (s : MetadataState) (media : Media) : Option Nat → MetadataState
  | none => s
  | some index => s.openStream media index

/-- The setters behind the loop. -/
def described (c : AVFormatContext Dict) (audioStream videoStream : Option (AVStream Dict)) :
    AVFormatContext Dict :=
  let c := setDuration c
  let c := setShoutcastMetadata c
  let c := setRotation c audioStream videoStream
  let c := setFrameRate texts c videoStream
  let c := setFileSize c
  let c := setChapterCount c
  setVideoSize c videoStream

/-- The struct and the container of a source that is set. -/
structure Source (Dict : Type) where
  state : MetadataState
  context : AVFormatContext Dict

/-- The struct's `audioStream`. -/
def Source.audioStream (source : Source Dict) : Option (AVStream Dict) :=
  source.state.audioStream.bind fun i => source.context.streams[i]?

/-- The struct's `videoStream`. -/
def Source.videoStream (source : Source Dict) : Option (AVStream Dict) :=
  source.state.videoStream.bind fun i => source.context.streams[i]?

/-- `setDataSource` of a container that FFmpeg opens. -/
def setDataSource (headers : Option String) (c : AVFormatContext Dict) : Source Dict :=
  let s := { MetadataState.zero.reset with headers := headers, pFormatCtx := some c.media }
  let loop := scan texts c
  let s := openIndex s c.media loop.audioIndex
  let s := openIndex s c.media loop.videoIndex
  let source : Source Dict := ⟨s, loop.context⟩
  { source with context := described texts loop.context source.audioStream source.videoStream }

/-- `getMetadata(key)`. -/
def Source.extractMetadata (source : Source Dict) (key : String) : Option String :=
  Metadata.extractMetadata source.context source.audioStream source.videoStream key

/-- `getMetadata(&metadata)`: the source then, and `*metadata`. -/
def Source.getMetadata (source : Source Dict) (metadata : Option Dict) :
    Source Dict × Option Dict :=
  let read := Metadata.getMetadata source.context metadata
  ({ source with context := read.1 }, read.2)

/-! ### What the setters leave unwritten -/

/-- The entry of the container's dictionary. -/
def AVFormatContext.tag (c : AVFormatContext Dict) (key : String) : Option String :=
  av_dict_get c.metadata key

/-- **`c'` is `c` but for the entries of these keys**, up to the case of their letters. -/
structure Writes (keys : List String) (c c' : AVFormatContext Dict) : Prop where
  streams : c'.streams = c.streams
  icy_metadata_packet : c'.icy_metadata_packet = c.icy_metadata_packet
  nb_chapters : c'.nb_chapters = c.nb_chapters
  tag : ∀ key, (∀ written ∈ keys, upper key ≠ upper written) → c'.tag key = c.tag key

/-- The key under which the codec of a kind of stream is named. -/
def codecKey : AVMediaType → Option String
  | .audio => some AUDIO_CODEC
  | .video => some VIDEO_CODEC
  | _ => none

/-- The loop after some of the streams. -/
def scanned (texts : Texts) (c : AVFormatContext Dict)
    (streams : List (AVStream Dict)) : Scan Dict :=
  streams.foldl (Scan.step texts) ⟨0, none, none, c⟩

/-- The index that the loop keeps for a kind of stream. -/
def Scan.index (scan : Scan Dict) : AVMediaType → Option Nat
  | .audio => scan.audioIndex
  | .video => scan.videoIndex
  | _ => none

/-- The stream is of the kind. -/
def ofKind (kind : AVMediaType) (stream : AVStream Dict) : Bool :=
  stream.codec.codec_type == kind

/-- The first stream of a kind, if its decoder opens. -/
def openedStream (c : AVFormatContext Dict) (kind : AVMediaType) :
    Option (AVStream Dict) :=
  (c.streams.find? (ofKind kind)).filter fun stream => stream.codec.decodes

/-- The struct once the stream with this index and kind has been opened. -/
def stored (s : MetadataState) (i : Nat) : AVMediaType → MetadataState
  | .audio => { s with audioStreamIndex := i, audioStream := some i }
  | .video => { s with videoStreamIndex := i, videoStream := some i }
  | _ => s

section Laws

variable [LawfulDictionaries Dict]
variable {texts} {c c' c'' : AVFormatContext Dict} {keys keys' : List String}

theorem Writes.refl (keys : List String) (c : AVFormatContext Dict) : Writes keys c c :=
  ⟨rfl, rfl, rfl, fun _ _ => rfl⟩

theorem Writes.trans (first : Writes keys c c') (second : Writes keys' c' c'') :
    Writes (keys ++ keys') c c'' where
  streams := second.streams.trans first.streams
  icy_metadata_packet := second.icy_metadata_packet.trans first.icy_metadata_packet
  nb_chapters := second.nb_chapters.trans first.nb_chapters
  tag key apart :=
    (second.tag key fun written member => apart written (List.mem_append_right _ member)).trans
      (first.tag key fun written member => apart written (List.mem_append_left _ member))

theorem Writes.again (first : Writes keys c c') (second : Writes keys c' c'') :
    Writes keys c c'' where
  streams := second.streams.trans first.streams
  icy_metadata_packet := second.icy_metadata_packet.trans first.icy_metadata_packet
  nb_chapters := second.nb_chapters.trans first.nb_chapters
  tag key apart := (second.tag key apart).trans (first.tag key apart)

theorem set_writes (c : AVFormatContext Dict) (key value : String) : Writes [key] c
    (c.set key value) where
  streams := rfl
  icy_metadata_packet := rfl
  nb_chapters := rfl
  tag _ apart := get_set_other _ value (apart key List.mem_cons_self)

theorem setShoutcastMetadata_writes (c : AVFormatContext Dict) :
    Writes [ICY_METADATA] c (setShoutcastMetadata c) := by
  unfold setShoutcastMetadata
  split
  · exact .refl _ c
  · split_ifs
    · exact .refl _ c
    · exact set_writes c _ _

theorem setRotation_writes (c : AVFormatContext Dict)
    (audioStream videoStream : Option (AVStream Dict)) :
    Writes [ROTATE] c (setRotation c audioStream videoStream) := by
  unfold setRotation
  split_ifs
  · split
    · exact .refl _ c
    · exact set_writes c _ _
  · exact .refl _ c

theorem setFrameRate_writes (c : AVFormatContext Dict) (videoStream : Option (AVStream Dict)) :
    Writes [FRAME_RATE] c (setFrameRate texts c videoStream) := by
  unfold setFrameRate
  split
  · exact .refl _ c
  · split_ifs
    · exact set_writes c _ _
    · exact .refl _ c

theorem setVideoSize_writes (c : AVFormatContext Dict) (videoStream : Option (AVStream Dict)) :
    Writes [VIDEO_WIDTH, VIDEO_HEIGHT] c (setVideoSize c videoStream) := by
  unfold setVideoSize
  split
  · exact .refl _ c
  · exact (set_writes c _ _).trans (set_writes _ _ _)

/-- The setters behind the rotation. -/
theorem described_after (c : AVFormatContext Dict)
    (audioStream videoStream : Option (AVStream Dict)) :
    Writes [FRAME_RATE, FILE_SIZE, CHAPTER_COUNT, VIDEO_WIDTH, VIDEO_HEIGHT]
      (setRotation (setShoutcastMetadata (setDuration c)) audioStream videoStream)
      (described texts c audioStream videoStream) :=
  (setFrameRate_writes _ videoStream).trans <|
    (set_writes _ FILE_SIZE _).trans <|
      (set_writes _ CHAPTER_COUNT _).trans (setVideoSize_writes _ videoStream)

/-- The setters before the rotation. -/
theorem described_before (c : AVFormatContext Dict) :
    Writes [DURATION, ICY_METADATA] c (setShoutcastMetadata (setDuration c)) :=
  (set_writes c DURATION _).trans (setShoutcastMetadata_writes _)

/-- The setters behind the loop. -/
theorem described_writes (c : AVFormatContext Dict)
    (audioStream videoStream : Option (AVStream Dict)) :
    Writes ([DURATION, ICY_METADATA] ++ ([ROTATE] ++
        [FRAME_RATE, FILE_SIZE, CHAPTER_COUNT, VIDEO_WIDTH, VIDEO_HEIGHT]))
      c (described texts c audioStream videoStream) :=
  (described_before c).trans <|
    (setRotation_writes _ audioStream videoStream).trans (described_after c audioStream videoStream)

/-! ### The loop over the streams -/

theorem setCodec_eq (texts : Texts) (c : AVFormatContext Dict) (stream : AVStream Dict) :
    setCodec texts c stream = (codecKey stream.codec.codec_type).elim c fun key =>
      c.set key (texts.avcodec_get_name stream.codec.codec_id) := by
  generalize same : stream.codec.codec_type = kind
  have audio := texts.audio_string kind
  have video := texts.video_string kind
  unfold setCodec
  rw [same]
  cases text : texts.av_get_media_type_string kind with
  | none =>
    rw [text] at audio video
    cases kind <;> simp_all [codecKey]
  | some codec_type =>
    rw [text, Option.some_inj] at audio video
    simp only [audio, video]
    cases kind <;> rfl

theorem setCodec_writes (c : AVFormatContext Dict) (stream : AVStream Dict) :
    Writes [AUDIO_CODEC, VIDEO_CODEC] c (setCodec texts c stream) := by
  rw [setCodec_eq]
  cases stream.codec.codec_type with
  | audio => exact (set_writes c AUDIO_CODEC _).trans (.refl [VIDEO_CODEC] _)
  | video => exact (Writes.refl [AUDIO_CODEC] c).trans (set_writes c VIDEO_CODEC _)
  | _ => exact .refl _ c

theorem scanned_snoc (c : AVFormatContext Dict) (streams : List (AVStream Dict))
    (stream : AVStream Dict) :
    scanned texts c (streams ++ [stream]) = (scanned texts c streams).step texts stream := by
  simp [scanned]

/-- **The loop keeps the first stream of each kind, and writes only the two codec entries.** -/
theorem scanned_spec (texts : Texts) (c : AVFormatContext Dict) (streams : List (AVStream Dict)) :
    (scanned texts c streams).i = streams.length ∧
      (scanned texts c streams).audioIndex = streams.findIdx? (ofKind .audio) ∧
      (scanned texts c streams).videoIndex = streams.findIdx? (ofKind .video) ∧
      Writes [AUDIO_CODEC, VIDEO_CODEC] c (scanned texts c streams).context := by
  induction streams using List.reverseRecOn with
  | nil => exact ⟨rfl, rfl, rfl, .refl _ c⟩
  | append_singleton streams stream ih =>
    obtain ⟨i, audio, video, writes⟩ := ih
    rw [scanned_snoc]
    refine ⟨?_, ?_, ?_, ?_⟩
    · simp [Scan.step, i]
    · rw [Scan.step, audio, i, List.findIdx?_append]
      cases streams.findIdx? (ofKind .audio) <;> simp [ofKind]
    · rw [Scan.step, video, i, List.findIdx?_append]
      cases streams.findIdx? (ofKind .video) <;> simp [ofKind]
    · exact writes.again (setCodec_writes _ stream)

theorem firstVideo_eq (c : AVFormatContext Dict) : firstVideo c = c.streams.find?
    (ofKind .video) := by
  unfold firstVideo
  congr 1
  funext stream
  rw [stream.codecpar_eq, ofKind]

/-! ### What `setDataSource` leaves -/

/-- The streams of the container stay as they are. -/
theorem setDataSource_streams (texts : Texts) (headers : Option String) (c : AVFormatContext Dict) :
    (setDataSource texts headers c).context.streams = c.streams := by
  obtain ⟨-, -, -, writes⟩ := scanned_spec texts c c.streams
  exact (described_writes _ _ _).streams.trans writes.streams

/-- The loop's indices open the streams that the retriever opens. -/
theorem openIndex_findIdx? (s : MetadataState) (c : AVFormatContext Dict) (kind : AVMediaType) :
    openIndex s c.media (c.streams.findIdx? (ofKind kind)) = s.openFirst c.media kind := by
  have same : c.media.streams.findIdx? (fun stream => stream.codec_type == kind) =
      c.streams.findIdx? (ofKind kind) := by
    simp only [AVFormatContext.media, List.findIdx?_map]
    rfl
  rw [MetadataState.openFirst, same]
  cases c.streams.findIdx? (ofKind kind) <;> rfl

/-- **The struct is the one of the retriever.** -/
theorem setDataSource_state (texts : Texts) (headers : Option String) (c : AVFormatContext Dict) :
    (setDataSource texts headers c).state = MetadataState.opened headers c.media := by
  obtain ⟨-, audio, video, -⟩ := scanned_spec texts c c.streams
  simp only [setDataSource, scan]
  rw [← scanned, audio, video, openIndex_findIdx?, openIndex_findIdx?]
  rfl

/-- **Opening the first stream of a kind** stores its index, if there is one and its decoder
opens. -/
theorem openFirst_cases (s : MetadataState) (c : AVFormatContext Dict) (kind : AVMediaType) :
    (s.openFirst c.media kind = s ∧ openedStream c kind = none) ∨
      ∃ i stream, c.streams[i]? = some stream ∧ openedStream c kind = some stream ∧
        s.openFirst c.media kind = stored s i kind := by
  rw [← openIndex_findIdx?, openedStream, List.find?_eq_bind_findIdx?_getElem?]
  cases first : c.streams.findIdx? (ofKind kind) with
  | none => exact Or.inl ⟨rfl, rfl⟩
  | some i =>
    obtain ⟨bound, matches_, -⟩ := List.findIdx?_eq_some_iff_getElem.mp first
    have here : c.streams[i]? = some c.streams[i] := List.getElem?_eq_getElem bound
    have same : c.streams[i].codec.codec_type = kind := eq_of_beq matches_
    have seen : c.media.streams[i]? =
        some ⟨c.streams[i].codec.codec_type, c.streams[i].codec.decodes⟩ := by
      simp only [AVFormatContext.media, List.getElem?_map, here, Option.map_some]
    simp only [Option.bind_some, here, openIndex, MetadataState.openStream, seen]
    cases decodes : c.streams[i].codec.decodes with
    | false => exact Or.inl ⟨rfl, by simp [decodes]⟩
    | true =>
      refine Or.inr ⟨i, c.streams[i], here, by simp [decodes], ?_⟩
      rw [same]
      cases kind <;> rfl

/-- The struct's audio stream is the first one, if its decoder opens. -/
theorem setDataSource_audioStream (texts : Texts) (headers : Option String)
    (c : AVFormatContext Dict) :
    (setDataSource texts headers c).audioStream = openedStream c .audio := by
  rw [Source.audioStream, setDataSource_state, setDataSource_streams, MetadataState.opened]
  generalize first : ({ MetadataState.zero.reset with
    headers := headers, pFormatCtx := some c.media } : MetadataState) = s
  have empty : s.audioStream = none := by rw [← first]; rfl
  rcases openFirst_cases s c .audio with ⟨audio, nothing⟩ | ⟨i, stream, here, opened, audio⟩ <;>
    rcases openFirst_cases (s.openFirst c.media .audio) c .video with
      ⟨video, -⟩ | ⟨j, -, -, -, video⟩ <;> rw [video, audio]
  · rw [empty, nothing]; rfl
  · rw [stored, empty, nothing]; rfl
  · rw [stored, opened]; exact here
  · rw [stored, stored, opened]; exact here

/-- The struct's video stream is the first one, if its decoder opens. -/
theorem setDataSource_videoStream (texts : Texts) (headers : Option String)
    (c : AVFormatContext Dict) :
    (setDataSource texts headers c).videoStream = openedStream c .video := by
  rw [Source.videoStream, setDataSource_state, setDataSource_streams, MetadataState.opened]
  generalize first : ({ MetadataState.zero.reset with
    headers := headers, pFormatCtx := some c.media } : MetadataState) = s
  have empty : s.videoStream = none := by rw [← first]; rfl
  have kept : (s.openFirst c.media .audio).videoStream = none := by
    rcases openFirst_cases s c .audio with ⟨audio, -⟩ | ⟨i, -, -, -, audio⟩ <;> rw [audio]
    · exact empty
    · exact empty
  rcases openFirst_cases (s.openFirst c.media .audio) c .video with
    ⟨video, nothing⟩ | ⟨j, stream, here, opened, video⟩ <;> rw [video]
  · rw [kept, nothing]; rfl
  · rw [stored, opened]; exact here

/-- **What a successful `setDataSource` writes**: the codecs, and the setters behind the loop, for the
streams that it has opened. -/
theorem setDataSource_context (texts : Texts) (headers : Option String) (c : AVFormatContext Dict) :
    (setDataSource texts headers c).context = described texts (scan texts c).context
      (openedStream c .audio) (openedStream c .video) := by
  obtain ⟨-, -, -, writes⟩ := scanned_spec texts c c.streams
  have streams : (setDataSource texts headers c).context.streams = (scan texts c).context.streams :=
    (setDataSource_streams texts headers c).trans writes.streams.symm
  rw [← setDataSource_audioStream texts headers c, ← setDataSource_videoStream texts headers c,
    Source.audioStream, Source.videoStream, streams]
  rfl

end Laws

end Xplay.Metadata
