/-
**Which stream the codec entries name.**

The loop of `setDataSource` keeps the first audio and the first video stream, and calls `setCodec`
for every stream: each call replaces the entry of the one before, so that the last stream of a kind
is named.

* `chosen` — the stream the loop keeps; `chosen_eq` — it is the first of its kind.
* `Named` — the entries name the streams chosen, and none is written without one.
* `scanned_tag` — what the loop writes: the codec of the last stream of the kind.
* `named_iff` — **this is so exactly when the codecs of the first and the last stream of each kind
  have one name.**
-/

import Xplay.Metadata.Metadata

set_option linter.unusedSectionVars false

namespace Xplay.Metadata

open Lib

variable {Dict : Type} [Dictionaries Dict] {texts : Texts}
  {c : AVFormatContext Dict} {kind : AVMediaType} {key : String}

/-- The stream of a kind that the loop keeps. -/
def chosen (texts : Texts) (c : AVFormatContext Dict) (kind : AVMediaType) : Option (AVStream Dict) :=
  ((scan texts c).index kind).bind fun i => c.streams[i]?

/-- **The codec entries name the streams chosen**, and an entry is written only if there is one. -/
def Named (texts : Texts) (c : AVFormatContext Dict) (source : Source Dict) : Prop :=
  ∀ kind key, codecKey kind = some key →
    (∀ stream, chosen texts c kind = some stream →
      source.context.tag key = some (texts.avcodec_get_name stream.codec.codec_id)) ∧
    (chosen texts c kind = none → source.context.tag key = c.tag key)

/-- **The condition**: the codecs of the first and the last audio stream have one name, and so have
those of the first and the last video stream. -/
def SameNames (texts : Texts) (c : AVFormatContext Dict) : Prop :=
  ∀ kind ∈ [AVMediaType.audio, .video], ∀ first last,
    c.streams.find? (ofKind kind) = some first →
    c.streams.reverse.find? (ofKind kind) = some last →
      texts.avcodec_get_name last.codec.codec_id = texts.avcodec_get_name first.codec.codec_id

section Laws

variable [LawfulDictionaries Dict]

/-! ### What the loop keeps and writes -/

theorem kind_of_codecKey (named : codecKey kind = some key) : kind ∈ [AVMediaType.audio, .video] := by
  cases kind <;> cases named <;> simp

theorem exists_codecKey (member : kind ∈ [AVMediaType.audio, .video]) :
    ∃ key, codecKey kind = some key := by
  cases kind <;> first | exact ⟨_, rfl⟩ | simp at member

/-- The stream that the loop keeps is the first of its kind. -/
theorem chosen_eq (texts : Texts) (c : AVFormatContext Dict)
    (member : kind ∈ [AVMediaType.audio, .video]) :
    chosen texts c kind = c.streams.find? (ofKind kind) := by
  obtain ⟨-, audio, video, -⟩ := scanned_spec texts c c.streams
  rw [List.find?_eq_bind_findIdx?_getElem?, chosen, scan, ← scanned]
  cases kind with
  | audio => rw [Scan.index, audio]
  | video => rw [Scan.index, video]
  | _ => simp at member

/-- The two codec keys differ in more than the case of their letters, and from the keys written
behind the loop. -/
theorem codecKey_apart (named : codecKey kind = some key) :
    ∀ written ∈ [DURATION, ICY_METADATA] ++ ([ROTATE] ++
      [FRAME_RATE, FILE_SIZE, CHAPTER_COUNT, VIDEO_WIDTH, VIDEO_HEIGHT]),
      upper key ≠ upper written := by
  cases kind <;> cases named <;> decide

/-- A round of the loop writes the entry of its stream's kind only. -/
theorem setCodec_tag (texts : Texts) (c : AVFormatContext Dict) (stream : AVStream Dict)
    (named : codecKey kind = some key) :
    (setCodec texts c stream).tag key =
      if ofKind kind stream then some (texts.avcodec_get_name stream.codec.codec_id)
      else c.tag key := by
  rw [setCodec_eq]
  by_cases same : stream.codec.codec_type = kind
  · rw [same, named]
    simp only [ofKind, same, beq_self_eq_true, if_true]
    exact get_set_self _ key _
  · have other : ofKind kind stream = false := beq_false_of_ne same
    rw [other, if_neg Bool.false_ne_true]
    cases write : codecKey stream.codec.codec_type with
    | none => rfl
    | some written =>
      refine get_set_other _ _ ?_
      generalize stream.codec.codec_type = kind' at same write
      cases kind <;> cases named <;> cases kind' <;>
        first | exact absurd rfl same | cases write
      all_goals decide

/-- **The loop names the last stream of a kind.** -/
theorem scanned_tag (texts : Texts) (c : AVFormatContext Dict) (named : codecKey kind = some key)
    (streams : List (AVStream Dict)) :
    (scanned texts c streams).context.tag key =
      ((streams.reverse.find? (ofKind kind)).map fun last =>
        texts.avcodec_get_name last.codec.codec_id).or (c.tag key) := by
  induction streams using List.reverseRecOn with
  | nil => rfl
  | append_singleton streams stream ih =>
    rw [scanned_snoc, Scan.step, setCodec_tag texts _ stream named, ih, List.reverse_append,
      List.reverse_singleton, List.singleton_append, List.find?_cons]
    cases ofKind kind stream <;> rfl

/-- What `setDataSource` leaves in the codec entries. -/
theorem setDataSource_tag (texts : Texts) (headers : Option String) (c : AVFormatContext Dict)
    (named : codecKey kind = some key) :
    (setDataSource texts headers c).context.tag key =
      ((c.streams.reverse.find? (ofKind kind)).map fun last =>
        texts.avcodec_get_name last.codec.codec_id).or (c.tag key) := by
  rw [← scanned_tag texts c named]
  exact (described_writes _ _ _).tag key (codecKey_apart named)

/-! ### The main result -/

/-- There is a first stream of a kind exactly when there is a last one. -/
theorem find?_reverse_eq_none (streams : List (AVStream Dict)) :
    streams.reverse.find? (ofKind kind) = none ↔ streams.find? (ofKind kind) = none := by
  simp [List.find?_eq_none]

/-- **The codec entries name the streams chosen exactly when the first and the last stream of each
kind have codecs of one name**, for every container. -/
theorem named_iff (texts : Texts) (headers : Option String) (c : AVFormatContext Dict) :
    Named texts c (setDataSource texts headers c) ↔ SameNames texts c := by
  constructor
  · intro names kind member first last starts ends
    obtain ⟨key, named⟩ := exists_codecKey member
    obtain ⟨present, -⟩ := names kind key named
    have entry := present first (by rw [chosen_eq texts c member, starts])
    rw [setDataSource_tag texts headers c named, ends] at entry
    exact Option.some.inj entry
  · intro same kind key named
    have member := kind_of_codecKey named
    rw [chosen_eq texts c member, setDataSource_tag texts headers c named]
    constructor
    · intro first starts
      cases ends : c.streams.reverse.find? (ofKind kind) with
      | none =>
        rw [find?_reverse_eq_none, starts] at ends
        cases ends
      | some last => rw [Option.map_some, Option.some_or, same kind member first last starts ends]
    · intro nothing
      rw [(find?_reverse_eq_none _).mpr nothing]
      rfl

end Laws

/-- Two audio streams, of codec 1 and codec 2. -/
def twoTracks : AVFormatContext CaseDict where
  streams := [⟨⟨.audio, 1, 0, 0, -1, true⟩, .audio, rfl, ⟨0, 0⟩, none⟩,
    ⟨⟨.audio, 2, 0, 0, -1, true⟩, .audio, rfl, ⟨0, 0⟩, none⟩]
  duration := none
  icy_metadata_packet := none
  pb := none
  nb_chapters := 0
  metadata := none

/-- `aac` for codec 1, `mp3` for any other. -/
def names : Texts := .ofNames fun codec_id => if codec_id = 1 then "aac" else "mp3"

/-- The first of the two alone. -/
def oneTrack : AVFormatContext CaseDict := { twoTracks with streams := twoTracks.streams.take 1 }

theorem named_oneTrack : Named names oneTrack (setDataSource names none oneTrack) := by
  refine (named_iff names none oneTrack).mpr fun kind member first last starts ends => ?_
  rcases List.mem_pair.mp member with rfl | rfl
  · cases starts
    cases ends
    rfl
  · cases starts

/-- The first audio stream is chosen and opened, and the entry names the second. -/
theorem named_fails :
    ((chosen names twoTracks .audio).map fun stream => stream.codec.codec_id) = some 1 ∧
      (setDataSource names none twoTracks).state.audioStreamIndex = 0 ∧
      (setDataSource names none twoTracks).context.tag AUDIO_CODEC = some "mp3" ∧
      ¬ Named names twoTracks (setDataSource names none twoTracks) := by
  refine ⟨rfl, rfl, by decide, fun named => ?_⟩
  obtain ⟨present, -⟩ := named .audio AUDIO_CODEC rfl
  have entry := present _ rfl
  revert entry
  decide

end Xplay.Metadata
