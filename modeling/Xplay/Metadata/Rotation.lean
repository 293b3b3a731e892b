/-
**Reading all entries changes the rotation.**

`setRotation` writes the container's `rotate` only where no dictionary has one. `getMetadata(&metadata)`
overwrites it with the tag of the first video stream, or `"0"`, whatever the container and the audio
stream say, and so changes what `getMetadata("rotate")` returns from then on.

* `ReadsAgree` — reading all entries changes no later reading, and both give one rotation.
* `rotation`, `videoRotation` — the rotation by the two rules.
* `Consistent` — the condition on the three dictionaries.
* `readsAgree_iff` — **the readings agree exactly when a source has no video stream or meets it.**
-/

import Xplay.Metadata.Metadata

set_option linter.unusedSectionVars false

namespace Xplay.Metadata

open Lib

variable {Dict : Type} [Dictionaries Dict] {texts : Texts}
  {c c' : AVFormatContext Dict} {key : String}

/-- The tag of a stream. -/
def tagOf (stream : Option (AVStream Dict)) (key : String) : Option String :=
  stream.bind fun stream => av_dict_get stream.metadata key

/-- **Reading all entries is pure, and both ways of reading give one rotation** where a video stream
is open, in either order. -/
structure ReadsAgree (source : Source Dict) : Prop where
  pure : ∀ metadata key,
    (source.getMetadata metadata).1.extractMetadata key = source.extractMetadata key
  before : source.videoStream ≠ none → ∀ metadata,
    av_dict_get (source.getMetadata metadata).2 ROTATE = source.extractMetadata ROTATE
  after : source.videoStream ≠ none → ∀ metadata,
    av_dict_get (source.getMetadata metadata).2 ROTATE =
      (source.getMetadata metadata).1.extractMetadata ROTATE

/-- The rotation by the first rule: the container's, the audio stream's, the video stream's, and `"0"`
if the video stream has a dictionary without one. -/
def rotation (c : AVFormatContext Dict) (audioStream videoStream : Option (AVStream Dict)) :
    Option String :=
  (c.tag ROTATE).or <| (tagOf audioStream ROTATE).or <|
    (videoStream.bind AVStream.metadata).map fun metadata =>
      (av_dict_get (some metadata) ROTATE).getD "0"

/-- The rotation by the second rule: the tag of the first video stream, or `"0"`. -/
def videoRotation (video : AVStream Dict) : String := (av_dict_get video.metadata ROTATE).getD "0"

/-- `setRotation` writes: no dictionary has a rotation, and the video stream has a dictionary. -/
def Unrotated (c : AVFormatContext Dict) (audioStream videoStream : Option (AVStream Dict)) : Prop :=
  extractMetadata c audioStream videoStream ROTATE = none ∧
    videoStream.bind AVStream.metadata ≠ none

/-- **The condition on the three dictionaries**: the two rules give one rotation, and what the
container holds under another spelling of the key the two streams give as well. -/
structure Consistent (c : AVFormatContext Dict) (audioStream videoStream : Option (AVStream Dict))
    (video : AVStream Dict) : Prop where
  rotation : rotation c audioStream videoStream = some (videoRotation video)
  spellings : Unrotated c audioStream videoStream ∨
    ∀ key value, upper key = upper ROTATE → key ≠ ROTATE → c.tag key = some value →
      (tagOf audioStream key).or (tagOf videoStream key) = some value

section Laws

variable [LawfulDictionaries Dict]

/-! ### Reading all entries -/

theorem extractMetadata_eq (c : AVFormatContext Dict)
    (audioStream videoStream : Option (AVStream Dict))
    (key : String) : extractMetadata c audioStream videoStream key =
      (c.tag key).or ((tagOf audioStream key).or (tagOf videoStream key)) := rfl

/-- Writing the title of a broadcast again changes no entry. -/
theorem setShoutcastMetadata_again {keys : List String}
    (writes : Writes keys (setShoutcastMetadata c) c')
    (apart : ∀ written ∈ keys, upper ICY_METADATA ≠ upper written) (key : String) :
    (setShoutcastMetadata c').tag key = c'.tag key := by
  have packet : c'.icy_metadata_packet = c.icy_metadata_packet :=
    writes.icy_metadata_packet.trans (setShoutcastMetadata_writes c).icy_metadata_packet
  by_cases same : upper key = upper ICY_METADATA
  · have kept : c'.tag key = (setShoutcastMetadata c).tag key :=
      writes.tag key fun written member => by
        rw [same]
        exact apart written member
    rw [kept]
    unfold setShoutcastMetadata at kept ⊢
    rw [packet]
    cases value : c.icy_metadata_packet with
    | none =>
      simp only [value] at kept
      exact kept
    | some value' =>
      simp only [value] at kept ⊢
      split_ifs at kept ⊢
      · exact kept
      · by_cases exactly : key = ICY_METADATA
        · subst exactly
          exact (get_set_self _ _ _).trans (get_set_self _ _ _).symm
        · exact (get_set_variant _ _ same exactly).trans
            (get_set_variant _ _ same exactly).symm
  · exact (setShoutcastMetadata_writes c').tag key (by simpa using same)

theorem firstVideo_shouted (c : AVFormatContext Dict) :
    firstVideo (setShoutcastMetadata c) = firstVideo c := by
  unfold firstVideo
  rw [(setShoutcastMetadata_writes c).streams]

/-- Without a video stream, reading all entries changes none. -/
theorem getMetadata_tag_of_none (metadata : Option Dict)
    (shouted : ∀ key, (setShoutcastMetadata c).tag key = c.tag key)
    (nothing : firstVideo c = none) (key : String) :
    (getMetadata c metadata).1.tag key = c.tag key := by
  simp only [getMetadata, firstVideo_shouted, nothing]
  exact shouted key

/-- **Reading all entries sets the rotation.** -/
theorem getMetadata_tag_of_some (metadata : Option Dict) {video : AVStream Dict}
    (shouted : ∀ key, (setShoutcastMetadata c).tag key = c.tag key)
    (first : firstVideo c = some video) (key : String) :
    (getMetadata c metadata).1.tag key =
      if key = ROTATE then some (videoRotation video)
      else if upper key = upper ROTATE then none
      else c.tag key := by
  simp only [getMetadata, firstVideo_shouted, first]
  split_ifs with exactly same
  · subst exactly
    exact get_set_self _ _ _
  · exact get_set_variant _ _ same exactly
  · exact (get_set_other _ _ same).trans (shouted key)

theorem getMetadata_streams (c : AVFormatContext Dict) (metadata : Option Dict) :
    (getMetadata c metadata).1.streams = c.streams := by
  have streams := (setShoutcastMetadata_writes c).streams
  simp only [getMetadata]
  split <;> exact streams

/-! ### What `setRotation` leaves -/

section SetRotation

variable {audioStream videoStream : Option (AVStream Dict)}

theorem setRotation_of_unrotated (unrotated : Unrotated c audioStream videoStream) :
    setRotation c audioStream videoStream = c.set ROTATE "0" := by
  obtain ⟨nowhere, dictionary⟩ := unrotated
  obtain ⟨metadata, present⟩ := Option.ne_none_iff_exists'.mp dictionary
  obtain ⟨video, open_, held⟩ := Option.bind_eq_some_iff.mp present
  rw [extractMetadata_eq, Option.or_eq_none_iff, Option.or_eq_none_iff] at nowhere
  have untagged : av_dict_get (some metadata) ROTATE = none := by
    rw [← held]
    simpa [tagOf, open_] using nowhere.2.2
  unfold setRotation
  rw [if_pos (by rw [extractMetadata_eq]; simp [nowhere]), present]
  simp only [untagged, Option.getD_none]

theorem setRotation_of_not_unrotated (rotated : ¬ Unrotated c audioStream videoStream) :
    setRotation c audioStream videoStream = c := by
  unfold setRotation
  split_ifs with nowhere
  · have absent : videoStream.bind AVStream.metadata = none := by
      by_contra dictionary
      exact rotated ⟨nowhere, dictionary⟩
    rw [absent]
  · rfl

/-- **Behind `setRotation` the three dictionaries give the rotation by the first rule.** -/
theorem extractMetadata_setRotation (c : AVFormatContext Dict)
    (audioStream videoStream : Option (AVStream Dict)) :
    extractMetadata (setRotation c audioStream videoStream) audioStream videoStream ROTATE =
      rotation c audioStream videoStream := by
  by_cases unrotated : Unrotated c audioStream videoStream
  · rw [setRotation_of_unrotated unrotated, extractMetadata_eq]
    obtain ⟨nowhere, dictionary⟩ := unrotated
    obtain ⟨metadata, present⟩ := Option.ne_none_iff_exists'.mp dictionary
    obtain ⟨video, open_, held⟩ := Option.bind_eq_some_iff.mp present
    rw [extractMetadata_eq, Option.or_eq_none_iff, Option.or_eq_none_iff] at nowhere
    obtain ⟨container, audio, tag⟩ := nowhere
    have untagged : av_dict_get (some metadata) ROTATE = none := by
      rw [← held]
      simpa [tagOf, open_] using tag
    have written : (c.set ROTATE "0").tag ROTATE = some "0" := get_set_self _ _ _
    rw [rotation, written, container, audio, present]
    simp [untagged]
  · rw [setRotation_of_not_unrotated unrotated, extractMetadata_eq, rotation]
    cases container : c.tag ROTATE with
    | some value => rfl
    | none =>
      cases audio : tagOf audioStream ROTATE with
      | some value => rfl
      | none =>
        simp only [Option.none_or]
        cases tag : tagOf videoStream ROTATE with
        | some value =>
          obtain ⟨video, open_, found⟩ := Option.bind_eq_some_iff.mp tag
          cases held : video.metadata with
          | none =>
            rw [held, get_null] at found
            cases found
          | some metadata =>
            rw [held] at found
            simp [open_, held, found]
        | none =>
          have absent : videoStream.bind AVStream.metadata = none := by
            by_contra dictionary
            refine unrotated ⟨?_, dictionary⟩
            rw [extractMetadata_eq, container, audio, tag]
            rfl
          rw [absent]
          rfl

/-- What `setRotation` leaves under another spelling of the key. -/
theorem setRotation_tag_spelling (spelling : upper key = upper ROTATE) (differs : key ≠ ROTATE) :
    (Unrotated c audioStream videoStream →
      (setRotation c audioStream videoStream).tag key = none) ∧
    (¬ Unrotated c audioStream videoStream →
      (setRotation c audioStream videoStream).tag key = c.tag key) := by
  constructor
  · intro unrotated
    rw [setRotation_of_unrotated unrotated]
    exact get_set_variant _ _ spelling differs
  · intro rotated
    rw [setRotation_of_not_unrotated rotated]

end SetRotation

/-! ### The source that is set -/

section SetSource

variable (texts) (headers : Option String) (c : AVFormatContext Dict)

omit [LawfulDictionaries Dict] in
/-- The container before `setRotation`. -/
def beforeRotation : AVFormatContext Dict := setShoutcastMetadata (setDuration (scan texts c).context)

/-- Before `setRotation` nothing has been written under any spelling of its key. -/
theorem beforeRotation_tag (spelling : upper key = upper ROTATE) :
    (beforeRotation texts c).tag key = c.tag key := by
  obtain ⟨-, -, -, writes⟩ := scanned_spec texts c c.streams
  refine ((writes.trans (described_before _)).tag key fun written member => ?_)
  rw [spelling]
  revert written
  decide

/-- Nothing is written under it behind `setRotation`. -/
theorem setDataSource_tag_rotate (spelling : upper key = upper ROTATE) :
    (setDataSource texts headers c).context.tag key =
      (setRotation (beforeRotation texts c) (openedStream c .audio) (openedStream c .video)).tag
        key := by
  rw [setDataSource_context]
  refine (described_after _ _ _).tag key fun written member => ?_
  rw [spelling]
  revert written
  decide

theorem unrotated_beforeRotation (audioStream videoStream : Option (AVStream Dict)) :
    Unrotated (beforeRotation texts c) audioStream videoStream ↔
      Unrotated c audioStream videoStream := by
  simp only [Unrotated, extractMetadata_eq, beforeRotation_tag texts c rfl]

/-- **The rotation that is read after `setDataSource`.** -/
theorem setDataSource_rotation :
    (setDataSource texts headers c).extractMetadata ROTATE =
      rotation c (openedStream c .audio) (openedStream c .video) := by
  rw [Source.extractMetadata, setDataSource_audioStream, setDataSource_videoStream,
    extractMetadata_eq, setDataSource_tag_rotate texts headers c rfl, ← extractMetadata_eq,
    extractMetadata_setRotation, rotation, beforeRotation_tag texts c rfl]
  rfl

/-- What is left under another spelling of the key. -/
theorem setDataSource_tag_spelling (spelling : upper key = upper ROTATE) (differs : key ≠ ROTATE) :
    (Unrotated c (openedStream c .audio) (openedStream c .video) →
      (setDataSource texts headers c).context.tag key = none) ∧
    (¬ Unrotated c (openedStream c .audio) (openedStream c .video) →
      (setDataSource texts headers c).context.tag key = c.tag key) := by
  rw [setDataSource_tag_rotate texts headers c spelling,
    ← unrotated_beforeRotation texts c (openedStream c .audio),
    ← beforeRotation_tag texts c spelling]
  exact setRotation_tag_spelling spelling differs

/-- The title of a broadcast has been written. -/
theorem setDataSource_shouted (key : String) :
    (setShoutcastMetadata (setDataSource texts headers c).context).tag key =
      (setDataSource texts headers c).context.tag key := by
  rw [setDataSource_context]
  refine setShoutcastMetadata_again
    ((setRotation_writes _ _ _).trans (described_after _ _ _)) ?_ key
  decide

theorem setDataSource_firstVideo :
    firstVideo (setDataSource texts headers c).context = firstVideo c := by
  unfold firstVideo
  rw [setDataSource_streams]

end SetSource

/-- Reading all entries leaves the streams that are open. -/
theorem extractMetadata_getMetadata (source : Source Dict) (metadata : Option Dict)
    (key : String) : (source.getMetadata metadata).1.extractMetadata key =
      ((getMetadata source.context metadata).1.tag key).or
        ((tagOf source.audioStream key).or (tagOf source.videoStream key)) := by
  have streams := getMetadata_streams source.context metadata
  simp only [Source.extractMetadata, Source.getMetadata, Source.audioStream, Source.videoStream,
    extractMetadata_eq, streams]

/-! ### The main result -/

theorem ReadsAgree.consistent {headers : Option String} {video : AVStream Dict}
    (agree : ReadsAgree (setDataSource texts headers c)) (first : firstVideo c = some video) :
    Consistent c (openedStream c .audio) (openedStream c .video) video := by
  have sets := getMetadata_tag_of_some none (setDataSource_shouted texts headers c)
    ((setDataSource_firstVideo texts headers c).trans first)
  constructor
  · have pure := agree.pure none ROTATE
    rw [extractMetadata_getMetadata, sets, if_pos rfl, setDataSource_rotation] at pure
    exact pure.symm
  · refine or_iff_not_imp_left.mpr fun rotated key value spelling differs held => ?_
    have pure := agree.pure none key
    have kept := (setDataSource_tag_spelling texts headers c spelling differs).2 rotated
    rw [extractMetadata_getMetadata, sets, if_neg differs, if_pos spelling, Option.none_or,
      Source.extractMetadata, extractMetadata_eq, kept, held, setDataSource_audioStream,
      setDataSource_videoStream] at pure
    exact pure

theorem Consistent.readsAgree {headers : Option String} {video : AVStream Dict}
    (consistent : Consistent c (openedStream c .audio) (openedStream c .video) video)
    (first : firstVideo c = some video) : ReadsAgree (setDataSource texts headers c) := by
  have sets (metadata : Option Dict) := getMetadata_tag_of_some metadata
    (setDataSource_shouted texts headers c)
    ((setDataSource_firstVideo texts headers c).trans first)
  have before : (setDataSource texts headers c).extractMetadata ROTATE =
      some (videoRotation video) :=
    (setDataSource_rotation texts headers c).trans consistent.rotation
  have after (metadata : Option Dict) :
      ((setDataSource texts headers c).getMetadata metadata).1.extractMetadata ROTATE =
        some (videoRotation video) := by
    rw [extractMetadata_getMetadata, sets, if_pos rfl]
    rfl
  have returned (metadata : Option Dict) :
      av_dict_get ((setDataSource texts headers c).getMetadata metadata).2 ROTATE =
        some (videoRotation video) :=
    get_copy ((sets metadata ROTATE).trans (if_pos rfl)) metadata
  refine
    { pure := fun metadata key => ?_
      before := fun _ metadata => (returned metadata).trans before.symm
      after := fun _ metadata => (returned metadata).trans (after metadata).symm }
  by_cases exactly : key = ROTATE
  · rw [exactly, after, before]
  · rw [extractMetadata_getMetadata, sets, if_neg exactly, Source.extractMetadata,
      extractMetadata_eq]
    by_cases spelling : upper key = upper ROTATE
    · rw [if_pos spelling, Option.none_or]
      obtain ⟨gone, kept⟩ := setDataSource_tag_spelling texts headers c spelling exactly
      by_cases unrotated : Unrotated c (openedStream c .audio) (openedStream c .video)
      · rw [gone unrotated, Option.none_or]
      · rw [kept unrotated]
        cases held : c.tag key with
        | none => rfl
        | some value =>
          rw [setDataSource_audioStream, setDataSource_videoStream]
          exact consistent.spellings.resolve_left unrotated key value spelling exactly held
    · rw [if_neg spelling]

/-- **Reading is pure and the two ways agree exactly when a source has no video stream or its three
dictionaries meet the condition.** -/
theorem readsAgree_iff (texts : Texts) (headers : Option String) (c : AVFormatContext Dict) :
    ReadsAgree (setDataSource texts headers c) ↔
      ∀ video, firstVideo c = some video →
        Consistent c (openedStream c .audio) (openedStream c .video) video := by
  constructor
  · exact fun agree video first => agree.consistent first
  · intro consistent
    cases first : firstVideo c with
    | some video => exact (consistent video first).readsAgree first
    | none =>
      have closed : (setDataSource texts headers c).videoStream = none := by
        rw [setDataSource_videoStream, openedStream, ← firstVideo_eq, first]
        rfl
      refine ⟨fun metadata key => ?_, fun opened => absurd closed opened,
        fun opened => absurd closed opened⟩
      rw [extractMetadata_getMetadata, getMetadata_tag_of_none metadata
        (setDataSource_shouted texts headers c)
        ((setDataSource_firstVideo texts headers c).trans first)]
      rfl

end Laws

/-- A container whose video stream has the tag. -/
def tagged : AVFormatContext CaseDict where
  streams := [⟨⟨.video, 1, 640, 480, 0, true⟩, .video, rfl, ⟨25, 1⟩, av_dict_set none ROTATE "90"⟩]
  duration := none
  icy_metadata_packet := none
  pb := none
  nb_chapters := 0
  metadata := none

theorem readsAgree_tagged : ReadsAgree (setDataSource (.ofNames fun _ => "h264") none tagged) := by
  refine (readsAgree_iff _ none tagged).mpr fun video first => ?_
  cases first
  refine ⟨by decide, Or.inr fun key value _ _ found => ?_⟩
  cases found

/-- A container turned by 90 with a video stream that has no tags. -/
def turned : AVFormatContext CaseDict where
  streams := [⟨⟨.video, 1, 640, 480, 0, true⟩, .video, rfl, ⟨25, 1⟩, none⟩]
  duration := none
  icy_metadata_packet := none
  pb := none
  nb_chapters := 0
  metadata := av_dict_set none ROTATE "90"

/-- The rotation is 90 until all entries are read, and 0 in what is read and from then on. -/
theorem readsAgree_fails :
    let source := setDataSource (.ofNames fun _ => "h264") none turned
    source.extractMetadata ROTATE = some "90" ∧
      av_dict_get (source.getMetadata none).2 ROTATE = some "0" ∧
      (source.getMetadata none).1.extractMetadata ROTATE = some "0" ∧ ¬ ReadsAgree source := by
  refine ⟨by decide, by decide, by decide, fun agree => ?_⟩
  have pure := agree.pure none ROTATE
  revert pure
  decide

end Xplay.Metadata
