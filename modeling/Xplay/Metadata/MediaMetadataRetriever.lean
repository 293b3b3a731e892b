/-
**`MediaMetadataRetriever::release` leaves its `state` pointing at the struct it freed.**

`release(MetadataState **ps)` frees the struct through a local copy of the pointer and ends in
`ps = NULL`, which sets the parameter; `setDataSource` writes its copy back through `*ps`. So the
struct of a source that was set is freed by an explicit `release()`, and the next call, at the
latest the destructor's own `release()`, reads it.

`retriever_answers_iff`: in every sequence of calls, the destructor last, the queries read the struct of the
source set last and no freed struct is read or freed exactly when no `release()` comes while a
source is set.
-/

import Xplay.Demux.ReadPacket

namespace Xplay

/-! ### The struct -/

/-- `AVStream`, as the retriever reads it: its kind, and whether a decoder is found and opens. -/
structure MediaStream where
  codec_type : AVMediaType
  decodes : Bool
  deriving DecidableEq, Repr

/-- `AVFormatContext`, as the retriever reads it. -/
structure Media where
  streams : List MediaStream
  nb_chapters : Int
  deriving DecidableEq, Repr

/-- `MetadataState`. -/
structure MetadataState where
  pFormatCtx : Option Media
  audioStreamIndex : Int
  videoStreamIndex : Int
  audioStream : Option Nat
  videoStream : Option Nat
  fd : Int
  offset : Int
  headers : Option String
  deriving DecidableEq, Repr

namespace MetadataState

/-- `av_mallocz`. -/
def zero : MetadataState := ⟨none, 0, 0, none, none, 0, 0, none⟩

/-- The end of `init`: every field at its default. -/
def reset (_ : MetadataState) : MetadataState := ⟨none, -1, -1, none, none, -1, 0, none⟩

/-- `openStream`. -/
def openStream (s : MetadataState) (media : Media) (streamIndex : Nat) : MetadataState :=
  match media.streams[streamIndex]? with
  | none => s
  | some stream =>
    if stream.decodes then
      match stream.codec_type with
      | .audio => { s with audioStreamIndex := streamIndex, audioStream := some streamIndex }
      | .video => { s with videoStreamIndex := streamIndex, videoStream := some streamIndex }
      | _ => s
    else s

/-- The first stream of a kind, opened if there is one. -/
def openFirst (s : MetadataState) (media : Media) (kind : AVMediaType) : MetadataState :=
  match media.streams.findIdx? fun stream => stream.codec_type == kind with
  | none => s
  | some index => s.openStream media index

/-- What `setDataSource` stores of a source it opens. -/
def opened (headers : Option String) (media : Media) : MetadataState :=
  let s := { zero.reset with headers := headers, pFormatCtx := some media }
  (s.openFirst media .audio).openFirst media .video

@[simp] theorem openStream_pFormatCtx (s : MetadataState) (media : Media) (streamIndex : Nat) :
    (s.openStream media streamIndex).pFormatCtx = s.pFormatCtx := by
  unfold openStream
  repeat' split
  all_goals rfl

@[simp] theorem openFirst_pFormatCtx (s : MetadataState) (media : Media) (kind : AVMediaType) :
    (s.openFirst media kind).pFormatCtx = s.pFormatCtx := by
  unfold openFirst
  split
  · rfl
  · exact s.openStream_pFormatCtx media _

@[simp] theorem opened_pFormatCtx (headers : Option String) (media : Media) :
    (opened headers media).pFormatCtx = some media := by
  simp [opened]

end MetadataState

/-- How FFmpeg answers in `setDataSource`: `avformat_open_input` fails, then
`avformat_find_stream_info` does, or neither. -/
inductive Setting
  | notOpened
  | noInfo
  | opened (media : Media)
  deriving DecidableEq, Repr

/-- The queries. -/
inductive MetadataQuery
  /-- `getMetadata(key)`. -/
  | key (key : String)
  /-- `getMetadata(key, chapter)`. -/
  | chapterKey (key : String) (chapter : Int)
  /-- `getMetadata(metadata)`. -/
  | metadata
  | embeddedPicture
  /-- `getFrame(timeUs, pkt)` and `getFrame(timeus, pkt, width, height)`. -/
  | frame (timeUs : Int) (size : Option (Int × Int))
  deriving DecidableEq, Repr

namespace MetadataQuery

/-- The further conditions under which a query reports failure at once. -/
def rejects (s : MetadataState) (media : Media) : MetadataQuery → Bool
  | .chapterKey _ chapter =>
    decide (media.nb_chapters ≤ 0) || decide (chapter < 0) || decide (media.nb_chapters ≤ chapter)
  | .frame _ _ => decide (s.videoStreamIndex < 0)
  | .key _ | .metadata | .embeddedPicture => false

/-- What a query goes on to read, none when it reports failure: a null pointer or -1. -/
def read (query : MetadataQuery) (s : MetadataState) : Option MetadataState :=
  match s.pFormatCtx with
  | none => none
  | some media => if query.rejects s media then none else some s

end MetadataQuery

/-! ### The retriever -/

/-- The retriever's pointer and the structs allocated so far, none once they are freed. -/
structure MediaMetadataRetriever where
  state : Option Nat
  structs : List (Option MetadataState)
  deriving DecidableEq

namespace MediaMetadataRetriever

/-- The constructor. -/
def new : MediaMetadataRetriever := ⟨none, []⟩

/-- A read through a pointer; undefined behaviour once the struct is freed. -/
def load (r : MediaMetadataRetriever) (p : Nat) : Option MetadataState := (r.structs[p]?).join

/-- A write through a pointer that was read. -/
def store (r : MediaMetadataRetriever) (p : Nat) (s : MetadataState) : MediaMetadataRetriever :=
  { r with structs := r.structs.set p (some s) }

/-- `init`: the pointer it writes back, and the structs then. -/
def init (r : MediaMetadataRetriever) : Option (Nat × MediaMetadataRetriever) :=
  match r.state with
  | some p => (r.load p).map fun s => (p, r.store p s.reset)
  | none =>
    some (r.structs.length, { r with structs := r.structs ++ [some MetadataState.zero.reset] })

/-- `setDataSource(ps, path)`, with FFmpeg's answers. -/
def setDataSourceAt (r : MediaMetadataRetriever) (p : Nat) (s : MetadataState) :
    Setting → Int × MediaMetadataRetriever
  | .notOpened => (-1, { r with state := none })
  | .noInfo => (-1, { r.store p { s with pFormatCtx := none } with state := none })
  | .opened media =>
    let s := { s with pFormatCtx := some media }
    (0, { r.store p ((s.openFirst media .audio).openFirst media .video) with state := some p })

/-- `setDataSource`. -/
def setDataSource (r : MediaMetadataRetriever) (headers : Option String) (setting : Setting) :
    Option (Int × MediaMetadataRetriever) :=
  r.init.bind fun (p, r) =>
    (r.load p).map fun s =>
      let s := { s with headers := headers }
      ({ r.store p s with state := some p }).setDataSourceAt p s setting

/-- A query; the outer none is undefined behaviour. -/
def query (r : MediaMetadataRetriever) (query : MetadataQuery) : Option (Option MetadataState) :=
  match r.state with
  | none => some none
  | some p => (r.load p).map query.read

/-- `release`: its last statement sets the parameter, so that `state` stays. -/
def release (r : MediaMetadataRetriever) : Option MediaMetadataRetriever :=
  match r.state with
  | none => some r
  | some p => (r.load p).map fun _ => { r with structs := r.structs.set p none }

/-- The destructor. -/
def destructor (r : MediaMetadataRetriever) : Option MediaMetadataRetriever := r.release

/-- The public calls. -/
inductive Call
  | setDataSource (headers : Option String) (setting : Setting)
  | query (query : MetadataQuery)
  | release
  deriving DecidableEq

/-- What a call returns. -/
inductive Reply
  | code (ret : Int)
  | read (s : Option MetadataState)
  | done
  deriving DecidableEq

/-- One call. -/
def call (r : MediaMetadataRetriever) : Call → Option (Reply × MediaMetadataRetriever)
  | .setDataSource headers setting =>
    (r.setDataSource headers setting).map fun (ret, r) => (.code ret, r)
  | .query query => (r.query query).map fun answer => (.read answer, r)
  | .release => r.release.map fun r => (.done, r)

/-! ### What the calls are for -/

/-- The source that is set, as its struct: a successful `setDataSource` sets it, a failed one and
`release` take it away. -/
def setAfter (source : Option MetadataState) : Call → Option MetadataState
  | .setDataSource headers (.opened media) => some (.opened headers media)
  | .setDataSource _ _ => none
  | .query _ => source
  | .release => none

/-- What a call is to return. -/
def replies (source : Option MetadataState) : Call → Reply
  | .setDataSource _ (.opened _) => .code 0
  | .setDataSource _ _ => .code (-1)
  | .query query => .read (source.bind query.read)
  | .release => .done

/-- **Every call answers from the source that is set**, and none of them, the destructor last, reads
or frees a struct that was freed. -/
def Answers (r : MediaMetadataRetriever) (source : Option MetadataState) : List Call → Prop
  | [] => r.destructor.isSome
  | c :: cs => ∃ r', r.call c = some (replies source c, r') ∧ r'.Answers (setAfter source c) cs

/-- No `release()` comes while a source is set. -/
def ReleasesUnset (source : Option MetadataState) : List Call → Prop
  | [] => True
  | c :: cs => (c = .release → source = none) ∧ ReleasesUnset (setAfter source c) cs

/-! ### The pointer and the source -/

/-- The retriever's pointer stands for the source that is set. -/
inductive Represents (r : MediaMetadataRetriever) : Option MetadataState → Prop
  | unset (null : r.state = none) : Represents r none
  | set {s : MetadataState} (p : Nat) (pointer : r.state = some p) (live : r.load p = some s) :
      Represents r (some s)

/-- The pointer is left at a struct that was freed. -/
def Dangling (r : MediaMetadataRetriever) : Prop := ∃ p, r.state = some p ∧ r.load p = none

theorem load_store {r : MediaMetadataRetriever} {p : Nat} {s : MetadataState}
    (live : r.load p = some s) (s' : MetadataState) : (r.store p s').load p = some s' := by
  have bound : p < r.structs.length := by
    by_contra beyond
    rw [load, List.getElem?_eq_none (Nat.le_of_not_lt beyond)] at live
    cases live
  simp [load, store, bound]

/-- After `init` the pointer is at a struct with every field at its default. -/
theorem Represents.init {r : MediaMetadataRetriever} {source : Option MetadataState}
    (represents : Represents r source) :
    ∃ p r', r.init = some (p, r') ∧ r'.load p = some MetadataState.zero.reset := by
  unfold MediaMetadataRetriever.init
  cases represents with
  | unset null =>
    refine ⟨_, _, by rw [null], ?_⟩
    simp [load]
  | set p pointer live =>
    refine ⟨p, r.store p MetadataState.zero.reset, ?_, load_store live _⟩
    rw [pointer]
    show (r.load p).map _ = _
    rw [live]
    rfl

/-- `setDataSource` stores a source that is opened, and lets go of the struct otherwise. -/
theorem Represents.setDataSource {r : MediaMetadataRetriever} {source : Option MetadataState}
    (represents : Represents r source) (headers : Option String) (setting : Setting) :
    ∃ r', r.call (.setDataSource headers setting) =
        some (replies source (.setDataSource headers setting), r') ∧
      Represents r' (setAfter source (.setDataSource headers setting)) := by
  obtain ⟨p, fresh, init, live⟩ := represents.init
  have stored := load_store live { MetadataState.zero.reset with headers := headers }
  simp only [call, MediaMetadataRetriever.setDataSource, init, Option.bind_some, live,
    Option.map_some]
  cases setting with
  | notOpened => exact ⟨_, rfl, .unset rfl⟩
  | noInfo => exact ⟨_, rfl, .unset rfl⟩
  | opened media => exact ⟨_, rfl, .set p rfl (load_store stored _)⟩

/-- A query reads the struct of the source that is set. -/
theorem Represents.query {r : MediaMetadataRetriever} {source : Option MetadataState}
    (represents : Represents r source) (query : MetadataQuery) :
    r.call (.query query) = some (replies source (.query query), r) := by
  unfold call MediaMetadataRetriever.query
  cases represents with
  | unset null => rw [null]; rfl
  | set p pointer live =>
    rw [pointer]
    show ((r.load p).map query.read).map _ = _
    rw [live]
    rfl

/-- `release` without a source does nothing. -/
theorem Represents.release_unset {r : MediaMetadataRetriever} (represents : Represents r none) :
    r.call .release = some (.done, r) := by
  obtain ⟨null⟩ := represents
  unfold call MediaMetadataRetriever.release
  rw [null]
  rfl

/-- **`release` of a source that is set leaves the pointer dangling.** -/
theorem Represents.release_set {r r' : MediaMetadataRetriever} {s : MetadataState} {reply : Reply}
    (represents : Represents r (some s)) (released : r.call .release = some (reply, r')) :
    Dangling r' := by
  obtain - | ⟨p, pointer, live⟩ := represents
  unfold call MediaMetadataRetriever.release at released
  rw [pointer] at released
  simp only [live, Option.map_some, Option.some_inj] at released
  cases released
  refine ⟨p, rfl, ?_⟩
  show ((r.structs.set p none)[p]?).join = none
  rw [List.getElem?_set_self']
  cases r.structs[p]? <;> rfl

/-- Every call on a dangling pointer reads the freed struct. -/
theorem Dangling.call {r : MediaMetadataRetriever} (dangling : Dangling r) (c : Call) :
    r.call c = none := by
  obtain ⟨p, pointer, freed⟩ := dangling
  cases c <;>
    simp [MediaMetadataRetriever.call, MediaMetadataRetriever.setDataSource,
      MediaMetadataRetriever.init, MediaMetadataRetriever.query, MediaMetadataRetriever.release,
      pointer, freed]

theorem Dangling.not_answers {r : MediaMetadataRetriever} (dangling : Dangling r)
    (source : Option MetadataState) (calls : List Call) : ¬r.Answers source calls := by
  cases calls with
  | nil =>
    obtain ⟨p, pointer, freed⟩ := dangling
    simp [Answers, destructor, MediaMetadataRetriever.release, pointer, freed]
  | cons c cs =>
    rintro ⟨r', called, -⟩
    rw [dangling.call c] at called
    cases called

/-! ### The main result -/

/-- **The step lemma**: a call that is not a `release()` of a source answers from the source. -/
theorem Represents.call {r : MediaMetadataRetriever} {source : Option MetadataState} {c : Call}
    (represents : Represents r source) (unset : c = .release → source = none) :
    ∃ r', r.call c = some (replies source c, r') ∧ Represents r' (setAfter source c) := by
  cases c with
  | setDataSource headers setting => exact represents.setDataSource headers setting
  | query query => exact ⟨r, represents.query query, represents⟩
  | release =>
    cases unset rfl
    exact ⟨r, represents.release_unset, represents⟩

/-- The destructor's `release()` is in order after calls that were. -/
theorem Represents.destructor {r : MediaMetadataRetriever} {source : Option MetadataState}
    (represents : Represents r source) : r.destructor.isSome := by
  unfold MediaMetadataRetriever.destructor MediaMetadataRetriever.release
  cases represents with
  | unset null => rw [null]; rfl
  | set p pointer live =>
    rw [pointer]
    show ((r.load p).map _).isSome = true
    rw [live]
    rfl

/-- **The run lemma.** -/
theorem Represents.answers_iff {r : MediaMetadataRetriever} {source : Option MetadataState}
    (represents : Represents r source) (calls : List Call) :
    r.Answers source calls ↔ ReleasesUnset source calls := by
  induction calls generalizing r source with
  | nil => exact iff_of_true represents.destructor trivial
  | cons c cs ih =>
    by_cases unset : c = .release → source = none
    · obtain ⟨r', called, kept⟩ := represents.call unset
      constructor
      · rintro ⟨r'', same, rest⟩
        cases called.symm.trans same
        exact ⟨unset, (ih kept).mp rest⟩
      · rintro ⟨-, rest⟩
        exact ⟨r', called, (ih kept).mpr rest⟩
    · refine iff_of_false ?_ fun careful => unset careful.1
      rintro ⟨r', called, rest⟩
      obtain ⟨rfl, set⟩ := Classical.not_imp.mp unset
      obtain ⟨s, rfl⟩ := Option.ne_none_iff_exists'.mp set
      exact (represents.release_set called).not_answers _ _ rest

/-- **The retriever answers from the source set last, and touches no freed struct, exactly in the
sequences of calls that never release a source that is set.** -/
theorem retriever_answers_iff (calls : List Call) :
    new.Answers none calls ↔ ReleasesUnset none calls :=
  Represents.answers_iff (.unset rfl) calls

/-- **One `release()` after a source was set is enough**: the destructor frees the struct again. -/
theorem release_then_destroyed :
    ¬new.Answers none [.setDataSource none (.opened ⟨[], 0⟩), .release] := by
  rintro ⟨r, set, r', released, destroyed⟩
  cases set
  cases released
  cases destroyed

end MediaMetadataRetriever

end Xplay
