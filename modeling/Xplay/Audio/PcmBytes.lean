/-
**The bytes a frame is played with are counted before it is resampled.**

`FFResample::resample` computes `size` from `nb_samples`, allocates that many bytes, and sends them
all on, whatever `len` `swr_convert` returned; `SLAudioPlay::playCall` copies `size` bytes into a
buffer of `1024 * 1024`, whatever `size` is.

`av_get_bytes_per_sample` is FFmpeg's: a parameter, of which the proofs use that a sample of
`AV_SAMPLE_FMT_S16` has two bytes.

`played_iff`: once the list is empty again, the ranges handed to OpenSL are the bytes the resampler
wrote, and none was larger than the buffer, exactly when every frame was converted in full and its
bytes fit.
-/

import Mathlib.Data.List.Basic
import Mathlib.Tactic.Common
import Xplay.Audio.AudioPlay
import Xplay.Decode.FrameOutput
import Xplay.Lib.System

namespace Xplay

open Lib

/-- `AV_SAMPLE_FMT_S16`, the `outFormat`. -/
def AV_SAMPLE_FMT_S16 : Int := 1

/-- A value of type `int`; undefined behaviour outside its range. -/
def toInt (n : Int) : Option Int := if -2147483648 ≤ n ∧ n ≤ 2147483647 then some n else none

/-- **One call of `swr_convert`** with `out_count = nb_samples`: the samples it returned, the bytes it
wrote, and the bytes that the new block held before. -/
structure Conversion where
  outChannels : Nat
  nb_samples : Nat
  len : Nat
  output : List UInt8
  fresh : List UInt8
  len_pos : 1 ≤ len
  len_le : len ≤ nb_samples
  output_length : output.length = len * outChannels * 2
  fresh_length : fresh.length = outChannels * nb_samples * 2

/-- `XData`, as it goes from the resampler to the audio player. -/
structure PcmData where
  resampleData : List UInt8
  size : Int

variable (av_get_bytes_per_sample : Int → Int)

namespace FFResample

/-- `size`: `outChannels * in.nb_samples * av_get_bytes_per_sample(outFormat)`. -/
def byteSize (outChannels nb_samples : Int) : Option Int :=
  (toInt (outChannels * nb_samples)).bind fun samples =>
    toInt (samples * av_get_bytes_per_sample AV_SAMPLE_FMT_S16)

/-- `FFResample::resample`; the resampler writes over the front of the new block. -/
def resample (c : Conversion) : Option PcmData :=
  (byteSize av_get_bytes_per_sample c.outChannels c.nb_samples).map fun size =>
    if size = 0 then ⟨[], 0⟩ else ⟨c.output ++ c.fresh.drop c.output.length, size⟩

end FFResample

/-- The audio player: its list and its buffer, whether something undefined happened, and the
histories: the bytes resampled, and the ranges handed to OpenSL. -/
structure PcmPlayer where
  frames : List PcmData
  buffer : List UInt8
  undefined : Bool
  resampled : List UInt8
  enqueued : List (List UInt8)

namespace PcmPlayer

/-- Nothing resampled yet. -/
def start : PcmPlayer := ⟨[], List.replicate playBuffer 0, false, [], []⟩

/-- `IAudioPlay::update`. -/
def update (s : PcmPlayer) (data : PcmData) : PcmPlayer :=
  if data.size ≤ 0 then s else { s with frames := s.frames ++ [data] }

/-- `IResample::update`, with what `swr_convert` does. -/
def resample (s : PcmPlayer) (c : Conversion) : PcmPlayer :=
  match FFResample.resample av_get_bytes_per_sample c with
  | none => { s with undefined := true }
  | some out =>
    let s := { s with resampled := s.resampled ++ c.output }
    if out.size > 0 then s.update out else s

/-- `SLAudioPlay::playCall`, once `getData` has returned. -/
def playCall (s : PcmPlayer) (data : PcmData) : PcmPlayer :=
  if data.size ≤ 0 then s
  else if (playBuffer : Int) < data.size then { s with undefined := true }
  else
    let size := data.size.toNat
    let buffer := data.resampleData.take size ++ s.buffer.drop size
    { s with buffer := buffer, enqueued := s.enqueued ++ [buffer.take size] }

/-- A frame is resampled, or OpenSL asks for the next one. -/
inductive Label
  | resample (c : Conversion)
  | playCall

/-- One step: `getData` waits while the list is empty. -/
def next (s : PcmPlayer) : Label → Option PcmPlayer
  | .resample c => if s.undefined then none else some (s.resample av_get_bytes_per_sample c)
  | .playCall =>
    if s.undefined then none
    else
      match s.frames with
      | [] => none
      | data :: rest => some ({ s with frames := rest }.playCall data)

def system : System PcmPlayer Label := ⟨next av_get_bytes_per_sample⟩

/-- The bytes in the list. -/
def pending (s : PcmPlayer) : List UInt8 := (s.frames.map PcmData.resampleData).flatten

/-- **The bytes played are the bytes resampled**, through a buffer that is large enough. -/
structure Played (s : PcmPlayer) : Prop where
  defined : s.undefined = false
  bytes : s.enqueued.flatten = s.resampled
  fits : ∀ range ∈ s.enqueued, range.length ≤ playBuffer

end PcmPlayer

/-- The frame was converted in full, and its bytes fit the play buffer. -/
def Conversion.Whole (c : Conversion) : Prop :=
  c.outChannels = 0 ∨ c.len = c.nb_samples ∧ c.outChannels * c.nb_samples * 2 ≤ playBuffer

/-! ### One conversion -/

variable {bytes : Int → Int}

namespace FFResample

variable {c : Conversion}

/-- `size` is the number of bytes of the block, as long as it is an `int`. -/
theorem byteSize_eq (sixteen : bytes AV_SAMPLE_FMT_S16 = 2) {outChannels nb_samples : Nat}
    {size : Int} (same : byteSize bytes outChannels nb_samples = some size) :
    size = ((outChannels * nb_samples * 2 : Nat) : Int) := by
  unfold byteSize toInt at same
  split at same
  · simp only [Option.bind_some, sixteen] at same
    split at same
    · cases same
      push_cast
      rfl
    · cases same
  · cases same

/-- What fits the play buffer is an `int`. -/
theorem byteSize_of_fits (sixteen : bytes AV_SAMPLE_FMT_S16 = 2) {outChannels nb_samples : Nat}
    (fits : outChannels * nb_samples * 2 ≤ playBuffer) :
    byteSize bytes outChannels nb_samples = some ((outChannels * nb_samples * 2 : Nat) : Int) := by
  have bound : outChannels * nb_samples * 2 ≤ 1048576 := fits
  unfold byteSize toInt
  generalize product : outChannels * nb_samples = n at bound ⊢
  have same : (outChannels : Int) * nb_samples = (n : Int) := by rw [← product]; push_cast; rfl
  rw [same, if_pos (by omega)]
  simp only [Option.bind_some, sixteen]
  rw [if_pos (by omega)]
  push_cast
  rfl

/-- **What is sent on**: the whole block, the bytes written in front, nothing without channels. -/
theorem resample_spec (sixteen : bytes AV_SAMPLE_FMT_S16 = 2) {out : PcmData}
    (resampled : resample bytes c = some out) :
    out.size = (c.outChannels * c.nb_samples * 2 : Nat) ∧
      out.resampleData.length = c.outChannels * c.nb_samples * 2 ∧
      c.output <+: out.resampleData ∧ (out.resampleData = c.output ↔
        c.output.length = c.outChannels * c.nb_samples * 2) := by
  obtain ⟨size, counted, rfl⟩ := Option.map_eq_some_iff.mp resampled
  have size := byteSize_eq sixteen counted
  have shorter : c.output.length ≤ c.outChannels * c.nb_samples * 2 := by
    rw [c.output_length, Nat.mul_comm c.len]
    exact Nat.mul_le_mul_right 2 (Nat.mul_le_mul_left _ c.len_le)
  split
  · next zero =>
    have none : c.outChannels * c.nb_samples * 2 = 0 := by omega
    have empty : c.output = [] := List.length_eq_zero_iff.mp (by omega)
    simp [none, empty]
  · refine ⟨size, ?_, List.prefix_append _ _, ?_⟩
    · rw [List.length_append, List.length_drop, c.fresh_length]
      omega
    · rw [List.append_right_eq_self, List.drop_eq_nil_iff, c.fresh_length]
      omega

/-- A block that is the bytes written comes from a frame converted in full. -/
theorem whole_of_length {c : Conversion}
    (full : c.output.length = c.outChannels * c.nb_samples * 2) :
    c.outChannels = 0 ∨ c.len = c.nb_samples := by
  rw [c.output_length] at full
  have same : c.outChannels * c.len = c.outChannels * c.nb_samples := by
    rw [Nat.mul_comm c.outChannels c.len]
    omega
  exact (Nat.eq_zero_or_pos c.outChannels).imp id fun pos => Nat.eq_of_mul_eq_mul_left pos same

theorem length_of_whole {c : Conversion} (whole : c.outChannels = 0 ∨ c.len = c.nb_samples) :
    c.output.length = c.outChannels * c.nb_samples * 2 := by
  rw [c.output_length]
  rcases whole with none | full
  · rw [none, Nat.mul_zero, Nat.zero_mul, Nat.zero_mul]
  · rw [full, Nat.mul_comm c.nb_samples]

end FFResample

namespace PcmPlayer

variable {s t : PcmPlayer}

/-! ### The steps -/

/-- `update` appends what has bytes, and leaves the rest alone. -/
theorem update_spec (s : PcmPlayer) {data : PcmData} (sized : data.size = data.resampleData.length) :
    (s.update data).pending = s.pending ++ data.resampleData ∧
      (s.update data).undefined = s.undefined ∧ (s.update data).resampled = s.resampled ∧
      (s.update data).enqueued = s.enqueued ∧
      ∀ d, d ∈ (s.update data).frames ↔ d ∈ s.frames ∨ d = data ∧ 0 < data.size := by
  unfold update
  split
  · next none =>
    have empty : data.resampleData = [] := List.length_eq_zero_iff.mp (by omega)
    refine ⟨by rw [empty, List.append_nil], rfl, rfl, rfl, fun d => ?_⟩
    exact ⟨Or.inl, fun there => there.elim id fun there => absurd there.2 (by omega)⟩
  · next some =>
    refine ⟨by simp [pending], rfl, rfl, rfl, fun d => ?_⟩
    rw [List.mem_append, List.mem_singleton]
    exact or_congr_right ⟨fun same => ⟨same, by omega⟩, And.left⟩

/-- **What resampling a frame does**, unless its bytes are too many for an `int`. -/
theorem resample_spec (sixteen : bytes AV_SAMPLE_FMT_S16 = 2) (s : PcmPlayer)
    (c : Conversion) :
    (FFResample.resample bytes c = none ∧ s.resample bytes c = { s with undefined := true }) ∨
      ∃ out, FFResample.resample bytes c = some out ∧
        (s.resample bytes c).pending = s.pending ++ out.resampleData ∧
        (s.resample bytes c).undefined = s.undefined ∧
        (s.resample bytes c).resampled = s.resampled ++ c.output ∧
        (s.resample bytes c).enqueued = s.enqueued ∧
        ∀ d, d ∈ (s.resample bytes c).frames ↔ d ∈ s.frames ∨ d = out ∧ 0 < out.size := by
  unfold resample
  cases resampled : FFResample.resample bytes c with
  | none => exact Or.inl ⟨rfl, rfl⟩
  | some out =>
    obtain ⟨size, length, -⟩ := FFResample.resample_spec sixteen resampled
    have sized : out.size = out.resampleData.length := by rw [size, length]
    refine Or.inr ⟨out, rfl, ?_⟩
    obtain ⟨pending, undefined, bytes, enqueued, frames⟩ :=
      update_spec { s with resampled := s.resampled ++ c.output } sized
    have same : (if out.size > 0 then
          ({ s with resampled := s.resampled ++ c.output } : PcmPlayer).update out
        else { s with resampled := s.resampled ++ c.output }) =
        ({ s with resampled := s.resampled ++ c.output } : PcmPlayer).update out := by
      unfold update
      split_ifs <;> first | rfl | omega
    dsimp only
    rw [same]
    exact ⟨pending, undefined, bytes, enqueued, frames⟩

/-- **What is in the list**: frames with as many bytes as their size tells. -/
def Sized (s : PcmPlayer) : Prop :=
  ∀ d ∈ s.frames, 0 < d.size ∧ d.size = d.resampleData.length

theorem Sized.resample (sixteen : bytes AV_SAMPLE_FMT_S16 = 2) (sized : Sized s)
    (c : Conversion) : Sized (s.resample bytes c) := by
  rcases resample_spec sixteen s c with ⟨-, broken⟩ | ⟨out, resampled, -, -, -, -, frames⟩
  · rw [broken]
    exact sized
  · intro d member
    rcases (frames d).mp member with old | ⟨rfl, pos⟩
    · exact sized d old
    · obtain ⟨size, length, -⟩ := FFResample.resample_spec sixteen resampled
      exact ⟨pos, by rw [size, length]⟩

/-- **What `playCall` does with the first frame**: it hands all its bytes on if they fit. -/
theorem playCall_spec {data : PcmData} (s : PcmPlayer)
    (sized : 0 < data.size ∧ data.size = data.resampleData.length) :
    (playBuffer < data.resampleData.length ∧ s.playCall data = { s with undefined := true }) ∨
      data.resampleData.length ≤ playBuffer ∧ ∃ buffer, s.playCall data =
        { s with buffer := buffer, enqueued := s.enqueued ++ [data.resampleData] } := by
  unfold playCall
  rw [if_neg (by omega)]
  by_cases large : (playBuffer : Int) < data.size
  · exact Or.inl ⟨by omega, if_pos large⟩
  · refine Or.inr ⟨by omega, data.resampleData ++ s.buffer.drop data.resampleData.length, ?_⟩
    rw [if_neg large]
    have size : data.size.toNat = data.resampleData.length := by omega
    simp only [size, List.take_length, List.take_left]

/-! ### What goes well -/

/-- **The invariant of the frames that are whole**: nothing undefined happened, and the bytes played
and pending are the bytes resampled. -/
structure Faithful (s : PcmPlayer) : Prop where
  sized : Sized s
  defined : s.undefined = false
  bytes : s.enqueued.flatten ++ s.pending = s.resampled
  fits : ∀ d ∈ s.frames, d.resampleData.length ≤ playBuffer
  fitted : ∀ range ∈ s.enqueued, range.length ≤ playBuffer

theorem faithful_start : Faithful start where
  sized _ member := by cases member
  defined := rfl
  bytes := rfl
  fits _ member := by cases member
  fitted _ member := by cases member

theorem Faithful.resample (sixteen : bytes AV_SAMPLE_FMT_S16 = 2) (faithful : Faithful s)
    {c : Conversion} (whole : c.Whole) :
    Faithful (s.resample bytes c) := by
  have full : c.output.length = c.outChannels * c.nb_samples * 2 :=
    FFResample.length_of_whole (whole.imp id And.left)
  have fits : c.outChannels * c.nb_samples * 2 ≤ playBuffer := by
    rcases whole with none | ⟨-, fits⟩
    · rw [none, Nat.zero_mul, Nat.zero_mul]
      exact Nat.zero_le _
    · exact fits
  rcases resample_spec sixteen s c with
    ⟨overflow, -⟩ | ⟨out, resampled, pending, undefined, bytes, enqueued, frames⟩
  · rw [FFResample.resample, FFResample.byteSize_of_fits sixteen fits] at overflow
    cases overflow
  · obtain ⟨-, length, -, same⟩ := FFResample.resample_spec sixteen resampled
    refine ⟨faithful.sized.resample sixteen c, undefined.trans faithful.defined, ?_,
      fun d member => ?_, ?_⟩
    · rw [enqueued, pending, bytes, same.mpr full, ← List.append_assoc, faithful.bytes]
    · rcases (frames d).mp member with old | ⟨rfl, -⟩
      · exact faithful.fits d old
      · rw [length]
        exact fits
    · rw [enqueued]
      exact faithful.fitted

theorem Faithful.playCall {data : PcmData} {rest : List PcmData} (faithful : Faithful s)
    (frames : s.frames = data :: rest) :
    Faithful ({ s with frames := rest }.playCall data) := by
  have first : data ∈ s.frames := by
    rw [frames]
    exact List.mem_cons_self
  have later : ∀ d ∈ rest, d ∈ s.frames := by
    rw [frames]
    exact fun d member => List.mem_cons_of_mem _ member
  rcases playCall_spec { s with frames := rest } (faithful.sized data first) with
    ⟨large, -⟩ | ⟨fits, buffer, played⟩
  · exact absurd (faithful.fits data first) (by omega)
  · rw [played]
    refine ⟨fun d member => faithful.sized d (later d member), faithful.defined, ?_,
      fun d member => faithful.fits d (later d member), ?_⟩
    · rw [← faithful.bytes, pending, pending, frames]
      simp
    · intro range member
      rcases List.mem_append.mp member with old | new
      · exact faithful.fitted range old
      · rw [List.mem_singleton.mp new]
        exact fits

/-! ### What goes wrong for good -/

/-- **The invariant of every run**: no more bytes were resampled than are played or pending, as long
as nothing undefined happened. -/
structure Counted (s : PcmPlayer) : Prop where
  sized : Sized s
  counted : s.undefined = false → s.resampled.length ≤ (s.enqueued.flatten ++ s.pending).length

/-- **A run with a frame that is not whole**: something undefined happened, or a frame larger than
the buffer is in the list, or more bytes are played or pending than were resampled. -/
inductive Spoiled (s : PcmPlayer) : Prop
  | undefined (happened : s.undefined = true)
  | large (d : PcmData) (member : d ∈ s.frames) (large : playBuffer < d.resampleData.length)
  | more (more : s.resampled.length < (s.enqueued.flatten ++ s.pending).length)

theorem counted_start : Counted start :=
  ⟨fun _ member => (by cases member), fun _ => Nat.le_refl _⟩

theorem Counted.resample (sixteen : bytes AV_SAMPLE_FMT_S16 = 2) (counted : Counted s)
    (c : Conversion) : Counted (s.resample bytes c) := by
  refine ⟨counted.sized.resample sixteen c, fun defined => ?_⟩
  rcases resample_spec sixteen s c with
    ⟨-, broken⟩ | ⟨out, resampled, pending, undefined, bytes, enqueued, -⟩
  · rw [broken] at defined
    cases defined
  · obtain ⟨-, -, front, -⟩ := FFResample.resample_spec sixteen resampled
    have before := counted.counted (undefined.symm.trans defined)
    have longer := front.length_le
    rw [enqueued, pending, bytes]
    simp only [List.length_append] at before ⊢
    omega

/-- A frame that does not overrun the buffer moves from the list to OpenSL. -/
theorem playCall_total {data : PcmData} {rest : List PcmData} {buffer : List UInt8}
    (frames : s.frames = data :: rest)
    (played : ({ s with frames := rest } : PcmPlayer).playCall data =
      { s with frames := rest, buffer := buffer, enqueued := s.enqueued ++ [data.resampleData] }) :
    let t := ({ s with frames := rest } : PcmPlayer).playCall data
    t.enqueued.flatten ++ t.pending = s.enqueued.flatten ++ s.pending := by
  simp only [played, pending, frames]
  simp

theorem Counted.playCall {data : PcmData} {rest : List PcmData} (counted : Counted s)
    (frames : s.frames = data :: rest) :
    Counted ({ s with frames := rest }.playCall data) := by
  have later : ∀ d ∈ rest, 0 < d.size ∧ d.size = d.resampleData.length := fun d member =>
    counted.sized d (by rw [frames]; exact List.mem_cons_of_mem _ member)
  have first := counted.sized data (by rw [frames]; exact List.mem_cons_self)
  rcases playCall_spec { s with frames := rest } first with ⟨-, broken⟩ | ⟨-, buffer, played⟩
  · rw [broken]
    exact ⟨later, fun defined => by cases defined⟩
  · refine ⟨by rw [played]; exact later, fun defined => ?_⟩
    rw [playCall_total frames played]
    rw [played] at defined ⊢
    exact counted.counted defined

theorem Spoiled.resample (sixteen : bytes AV_SAMPLE_FMT_S16 = 2) (spoiled : Spoiled s)
    (c : Conversion) : Spoiled (s.resample bytes c) := by
  rcases resample_spec sixteen s c with
    ⟨-, broken⟩ | ⟨out, resampled, pending, undefined, bytes, enqueued, frames⟩
  · exact .undefined (by rw [broken])
  · cases spoiled with
    | undefined happened => exact .undefined (undefined.trans happened)
    | large d member large => exact .large d ((frames d).mpr (Or.inl member)) large
    | more more =>
      obtain ⟨-, -, front, -⟩ := FFResample.resample_spec sixteen resampled
      have longer := front.length_le
      refine .more ?_
      rw [enqueued, pending, bytes]
      simp only [List.length_append] at more ⊢
      omega

theorem Spoiled.playCall {data : PcmData} {rest : List PcmData} (spoiled : Spoiled s)
    (counted : Counted s) (frames : s.frames = data :: rest) :
    Spoiled ({ s with frames := rest }.playCall data) := by
  have first := counted.sized data (by rw [frames]; exact List.mem_cons_self)
  rcases playCall_spec { s with frames := rest } first with ⟨-, broken⟩ | ⟨fits, buffer, played⟩
  · exact .undefined (by rw [broken])
  · cases spoiled with
    | undefined happened => exact .undefined (by rw [played]; exact happened)
    | large d member large =>
      rw [frames] at member
      rcases List.mem_cons.mp member with rfl | later
      · exact absurd fits (by omega)
      · exact .large d (by rw [played]; exact later) large
    | more more =>
      refine .more ?_
      rw [playCall_total frames played, played]
      exact more

/-- **A frame that is not whole spoils the run.** -/
theorem spoiled_of_not_whole (sixteen : bytes AV_SAMPLE_FMT_S16 = 2) {c : Conversion}
    (counted : Counted s) (partly : ¬c.Whole) :
    Spoiled (s.resample bytes c) := by
  obtain ⟨some, partly⟩ := not_or.mp partly
  rcases resample_spec sixteen s c with
    ⟨-, broken⟩ | ⟨out, resampled, pending, undefined, bytes, enqueued, frames⟩
  · exact .undefined (by rw [broken])
  · obtain ⟨size, length, front, same⟩ := FFResample.resample_spec sixteen resampled
    by_cases happened : s.undefined = true
    · exact .undefined (undefined.trans happened)
    have before := counted.counted (eq_false_of_ne_true happened)
    by_cases full : c.len = c.nb_samples
    · have large : playBuffer < out.resampleData.length := by
        rw [length]
        exact Nat.lt_of_not_le fun fits => partly ⟨full, fits⟩
      exact .large out ((frames out).mpr (Or.inr ⟨rfl, by omega⟩)) large
    · refine .more ?_
      have shorter : c.output.length ≠ out.resampleData.length := by
        rw [length]
        exact fun whole => (FFResample.whole_of_length whole).elim some full
      have longer := front.length_le
      rw [enqueued, pending, bytes]
      simp only [List.length_append] at before ⊢
      omega

/-! ### The main result -/

/-- **The run lemma.** -/
theorem spoiled_run (sixteen : bytes AV_SAMPLE_FMT_S16 = 2) {labels : List Label}
    (counted : Counted s)
    (run : (system bytes).run s labels = some t) :
    Counted t ∧ ((Spoiled s ∨ ∃ c, .resample c ∈ labels ∧ ¬c.Whole) → Spoiled t) := by
  induction labels generalizing s with
  | nil =>
    cases run
    refine ⟨counted, fun spoiled => spoiled.elim id ?_⟩
    rintro ⟨c, ⟨⟩, -⟩
  | cons l labels ih =>
    obtain ⟨middle, step, rest⟩ := (system bytes).run_cons_eq_some.mp run
    have first : Counted middle ∧
        ((Spoiled s ∨ ∃ c, l = .resample c ∧ ¬c.Whole) → Spoiled middle) := by
      cases l with
      | resample c =>
        simp only [system, next] at step
        split at step <;> cases step
        refine ⟨counted.resample sixteen c, fun spoiled => spoiled.elim (·.resample sixteen c) ?_⟩
        rintro ⟨c', same, partly⟩
        cases same
        exact spoiled_of_not_whole sixteen counted partly
      | playCall =>
        simp only [system, next] at step
        split at step
        · cases step
        · split at step
          · cases step
          · next data rest frames =>
            cases step
            refine ⟨counted.playCall frames, fun spoiled => spoiled.elim
              (·.playCall counted frames) ?_⟩
            rintro ⟨c', same, -⟩
            cases same
    obtain ⟨counted', spoils⟩ := ih first.1 rest
    refine ⟨counted', fun spoiled => spoils ?_⟩
    rcases spoiled with before | ⟨c, member, partly⟩
    · exact Or.inl (first.2 (Or.inl before))
    · rcases List.mem_cons.mp member with same | later
      · exact Or.inl (first.2 (Or.inr ⟨c, same.symm, partly⟩))
      · exact Or.inr ⟨c, later, partly⟩

theorem faithful_run (sixteen : bytes AV_SAMPLE_FMT_S16 = 2) {labels : List Label}
    (whole : ∀ c, .resample c ∈ labels → c.Whole)
    (run : (system bytes).run start labels = some s) : Faithful s := by
  have preserved : ∀ s l t, Faithful s → (∀ c, l = .resample c → c.Whole) →
      (system bytes).next s l = some t → Faithful t := by
    intro s l t faithful whole step
    cases l with
    | resample c =>
      simp only [system, next] at step
      split at step <;> cases step
      exact faithful.resample sixteen (whole c rfl)
    | playCall =>
      simp only [system, next] at step
      split at step
      · cases step
      · split at step
        · cases step
        · next data rest frames =>
          cases step
          exact faithful.playCall frames
  have guarded : (system bytes).Guarded (fun _ l => ∀ c, l = .resample c → c.Whole) start labels :=
    System.Guarded.of_labels (fun _ member c same => whole c (by rw [← same]; exact member)) start
  exact System.invariant_guarded (I := Faithful) preserved guarded run faithful_start

/-- **The bytes played are the bytes resampled exactly when every frame was converted in full and
fits the play buffer**, in every run whose frames are all played or that came to something
undefined. -/
theorem played_iff (sixteen : bytes AV_SAMPLE_FMT_S16 = 2) (labels : List Label) (s : PcmPlayer)
    (run : (system bytes).run start labels = some s)
    (drained : s.undefined = true ∨ s.frames = []) :
    Played s ↔ ∀ c, .resample c ∈ labels → c.Whole := by
  constructor
  · intro played c member
    by_contra partly
    have spoiled := (spoiled_run sixteen counted_start run).2 (Or.inr ⟨c, member, partly⟩)
    rcases drained with happened | empty
    · cases happened.symm.trans played.defined
    · cases spoiled with
      | undefined happened => cases happened.symm.trans played.defined
      | large d there large =>
        rw [empty] at there
        cases there
      | more more =>
        rw [pending, empty, List.map_nil, List.flatten_nil, List.append_nil, played.bytes] at more
        exact Nat.lt_irrefl _ more
  · intro whole
    have faithful := faithful_run sixteen whole run
    have empty : s.frames = [] :=
      drained.elim (fun happened => by cases happened.symm.trans faithful.defined) id
    have bytes := faithful.bytes
    rw [pending, empty, List.map_nil, List.flatten_nil, List.append_nil] at bytes
    exact ⟨faithful.defined, bytes, faithful.fitted⟩

/-- A frame of two mono samples of which the resampler keeps one back. -/
def keptBack : Conversion where
  outChannels := 1
  nb_samples := 2
  len := 1
  output := [1, 2]
  fresh := [0, 0, 0, 0]
  len_pos := Nat.le_refl 1
  len_le := Nat.le_succ 1
  output_length := rfl
  fresh_length := rfl

/-- **Two bytes resampled, four played.** -/
theorem keptBack_played : ∃ s,
    (system bytesPerSample).run start [.resample keptBack, .playCall] = some s ∧
      s.frames = [] ∧ ¬Played s := by
  refine ⟨_, rfl, rfl, fun played => ?_⟩
  have lengths : 4 = 2 := congrArg List.length played.bytes
  cases lengths

/-- The same frame in full. -/
def inFull : Conversion :=
  { keptBack with
    len := 2
    output := [1, 2, 3, 4]
    len_pos := Nat.le_succ 1
    len_le := Nat.le_refl 2
    output_length := rfl }

theorem inFull_played : ∃ s,
    (system bytesPerSample).run start [.resample inFull, .playCall] = some s ∧ Played s := by
  have sixteen : bytesPerSample AV_SAMPLE_FMT_S16 = 2 := rfl
  refine ⟨_, rfl, (played_iff sixteen [.resample inFull, .playCall] _ rfl (Or.inr rfl)).mpr ?_⟩
  rintro c member
  rcases List.mem_cons.mp member with same | member
  · cases same
    exact Or.inr ⟨rfl, by decide⟩
  · cases List.mem_singleton.mp member

end PcmPlayer

end Xplay
