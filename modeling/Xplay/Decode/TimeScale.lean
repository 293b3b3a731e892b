/-
**The audio pts is in another time scale than the video's.**

`VideoDecode` turns a frame's timestamp into seconds with its stream's `time_base`, `AudioDecode`
with `1 / sample_rate`, though the frame's pts is in the stream's `time_base` there too.

`oneTimeScale_iff`: a stored audio pts is the instant its frame denotes, and so the stored pts of
every video frame of that instant, exactly when the timestamp is 0 or the audio stream's `time_base`
is `1 / sample_rate`; `sub_instant` is by how much it is off otherwise.
-/

import Mathlib.Algebra.Field.Rat
import Mathlib.Tactic.Ring
import Xplay.Decode.FrameOutput

namespace Xplay

/-- The instant that a timestamp of a stream denotes, in seconds. -/
def instant (time_base : AVRational) (timestamp : Int) : ℚ := (timestamp : ℚ) * av_q2d time_base

/-- What two time bases make of one timestamp differs by the timestamp times what they differ by. -/
theorem sub_instant (one other : AVRational) (timestamp : Int) :
    instant one timestamp - instant other timestamp =
      (timestamp : ℚ) * (av_q2d one - av_q2d other) := by
  unfold instant
  ring

theorem instant_eq_iff {one other : AVRational} {timestamp : Int} :
    instant one timestamp = instant other timestamp ↔
      timestamp = 0 ∨ av_q2d one = av_q2d other := by
  rw [← sub_eq_zero, sub_instant, mul_eq_zero, sub_eq_zero, Int.cast_eq_zero]

/-- For a valid time base, `1 / sample_rate` in integers. -/
theorem av_q2d_eq_rate_iff {time_base : AVRational} {sample_rate : Int} (den : time_base.den ≠ 0)
    (rate : sample_rate ≠ 0) :
    av_q2d ⟨1, sample_rate⟩ = av_q2d time_base ↔ time_base.num * sample_rate = time_base.den := by
  have den' : (time_base.den : ℚ) ≠ 0 := Int.cast_ne_zero.mpr den
  have rate' : (sample_rate : ℚ) ≠ 0 := Int.cast_ne_zero.mpr rate
  unfold av_q2d
  rw [div_eq_div_iff rate' den', Int.cast_one, one_mul, eq_comm]
  exact_mod_cast Iff.rfl

/-- The video decoder stores the instant its frame denotes. -/
theorem VideoDecode.write_instant (time_base frame_rate : AVRational) (frame : AVFrame)
    (output : XData) :
    (VideoDecode.write time_base frame_rate frame output).pts =
      frame.pts.map (instant time_base) := by
  show VideoDecode.framePts time_base frame = _
  unfold VideoDecode.framePts
  cases frame.pts <;> rfl

/-- The audio decoder stores what `1 / sample_rate` makes of the timestamp. -/
theorem AudioDecode.write_instant (bytes : Int → Int) (frame : AVFrame) (output : XData) :
    (AudioDecode.write bytes frame output).pts =
      frame.pts.map (instant ⟨1, frame.sample_rate⟩) := by
  show AudioDecode.framePts frame = _
  unfold AudioDecode.framePts
  cases frame.pts <;> rfl

/-- **One time scale**: the audio decoder stores the instant its frame denotes, as every video
decoder does, so that it stores the same pts for the same instant. -/
structure OneTimeScale (bytes : Int → Int) (time_base : AVRational) (frame : AVFrame)
    (output : XData) : Prop where
  scaled : (AudioDecode.write bytes frame output).pts = frame.pts.map (instant time_base)
  paired : ∀ (videoBase frame_rate : AVRational) (ret : Int) (decoded picture : AVFrame)
    (slot : XData) (timestamp shown : Int), VideoDecode.received ret decoded = some picture →
    frame.pts = some timestamp → picture.pts = some shown →
    instant videoBase shown = instant time_base timestamp →
    (VideoDecode.write videoBase frame_rate picture slot).pts =
      (AudioDecode.write bytes frame output).pts

/-- The pairs agree once each decoder stores the instant its frame denotes. -/
theorem oneTimeScale_of_scaled {bytes : Int → Int} {time_base : AVRational} {frame : AVFrame}
    {output : XData}
    (scaled : (AudioDecode.write bytes frame output).pts = frame.pts.map (instant time_base)) :
    OneTimeScale bytes time_base frame output where
  scaled := scaled
  paired videoBase frame_rate ret decoded picture slot timestamp shown _ audio video same := by
    rw [VideoDecode.write_instant, scaled, audio, video, Option.map_some, Option.map_some, same]

/-- **The audio decoder keeps the time scale exactly where its rational is the stream's**: for a
frame whose timestamp is 0, and for every frame of a stream whose time base is
`1 / sample_rate`. -/
theorem oneTimeScale_iff (bytes : Int → Int) (time_base : AVRational) (ret : Int)
    (decoded frame : AVFrame) (output : XData) (timestamp : Int)
    (handed : AudioDecode.received ret decoded = some frame) (valid : decoded.pts = some timestamp) :
    OneTimeScale bytes time_base frame output ↔
      timestamp = 0 ∨ av_q2d ⟨1, decoded.sample_rate⟩ = av_q2d time_base := by
  have same : decoded = frame := by
    unfold AudioDecode.received at handed
    split at handed
    · cases handed
    · exact Option.some.inj handed
  subst same
  have scaled : (AudioDecode.write bytes decoded output).pts = decoded.pts.map (instant time_base) ↔
      instant ⟨1, decoded.sample_rate⟩ timestamp = instant time_base timestamp := by
    rw [AudioDecode.write_instant, valid, Option.map_some, Option.map_some, Option.some_inj]
  rw [← instant_eq_iff, ← scaled]
  exact ⟨OneTimeScale.scaled, oneTimeScale_of_scaled⟩

/-- One second into a stream of 44100 Hz, in milliseconds. -/
def oneSecond : AVFrame := { AVFrame.blank with sample_rate := 44100, pts := some 1000 }

/-- **Milliseconds stored as samples**: the frame of the second second is stored as one of the first
quarter of the first. -/
theorem oneTimeScale_fails : ¬OneTimeScale bytesPerSample ⟨1, 1000⟩ oneSecond XData.zero := by
  intro holds
  have off : some (instant ⟨1, 44100⟩ 1000) = some (instant ⟨1, 1000⟩ 1000) :=
    (AudioDecode.write_instant _ oneSecond XData.zero).symm.trans holds.scaled
  rcases instant_eq_iff.mp (Option.some.inj off) with zero | same
  · cases zero
  · have rates := (av_q2d_eq_rate_iff (by decide) (by decide)).mp same
    exact absurd rates (by decide)

/-- The theorem applied to a frame of a stream in samples. -/
theorem oneTimeScale_samples :
    OneTimeScale bytesPerSample ⟨1, 44100⟩ { oneSecond with pts := some 1024 } XData.zero :=
  (oneTimeScale_iff bytesPerSample ⟨1, 44100⟩ 0 _ _ XData.zero 1024 rfl rfl).mpr (Or.inr rfl)

end Xplay
