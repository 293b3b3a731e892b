/-
**What a decoder thread writes into the slot it was granted.**

`FrameOutput` is the part of `decodePacket` between `avcodec_receive_frame` and `pushFrame`: which
results go on to `peekWritable`, and the fields of `XData` filled from the frame. `AudioDecode` and
`VideoDecode` are its two members; they differ in `AVERROR_EOF`, which only the audio decoder skips.
`av_get_bytes_per_sample` is FFmpeg's, of which only the header is here: a parameter.
-/

import Xplay.Data.XData

namespace Xplay

/-- `AVERROR(EAGAIN)`. -/
def AVERROR_EAGAIN : Int := -11

/-- `AVERROR_EOF`. -/
def AVERROR_EOF : Int := -541478725

/-- The bytes of a sample in the formats that `samplefmt.h` lists; zero for an unknown format. -/
def bytesPerSample (format : Int) : Int :=
  match format with
  | 0 => 1 | 1 => 2 | 2 => 4 | 3 => 4 | 4 => 8
  | 5 => 1 | 6 => 2 | 7 => 4 | 8 => 4 | 9 => 8
  | 10 => 8 | 11 => 8
  | _ => 0

/-- How a decoder hands a received frame on. -/
structure FrameOutput where
  /-- The frame `decodePacket` goes on with, from the result of `avcodec_receive_frame`. -/
  received : Int → AVFrame → Option AVFrame
  size : AVFrame → Int
  pts : AVFrame → Option ℚ
  /-- The slot after its fields are written. -/
  write : AVFrame → XData → XData
  write_size : ∀ frame slot, (write frame slot).size = size frame
  write_pts : ∀ frame slot, (write frame slot).pts = pts frame

namespace VideoDecode

/-- Every error but `AVERROR_EOF` is skipped. -/
def received (ret : Int) (frame : AVFrame) : Option AVFrame :=
  if ret < 0 ∧ ret ≠ AVERROR_EOF then none
  else some { frame with pts := frame.best_effort_timestamp }

def frameSize (frame : AVFrame) : Int :=
  (frame.linesize0 + frame.linesize1 + frame.linesize2) * frame.height

def framePts (tb : AVRational) (frame : AVFrame) : Option ℚ :=
  frame.pts.map fun pts => (pts : ℚ) * av_q2d tb

def write (tb frame_rate : AVRational) (frame : AVFrame) (output : XData) : XData :=
  { output with
    allocType := .frame
    linesize0 := frame.linesize0
    linesize1 := frame.linesize1
    linesize2 := frame.linesize2
    frameWidth := frame.width
    frameHeight := frame.height
    format := frame.format
    pts := framePts tb frame
    duration :=
      if frame_rate.num ≠ 0 ∧ frame_rate.den ≠ 0 then av_q2d ⟨frame_rate.den, frame_rate.num⟩
      else 0
    size := frameSize frame
    decodeDatas := frame.data
    frame := output.frame.map fun _ => frame }

/-- The video decoder, with its stream's time base and frame rate. -/
def output (tb frame_rate : AVRational) : FrameOutput where
  received := received
  size := frameSize
  pts := framePts tb
  write := write tb frame_rate
  write_size _ _ := rfl
  write_pts _ _ := rfl

end VideoDecode

namespace AudioDecode

/-- Every error is skipped, `AVERROR_EOF` included. -/
def received (ret : Int) (frame : AVFrame) : Option AVFrame :=
  if ret < 0 then none else some frame

def frameSize (av_get_bytes_per_sample : Int → Int) (frame : AVFrame) : Int :=
  av_get_bytes_per_sample frame.format * frame.nb_samples * 2

def framePts (frame : AVFrame) : Option ℚ :=
  frame.pts.map fun pts => (pts : ℚ) * av_q2d ⟨1, frame.sample_rate⟩

def write (av_get_bytes_per_sample : Int → Int) (frame : AVFrame) (output : XData) : XData :=
  { output with
    size := frameSize av_get_bytes_per_sample frame
    format := frame.format
    nb_samples := frame.nb_samples
    pts := framePts frame
    decodeDatas := frame.data }

/-- The audio decoder. -/
def output (av_get_bytes_per_sample : Int → Int) : FrameOutput where
  received := received
  size := frameSize av_get_bytes_per_sample
  pts := framePts
  write := write av_get_bytes_per_sample
  write_size _ _ := rfl
  write_pts _ _ := rfl

end AudioDecode

end Xplay
