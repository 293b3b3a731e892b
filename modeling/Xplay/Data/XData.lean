/-
**The data the stages hand to each other**: packets, decoded frames and `XData`.

Pointers are numbers that name what they point at, `none` the null pointer. Times are exact
rationals; `none` is `NAN` (`XData::pts`) or `AV_NOPTS_VALUE` (`AVFrame::pts`).
-/

import Mathlib.Data.Rat.Defs

namespace Xplay

/-- `AVRational`. -/
structure AVRational where
  num : Int
  den : Int
  deriving DecidableEq, Repr

/-- `av_q2d`, in exact arithmetic. -/
def av_q2d (a : AVRational) : ℚ := (a.num : ℚ) / (a.den : ℚ)

/-- `AVPacket`: the stream it belongs to, the buffer that names its contents, and its size. -/
structure AVPacket where
  stream_index : Nat
  data : Nat
  size : Int
  deriving DecidableEq, Repr

/-- `AVFrame`: the fields the decoders read. -/
structure AVFrame where
  data : Option Nat
  linesize0 : Int
  linesize1 : Int
  linesize2 : Int
  width : Int
  height : Int
  nb_samples : Int
  format : Int
  sample_rate : Int
  pts : Option Int
  best_effort_timestamp : Option Int
  deriving DecidableEq, Repr

/-- `av_frame_alloc`, `av_frame_unref`: every field at its default. -/
def AVFrame.blank : AVFrame :=
  ⟨none, 0, 0, 0, 0, 0, 0, -1, 0, none, none⟩

/-- `XDataType`. -/
inductive XDataType
  | packet
  | frame
  deriving DecidableEq, Repr

/-- `XData`. -/
structure XData where
  resampleData : Option Nat
  decodeDatas : Option Nat
  frame : Option AVFrame
  packet : Option AVPacket
  size : Int
  audioOrVideo : Int
  time_base : AVRational
  frame_rate : AVRational
  pts : Option ℚ
  duration : ℚ
  frameWidth : Int
  frameHeight : Int
  format : Int
  nb_samples : Int
  linesize0 : Int
  linesize1 : Int
  linesize2 : Int
  allocType : XDataType
  deriving DecidableEq

namespace XData

/-- An `XData` whose bytes are all zero, as `memset` leaves the slots of a `FrameQueue`. -/
def zero : XData where
  resampleData := none
  decodeDatas := none
  frame := none
  packet := none
  size := 0
  audioOrVideo := 0
  time_base := ⟨0, 0⟩
  frame_rate := ⟨0, 0⟩
  pts := some 0
  duration := 0
  frameWidth := 0
  frameHeight := 0
  format := 0
  nb_samples := 0
  linesize0 := 0
  linesize1 := 0
  linesize2 := 0
  allocType := .packet

/-- A freshly constructed `XData`. -/
def init : XData := { zero with audioOrVideo := -1 }

/-- `XData::drop`. -/
def drop (x : XData) : XData :=
  match x.allocType with
  | .packet => { x with packet := none, size := 0 }
  | .frame =>
    { x with frame := x.frame.map fun _ => AVFrame.blank, resampleData := none, size := 0 }

@[simp] theorem drop_size (x : XData) : x.drop.size = 0 := by
  unfold drop
  split <;> rfl

end XData

end Xplay
