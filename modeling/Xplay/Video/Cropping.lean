/-
**`CXTexture` and the coordinates that a frame is cropped with.**

A line of a decoded frame may be longer than the frame is wide. `draw` crops the padding by moving the
two right corners of the texture, where it compares the line with the width that the *first* frame
rendered had; and a frame whose line has just this width is drawn with whatever crop an earlier one
left. The pixels of the texture are not modelled.

* `CXTexture.draw`, `render` — one frame; `drawings` — a sequence of frames.
* `coordinates` — what a frame's own line and width ask for; `Faithful` — every frame gets it.
* `texture_after` — the state after any history: the first width, and the crop of the last frame
  whose line differed from it.
* `drawnWith_eq_iff`, `faithful_iff` — **exactly which histories draw a frame by its own values.**
-/

import Mathlib.Data.Rat.Cast.Order
import Mathlib.Data.List.Induction
import Mathlib.Tactic.FieldSimp
import Mathlib.Tactic.Linarith
import Mathlib.Tactic.Ring
import Mathlib.Tactic.NormNum

set_option linter.unusedSectionVars false

namespace Xplay.Cropping

/-- `vertices_default`: four corners, each with its position and its place in the texture. -/
def getInputTextureCoordinates : List ℚ :=
  [1, -1, 0, 1, 0,
    -1, -1, 0, 0, 0,
    -1, 1, 0, 0, 1,
    1, 1, 0, 1, 1]

/-- `XShader`: its vertices, and those in the buffer it draws with. -/
structure XShader where
  vertices : List ℚ
  buffer : List ℚ

/-- `XShader::XShader`; nothing is in the buffer yet. -/
def XShader.new : XShader := ⟨getInputTextureCoordinates, []⟩

/-- `XShader::init`: the vertices are copied to the buffer. -/
def XShader.init (shader : XShader) : XShader := { shader with buffer := shader.vertices }

/-- `CXTexture`. -/
structure CXTexture where
  shader : XShader
  frameWidth : Int
  lastNormalized : ℚ

/-- `XTexture::create` and `init` on a window. -/
def CXTexture.init (width : Int) : CXTexture := ⟨XShader.new.init, width, 0⟩

/-- The part of a line that is cropped. -/
def normalized (linesize frameWidth : Int) : ℚ :=
  (((linesize - frameWidth : Int) : ℚ) + 1 / 2) / (linesize : ℚ)

/-- The vertices with the two right corners moved. -/
def cropped (normalized : ℚ) : List ℚ :=
  getInputTextureCoordinates.mapIdx fun i coor => if i = 3 ∨ i = 18 then coor - normalized else coor

/-- `CXTexture::draw`, up to the coordinates that it draws with. -/
def CXTexture.draw (texture : CXTexture) (width : Int) : CXTexture :=
  if width ≠ texture.frameWidth then
    let n := normalized width texture.frameWidth
    if texture.lastNormalized ≠ n then
      { texture with
        shader := { texture.shader with vertices := cropped n }.init
        lastNormalized := n }
    else texture
  else texture

/-- A frame to render, of positive line size and width: `decodeDatas[0]`, `size`, `linesize[0]` and
`frameWidth`. -/
structure Frame where
  decodeDatas : Option Nat
  size : Int
  linesize : Int
  frameWidth : Int
  linesize_pos : 0 < linesize
  frameWidth_pos : 0 < frameWidth

/-- The frame has something to draw. -/
def Frame.drawn (frame : Frame) : Bool := frame.decodeDatas.isSome && frame.size != 0

/-- `GLVideoView::render` on a view with a window: the texture then, and the coordinates drawn with. -/
def render (texture : Option CXTexture) (frame : Frame) : CXTexture × Option (List ℚ) :=
  let texture := texture.getD (CXTexture.init frame.frameWidth)
  if frame.drawn then
    let texture := texture.draw frame.linesize
    (texture, some texture.shader.buffer)
  else (texture, none)

/-- The texture after a sequence of frames. -/
def textureAfter (frames : List Frame) : Option CXTexture :=
  frames.foldl (fun texture frame => some (render texture frame).1) none

/-- The coordinates that a frame is drawn with after a sequence of frames. -/
def drawnWith (before : List Frame) (frame : Frame) : Option (List ℚ) :=
  (render (textureAfter before) frame).2

/-- **What a frame's own line and width ask for**: the whole width when they are equal, and the padding
cropped otherwise. -/
def coordinates (frame : Frame) : List ℚ :=
  if frame.linesize = frame.frameWidth then getInputTextureCoordinates
  else cropped (normalized frame.linesize frame.frameWidth)

/-- **Every frame of the sequence that is drawn gets the coordinates it asks for.** -/
def Faithful (frames : List Frame) : Prop :=
  ∀ before frame after, frames = before ++ frame :: after → frame.drawn = true →
    drawnWith before frame = some (coordinates frame)

/-- The width of the first frame rendered. -/
def firstWidth (before : List Frame) (frame : Frame) : Int :=
  (before.head?.map Frame.frameWidth).getD frame.frameWidth

/-- The last frame drawn before whose line differs from the width of the first. -/
def lastPadded (before : List Frame) (width : Int) : Option Frame :=
  (before.filter fun frame => frame.drawn && frame.linesize != width).getLast?

/-- **The condition on a frame and its history**: it has the width of the first frame, and its line
differs from that or no line before did; or its line alone is as long as the first frame is wide, and
the crop left over is by chance the one it asks for. -/
inductive Follows (before : List Frame) (frame : Frame) : Prop
  | padded (width : frame.frameWidth = firstWidth before frame)
      (line : frame.linesize ≠ firstWidth before frame)
  | whole (width : frame.frameWidth = firstWidth before frame)
      (line : frame.linesize = firstWidth before frame)
      (fresh : lastPadded before (firstWidth before frame) = none)
  | chance (width : frame.frameWidth ≠ firstWidth before frame)
      (line : frame.linesize = firstWidth before frame) (last : Frame)
      (left : lastPadded before (firstWidth before frame) = some last)
      (equal : (2 * firstWidth before frame - 1) * firstWidth before frame =
        (2 * frame.frameWidth - 1) * last.linesize)

/-! ### Crops -/

theorem cropped_zero : cropped 0 = getInputTextureCoordinates := by
  simp [cropped, getInputTextureCoordinates, List.mapIdx_cons]

/-- Different crops give different coordinates. -/
theorem cropped_injective {m n : ℚ} (same : cropped m = cropped n) : m = n := by
  have corner := congrArg (fun coor => coor[3]?) same
  simpa [cropped, getInputTextureCoordinates] using corner

/-- A line that differs from the width is cropped. -/
theorem normalized_ne_zero {linesize frameWidth : Int} (positive : 0 < linesize) :
    normalized linesize frameWidth ≠ 0 := by
  have line : (linesize : ℚ) ≠ 0 := by exact_mod_cast positive.ne'
  intro zero
  rw [normalized, div_eq_zero_iff, or_iff_left line] at zero
  have odd : 2 * (linesize - frameWidth) + 1 = 0 := by
    have doubled : 2 * ((linesize - frameWidth : Int) : ℚ) + 1 = 0 := by linarith
    exact_mod_cast doubled
  omega

theorem normalized_eq_iff {linesize frameWidth width : Int} (positive : 0 < linesize) :
    normalized linesize frameWidth = normalized linesize width ↔ frameWidth = width := by
  have line : (linesize : ℚ) ≠ 0 := by exact_mod_cast positive.ne'
  constructor
  · intro same
    rw [normalized, normalized, div_left_inj' line, add_left_inj] at same
    have difference : linesize - frameWidth = linesize - width := by exact_mod_cast same
    omega
  · rintro rfl
    rfl

/-- The crop of one line is the crop that a line as long as the first frame is wide asks for. -/
theorem normalized_cross {linesize frameWidth width : Int} (positive : 0 < linesize)
    (wide : 0 < width) :
    normalized linesize width = normalized width frameWidth ↔
      (2 * width - 1) * width = (2 * frameWidth - 1) * linesize := by
  have line : (linesize : ℚ) ≠ 0 := by exact_mod_cast positive.ne'
  have first : (width : ℚ) ≠ 0 := by exact_mod_cast wide.ne'
  rw [normalized, normalized, div_eq_div_iff line first]
  push_cast
  constructor
  · intro same
    have cross : (2 * (width : ℚ) - 1) * width = (2 * frameWidth - 1) * linesize := by linarith
    exact_mod_cast cross
  · intro same
    have cross : (2 * (width : ℚ) - 1) * width = (2 * frameWidth - 1) * linesize := by
      exact_mod_cast same
    linarith

attribute [irreducible] cropped normalized

/-! ### The texture after a history -/

/-- The crop that a history leaves. -/
def cropLeft (before : List Frame) (width : Int) : ℚ :=
  ((lastPadded before width).map fun last => normalized last.linesize width).getD 0

/-- A texture made for a width, with a crop in its buffer. -/
def CXTexture.of (width : Int) (crop : ℚ) : CXTexture := ⟨⟨cropped crop, cropped crop⟩, width, crop⟩

theorem CXTexture.init_eq (width : Int) : CXTexture.init width = .of width 0 := by
  simp only [CXTexture.init, XShader.new, XShader.init, CXTexture.of, cropped_zero]

/-- **`draw` crops by the width of the first frame**, and keeps the crop where the line has it. -/
theorem CXTexture.draw_of (width : Int) (crop : ℚ) (linesize : Int) :
    (CXTexture.of width crop).draw linesize =
      .of width (if linesize ≠ width then normalized linesize width else crop) := by
  by_cases differs : linesize = width
  · simp only [CXTexture.draw, CXTexture.of, differs, ne_eq, not_true_eq_false, if_false]
  · by_cases same : crop = normalized linesize width
    · simp only [CXTexture.draw, CXTexture.of, differs, ← same, ne_eq, not_true_eq_false,
        not_false_eq_true, if_true, if_false]
    · simp only [CXTexture.draw, CXTexture.of, XShader.init, differs, same, ne_eq,
        not_false_eq_true, if_true]

/-- The crop after one more frame. -/
theorem cropLeft_snoc (before : List Frame) (frame : Frame) (width : Int) :
    cropLeft (before ++ [frame]) width =
      if frame.drawn then
        if frame.linesize ≠ width then normalized frame.linesize width else cropLeft before width
      else cropLeft before width := by
  unfold cropLeft lastPadded
  rw [List.filter_append]
  cases drawn : frame.drawn with
  | false => simp [drawn]
  | true =>
    by_cases differs : frame.linesize = width
    · simp [differs]
    · simp [drawn, differs]

/-- **The state after any history.** -/
theorem texture_after (first : Frame) (before : List Frame) :
    textureAfter (first :: before) =
      some (.of first.frameWidth (cropLeft (first :: before) first.frameWidth)) := by
  induction before using List.reverseRecOn with
  | nil =>
    have start : cropLeft [] first.frameWidth = 0 := rfl
    have after := cropLeft_snoc [] first first.frameWidth
    rw [List.nil_append, start] at after
    rw [after]
    simp only [textureAfter, List.foldl_cons, List.foldl_nil, render, Option.getD_none,
      CXTexture.init_eq]
    cases first.drawn with
    | false => rfl
    | true => simp only [if_true, CXTexture.draw_of]
  | append_singleton before frame ih =>
    rw [← List.cons_append, cropLeft_snoc, textureAfter, List.foldl_append, ← textureAfter, ih]
    simp only [List.foldl_cons, List.foldl_nil, render, Option.getD_some]
    cases frame.drawn with
    | false => rfl
    | true => simp only [if_true, CXTexture.draw_of]

/-- **What a frame is drawn with** after any history. -/
theorem drawnWith_eq (before : List Frame) {frame : Frame} (drawn : frame.drawn = true) :
    drawnWith before frame = some (cropped
      (if frame.linesize ≠ firstWidth before frame then
        normalized frame.linesize (firstWidth before frame)
      else cropLeft before (firstWidth before frame))) := by
  cases before with
  | nil =>
    simp only [drawnWith, textureAfter, List.foldl_nil, render, Option.getD_none, drawn, if_true,
      CXTexture.init_eq, CXTexture.draw_of]
    rfl
  | cons first before =>
    simp only [drawnWith, texture_after, render, Option.getD_some, drawn, if_true,
      CXTexture.draw_of]
    rfl

/-! ### The main result -/

theorem firstWidth_pos (before : List Frame) (frame : Frame) : 0 < firstWidth before frame := by
  cases before with
  | nil => exact frame.frameWidth_pos
  | cons first before => exact first.frameWidth_pos

/-- The crop that a frame asks for. -/
def cropAsked (frame : Frame) : ℚ :=
  if frame.linesize = frame.frameWidth then 0 else normalized frame.linesize frame.frameWidth

theorem coordinates_eq (frame : Frame) : coordinates frame = cropped (cropAsked frame) := by
  unfold coordinates cropAsked
  split_ifs
  · exact cropped_zero.symm
  · rfl

/-- A line that differs from the width of the first frame is cropped by that width. -/
theorem padded_iff {before : List Frame} {frame : Frame}
    (line : frame.linesize ≠ firstWidth before frame) :
    normalized frame.linesize (firstWidth before frame) = cropAsked frame ↔
      Follows before frame := by
  unfold cropAsked
  by_cases width : frame.frameWidth = firstWidth before frame
  · refine iff_of_true ?_ (.padded width line)
    rw [if_neg fun same => line (same.trans width), width]
  · refine iff_of_false (fun same => ?_) fun follows => ?_
    · split_ifs at same
      · exact normalized_ne_zero frame.linesize_pos same
      · exact width ((normalized_eq_iff frame.linesize_pos).mp same).symm
    · cases follows with
      | padded same => exact width same
      | whole same => exact width same
      | chance _ same => exact line same

/-- A line as long as the first frame is wide gets the crop left over, and asks for none if the frame
has that width too. -/
theorem whole_iff {before : List Frame} {frame : Frame}
    (line : frame.linesize = firstWidth before frame)
    (width : frame.frameWidth = firstWidth before frame) :
    cropLeft before (firstWidth before frame) = cropAsked frame ↔ Follows before frame := by
  rw [cropAsked, if_pos (line.trans width.symm), cropLeft]
  cases left : lastPadded before (firstWidth before frame) with
  | none => exact iff_of_true rfl (.whole width line left)
  | some last =>
    refine iff_of_false (normalized_ne_zero last.linesize_pos) fun follows => ?_
    cases follows with
    | padded _ differs => exact differs line
    | whole _ _ fresh => cases left.symm.trans fresh
    | chance differs => exact differs width

/-- A frame of another width asks for a crop, which the one left over may be. -/
theorem chance_iff {before : List Frame} {frame : Frame}
    (line : frame.linesize = firstWidth before frame)
    (width : frame.frameWidth ≠ firstWidth before frame) :
    cropLeft before (firstWidth before frame) = cropAsked frame ↔ Follows before frame := by
  rw [cropAsked, if_neg fun same => width (same.symm.trans line), cropLeft]
  cases left : lastPadded before (firstWidth before frame) with
  | none =>
    refine iff_of_false (normalized_ne_zero frame.linesize_pos).symm fun follows => ?_
    cases follows with
    | padded same => exact width same
    | whole same => exact width same
    | chance _ _ last left' => cases left.symm.trans left'
  | some last =>
    simp only [Option.map_some, Option.getD_some]
    rw [line, normalized_cross last.linesize_pos (firstWidth_pos before frame)]
    constructor
    · exact fun equal => .chance width line last left equal
    · intro follows
      cases follows with
      | padded same => exact absurd same width
      | whole same => exact absurd same width
      | chance _ _ last' left' equal =>
        cases left.symm.trans left'
        exact equal

/-- **A frame is drawn by its own values exactly when it and its history meet the condition.** -/
theorem drawnWith_eq_iff (before : List Frame) {frame : Frame} (drawn : frame.drawn = true) :
    drawnWith before frame = some (coordinates frame) ↔ Follows before frame := by
  have crops : drawnWith before frame = some (coordinates frame) ↔
      (if frame.linesize ≠ firstWidth before frame then
        normalized frame.linesize (firstWidth before frame)
      else cropLeft before (firstWidth before frame)) = cropAsked frame := by
    rw [drawnWith_eq before drawn, coordinates_eq, Option.some_inj]
    exact ⟨cropped_injective, congrArg cropped⟩
  rw [crops]
  split_ifs with line
  · exact padded_iff line
  · by_cases width : frame.frameWidth = firstWidth before frame
    · exact whole_iff (not_not.mp line) width
    · exact chance_iff (not_not.mp line) width

/-- **Every frame of a sequence is drawn by its own values exactly when each that is drawn meets the
condition with the frames before it.** -/
theorem faithful_iff (frames : List Frame) :
    Faithful frames ↔ ∀ before frame after, frames = before ++ frame :: after →
      frame.drawn = true → Follows before frame := by
  constructor
  · intro faithful before frame after split drawn
    exact (drawnWith_eq_iff before drawn).mp (faithful before frame after split drawn)
  · intro follows before frame after split drawn
    exact (drawnWith_eq_iff before drawn).mpr (follows before frame after split drawn)

/-- A frame of 4 pixels with a line of 6, and one whose line has no padding. -/
def padded : Frame := ⟨some 0, 1, 6, 4, by decide, by decide⟩
def whole : Frame := ⟨some 0, 1, 4, 4, by decide, by decide⟩

/-- Behind a padded frame the next one is still cropped; alone it is drawn whole. -/
theorem faithful_fails :
    drawnWith [] whole = some (coordinates whole) ∧
      drawnWith [padded] whole = drawnWith [] padded ∧
      drawnWith [padded] whole ≠ drawnWith [] whole ∧ ¬ Faithful [padded, whole] := by
  refine ⟨by decide +kernel, by decide +kernel, by decide +kernel, fun faithful => ?_⟩
  have drawn := faithful [padded] whole [] rfl rfl
  revert drawn
  decide +kernel

end Xplay.Cropping
