/-
**The view that `GLVideoView` was given last, and the one it renders to.**

`setRender` stores the view and wakes the thread that renders. The first `render` that gets past the
wait creates the texture, and with it EGL's surface, for the view of that moment; every later one
draws on this surface, whatever has been stored since. A `render` that was woken looks at nothing
again, so that the texture may also be created without a view.

One thread renders. What EGL answers is part of the call; a `render` whose wait has ended, notified or
not, goes on by a `resume`. `draws` and `initialised` are history: what each drawn frame was drawn and
swapped on, and what EGL was set up with.

* `OnLatest` — a frame is drawn and swapped on a surface created for the view stored last.
* `Meets` — the condition on a step: a frame is drawn only while the view is the one for which the
  texture is, or was, created, and EGL's set-up comes to its end.
* `Linked` — the invariant of every run: the surface is the one of the texture.
* `onLatest_iff` — **exactly the runs of such steps draw every frame on the latest view, and no run
  sets up EGL with a null view.**
-/

import Xplay.Lib.System
import Xplay.Player.Rendering

set_option linter.unusedSectionVars false

namespace Xplay.LatestView

open Lib Rendering

variable {Window : Type}

/-- `CXEGL`, with the surface that is current on the rendering thread. A surface bears the name of the
window it was created for. -/
structure XEGL (Window : Type) where
  mWindow : Option Window
  display : Bool
  eglSurface : Option Window
  eglContext : Bool
  current : Option Window

/-- The surface that `CXEGL::draw` swaps, if it does not return at once. -/
def XEGL.swaps (x : XEGL Window) : Option Window := if x.display then x.eglSurface else none

/-- `CXEGL::init`. -/
def XEGL.init (x : XEGL Window) (win : Window) : EglResult → XEGL Window
  | .noDisplay => { x with mWindow := some win, display := false }
  | .notInitialized | .noConfig => { x with mWindow := some win, display := true }
  | .noSurface => { x with mWindow := some win, display := true, eglSurface := none }
  | .noContext =>
    { x with mWindow := some win, display := true, eglSurface := some win, eglContext := false }
  | .notCurrent =>
    { x with mWindow := some win, display := true, eglSurface := some win, eglContext := true }
  | .current => ⟨some win, true, some win, true, some win⟩

/-- How a texture was created: the view given to `CXTexture::init`, and how far EGL's set-up got. -/
structure Creation (Window : Type) where
  view : Option Window
  result : EglResult

/-- What a frame was drawn on: the view stored then, the surface drawn on and the one swapped. -/
structure Draw (Window : Type) where
  view : Option Window
  surface : Option Window
  swaps : Option Window
  deriving DecidableEq

/-- `GLVideoView` and `CXEGL`; a frame waits for a view with whether it has something to draw. -/
structure State (Window : Type) where
  view : Option Window
  texture : Option (Creation Window)
  waiting : Option Bool
  xegl : XEGL Window
  draws : List (Draw Window)
  initialised : List (Option Window)

/-- A freshly constructed view. -/
def constructed (Window : Type) : State Window where
  view := none
  texture := none
  waiting := none
  xegl := ⟨none, false, none, false, none⟩
  draws := []
  initialised := []

/-- `XTexture::create` and `CXTexture::init`, which does nothing without a window. -/
def createTexture (s : State Window) (result : EglResult) : State Window :=
  let s := { s with texture := some ⟨s.view, result⟩ }
  match s.view with
  | none => s
  | some win =>
    { s with xegl := s.xegl.init win result, initialised := s.initialised ++ [some win] }

/-- `texture->draw` and `XEGL::get()->draw()`. -/
def drawFrame (s : State Window) : State Window :=
  { s with draws := s.draws ++ [⟨s.view, s.xegl.current, s.xegl.swaps⟩] }

/-- The texture is created if there is none. -/
def textured (s : State Window) (result : EglResult) : State Window :=
  match s.texture with
  | some _ => s
  | none => createTexture s result

/-- `render`, past its wait; `filled` tells whether the frame has something to draw. -/
def render (s : State Window) (result : EglResult) (filled : Bool) : State Window :=
  let s := textured s result
  if filled then drawFrame s else s

/-- The calls, and the end of a wait. -/
inductive Event (Window : Type)
  | setRender (view : Option Window)
  | render (result : EglResult) (filled : Bool)
  | resume (result : EglResult)

/-- The view under any sequence of calls. -/
def system (Window : Type) : System (State Window) (Event Window) where
  next s
    | .setRender view => some { s with view := view }
    | .render result filled =>
      match s.waiting, s.view with
      | some _, _ => none
      | none, none => some { s with waiting := some filled }
      | none, some _ => some (render s result filled)
    | .resume result =>
      s.waiting.map fun filled => render { s with waiting := none } result filled

/-- **The frame is drawn and swapped on a surface created for the view stored last.** -/
def Draw.Latest (d : Draw Window) : Prop :=
  ∃ view, d.view = some view ∧ d.surface = some view ∧ d.swaps = some view

/-- **Frames go to the latest view, and EGL is never set up with a null view.** -/
structure OnLatest (s : State Window) : Prop where
  draws : ∀ d ∈ s.draws, d.Latest
  initialised : ∀ view ∈ s.initialised, view ≠ none

/-- The texture with which a `render` of this result draws. -/
def created (s : State Window) (result : EglResult) : Creation Window :=
  s.texture.getD ⟨s.view, result⟩

/-- A frame may be drawn: the view is the one for which the texture is created, and EGL's set-up comes
to its end. -/
def Draws (s : State Window) (result : EglResult) : Prop :=
  (created s result).view ≠ none ∧ (created s result).view = s.view ∧
    (created s result).result = .current

/-- **The condition on a step.** -/
def Meets (s : State Window) : Event Window → Prop
  | .setRender _ => True
  | .render result filled => filled = true → s.view ≠ none → Draws s result
  | .resume result => s.waiting = some true → Draws s result

/-! ### The surface and the texture -/

/-- The surface that the creation of a texture leaves current. -/
def Creation.target (c : Creation Window) : Option Window :=
  if c.result = .current then c.view else none

/-- **The invariant of every run**: the surface that is current, and the one that is swapped then, are
those of the texture. -/
structure Linked (s : State Window) : Prop where
  current : s.xegl.current = s.texture.bind Creation.target
  swaps : ∀ view, s.xegl.current = some view → s.xegl.swaps = some view
  initialised : ∀ view ∈ s.initialised, view ≠ none

theorem linked_constructed : Linked (constructed Window) where
  current := rfl
  swaps _ current := by cases current
  initialised := nofun

/-- Only a set-up that comes to its end makes a surface current. -/
theorem init_current (x : XEGL Window) (win : Window) (result : EglResult) :
    (x.init win result).current = if result = .current then some win else x.current := by
  cases result <;> rfl

theorem Linked.createTexture {s : State Window} (linked : Linked s) (untextured : s.texture = none)
    (result : EglResult) : Linked (createTexture s result) := by
  have nothing : s.xegl.current = none := by rw [linked.current, untextured]; rfl
  unfold LatestView.createTexture
  cases view : s.view with
  | none =>
    refine ⟨?_, linked.swaps, linked.initialised⟩
    simp [nothing, Creation.target]
  | some win =>
    have current := init_current s.xegl win result
    refine ⟨?_, fun view' stands => ?_, fun view' member => ?_⟩
    · simp [current, nothing, Creation.target]
    · simp only [current, nothing] at stands
      split_ifs at stands with done
      subst done
      cases stands
      rfl
    · rcases List.mem_append.mp member with before | last
      · exact linked.initialised view' before
      · rw [List.mem_singleton.mp last]
        exact Option.some_ne_none win

theorem Linked.textured {s : State Window} (linked : Linked s) (result : EglResult) :
    Linked (textured s result) := by
  unfold LatestView.textured
  cases texture : s.texture with
  | some creation => exact linked
  | none => exact linked.createTexture texture result

/-- The texture that a `render` draws with; the view and the frames drawn stay. -/
theorem textured_spec (s : State Window) (result : EglResult) :
    (textured s result).texture = some (created s result) ∧
      (textured s result).view = s.view ∧ (textured s result).draws = s.draws := by
  unfold textured created
  cases texture : s.texture with
  | some creation => exact ⟨texture, rfl, rfl⟩
  | none =>
    unfold createTexture
    cases s.view <;> exact ⟨rfl, rfl, rfl⟩

/-- A frame is drawn on the surface of the texture. -/
theorem Linked.drawn {s : State Window} (linked : Linked s) (result : EglResult) :
    ∃ d, (render s result true).draws = s.draws ++ [d] ∧ (d.Latest ↔ Draws s result) := by
  obtain ⟨texture, view, draws⟩ := textured_spec s result
  have after := linked.textured result
  have current : (LatestView.textured s result).xegl.current = (created s result).target := by
    rw [after.current, texture]
    rfl
  refine ⟨_, by simp only [render, if_true, drawFrame, draws]; rfl, ?_⟩
  rw [view]
  constructor
  · rintro ⟨win, stored, surface, -⟩
    simp only [current, Creation.target] at stored surface
    split_ifs at surface with done
    exact ⟨by rw [surface]; exact Option.some_ne_none win, surface.trans stored.symm, done⟩
  · rintro ⟨present, same, done⟩
    obtain ⟨win, made⟩ := Option.ne_none_iff_exists'.mp present
    have surface : (LatestView.textured s result).xegl.current = some win := by
      rw [current, Creation.target, if_pos done, made]
    exact ⟨win, same.symm.trans made, surface, after.swaps win surface⟩

theorem Linked.render {s : State Window} (linked : Linked s) (result : EglResult) (filled : Bool) :
    Linked (render s result filled) := by
  have after := linked.textured result
  cases filled with
  | false => exact after
  | true => exact ⟨after.current, after.swaps, after.initialised⟩

/-! ### The main result -/

/-- What a run keeps whose frames all went to the latest view. -/
structure Sound (s : State Window) : Prop where
  linked : Linked s
  draws : ∀ d ∈ s.draws, d.Latest

/-- A `render` past its wait keeps the property exactly when a frame that it draws may be drawn. -/
theorem Sound.render_iff {s : State Window} (sound : Sound s) (result : EglResult) (filled : Bool) :
    OnLatest (render s result filled) ↔ (filled = true → Draws s result) := by
  have linked := sound.linked.render result filled
  cases filled with
  | false =>
    have draws : (render s result false).draws = s.draws := (textured_spec s result).2.2
    refine iff_of_true ⟨?_, linked.initialised⟩ nofun
    rw [draws]
    exact sound.draws
  | true =>
    obtain ⟨d, draws, latest⟩ := sound.linked.drawn result
    constructor
    · intro on _
      exact latest.mp (on.draws d (by rw [draws]; exact List.mem_append_right _ List.mem_cons_self))
    · intro may
      refine ⟨?_, linked.initialised⟩
      rw [draws, List.forall_mem_append, List.forall_mem_singleton]
      exact ⟨sound.draws, latest.mpr (may rfl)⟩

/-- **The step lemma**: a step keeps the property exactly when it meets the condition. -/
theorem Sound.step {s s' : State Window} {e : Event Window} (sound : Sound s)
    (enabled : (system Window).next s e = some s') :
    Linked s' ∧ (OnLatest s' ↔ Meets s e) := by
  cases e with
  | setRender view =>
    cases enabled
    have linked := sound.linked
    exact ⟨⟨linked.current, linked.swaps, linked.initialised⟩,
      iff_of_true ⟨sound.draws, linked.initialised⟩ trivial⟩
  | render result filled =>
    simp only [system] at enabled
    split at enabled
    · cases enabled
    · next _ view =>
      cases enabled
      have linked := sound.linked
      refine ⟨⟨linked.current, linked.swaps, linked.initialised⟩,
        iff_of_true ⟨sound.draws, linked.initialised⟩ fun _ present => absurd view present⟩
    · next win _ view =>
      cases enabled
      refine ⟨sound.linked.render result filled, (sound.render_iff result filled).trans ?_⟩
      have present : s.view ≠ none := by rw [view]; exact Option.some_ne_none win
      exact ⟨fun may drawn _ => may drawn, fun may drawn => may drawn present⟩
  | resume result =>
    simp only [system] at enabled
    obtain ⟨filled, waits, rfl⟩ := Option.map_eq_some_iff.mp enabled
    have linked := sound.linked
    have free : Sound { s with waiting := none } :=
      ⟨⟨linked.current, linked.swaps, linked.initialised⟩, sound.draws⟩
    refine ⟨free.linked.render result filled, (free.render_iff result filled).trans ?_⟩
    simp only [Meets, waits, Option.some.injEq]
    exact Iff.rfl

/-- **Every frame goes to the latest view, and EGL is never set up with a null view, in exactly the
runs whose steps meet the condition**, for every order of calls, wake-ups and answers. -/
theorem onLatest_iff (events : List (Event Window)) :
    (system Window).Steps (fun _ _ s' => OnLatest s') (constructed Window) events ↔
      (system Window).Steps (fun s e _ => Meets s e) (constructed Window) events := by
  refine System.steps_iff (I := Sound) (fun s e s' sound enabled => (sound.step enabled).2)
    (fun s e s' sound enabled meets => ?_) ⟨linked_constructed, nofun⟩ events
  obtain ⟨linked, on⟩ := sound.step enabled
  exact ⟨linked, (on.mpr meets).draws⟩

/-- Two views, a frame on the first and one after the second has been stored. -/
def replaced : List (Event Nat) :=
  [.setRender (some 1), .render .current true, .setRender (some 2), .render .current true]

/-- The second frame is drawn on the surface of the first view. -/
theorem onLatest_fails :
    (∃ s, (system Nat).run (constructed Nat) replaced = some s ∧
      s.draws = [⟨some 1, some 1, some 1⟩, ⟨some 2, some 1, some 1⟩]) ∧
    ¬ (system Nat).Steps (fun _ _ s' => OnLatest s') (constructed Nat) replaced := by
  refine ⟨⟨_, rfl, rfl⟩, fun steps => ?_⟩
  have on := (steps.2 _ rfl).2 _ rfl |>.2 _ rfl |>.1 _ rfl
  obtain ⟨view, stored, surface, -⟩ := on.draws ⟨some 2, some 1, some 1⟩ (by decide)
  cases stored
  cases surface

end Xplay.LatestView
