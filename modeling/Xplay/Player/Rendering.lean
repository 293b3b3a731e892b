/-
**Where the players render: `CXEGL`, `GLVideoView` and the `window` of `xplay.cpp`.**

Every player has its own `GLVideoView` with its own `view` and `texture`. Two things are shared by all
players of the process: the object `XEGL::get()` with its display, surface and context, and the global
`window` that `initView` stores, `setDataSource` hands on and `release` gives back.

A call is one step. What the platform answers is part of the call: what `ANativeWindow_fromSurface`
returns and how far EGL's set-up gets. A surface and a context bear the name of the player whose view
created them: a view creates its `texture`, and with it at most one of each, only once. EGL itself is
a parameter with the laws of its specification (`LawfulEgl`): what is created is valid, and destroying
and terminating make nothing valid; whether `eglTerminate` ends a display that was initialized twice
is left open. A native window is valid while a reference that `ANativeWindow_fromSurface` took is not
released.

`frames` and `given` are history: what each rendered frame was drawn and swapped on, and what the last
`initView` of a player that is not released stored in `window`.
-/

import Mathlib.Logic.Function.Basic
import Mathlib.Data.Option.Basic
import Mathlib.Tactic.Common

namespace Xplay.Rendering

/-- How far `CXEGL::init` gets. -/
inductive EglResult
  | noDisplay
  | notInitialized
  | noConfig
  | noSurface
  | noContext
  | notCurrent
  | current
  deriving DecidableEq

/-- `CXEGL`. -/
structure XEGL (Player Window : Type) where
  mWindow : Option Window
  display : Bool
  eglSurface : Option Player
  eglContext : Option Player

/-- The surface that `CXEGL::draw` swaps, if it does not return at once. -/
def XEGL.swaps {Player Window : Type} (x : XEGL Player Window) : Option Player :=
  if x.display then x.eglSurface else none

/-- EGL: the surfaces that are valid, each on its window, the contexts that are, and the calls. -/
class EglDriver (Egl : Type) (Player Window : outParam Type) where
  uninitialized : Egl
  surfaces : Egl → Player → Option Window
  contexts : Egl → Player → Bool
  eglCreateWindowSurface : Egl → Player → Window → Egl
  eglCreateContext : Egl → Player → Egl
  eglDestroySurface : Egl → Player → Egl
  eglDestroyContext : Egl → Player → Egl
  eglTerminate : Egl → Egl

open EglDriver

/-- `b` has nothing valid that `a` has not. -/
structure EglDriver.Fewer {Egl Player Window : Type} [EglDriver Egl Player Window] (b a : Egl) :
    Prop where
  surfaces : ∀ p, surfaces a p = none → surfaces b p = none
  contexts : ∀ p, contexts a p = false → contexts b p = false

/-- **What the specification says of EGL.** -/
class LawfulEgl (Egl : Type) {Player Window : outParam Type} [EglDriver Egl Player Window] :
    Prop where
  uninitialized_surfaces : ∀ p, surfaces (uninitialized : Egl) p = none
  uninitialized_contexts : ∀ p, contexts (uninitialized : Egl) p = false
  create_surface : ∀ (e : Egl) p win, surfaces (eglCreateWindowSurface e p win) p = some win
  create_surface_other : ∀ (e : Egl) {p q} win, q ≠ p →
    surfaces (eglCreateWindowSurface e p win) q = surfaces e q
  create_surface_contexts : ∀ (e : Egl) p win, contexts (eglCreateWindowSurface e p win) = contexts e
  create_context : ∀ (e : Egl) p, contexts (eglCreateContext e p) p = true
  create_context_other : ∀ (e : Egl) {p q}, q ≠ p →
    contexts (eglCreateContext e p) q = contexts e q
  create_context_surfaces : ∀ (e : Egl) p, surfaces (eglCreateContext e p) = surfaces e
  destroy_surface : ∀ (e : Egl) p, Fewer (eglDestroySurface e p) e
  destroy_context : ∀ (e : Egl) p, Fewer (eglDestroyContext e p) e
  terminate : ∀ e : Egl, Fewer (eglTerminate e) e

/-- A driver in which everything is valid until it is destroyed or the display is terminated. -/
structure EglObjects (Player Window : Type) where
  surfaces : Player → Option Window
  contexts : Player → Bool

instance {Player Window : Type} [DecidableEq Player] :
    EglDriver (EglObjects Player Window) Player Window where
  uninitialized := ⟨fun _ => none, fun _ => false⟩
  surfaces := EglObjects.surfaces
  contexts := EglObjects.contexts
  eglCreateWindowSurface e p win := { e with surfaces := Function.update e.surfaces p (some win) }
  eglCreateContext e p := { e with contexts := Function.update e.contexts p true }
  eglDestroySurface e p := { e with surfaces := Function.update e.surfaces p none }
  eglDestroyContext e p := { e with contexts := Function.update e.contexts p false }
  eglTerminate _ := ⟨fun _ => none, fun _ => false⟩

/-- Taking a value away gives no other player one. -/
theorem update_of_gone {Player α : Type} [DecidableEq Player] {f : Player → α} {none : α}
    (p : Player) {q : Player} (gone : f q = none) : Function.update f p none q = none := by
  by_cases same : q = p
  · rw [same, Function.update_self]
  · rw [Function.update_of_ne same, gone]

instance {Player Window : Type} [DecidableEq Player] : LawfulEgl (EglObjects Player Window) where
  uninitialized_surfaces _ := rfl
  uninitialized_contexts _ := rfl
  create_surface _ _ _ := Function.update_self ..
  create_surface_other _ _ _ _ other := Function.update_of_ne other ..
  create_surface_contexts _ _ _ := rfl
  create_context _ _ := Function.update_self ..
  create_context_other _ _ _ other := Function.update_of_ne other ..
  create_context_surfaces _ _ := rfl
  destroy_surface _ p := ⟨fun _ gone => update_of_gone p gone, fun _ gone => gone⟩
  destroy_context _ p := ⟨fun _ gone => gone, fun _ gone => update_of_gone p gone⟩
  terminate _ := ⟨fun _ _ => rfl, fun _ _ => rfl⟩

/-- `GLVideoView`. -/
structure GLVideoView (Window : Type) where
  view : Option Window
  texture : Bool

/-- A surface with the window it is valid on, and a context with its validity. -/
structure Target (Player Window : Type) where
  surface : Player
  valid : Option Window
  context : Player
  contextValid : Bool

/-- What a frame was drawn and swapped on. -/
structure Frame (Player Window : Type) where
  view : Window
  draws : Option (Target Player Window)
  swaps : Option (Player × Option Window)

/-- `MediaPlayer`, with the surface and context current on each of its rendering threads. -/
structure MediaPlayer (Player Window : Type) where
  playerState : Option String
  window : Option Window
  videoView : Option (GLVideoView Window)
  current : Nat → Option (Player × Player)
  frames : List (Frame Player Window)

namespace MediaPlayer

variable {Player Window : Type}

/-- The window the player renders to. -/
def view (m : MediaPlayer Player Window) : Option Window := m.videoView.bind (·.view)

/-- The view has created its texture. -/
def textured (m : MediaPlayer Player Window) : Bool := m.videoView.any (·.texture)

/-- `videoView->setRender(window)`. -/
def setRender (m : MediaPlayer Player Window) (window : Window) : MediaPlayer Player Window :=
  { m with videoView := m.videoView.map fun v => { v with view := some window } }

/-- `MediaPlayer::initView`. -/
def initView (m : MediaPlayer Player Window) (window : Window) : MediaPlayer Player Window :=
  { m with window := some window }.setRender window

/-- `texture = XTexture::create()`. -/
def createTexture (m : MediaPlayer Player Window) : MediaPlayer Player Window :=
  { m with videoView := m.videoView.map fun v => { v with texture := true } }

/-- `MediaPlayer::release`, apart from `XEGL`. -/
def release (m : MediaPlayer Player Window) : MediaPlayer Player Window :=
  { m with playerState := none, window := none, videoView := none }

end MediaPlayer

/-- The process: the global `window`, the native windows, EGL, and all players. -/
structure Process (Player Window Egl : Type) where
  window : Option Window
  references : Window → Nat
  xegl : XEGL Player Window
  egl : Egl
  player : Player → MediaPlayer Player Window
  given : Player → Option Window
  crashed : Bool

/-- The public calls on a player; a `frame` comes from one of its rendering threads. -/
inductive Call (Window : Type)
  | initView (surface : Option Window)
  | setDataSource (url : String)
  | start (opened : Bool)
  | frame (thread : Nat) (result : EglResult) (filled : Bool)
  | release

namespace Process

variable {Player Window Egl : Type} [DecidableEq Player] [DecidableEq Window]
  [EglDriver Egl Player Window]

/-- The constructed players; `window` is whatever each constructor left there. -/
def constructed (window : Player → Option Window) : Process Player Window Egl where
  window := none
  references _ := 0
  xegl := ⟨none, false, none, none⟩
  egl := uninitialized
  player p := ⟨some "", window p, some ⟨none, false⟩, fun _ => none, []⟩
  given _ := none
  crashed := false

/-- Replaces one player. -/
def put (s : Process Player Window Egl) (p : Player) (m : MediaPlayer Player Window) :
    Process Player Window Egl :=
  { s with player := Function.update s.player p m }

/-- `CXEGL::init` on a thread of player `p`. -/
def eglInit (s : Process Player Window Egl) (p : Player) (thread : Nat) (win : Window)
    (result : EglResult) : Process Player Window Egl :=
  match result with
  | .noDisplay => { s with xegl := { s.xegl with mWindow := some win, display := false } }
  | .notInitialized | .noConfig =>
    { s with xegl := { s.xegl with mWindow := some win, display := true } }
  | .noSurface =>
    { s with xegl := { s.xegl with mWindow := some win, display := true, eglSurface := none } }
  | .noContext =>
    { s with
      xegl := ⟨some win, true, some p, none⟩
      egl := eglCreateWindowSurface s.egl p win }
  | .notCurrent =>
    { s with
      xegl := ⟨some win, true, some p, some p⟩
      egl := eglCreateContext (eglCreateWindowSurface s.egl p win) p }
  | .current =>
    { s with
      xegl := ⟨some win, true, some p, some p⟩
      egl := eglCreateContext (eglCreateWindowSurface s.egl p win) p
      player := Function.update s.player p
        { s.player p with
          current := Function.update (s.player p).current thread (some (p, p)) } }

/-- `eglDestroySurface`, if there is one. -/
def destroySurface (e : Egl) (eglSurface : Option Player) : Egl :=
  eglSurface.elim e (eglDestroySurface e)

/-- `CXEGL::terminate`; without a display EGL destroys nothing. -/
def terminate (s : Process Player Window Egl) : Process Player Window Egl :=
  let destroyed := destroySurface s.egl s.xegl.eglSurface
  match s.xegl.eglContext with
  | none =>
    { s with
      xegl := ⟨none, s.xegl.display, none, none⟩
      egl := if s.xegl.display then destroyed else s.egl }
  | some context =>
    { s with
      xegl := ⟨none, false, none, none⟩
      egl :=
        if s.xegl.display then EglDriver.eglTerminate (eglDestroyContext destroyed context)
        else s.egl }

/-- What a frame on a thread of the player is drawn on. -/
def drawsOn (s : Process Player Window Egl) (m : MediaPlayer Player Window) (thread : Nat) :
    Option (Target Player Window) :=
  (m.current thread).map fun b => ⟨b.1, surfaces s.egl b.1, b.2, contexts s.egl b.2⟩

/-- What a frame is swapped on. -/
def swapsOn (s : Process Player Window Egl) : Option (Player × Option Window) :=
  s.xegl.swaps.map fun surface => (surface, surfaces s.egl surface)

/-- `texture = XTexture::create()` and `texture->init`. -/
def createTexture (s : Process Player Window Egl) (p : Player) (thread : Nat) (win : Window)
    (result : EglResult) : Process Player Window Egl :=
  (s.put p (s.player p).createTexture).eglInit p thread win result

/-- `texture->draw` and `XEGL::get()->draw()`. -/
def drawFrame (s : Process Player Window Egl) (p : Player) (thread : Nat) (win : Window) :
    Process Player Window Egl :=
  s.put p
    { s.player p with
      frames := (s.player p).frames ++ [⟨win, s.drawsOn (s.player p) thread, s.swapsOn⟩] }

/-- `GLVideoView::render`; without a window it waits for `setRender`, and nothing is rendered. -/
def render (s : Process Player Window Egl) (p : Player) (thread : Nat) (result : EglResult)
    (filled : Bool) : Process Player Window Egl :=
  match (s.player p).view with
  | none => s
  | some win =>
    let s := if (s.player p).textured then s else s.createTexture p thread win result
    if filled then s.drawFrame p thread win else s

/-- `initView`, with what `ANativeWindow_fromSurface` returned. -/
def initView (s : Process Player Window Egl) (p : Player) (surface : Option Window) :
    Process Player Window Egl :=
  match surface with
  | none => { s with window := none, given := Function.update s.given p none }
  | some win =>
    { s with
      window := some win
      references := Function.update s.references win (s.references win + 1)
      player := Function.update s.player p ((s.player p).initView win)
      given := Function.update s.given p (some win) }

/-- `_setDataSource`; on a released player `playerState->url` is read through null. -/
def setDataSource (s : Process Player Window Egl) (p : Player) (url : String) :
    Process Player Window Egl :=
  match (s.player p).playerState with
  | none => { s with crashed := true }
  | some _ =>
    match s.window with
    | none => s.put p { s.player p with playerState := some url }
    | some win => s.put p ({ s.player p with playerState := some url }.initView win)

/-- `_start`; `opened` tells whether `demux->open` succeeds. -/
def start (s : Process Player Window Egl) (p : Player) (opened : Bool) : Process Player Window Egl :=
  match (s.player p).playerState with
  | none => { s with crashed := true }
  | some url =>
    if url.isEmpty ∨ opened = false then s
    else
      match (s.player p).window with
      | none => s
      | some win => s.put p ((s.player p).setRender win)

/-- `~GLVideoView`, when the player still has its view. -/
def deleteView (s : Process Player Window Egl) (p : Player) : Process Player Window Egl :=
  if (s.player p).videoView.isSome then s.terminate else s

/-- `_release`; `ANativeWindow_release` of a null window is a crash. -/
def release (s : Process Player Window Egl) (p : Player) : Process Player Window Egl :=
  let s := (s.deleteView p).put p (s.player p).release
  match s.window with
  | none => { s with given := Function.update s.given p none, crashed := true }
  | some win =>
    { s with
      window := none
      references := Function.update s.references win (s.references win - 1)
      given := Function.update s.given p none }

/-- **One call on a player**; after a crash there is nothing. -/
def step (s : Process Player Window Egl) (c : Player × Call Window) : Process Player Window Egl :=
  if s.crashed then s
  else
    match c.2 with
    | .initView surface => s.initView c.1 surface
    | .setDataSource url => s.setDataSource c.1 url
    | .start opened => s.start c.1 opened
    | .frame thread result filled => s.render c.1 thread result filled
    | .release => s.release c.1

/-- A native window and whether it is valid. -/
def validity (s : Process Player Window Egl) (win : Window) : Window × Bool :=
  (win, decide (0 < s.references win))

end Process

/-- **What is seen of a player**: the window it has and the one it renders to, the surface and context
that its threads draw on and the surface it swaps, each with its validity, and its frames. -/
structure Seen (Player Window : Type) where
  crashed : Bool
  window : Option (Window × Bool)
  view : Option (Window × Bool)
  draws : Nat → Option (Target Player Window)
  swaps : Option (Player × Option Window)
  frames : List (Frame Player Window)

/-- Draws and swaps are those of a view that has its texture. -/
def seen {Player Window Egl : Type} [DecidableEq Player] [DecidableEq Window]
    [EglDriver Egl Player Window] (P : Player)
    (s : Process Player Window Egl) : Seen Player Window where
  crashed := s.crashed
  window := (s.player P).window.map s.validity
  view := (s.player P).view.map s.validity
  draws thread := if (s.player P).textured then s.drawsOn (s.player P) thread else none
  swaps := if (s.player P).textured then s.swapsOn else none
  frames := (s.player P).frames

end Xplay.Rendering
