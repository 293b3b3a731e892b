/-
**What each call leaves of the players, of EGL and of `window`.**

* `eglInit_swaps`, `render_swaps` — what `CXEGL::draw` swaps after a set-up and after a first frame.
* `release_eq_none`, `release_eq_some` — `_release` without and with a `window`.
* `step_player_other` — a call on another player leaves the player's own record.
-/

import Xplay.Player.Rendering

set_option linter.unusedSectionVars false

namespace Xplay.Rendering

open EglDriver

variable {Player Window Egl : Type} [DecidableEq Player] [DecidableEq Window]
  [EglDriver Egl Player Window]

/-- The player has the window, or renders to it. -/
def MediaPlayer.Has (m : MediaPlayer Player Window) (win : Window) : Prop :=
  m.window = some win ∨ m.view = some win

/-- The next frame of the player creates its texture. -/
def MediaPlayer.Inits (m : MediaPlayer Player Window) : Prop :=
  m.view ≠ none ∧ m.textured = false

/-- A set-up of EGL that gets this far leaves what `CXEGL::draw` swaps. -/
def XEGL.Spares (x : XEGL Player Window) : EglResult → Prop
  | .noDisplay | .noSurface => x.swaps = none
  | .notInitialized | .noConfig => x.display = true ∨ x.eglSurface = none
  | .noContext | .notCurrent | .current => False

/-- What `CXEGL::draw` swaps after a set-up by player `p`. -/
def XEGL.swapsAfter (x : XEGL Player Window) (p : Player) : EglResult → Option Player
  | .noDisplay | .noSurface => none
  | .notInitialized | .noConfig => x.eglSurface
  | .noContext | .notCurrent | .current => some p

theorem EglDriver.Fewer.refl (e : Egl) : Fewer e e := ⟨fun _ => id, fun _ => id⟩

theorem EglDriver.Fewer.trans {a b c : Egl} (later : Fewer c b) (earlier : Fewer b a) :
    Fewer c a :=
  ⟨fun p none => later.surfaces p (earlier.surfaces p none),
    fun p none => later.contexts p (earlier.contexts p none)⟩

/-- Nothing but EGL and the players differs. -/
structure Process.SameRest (t s : Process Player Window Egl) : Prop where
  window : t.window = s.window
  references : t.references = s.references
  given : t.given = s.given
  crashed : t.crashed = s.crashed

variable {P q p : Player} {s : Process Player Window Egl} {thread : Nat} {win : Window}
  {result : EglResult}

@[simp] theorem put_self (m : MediaPlayer Player Window) : (s.put P m).player P = m :=
  Function.update_self ..

theorem put_other (m : MediaPlayer Player Window) (other : P ≠ q) :
    (s.put q m).player P = s.player P :=
  Function.update_of_ne other ..

@[simp] theorem textured_setRender (m : MediaPlayer Player Window) :
    (m.setRender win).textured = m.textured := by
  unfold MediaPlayer.setRender MediaPlayer.textured
  cases m.videoView <;> rfl

theorem view_setRender {m : MediaPlayer Player Window} (has : m.videoView.isSome = true) :
    (m.setRender win).view = some win := by
  unfold MediaPlayer.setRender MediaPlayer.view
  obtain ⟨v, same⟩ := Option.isSome_iff_exists.mp has
  rw [same]
  rfl

@[simp] theorem view_createTexture (m : MediaPlayer Player Window) :
    m.createTexture.view = m.view := by
  unfold MediaPlayer.createTexture MediaPlayer.view
  cases m.videoView <;> rfl

theorem textured_createTexture {m : MediaPlayer Player Window} (has : m.videoView.isSome = true) :
    m.createTexture.textured = true := by
  unfold MediaPlayer.createTexture MediaPlayer.textured
  obtain ⟨v, same⟩ := Option.isSome_iff_exists.mp has
  rw [same]
  rfl

/-- The view shows what was set last, if there is one. -/
theorem eq_of_view_setRender {m : MediaPlayer Player Window} {w : Window}
    (shows : (m.setRender win).view = some w) : w = win := by
  unfold MediaPlayer.setRender MediaPlayer.view at shows
  cases same : m.videoView with
  | none =>
    rw [same] at shows
    cases shows
  | some v =>
    rw [same] at shows
    exact (Option.some.inj shows).symm

/-- The player has what was set last only. -/
theorem eq_of_has_initView {m : MediaPlayer Player Window} {w : Window}
    (has : (m.initView win).Has w) : w = win := by
  rcases has with window | view
  · exact (Option.some.inj window).symm
  · exact eq_of_view_setRender view

/-- Handing a player the window it has changes nothing. -/
theorem initView_eq_self {m : MediaPlayer Player Window} (window : m.window = some win)
    (view : m.view = some win) : m.initView win = m := by
  obtain ⟨playerState, w, videoView, current, frames⟩ := m
  cases window
  cases videoView with
  | none => cases view
  | some v =>
    obtain ⟨w, texture⟩ := v
    cases view
    rfl

theorem eglInit_player_other (other : P ≠ p) :
    (s.eglInit p thread win result).player P = s.player P := by
  cases result with
  | current => exact Function.update_of_ne other ..
  | _ => rfl

theorem eglInit_rest : (s.eglInit p thread win result).SameRest s := by
  cases result <;> exact ⟨rfl, rfl, rfl, rfl⟩

theorem eglInit_surfaces_other [LawfulEgl Egl] (other : P ≠ p) :
    surfaces (s.eglInit p thread win result).egl P = surfaces s.egl P := by
  have created := LawfulEgl.create_surface_other s.egl win other
  cases result with
  | noContext => exact created
  | notCurrent | current =>
    exact (congrFun (LawfulEgl.create_context_surfaces _ p) P).trans created
  | _ => rfl

theorem eglInit_contexts_other [LawfulEgl Egl] (other : P ≠ p) :
    contexts (s.eglInit p thread win result).egl P = contexts s.egl P := by
  have created := congrFun (LawfulEgl.create_surface_contexts s.egl p win) P
  cases result with
  | noContext => exact created
  | notCurrent | current => exact (LawfulEgl.create_context_other _ other).trans created
  | _ => rfl

theorem eglInit_swaps :
    (s.eglInit p thread win result).xegl.swaps = s.xegl.swapsAfter p result := by
  cases result <;> rfl

/-- What a set-up that gets no surface leaves is swapped as before only if it could be. -/
theorem XEGL.eglSurface_eq_swaps {x : XEGL Player Window} :
    x.eglSurface = x.swaps ↔ x.display = true ∨ x.eglSurface = none := by
  unfold XEGL.swaps
  cases x.display with
  | true => exact ⟨fun _ => Or.inl rfl, fun _ => rfl⟩
  | false => exact ⟨Or.inr, fun h => h.resolve_left Bool.false_ne_true⟩

/-- A set-up that spares what is swapped. -/
theorem XEGL.Spares.swaps_eq (spares : s.xegl.Spares result) :
    (s.eglInit p thread win result).xegl.swaps = s.xegl.swaps := by
  rw [eglInit_swaps]
  cases result with
  | noDisplay => exact Eq.symm spares
  | noSurface => exact Eq.symm spares
  | notInitialized => exact XEGL.eglSurface_eq_swaps.mpr spares
  | noConfig => exact XEGL.eglSurface_eq_swaps.mpr spares
  | noContext => exact spares.elim
  | notCurrent => exact spares.elim
  | current => exact spares.elim

@[simp] theorem terminate_swaps : s.terminate.xegl.swaps = none := by
  unfold Process.terminate
  cases s.xegl.eglContext with
  | none => exact ite_self _
  | some context => rfl

theorem fewer_destroySurface [LawfulEgl Egl] (e : Egl) (eglSurface : Option Player) :
    Fewer (Process.destroySurface e eglSurface) e := by
  cases eglSurface with
  | none => exact .refl e
  | some surface => exact LawfulEgl.destroy_surface e surface

/-- **Termination makes nothing valid.** -/
theorem fewer_terminate [LawfulEgl Egl] : Fewer s.terminate.egl s.egl := by
  have destroyed := fewer_destroySurface s.egl s.xegl.eglSurface
  unfold Process.terminate
  cases s.xegl.eglContext with
  | none =>
    cases s.xegl.display with
    | true => exact destroyed
    | false => exact .refl s.egl
  | some context =>
    cases s.xegl.display with
    | true =>
      exact ((LawfulEgl.terminate _).trans (LawfulEgl.destroy_context _ context)).trans destroyed
    | false => exact .refl s.egl

@[simp] theorem terminate_player : s.terminate.player = s.player := by
  unfold Process.terminate
  cases s.xegl.eglContext <;> rfl

theorem terminate_rest : s.terminate.SameRest s := by
  unfold Process.terminate
  cases s.xegl.eglContext <;> exact ⟨rfl, rfl, rfl, rfl⟩

theorem deleteView_rest : (s.deleteView q).SameRest s := by
  unfold Process.deleteView
  split_ifs
  · exact terminate_rest
  · exact ⟨rfl, rfl, rfl, rfl⟩

@[simp] theorem deleteView_player : (s.deleteView q).player = s.player := by
  unfold Process.deleteView
  split_ifs
  · exact terminate_player
  · rfl

/-- `_release` without a `window`. -/
theorem release_eq_none (window : s.window = none) :
    s.release q =
      { (s.deleteView q).put q (s.player q).release with
        given := Function.update (s.deleteView q).given q none
        crashed := true } := by
  have same : ((s.deleteView q).put q (s.player q).release).window = none :=
    deleteView_rest.window.trans window
  simp only [Process.release, same]
  rfl

/-- `_release` with a `window`. -/
theorem release_eq_some (window : s.window = some win) :
    s.release q =
      { (s.deleteView q).put q (s.player q).release with
        window := none
        references := Function.update s.references win (s.references win - 1)
        given := Function.update (s.deleteView q).given q none } := by
  have same : ((s.deleteView q).put q (s.player q).release).window = some win :=
    deleteView_rest.window.trans window
  have references : ((s.deleteView q).put q (s.player q).release).references = s.references :=
    deleteView_rest.references
  simp only [Process.release, same, references]
  rfl

theorem release_player : (s.release q).player = Function.update s.player q (s.player q).release := by
  have put : ((s.deleteView q).put q (s.player q).release).player =
      Function.update s.player q (s.player q).release := by
    unfold Process.put
    rw [deleteView_player]
  cases window : s.window with
  | none => rw [release_eq_none window, put]
  | some win => rw [release_eq_some window, put]

theorem release_given : (s.release q).given q = none := by
  cases window : s.window with
  | none =>
    rw [release_eq_none window]
    exact Function.update_self ..
  | some win =>
    rw [release_eq_some window]
    exact Function.update_self ..

theorem release_window : (s.release q).window = none := by
  cases window : s.window with
  | none =>
    rw [release_eq_none window]
    exact deleteView_rest.window.trans window
  | some win => rw [release_eq_some window]

theorem release_xegl : (s.release q).xegl = (s.deleteView q).xegl := by
  cases window : s.window with
  | none =>
    rw [release_eq_none window]
    rfl
  | some win =>
    rw [release_eq_some window]
    rfl

/-- A null `window` is a crash. -/
theorem release_crashed : (s.release q).crashed = (s.crashed || s.window.isNone) := by
  cases window : s.window with
  | none =>
    rw [release_eq_none window]
    exact (Bool.or_true _).symm
  | some win =>
    rw [release_eq_some window]
    exact deleteView_rest.crashed.trans (Bool.or_false _).symm

/-- A set-up changes of the player only what is current on its threads. -/
theorem eglInit_player_self {thread : Nat} {win : Window} {result : EglResult} :
    (s.eglInit P thread win result).player P =
      { s.player P with
        current := if result = .current
          then Function.update (s.player P).current thread (some (P, P))
          else (s.player P).current } := by
  cases result with
  | current => exact Function.update_self ..
  | _ => rfl

/-- The player renders to a window only while it has a view. -/
theorem isSome_of_view {m : MediaPlayer Player Window} {win : Window} (view : m.view = some win) :
    m.videoView.isSome = true := by
  obtain ⟨v, same, -⟩ := Option.bind_eq_some_iff.mp view
  rw [same]
  rfl

/-- A `setDataSource` that finds the player's own window, or none, only stores the url. -/
theorem setDataSource_eq {url : String} (state : (s.player P).playerState ≠ none)
    (own : ∀ win, s.window = some win →
      (s.player P).window = some win ∧ (s.player P).view = some win) :
    s.setDataSource P url = s.put P { s.player P with playerState := some url } := by
  unfold Process.setDataSource
  cases found : (s.player P).playerState with
  | none => exact absurd found state
  | some old =>
    cases window : s.window with
    | none => rfl
    | some win =>
      obtain ⟨same, view⟩ := own win window
      have kept := initView_eq_self
        (show ({ s.player P with playerState := some url } : MediaPlayer Player Window).window =
          some win from same) view
      exact congrArg (s.put P) kept

/-- What `setDataSource` leaves the player with, when it finds a window. -/
theorem setDataSource_windows (url : String) {win : Window}
    (state : (s.player P).playerState ≠ none) (isSome : (s.player P).videoView.isSome = true)
    (window : s.window = some win) :
    ((s.setDataSource P url).player P).window = some win ∧
      ((s.setDataSource P url).player P).view = some win := by
  obtain ⟨old, found⟩ := Option.ne_none_iff_exists'.mp state
  simp only [Process.setDataSource, found, window, put_self]
  exact ⟨rfl, view_setRender isSome⟩

/-- What a first frame leaves: its drawing changes nothing of what `CXEGL::init` set up. -/
theorem render_swaps (thread : Nat) (result : EglResult) (filled : Bool)
    (inits : (s.player q).Inits) :
    (s.render q thread result filled).xegl.swaps = s.xegl.swapsAfter q result ∧
      ((s.render q thread result filled).player q).textured = true := by
  obtain ⟨viewed, untextured⟩ := inits
  cases view : (s.player q).view with
  | none => exact absurd view viewed
  | some win =>
    have swaps : (s.createTexture q thread win result).xegl.swaps = s.xegl.swapsAfter q result :=
      eglInit_swaps
    have textured : ((s.createTexture q thread win result).player q).textured = true := by
      unfold Process.createTexture
      rw [eglInit_player_self, put_self]
      exact textured_createTexture (isSome_of_view view)
    simp only [Process.render, view, untextured, Bool.false_eq_true, if_false]
    cases filled with
    | false => exact ⟨swaps, textured⟩
    | true =>
      refine ⟨swaps, ?_⟩
      show ((Process.put _ q _).player q).textured = true
      rw [put_self]
      exact textured

/-- A call on another player leaves the player's own record. -/
theorem step_player_other (s : Process Player Window Egl) (other : P ≠ q) (call : Call Window) :
    (s.step (q, call)).player P = s.player P := by
  have put (u : Process Player Window Egl) (m : MediaPlayer Player Window) :
      (u.put q m).player P = u.player P := Rendering.put_other m other
  unfold Process.step
  split_ifs
  · rfl
  · cases call with
    | initView surface =>
      cases surface with
      | none => rfl
      | some win => exact put s _
    | setDataSource url =>
      simp only [Process.setDataSource]
      split
      next => rfl
      next => split <;> exact put s _
    | start opened =>
      simp only [Process.start]
      split
      next => rfl
      next =>
        split_ifs
        · rfl
        · split
          next => rfl
          next => exact put s _
    | frame thread result filled =>
      have texture (win : Window) :
          (s.createTexture q thread win result).player P = s.player P :=
        (eglInit_player_other other).trans (put s _)
      simp only [Process.render]
      split
      next => rfl
      next win _ =>
        split_ifs
        · exact put s _
        · exact (put _ _).trans (texture win)
        · rfl
        · exact texture win
    | release =>
      show (s.release q).player P = s.player P
      rw [release_player, Function.update_of_ne other]

end Xplay.Rendering
