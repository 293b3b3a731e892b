/-
**Who gives a native window back.**

`ANativeWindow_fromSurface` takes a reference, `initView` stores the window in the one global that all
players share, and `release` gives back the reference of the window that it finds there.

* `windows_balanced_iff` — **every native window is referenced exactly while `window` names it**, in a
  run of calls on any players, exactly if every `initView` finds no window there.
-/

import Xplay.Player.RenderCalls
import Xplay.Lib.Fate

set_option linter.unusedSectionVars false

namespace Xplay.Rendering

open Lib

variable {Player Window Egl : Type} [DecidableEq Player] [DecidableEq Window]
  [EglDriver Egl Player Window]

namespace Process

/-- The calls on the players, until one crashes. -/
def system : System (Process Player Window Egl) (Player × Call Window) :=
  ⟨fun s c => if s.crashed then none else some (s.step c)⟩

/-- **One reference for the window that is stored**, and none for any other. -/
def Balanced (s : Process Player Window Egl) : Prop :=
  ∀ win, s.references win = if s.window = some win then 1 else 0

/-- `initView` finds no window. -/
def FindsNone (s : Process Player Window Egl) (c : Player × Call Window) : Prop :=
  ∀ surface, c.2 = .initView surface → s.window = none

variable {s t : Process Player Window Egl} {p : Player}

/-- **The windows of two states are the same.** -/
def SameWindows (t s : Process Player Window Egl) : Prop :=
  t.window = s.window ∧ t.references = s.references

theorem Balanced.of_same (balanced : s.Balanced) (same : t.SameWindows s) : t.Balanced := by
  intro win
  rw [same.1, same.2]
  exact balanced win

theorem render_windows (thread : Nat) (result : EglResult) (filled : Bool) :
    (s.render p thread result filled).SameWindows s := by
  unfold render
  cases (s.player p).view with
  | none => exact ⟨rfl, rfl⟩
  | some win =>
    have created : (if (s.player p).textured then s
        else s.createTexture p thread win result).SameWindows s := by
      split_ifs
      · exact ⟨rfl, rfl⟩
      · have init : (s.createTexture p thread win result).SameRest
            (s.put p (s.player p).createTexture) := eglInit_rest
        exact ⟨init.window, init.references⟩
    cases filled
    · exact created
    · exact created

theorem setDataSource_same (url : String) : (s.setDataSource p url).SameWindows s := by
  unfold setDataSource
  split
  · exact ⟨rfl, rfl⟩
  · split <;> exact ⟨rfl, rfl⟩

theorem start_same (opened : Bool) : (s.start p opened).SameWindows s := by
  unfold start
  cases (s.player p).playerState with
  | none => exact ⟨rfl, rfl⟩
  | some url =>
    dsimp only
    split_ifs
    · exact ⟨rfl, rfl⟩
    · cases (s.player p).window <;> exact ⟨rfl, rfl⟩

/-- **`release` gives back what is stored**, if something is. -/
theorem Balanced.release (balanced : s.Balanced) : (s.release p).Balanced := by
  cases stored : s.window with
  | none =>
    refine balanced.of_same ⟨release_window.trans stored.symm, ?_⟩
    rw [release_eq_none stored]
    exact deleteView_rest.references
  | some win =>
    intro other
    rw [release_eq_some stored]
    dsimp only
    rw [if_neg nofun]
    by_cases same : other = win
    · subst same
      rw [Function.update_self, balanced other, if_pos stored]
    · rw [Function.update_of_ne same, balanced other, if_neg]
      rw [stored]
      exact fun named => same (Option.some.inj named).symm

/-- **`initView` stores its window beside none**, or in the place of one that keeps its reference. -/
theorem initView_fate (balanced : s.Balanced) (surface : Option Window) :
    Fate (s.window = none) (s.initView p surface).Balanced (s.initView p surface).Balanced := by
  cases stored : s.window with
  | none =>
    refine .of_sound rfl ?_
    cases surface with
    | none => exact balanced.of_same ⟨stored.symm, rfl⟩
    | some win =>
      intro other
      unfold initView
      dsimp only
      by_cases same : other = win
      · subst same
        rw [Function.update_self, balanced other, if_pos rfl, if_neg (by rw [stored]; exact nofun)]
      · rw [Function.update_of_ne same, balanced other, if_neg (by rw [stored]; exact nofun),
          if_neg fun named => same (Option.some.inj named).symm]
  | some old =>
    refine .of_broken nofun fun after => ?_
    have before := balanced old
    rw [if_pos stored] at before
    cases surface with
    | none => exact nomatch before.symm.trans (after old)
    | some win =>
      have twice := after old
      unfold initView at twice
      dsimp only at twice
      by_cases same : old = win
      · subst same
        rw [Function.update_self, before, if_pos rfl] at twice
        cases twice
      · rw [Function.update_of_ne same, before,
          if_neg fun named => same (Option.some.inj named).symm] at twice
        cases twice

theorem balanced_fate (balanced : s.Balanced) (c : Player × Call Window)
    (step : system.next s c = some t) : Fate (s.FindsNone c) t.Balanced t.Balanced := by
  obtain ⟨p, call⟩ := c
  dsimp only [system] at step
  split_ifs at step with crashed
  cases step
  unfold Process.step
  rw [if_neg crashed]
  cases call with
  | initView surface =>
    have finds : s.FindsNone (p, .initView surface) ↔ s.window = none :=
      ⟨fun finds => finds surface rfl, fun none _ _ => none⟩
    have fate := initView_fate (p := p) balanced surface
    exact ⟨fun kept => fate.keeps (finds.mp kept),
      fun not => fate.breaks fun none => not (finds.mpr none)⟩
  | setDataSource url => exact .of_sound nofun (balanced.of_same (setDataSource_same url))
  | start opened => exact .of_sound nofun (balanced.of_same (start_same opened))
  | frame thread result filled =>
    exact .of_sound nofun (balanced.of_same (render_windows thread result filled))
  | release => exact .of_sound nofun balanced.release

/-- **The references of a run are balanced throughout exactly if every `initView` finds no window.** -/
theorem windows_balanced_iff (window : Player → Option Window) (calls : List (Player × Call Window)) :
    system.Steps (fun _ _ t => t.Balanced) (constructed window : Process Player Window Egl) calls ↔
      system.Steps (fun s c _ => s.FindsNone c) (constructed window : Process Player Window Egl)
        calls := by
  have start : (constructed window : Process Player Window Egl).Balanced := fun _ => rfl
  exact system.steps_iff_of_fate (fun _ balanced => balanced)
    (fun _ c _ balanced step => balanced_fate balanced c step) start calls

end Process

end Xplay.Rendering
