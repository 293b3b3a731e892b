/-
**When the calls on other players do not show in what is seen of a player.**

* `Related.others_of_seen`, `Related.own_of_seen` — a call that does not meet the condition shows at
  once.
* `isolated_iff` — **in exactly the interleavings whose calls meet the condition, `P` is seen as in the
  run without the calls on all other players.**
-/

import Xplay.Player.RelatedRuns

set_option linter.unusedSectionVars false

namespace Xplay.Rendering

open Lib

variable {Player Window Egl : Type} [DecidableEq Player] [DecidableEq Window]
  [EglDriver Egl Player Window]
  {P q : Player} {s s' : Process Player Window Egl}

section Shows

variable {t t' : Process Player Window Egl}

/-- The windows that are seen are those of the player. -/
theorem windows_of_seen (same : seen P t = seen P t') :
    (t.player P).window = (t'.player P).window ∧ (t.player P).view = (t'.player P).view := by
  have fst (u : Process Player Window Egl) (w : Option Window) :
      (w.map u.validity).map Prod.fst = w := by
    cases w <;> rfl
  have window := congrArg (fun o => Option.map Prod.fst o.window) same
  have view := congrArg (fun o => Option.map Prod.fst o.view) same
  exact ⟨(fst t _).symm.trans (window.trans (fst t' _)),
    (fst t _).symm.trans (view.trans (fst t' _))⟩

/-- The validity that is seen is that of the player's windows. -/
theorem valid_of_seen (same : seen P t = seen P t') {win : Window}
    (has : (t.player P).Has win) : 0 < t.references win ↔ 0 < t'.references win := by
  obtain ⟨windows, views⟩ := windows_of_seen same
  have shows (w : Option Window) (found : w = some win)
      (agree : w.map t.validity = w.map t'.validity) :
      0 < t.references win ↔ 0 < t'.references win := by
    subst found
    exact decide_eq_decide.mp (congrArg Prod.snd (Option.some.inj agree))
  rcases has with window | view
  · refine shows _ window ?_
    have agree := congrArg Seen.window same
    dsimp only [seen] at agree
    rwa [← windows] at agree
  · refine shows _ view ?_
    have agree := congrArg Seen.view same
    dsimp only [seen] at agree
    rwa [← views] at agree

/-- The surface that is seen is the one that is swapped. -/
theorem swaps_of_seen (same : seen P t = seen P t') (textured : (t.player P).textured = true)
    (textured' : (t'.player P).textured = true) : t.xegl.swaps = t'.xegl.swaps := by
  have fst (u : Process Player Window Egl) : u.swapsOn.map Prod.fst = u.xegl.swaps := by
    unfold Process.swapsOn
    cases u.xegl.swaps <;> rfl
  have agree := congrArg Seen.swaps same
  dsimp only [seen] at agree
  rw [if_pos textured, if_pos textured'] at agree
  rw [← fst, ← fst, agree]

theorem crashed_of_seen (same : seen P t = seen P t') : t.crashed = t'.crashed :=
  congrArg Seen.crashed same

end Shows

/-- **A call on another player that is not seen meets the condition.** -/
theorem Related.others_of_seen (related : Related P s s') (other : P ≠ q) {call : Call Window}
    (running : s.crashed = false) (same : seen P (s.step (q, call)) = seen P s) :
    Others P q s call := by
  have player := step_player_other s other call
  have crashed := (crashed_of_seen same).trans running
  have valid {win : Window} (has : (s.player P).Has win) :
      0 < (s.step (q, call)).references win ↔ 0 < s.references win :=
    (valid_of_seen same.symm has).symm
  have swaps (textured : (s.player P).textured = true) :
      (s.step (q, call)).xegl.swaps = s.xegl.swaps :=
    swaps_of_seen same (by rwa [player]) textured
  unfold Process.step at crashed valid swaps
  rw [if_neg (by rw [running]; exact Bool.false_ne_true)] at crashed valid swaps
  cases call with
  | initView surface =>
    cases surface with
    | none => trivial
    | some win =>
      intro revived has
      have gone : 0 < s.references win := (valid has).mp (by
        show 0 < Function.update s.references win (s.references win + 1) win
        rw [Function.update_self]
        exact Nat.succ_pos _)
      omega
  | setDataSource url =>
    intro state
    simp only [Process.setDataSource, state] at crashed
    cases crashed
  | start opened =>
    intro state
    simp only [Process.start, state] at crashed
    cases crashed
  | frame thread result filled =>
    intro inits textured
    have after : s.xegl.swapsAfter q result = s.xegl.swaps :=
      (render_swaps thread result filled inits).1.symm.trans (swaps textured)
    have own := (related.textured textured).own
    cases result with
    | noDisplay => exact after.symm
    | noSurface => exact after.symm
    | notInitialized => exact XEGL.eglSurface_eq_swaps.mp after
    | noConfig => exact XEGL.eglSurface_eq_swaps.mp after
    | noContext => exact other (own q after.symm).symm
    | notCurrent => exact other (own q after.symm).symm
    | current => exact other (own q after.symm).symm
  | release =>
    refine ⟨fun viewed textured => ?_, ?_⟩
    · have terminated : (s.release q).xegl.swaps = none := by
        rw [release_xegl]
        unfold Process.deleteView
        rw [if_pos (Option.isSome_iff_ne_none.mpr viewed), terminate_swaps]
      exact (swaps textured).symm.trans terminated
    · have window : s.window ≠ none := by
        intro null
        simp only [release_crashed, null, Option.isNone_none, Bool.or_true] at crashed
        cases crashed
      obtain ⟨win, window⟩ := Option.ne_none_iff_exists'.mp window
      refine ⟨win, window, fun last has => ?_⟩
      have still := (valid has).mpr (by omega)
      simp only [release_eq_some window, Function.update_self] at still
      omega

/-- **A call on the player that is seen as in the run of its own calls meets the condition.** -/
theorem Related.own_of_seen (related : Related P s s') {call : Call Window}
    (running : s.crashed = false)
    (same : seen P (s.step (P, call)) = seen P (s'.step (P, call))) : Own P s call := by
  have running' : s'.crashed = false := related.crashed.symm.trans running
  unfold Process.step at same
  rw [if_neg (by rw [running]; exact Bool.false_ne_true),
    if_neg (by rw [running']; exact Bool.false_ne_true)] at same
  cases call with
  | initView surface => trivial
  | start opened => trivial
  | setDataSource url =>
    intro state win window
    have isSome : (s.player P).videoView.isSome = true := by
      rw [← related.built.view]
      exact Option.isSome_iff_ne_none.mpr state
    have state' : (s'.player P).playerState ≠ none := related.player ▸ state
    have isSome' : (s'.player P).videoView.isSome = true := related.player ▸ isSome
    have here := setDataSource_windows url state isSome window
    have agree := windows_of_seen same
    cases given : s.given P with
    | some w =>
      -- the run alone hands on the player's own window
      have there := setDataSource_windows url state' isSome'
        (related.window.trans given)
      cases here.1.symm.trans (agree.1.trans there.1)
      exact related.built.given state win given
    | none =>
      have alone : s'.setDataSource P url =
          s'.put P { s'.player P with playerState := some url } :=
        setDataSource_eq state' fun w found => by
          rw [related.window, given] at found
          cases found
      simp only [alone, put_self, ← related.player] at agree
      exact ⟨agree.1.symm.trans here.1, agree.2.symm.trans here.2⟩
  | frame thread result filled =>
    intro inits failed
    have inits' : (s'.player P).Inits := related.player ▸ inits
    obtain ⟨win, view⟩ := Option.ne_none_iff_exists'.mp inits.1
    have bare := related.bare (isSome_of_view view) inits.2
    obtain ⟨swaps, textured⟩ := render_swaps thread result filled inits
    obtain ⟨swaps', textured'⟩ := render_swaps thread result filled inits'
    have agree := swaps.symm.trans ((swaps_of_seen same textured textured').trans swaps')
    rcases failed with rfl | rfl
    · exact agree.trans bare.eglSurface
    · exact agree.trans bare.eglSurface
  | release =>
    have crashed := crashed_of_seen same
    simp only [release_crashed, running, running', Bool.false_or] at crashed
    show s.window = none ↔ s.given P = none
    rw [← related.window, ← Option.isNone_iff_eq_none, ← Option.isNone_iff_eq_none, crashed]

/-- **After a call, equally seen processes are those whose call met the condition.** -/
theorem seen_iff_meets [LawfulEgl Egl] (related : Related P s s') (c : Player × Call Window) :
    seen P (s.step c) = seen P (s'.alone P c) ↔ Meets P s c := by
  constructor
  · intro same running
    obtain ⟨q, call⟩ := c
    by_cases self : q = P
    · subst self
      rw [if_pos rfl]
      rw [alone_own] at same
      exact related.own_of_seen running same
    · rw [if_neg self]
      rw [alone_other (Ne.symm self), ← related.seen_eq] at same
      exact related.others_of_seen (Ne.symm self) running same
  · intro meets
    exact (related_step related c meets).seen_eq

/-- **A player is seen as in the run without the calls on all other players in exactly the
interleavings whose every call meets the condition.** -/
theorem isolated_iff [LawfulEgl Egl] (P : Player) (window : Player → Option Window)
    (calls : List (Player × Call Window)) :
    TwoRuns.Unaffected Process.step (fun c => decide (c.1 = P)) (seen P)
        (Process.constructed window : Process Player Window Egl) calls ↔
      TwoRuns.Always Process.step (Meets P) (Process.constructed window : Process Player Window Egl)
        calls :=
  TwoRuns.unaffected_iff (R := Related P) (fun _ _ related => related.seen_eq)
    (fun _ _ c related => seen_iff_meets related c)
    (fun _ _ c related meets => related_step related c meets)
    (related_constructed P window) calls

/-- Player 0 renders to its window, and player 1 is started without one. -/
theorem isolated_started :
    TwoRuns.Unaffected Process.step (fun c => decide (c.1 = 0)) (seen 0)
      (Process.constructed (fun _ => none) : Process (Fin 2) Nat (EglObjects (Fin 2) Nat))
      [(0, .initView (some 10)), (1, .start true), (0, .start true)] := by
  refine (isolated_iff 0 _ _).mpr ?_
  refine TwoRuns.always_cons.mpr ⟨fun _ => trivial, ?_⟩
  refine TwoRuns.always_cons.mpr ⟨fun _ => Option.some_ne_none _, ?_⟩
  exact TwoRuns.always_cons.mpr ⟨fun _ => trivial, TwoRuns.always_nil _ _⟩

/-- Players 0 and 1 on windows 10 and 11: after the first frame of player 1, `CXEGL::draw` on a thread
of player 0 swaps the surface of player 1. -/
theorem isolation_fails :
    ¬ TwoRuns.Unaffected Process.step (fun c => decide (c.1 = 0)) (seen 0)
      (Process.constructed (fun _ => none) : Process (Fin 2) Nat (EglObjects (Fin 2) Nat))
      [(0, .initView (some 10)), (0, .setDataSource "a"), (0, .start true),
        (0, .frame 0 .current true), (1, .initView (some 11)), (1, .setDataSource "b"),
        (1, .start true), (1, .frame 0 .current true)] := by
  intro unaffected
  have swaps := congrArg Seen.swaps (unaffected _ (List.prefix_refl _))
  revert swaps
  decide

end Xplay.Rendering
