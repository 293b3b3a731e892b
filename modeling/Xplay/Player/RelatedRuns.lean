/-
**The run of all calls beside the run of the calls on one player.**

`Related` relates a process to the one in which only the calls on player `P` were made: `P` is in the
same state in both, its windows are valid in both or in neither, and once its view has created the
texture, the surface that `CXEGL::draw` swaps is the same and the player's own or none.

* `Own`, `Others` — the condition on a call on `P`, and on any other player.
* `Related.seen_eq` — in related processes the same is seen of `P`.
* `related_step` — a call that meets the condition keeps the relation.
-/

import Xplay.Lib.TwoRuns
import Xplay.Player.RenderCalls

set_option linter.unusedSectionVars false

namespace Xplay.Rendering

open Lib EglDriver

variable {Player Window Egl : Type} [DecidableEq Player] [DecidableEq Window]
  [EglDriver Egl Player Window]

/-- **The condition on a call on the player**: `setDataSource` finds in `window` the player's own or
none, a set-up that fails before it has a surface finds none of another player's, and `release` finds
`window` as the player left it, as far as it is null. -/
def Own (P : Player) (s : Process Player Window Egl) : Call Window → Prop
  | .setDataSource _ => (s.player P).playerState ≠ none → ∀ win, s.window = some win →
      (s.player P).window = some win ∧ (s.player P).view = some win
  | .frame _ result _ => (s.player P).Inits → result = .notInitialized ∨ result = .noConfig →
      s.xegl.eglSurface = none
  | .release => s.window = none ↔ s.given P = none
  | _ => True

/-- **The condition on a call on another player**: it does not crash, revives no window the player
still has and releases none of its last references; and while the player has a texture, no first frame
sets EGL up and no view is deleted unless there is nothing to swap. -/
def Others (P q : Player) (s : Process Player Window Egl) : Call Window → Prop
  | .initView none => True
  | .initView (some win) => s.references win = 0 → ¬ (s.player P).Has win
  | .setDataSource _ | .start _ => (s.player q).playerState ≠ none
  | .frame _ result _ => (s.player q).Inits → (s.player P).textured = true → s.xegl.Spares result
  | .release =>
    ((s.player q).videoView ≠ none → (s.player P).textured = true → s.xegl.swaps = none) ∧
      ∃ win, s.window = some win ∧ (s.references win = 1 → ¬ (s.player P).Has win)

/-- The condition on a call; after a crash there is none. -/
def Meets (P : Player) (s : Process Player Window Egl) (c : Player × Call Window) : Prop :=
  s.crashed = false → if c.1 = P then Own P s c.2 else Others P c.1 s c.2

/-! ### The two runs -/

/-- The view has its texture: EGL swaps the same in both runs, the player's own surface or none. -/
structure SameEgl (P : Player) (s s' : Process Player Window Egl) : Prop where
  swaps : s.xegl.swaps = s'.xegl.swaps
  own : ∀ surface, s.xegl.swaps = some surface → surface = P
  surface : surfaces s.egl P = surfaces s'.egl P
  context : contexts s.egl P = contexts s'.egl P
  nothing : s.xegl.swaps = none → surfaces s.egl P = none ∧ contexts s.egl P = false

/-- The view has no texture yet: nothing is valid of the player, and alone it has made nothing. -/
structure NoEgl (P : Player) (s s' : Process Player Window Egl) : Prop where
  surface : surfaces s.egl P = none
  context : contexts s.egl P = false
  surfaceAlone : surfaces s'.egl P = none
  contextAlone : contexts s'.egl P = false
  eglSurface : s'.xegl.eglSurface = none

/-- What holds of the player in every run. -/
structure Built (P : Player) (s : Process Player Window Egl) : Prop where
  view : (s.player P).playerState.isSome = (s.player P).videoView.isSome
  current : ∀ thread b, (s.player P).current thread = some b → b = (P, P)
  given : (s.player P).playerState ≠ none → ∀ win, s.given P = some win →
    (s.player P).window = some win ∧ (s.player P).view = some win

/-- **The relation between the run `s` and the run `s'` of the calls on `P` alone.** -/
structure Related (P : Player) (s s' : Process Player Window Egl) : Prop where
  crashed : s.crashed = s'.crashed
  player : s.player P = s'.player P
  valid : ∀ win, (s.player P).Has win → (0 < s.references win ↔ 0 < s'.references win)
  window : s'.window = s.given P
  built : Built P s
  textured : (s.player P).textured = true → SameEgl P s s'
  bare : (s.player P).videoView.isSome = true → (s.player P).textured = false → NoEgl P s s'

theorem related_constructed [LawfulEgl Egl] (P : Player) (window : Player → Option Window) :
    Related P (Process.constructed window : Process Player Window Egl)
      (Process.constructed window) where
  crashed := rfl
  player := rfl
  valid _ _ := Iff.rfl
  window := rfl
  built :=
    { view := rfl
      current := fun thread b none => by cases none
      given := fun _ win none => by cases none }
  textured none := by cases none
  bare _ _ :=
    { surface := LawfulEgl.uninitialized_surfaces P
      context := LawfulEgl.uninitialized_contexts P
      surfaceAlone := LawfulEgl.uninitialized_surfaces P
      contextAlone := LawfulEgl.uninitialized_contexts P
      eglSurface := rfl }

variable {P q : Player} {s s' : Process Player Window Egl}

theorem SameEgl.congr {t t' : Process Player Window Egl} (same : SameEgl P s s')
    (xegl : t.xegl = s.xegl) (egl : t.egl = s.egl) (xegl' : t'.xegl = s'.xegl)
    (egl' : t'.egl = s'.egl) : SameEgl P t t' := by
  obtain ⟨swaps, own, surface, context, nothing⟩ := same
  constructor <;> simpa only [xegl, egl, xegl', egl']

theorem NoEgl.congr {t t' : Process Player Window Egl} (bare : NoEgl P s s') (egl : t.egl = s.egl)
    (xegl' : t'.xegl = s'.xegl) (egl' : t'.egl = s'.egl) : NoEgl P t t' := by
  obtain ⟨surface, context, surfaceAlone, contextAlone, eglSurface⟩ := bare
  constructor <;> simpa only [egl, xegl', egl']

/-- A textured view draws and swaps the same in both runs. -/
theorem Related.drawsOn_eq (related : Related P s s') (textured : (s.player P).textured = true)
    (thread : Nat) : s.drawsOn (s.player P) thread = s'.drawsOn (s.player P) thread := by
  have egl := related.textured textured
  refine Option.map_congr fun b member => ?_
  cases related.built.current thread b member
  rw [egl.surface, egl.context]

theorem Related.swapsOn_eq (related : Related P s s') (textured : (s.player P).textured = true) :
    s.swapsOn = s'.swapsOn := by
  have egl := related.textured textured
  simp only [Process.swapsOn, ← egl.swaps]
  refine Option.map_congr fun surface member => ?_
  cases egl.own surface member
  rw [egl.surface]

/-- **Related processes look the same.** -/
theorem Related.seen_eq (related : Related P s s') : seen P s = seen P s' := by
  have validity (win : Window) (has : (s.player P).Has win) : s.validity win = s'.validity win := by
    simp only [Process.validity]
    rw [decide_eq_decide.mpr (related.valid win has)]
  have window : (s.player P).window.map s.validity = (s.player P).window.map s'.validity :=
    Option.map_congr fun win member => validity win (Or.inl member)
  have view : (s.player P).view.map s.validity = (s.player P).view.map s'.validity :=
    Option.map_congr fun win member => validity win (Or.inr member)
  have draws (thread : Nat) :
      (if (s.player P).textured then s.drawsOn (s.player P) thread else none) =
        if (s.player P).textured then s'.drawsOn (s.player P) thread else none := by
    split_ifs with textured
    · exact related.drawsOn_eq textured thread
    · rfl
  have swaps : (if (s.player P).textured then s.swapsOn else none) =
      if (s.player P).textured then s'.swapsOn else none := by
    split_ifs with textured
    · exact related.swapsOn_eq textured
    · rfl
  unfold seen
  rw [← related.player, related.crashed, window, view, swaps]
  simp only [draws]

/-! ### Calls on another player -/

/-- **The transfer rule**: a step that leaves the player, what it gave and the validity of its windows
keeps the relation, as far as EGL goes along. -/
theorem Related.transfer {t : Process Player Window Egl} (related : Related P s s')
    (crashed : t.crashed = s.crashed) (player : t.player P = s.player P)
    (given : t.given P = s.given P)
    (valid : ∀ win, (s.player P).Has win → (0 < t.references win ↔ 0 < s.references win))
    (textured : (s.player P).textured = true → SameEgl P t s')
    (bare : (s.player P).videoView.isSome = true → (s.player P).textured = false →
      NoEgl P t s') : Related P t s' where
  crashed := crashed.trans related.crashed
  player := player.trans related.player
  valid win has := by
    rw [player] at has
    exact (valid win has).trans (related.valid win has)
  window := by
    rw [given]
    exact related.window
  built :=
    { view := by
        rw [player]
        exact related.built.view
      current := by
        rw [player]
        exact related.built.current
      given := by
        rw [player, given]
        exact related.built.given }
  textured := by
    rw [player]
    exact textured
  bare := by
    rw [player]
    exact bare

/-- A step that leaves EGL alone. -/
theorem Related.transfer_same {t : Process Player Window Egl} (related : Related P s s')
    (crashed : t.crashed = s.crashed) (player : t.player P = s.player P)
    (given : t.given P = s.given P)
    (valid : ∀ win, (s.player P).Has win → (0 < t.references win ↔ 0 < s.references win))
    (xegl : t.xegl = s.xegl) (egl : t.egl = s.egl) : Related P t s' := by
  refine related.transfer crashed player given valid (fun has => ?_) (fun isSome has => ?_)
  · exact (related.textured has).congr xegl egl rfl rfl
  · exact (related.bare isSome has).congr egl rfl rfl

theorem Related.put_other (related : Related P s s') (other : P ≠ q)
    (m : MediaPlayer Player Window) : Related P (s.put q m) s' :=
  related.transfer_same rfl (Rendering.put_other m other) rfl (fun _ _ => Iff.rfl) rfl rfl

/-- Another player sets EGL up. -/
theorem Related.eglInit_other [LawfulEgl Egl] (related : Related P s s') (other : P ≠ q)
    {thread : Nat}
    {win : Window} {result : EglResult}
    (spares : (s.player P).textured = true → s.xegl.Spares result) :
    Related P (s.eglInit q thread win result) s' := by
  have surfaces : surfaces (s.eglInit q thread win result).egl P = surfaces s.egl P :=
    eglInit_surfaces_other other
  have contexts : contexts (s.eglInit q thread win result).egl P = contexts s.egl P :=
    eglInit_contexts_other other
  refine related.transfer eglInit_rest.crashed (eglInit_player_other other)
    (by rw [eglInit_rest.given]) (fun win _ => by rw [eglInit_rest.references])
    (fun textured => ?_) (fun isSome textured => ?_)
  · have same := related.textured textured
    have swaps : (s.eglInit q thread win result).xegl.swaps = s.xegl.swaps :=
      (spares textured).swaps_eq
    exact ⟨by rw [swaps]; exact same.swaps, by rw [swaps]; exact same.own,
      by rw [surfaces]; exact same.surface, by rw [contexts]; exact same.context,
      by rw [swaps, surfaces, contexts]; exact same.nothing⟩
  · have none := related.bare isSome textured
    exact ⟨by rw [surfaces]; exact none.surface, by rw [contexts]; exact none.context,
      none.surfaceAlone, none.contextAlone, none.eglSurface⟩

/-- The first frame of another player. -/
theorem Related.createTexture_other [LawfulEgl Egl] (related : Related P s s') (other : P ≠ q)
    {thread : Nat}
    {win : Window} {result : EglResult}
    (spares : (s.player P).textured = true → s.xegl.Spares result) :
    Related P (s.createTexture q thread win result) s' := by
  refine (related.put_other other _).eglInit_other other fun textured => spares ?_
  rwa [Rendering.put_other _ other] at textured

/-- The view of another player is deleted. -/
theorem Related.deleteView_other [LawfulEgl Egl] (related : Related P s s')
    (nothing : (s.player q).videoView ≠ none → (s.player P).textured = true →
      s.xegl.swaps = none) : Related P (s.deleteView q) s' := by
  unfold Process.deleteView
  split_ifs with isSome
  · refine related.transfer terminate_rest.crashed (by rw [terminate_player])
      (by rw [terminate_rest.given]) (fun win _ => by rw [terminate_rest.references])
      (fun textured => ?_) (fun has textured => ?_)
    · have same := related.textured textured
      have idle := nothing (Option.isSome_iff_ne_none.mp isSome) textured
      obtain ⟨surface, context⟩ := same.nothing idle
      exact ⟨by rw [terminate_swaps, ← same.swaps, idle],
        (fun x swaps => by
          rw [terminate_swaps] at swaps
          cases swaps),
        by rw [fewer_terminate.surfaces P surface, ← same.surface, surface],
        by rw [fewer_terminate.contexts P context, ← same.context, context],
        fun _ => ⟨fewer_terminate.surfaces P surface, fewer_terminate.contexts P context⟩⟩
    · have none := related.bare has textured
      exact ⟨fewer_terminate.surfaces P none.surface, fewer_terminate.contexts P none.context,
        none.surfaceAlone, none.contextAlone, none.eglSurface⟩
  · exact related

/-- **A call on another player that meets the condition leaves the relation.** -/
theorem Related.others [LawfulEgl Egl] (related : Related P s s') (other : P ≠ q) {call : Call Window}
    (meets : Others P q s call) (running : s.crashed = false) :
    Related P (s.step (q, call)) s' := by
  unfold Process.step
  rw [if_neg (by rw [running]; exact Bool.false_ne_true)]
  cases call with
  | initView surface =>
    cases surface with
    | none =>
      exact related.transfer_same rfl rfl (Function.update_of_ne other ..) (fun _ _ => Iff.rfl)
        rfl rfl
    | some win =>
      refine related.transfer_same rfl (Function.update_of_ne other ..)
        (Function.update_of_ne other ..) (fun w has => ?_) rfl rfl
      by_cases same : w = win
      · subst same
        show 0 < Function.update s.references w (s.references w + 1) w ↔ _
        rw [Function.update_self]
        exact ⟨fun _ => Nat.pos_of_ne_zero fun gone => meets gone has, fun _ => Nat.succ_pos _⟩
      · show 0 < Function.update s.references win (s.references win + 1) w ↔ _
        rw [Function.update_of_ne same]
  | setDataSource url =>
    simp only [Process.setDataSource]
    cases state : (s.player q).playerState with
    | none => exact absurd state meets
    | some old =>
      cases s.window with
      | none => exact related.put_other other _
      | some win => exact related.put_other other _
  | start opened =>
    simp only [Process.start]
    cases state : (s.player q).playerState with
    | none => exact absurd state meets
    | some url =>
      dsimp only
      split_ifs
      · exact related
      · cases (s.player q).window with
        | none => exact related
        | some win => exact related.put_other other _
  | frame thread result filled =>
    simp only [Process.render]
    cases view : (s.player q).view with
    | none => exact related
    | some win =>
      have ready : Related P
          (if (s.player q).textured then s else s.createTexture q thread win result) s' := by
        split_ifs with textured
        · exact related
        · refine related.createTexture_other other (meets ⟨?_, Bool.eq_false_iff.mpr textured⟩)
          rw [view]
          exact Option.some_ne_none _
      dsimp only
      split_ifs at ready ⊢
      all_goals first | exact ready | exact ready.put_other other _
  | release =>
    obtain ⟨nothing, win, window, last⟩ := meets
    have put := (related.deleteView_other nothing).put_other other (s.player q).release
    simp only [release_eq_some window]
    refine put.transfer_same rfl rfl (Function.update_of_ne other ..) (fun w has => ?_) rfl rfl
    have references : ((s.deleteView q).put q (s.player q).release).references = s.references :=
      deleteView_rest.references
    rw [Rendering.put_other _ other, deleteView_player] at has
    rw [references]
    by_cases self : w = win
    · subst self
      show 0 < Function.update s.references w (s.references w - 1) w ↔ _
      rw [Function.update_self]
      have notLast : s.references w ≠ 1 := fun one => last one has
      omega
    · show 0 < Function.update s.references win (s.references win - 1) w ↔ _
      rw [Function.update_of_ne self]

/-! ### Calls on the player -/

/-- The player changes in both runs, but not what it renders to. -/
theorem Related.put_both (related : Related P s s') {m : MediaPlayer Player Window}
    (has : ∀ win, m.Has win → (s.player P).Has win)
    (textured : m.textured = (s.player P).textured)
    (isSome : m.videoView.isSome = (s.player P).videoView.isSome)
    (state : m.playerState.isSome = (s.player P).playerState.isSome)
    (current : m.current = (s.player P).current)
    (given : m.playerState ≠ none → ∀ win, s.given P = some win →
      m.window = some win ∧ m.view = some win) : Related P (s.put P m) (s'.put P m) where
  crashed := related.crashed
  player := by rw [put_self, put_self]
  valid win found := by
    rw [put_self] at found
    exact related.valid win (has win found)
  window := related.window
  built :=
    { view := by
        rw [put_self, state, isSome]
        exact related.built.view
      current := by
        rw [put_self, current]
        exact related.built.current
      given := by
        rw [put_self]
        exact given }
  textured found := by
    rw [put_self, textured] at found
    exact (related.textured found).congr rfl rfl rfl rfl
  bare found untextured := by
    rw [put_self] at found untextured
    rw [isSome] at found
    rw [textured] at untextured
    exact (related.bare found untextured).congr rfl rfl rfl

theorem Related.initView_both (related : Related P s s') (surface : Option Window) :
    Related P (s.initView P surface) (s'.initView P surface) := by
  cases surface with
  | none =>
    have gone : (s.initView P none).given P = none := Function.update_self ..
    exact
      { crashed := related.crashed
        player := related.player
        valid := related.valid
        window := gone.symm
        built :=
          { view := related.built.view
            current := related.built.current
            given := fun _ win given => by
              rw [gone] at given
              cases given }
        textured := fun has => (related.textured has).congr rfl rfl rfl rfl
        bare := fun isSome has => (related.bare isSome has).congr rfl rfl rfl }
  | some win =>
    have player : (s.initView P (some win)).player P = (s.player P).initView win :=
      Function.update_self ..
    have player' : (s'.initView P (some win)).player P = (s.player P).initView win := by
      rw [related.player]
      exact Function.update_self ..
    have given : (s.initView P (some win)).given P = some win := Function.update_self ..
    have isSome : ((s.player P).initView win).videoView.isSome =
        (s.player P).videoView.isSome := Option.isSome_map
    have textured : ((s.player P).initView win).textured = (s.player P).textured :=
      textured_setRender _
    have more (t : Process Player Window Egl) : 0 < (t.initView P (some win)).references win := by
      show 0 < Function.update t.references win (t.references win + 1) win
      rw [Function.update_self]
      exact Nat.succ_pos _
    exact
      { crashed := related.crashed
        player := player.trans player'.symm
        valid := fun w has => by
          rw [player] at has
          rw [eq_of_has_initView has]
          exact ⟨fun _ => more s', fun _ => more s⟩
        window := given.symm
        built :=
          { view := by
              rw [player, isSome]
              exact related.built.view
            current := by
              rw [player]
              exact related.built.current
            given := fun state w found => by
              rw [given] at found
              cases found
              rw [player] at state ⊢
              refine ⟨rfl, view_setRender ?_⟩
              show (s.player P).videoView.isSome = true
              rw [← related.built.view]
              exact Option.isSome_iff_ne_none.mpr state }
        textured := fun has => by
          rw [player, textured] at has
          exact (related.textured has).congr rfl rfl rfl rfl
        bare := fun viewed has => by
          rw [player] at viewed has
          rw [isSome] at viewed
          rw [textured] at has
          exact (related.bare viewed has).congr rfl rfl rfl }

/-- Both runs crash. -/
theorem Related.crash_both (related : Related P s s') :
    Related P { s with crashed := true } { s' with crashed := true } where
  crashed := rfl
  player := related.player
  valid := related.valid
  window := related.window
  built := ⟨related.built.view, related.built.current, related.built.given⟩
  textured has := (related.textured has).congr rfl rfl rfl rfl
  bare isSome has := (related.bare isSome has).congr rfl rfl rfl

theorem Related.setDataSource_both (related : Related P s s') {url : String}
    (own : (s.player P).playerState ≠ none → ∀ win, s.window = some win →
      (s.player P).window = some win ∧ (s.player P).view = some win) :
    Related P (s.setDataSource P url) (s'.setDataSource P url) := by
  by_cases state : (s.player P).playerState = none
  · have state' : (s'.player P).playerState = none := related.player ▸ state
    simp only [Process.setDataSource, state, state']
    exact related.crash_both
  · have state' : (s'.player P).playerState ≠ none := related.player ▸ state
    rw [setDataSource_eq state (own state), setDataSource_eq state' (fun win found => by
      rw [related.window] at found
      rw [← related.player]
      exact related.built.given state win found), ← related.player]
    refine related.put_both (fun win has => has) rfl rfl ?_ rfl fun _ => related.built.given state
    exact (Option.isSome_iff_ne_none.mpr state).symm

theorem Related.start_both (related : Related P s s') (opened : Bool) :
    Related P (s.start P opened) (s'.start P opened) := by
  unfold Process.start
  rw [← related.player]
  cases state : (s.player P).playerState with
  | none => exact related.crash_both
  | some url =>
    dsimp only
    split_ifs
    · exact related
    · cases window : (s.player P).window with
      | none => exact related
      | some win =>
        have alive : (s.player P).playerState ≠ none := by
          rw [state]
          exact Option.some_ne_none _
        have isSome : (s.player P).videoView.isSome = true := by
          rw [← related.built.view]
          exact Option.isSome_iff_ne_none.mpr alive
        refine related.put_both (fun w has => ?_) (textured_setRender _) Option.isSome_map rfl rfl
          fun _ w given => ?_
        · rcases has with same | view
          · exact Or.inl same
          · cases eq_of_view_setRender view
            exact Or.inl window
        · obtain ⟨same, -⟩ := related.built.given alive w given
          cases window.symm.trans same
          exact ⟨window, view_setRender isSome⟩

/-- A frame is drawn and swapped on the same in both runs. -/
theorem Related.drawFrame_both (related : Related P s s')
    (textured : (s.player P).textured = true) {thread : Nat} {win : Window} :
    Related P (s.drawFrame P thread win) (s'.drawFrame P thread win) := by
  unfold Process.drawFrame
  rw [← related.player, ← related.drawsOn_eq textured, ← related.swapsOn_eq textured]
  exact related.put_both (fun _ has => has) rfl rfl rfl rfl related.built.given

/-- There is nothing to swap in either run, and nothing of the player is valid. -/
theorem SameEgl.idle (swaps : s.xegl.swaps = none) (swaps' : s'.xegl.swaps = none)
    (surface : surfaces s.egl P = none) (surface' : surfaces s'.egl P = none)
    (context : contexts s.egl P = false) (context' : contexts s'.egl P = false) :
    SameEgl P s s' where
  swaps := swaps.trans swaps'.symm
  own x some := by
    rw [swaps] at some
    cases some
  surface := surface.trans surface'.symm
  context := context.trans context'.symm
  nothing _ := ⟨surface, context⟩

/-- Both runs swap the player's surface. -/
theorem SameEgl.fresh (swaps : s.xegl.swaps = some P) (swaps' : s'.xegl.swaps = some P)
    (surface : surfaces s.egl P = surfaces s'.egl P)
    (context : contexts s.egl P = contexts s'.egl P) : SameEgl P s s' where
  swaps := swaps.trans swaps'.symm
  own x some := by
    rw [swaps] at some
    exact (Option.some.inj some).symm
  surface := surface
  context := context
  nothing none := by
    rw [swaps] at none
    cases none

/-- The set-up of the player's own view makes EGL the same. -/
theorem NoEgl.eglInit [LawfulEgl Egl] (bare : NoEgl P s s') (thread : Nat) (win : Window)
    {result : EglResult}
    (own : result = .notInitialized ∨ result = .noConfig → s.xegl.eglSurface = none) :
    SameEgl P (s.eglInit P thread win result) (s'.eglInit P thread win result) := by
  obtain ⟨surface, context, surface', context', eglSurface⟩ := bare
  have created (e : Egl) : surfaces (eglCreateWindowSurface e P win) P = some win :=
    LawfulEgl.create_surface e P win
  have made (e : Egl) : contexts (eglCreateContext e P) P = true := LawfulEgl.create_context e P
  have kept (e : Egl) : contexts (eglCreateWindowSurface e P win) P = contexts e P :=
    congrFun (LawfulEgl.create_surface_contexts e P win) P
  have stays (e : Egl) :
      surfaces (eglCreateContext (eglCreateWindowSurface e P win) P) P = some win :=
    (congrFun (LawfulEgl.create_context_surfaces _ P) P).trans (created e)
  cases result with
  | noDisplay => exact .idle rfl rfl surface surface' context context'
  | notInitialized =>
    exact .idle (own (Or.inl rfl)) eglSurface surface surface' context context'
  | noConfig => exact .idle (own (Or.inr rfl)) eglSurface surface surface' context context'
  | noSurface => exact .idle rfl rfl surface surface' context context'
  | noContext =>
    exact .fresh rfl rfl ((created s.egl).trans (created s'.egl).symm)
      (((kept s.egl).trans context).trans ((kept s'.egl).trans context').symm)
  | notCurrent | current =>
    exact .fresh rfl rfl ((stays s.egl).trans (stays s'.egl).symm) ((made _).trans (made _).symm)

/-- The first frame of the player. -/
theorem Related.createTexture_both [LawfulEgl Egl] (related : Related P s s')
    (isSome : (s.player P).videoView.isSome = true) (untextured : (s.player P).textured = false)
    {thread : Nat} {win : Window} {result : EglResult}
    (own : result = .notInitialized ∨ result = .noConfig → s.xegl.eglSurface = none) :
    Related P (s.createTexture P thread win result) (s'.createTexture P thread win result) := by
  have bare : NoEgl P (s.put P (s.player P).createTexture)
      (s'.put P (s'.player P).createTexture) :=
    (related.bare isSome untextured).congr rfl rfl rfl
  have player (u : Process Player Window Egl) : (u.createTexture P thread win result).player P =
      { (u.player P).createTexture with
        current := if result = .current
          then Function.update (u.player P).current thread (some (P, P))
          else (u.player P).current } := by
    unfold Process.createTexture
    rw [eglInit_player_self, put_self]
    rfl
  have given (u : Process Player Window Egl) :
      (u.createTexture P thread win result).given = u.given := eglInit_rest.given
  have references (u : Process Player Window Egl) :
      (u.createTexture P thread win result).references = u.references := eglInit_rest.references
  have viewed : ((s.player P).createTexture.videoView).isSome = (s.player P).videoView.isSome :=
    Option.isSome_map
  exact
    { crashed := by
        show (Process.eglInit ..).crashed = (Process.eglInit ..).crashed
        rw [eglInit_rest.crashed, eglInit_rest.crashed]
        exact related.crashed
      player := by rw [player, player, related.player]
      valid := fun w has => by
        rw [references, references]
        refine related.valid w ?_
        rw [player] at has
        exact has.imp id fun view => (view_createTexture _).symm.trans view
      window := by
        rw [given]
        exact eglInit_rest.window.trans related.window
      built :=
        { view := by
            rw [player]
            exact related.built.view.trans viewed.symm
          current := fun th b found => by
            rw [player] at found
            dsimp only at found
            split_ifs at found
            · by_cases same : th = thread
              · rw [same, Function.update_self] at found
                exact (Option.some.inj found).symm
              · rw [Function.update_of_ne same] at found
                exact related.built.current th b found
            · exact related.built.current th b found
          given := fun state w found => by
            rw [player] at state ⊢
            rw [given] at found
            obtain ⟨window, view⟩ := related.built.given state w found
            exact ⟨window, (view_createTexture _).trans view⟩ }
      textured := fun _ => bare.eglInit thread win own
      bare := fun _ bare => by
        rw [player] at bare
        have textured := textured_createTexture isSome
        cases bare.symm.trans textured }

theorem Related.render_both [LawfulEgl Egl] (related : Related P s s') {thread : Nat}
    {result : EglResult}
    {filled : Bool}
    (own : (s.player P).Inits → result = .notInitialized ∨ result = .noConfig →
      s.xegl.eglSurface = none) :
    Related P (s.render P thread result filled) (s'.render P thread result filled) := by
  unfold Process.render
  rw [← related.player]
  cases view : (s.player P).view with
  | none => exact related
  | some win =>
    have isSome := isSome_of_view view
    have inits (untextured : ¬ (s.player P).textured = true) : (s.player P).Inits :=
      ⟨by rw [view]; exact Option.some_ne_none _, Bool.eq_false_iff.mpr untextured⟩
    have ready : Related P
        (if (s.player P).textured then s else s.createTexture P thread win result)
        (if (s.player P).textured then s' else s'.createTexture P thread win result) := by
      split_ifs with textured
      · exact related
      · exact related.createTexture_both isSome (inits textured).2 (own (inits textured))
    have textured : ((if (s.player P).textured then s
        else s.createTexture P thread win result).player P).textured = true := by
      split_ifs with textured
      · exact textured
      · unfold Process.createTexture
        rw [eglInit_player_self, put_self]
        exact textured_createTexture isSome
    dsimp only
    split_ifs at ready textured ⊢
    · exact ready.drawFrame_both textured
    · exact ready.drawFrame_both textured
    · exact ready
    · exact ready

/-- After `_release` there is no view in either run. -/
theorem Related.release_both (related : Related P s s')
    (null : s.window = none ↔ s.given P = none) :
    Related P (s.release P) (s'.release P) := by
  have player (u : Process Player Window Egl) : (u.release P).player P = (u.player P).release := by
    rw [release_player, Function.update_self]
  have agree : s.window.isNone = s'.window.isNone := by
    rw [related.window, Bool.eq_iff_iff, Option.isNone_iff_eq_none, Option.isNone_iff_eq_none]
    exact null
  exact
    { crashed := by rw [release_crashed, release_crashed, related.crashed, agree]
      player := by rw [player, player, related.player]
      valid := fun win has => by
        rw [player] at has
        rcases has with window | view
        · cases window
        · cases view
      window := by rw [release_window, release_given]
      built :=
        { view := by
            rw [player]
            rfl
          current := by
            rw [player]
            exact related.built.current
          given := fun _ win given => by
            rw [release_given] at given
            cases given }
      textured := fun textured => by
        rw [player] at textured
        cases textured
      bare := fun isSome _ => by
        rw [player] at isSome
        cases isSome }

/-- **A call on the player that meets the condition, made in both runs, keeps the relation.** -/
theorem Related.own [LawfulEgl Egl] (related : Related P s s') {call : Call Window}
    (meets : Own P s call)
    (running : s.crashed = false) : Related P (s.step (P, call)) (s'.step (P, call)) := by
  have running' : s'.crashed = false := related.crashed.symm.trans running
  unfold Process.step
  rw [if_neg (by rw [running]; exact Bool.false_ne_true),
    if_neg (by rw [running']; exact Bool.false_ne_true)]
  cases call with
  | initView surface => exact related.initView_both surface
  | setDataSource url => exact related.setDataSource_both meets
  | start opened => exact related.start_both opened
  | frame thread result filled => exact related.render_both meets
  | release => exact related.release_both meets

/-- The step of the run without the calls on other players. -/
def Process.alone (P : Player) (s : Process Player Window Egl) (c : Player × Call Window) :
    Process Player Window Egl :=
  TwoRuns.keptStep Process.step (fun c => decide (c.1 = P)) s c

theorem alone_own (call : Call Window) : s.alone P (P, call) = s.step (P, call) :=
  if_pos (decide_eq_true rfl)

theorem alone_other (other : P ≠ q) (call : Call Window) : s.alone P (q, call) = s :=
  if_neg (by
    rw [decide_eq_true_iff]
    exact other.symm)

/-- **The step lemma.** -/
theorem related_step [LawfulEgl Egl] (related : Related P s s') (c : Player × Call Window)
    (meets : Meets P s c) : Related P (s.step c) (s'.alone P c) := by
  obtain ⟨q, call⟩ := c
  by_cases crashed : s.crashed = true
  · have crashed' : s'.crashed = true := related.crashed.symm.trans crashed
    have here : s.step (q, call) = s := if_pos crashed
    have there : s'.alone P (q, call) = s' := by
      by_cases same : P = q
      · subst same
        rw [alone_own]
        exact if_pos crashed'
      · exact alone_other same call
    rw [here, there]
    exact related
  · have running := Bool.eq_false_iff.mpr crashed
    have condition := meets running
    by_cases same : q = P
    · subst same
      rw [if_pos rfl] at condition
      rw [alone_own]
      exact related.own condition running
    · rw [if_neg same] at condition
      rw [alone_other (Ne.symm same)]
      exact related.others (Ne.symm same) condition running

end Xplay.Rendering
