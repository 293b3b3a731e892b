/-
**The player and its view.**

`GLVideoView::render` waits on `noWindowCondition` while there is no view, and only `setRender`
notifies it. So the video thread comes from the assignment of `lastFramePts` to `popFrame` through a
wait that `stop` does not end. `initView` takes the mutex that `stop` holds; its calls are before
`stop`.

* `Lit.run` — a video thread that has a view, or no frame to render any more, goes on as in `Player`.
* `darkens` — any other can be left in `render`, and nobody wakes it (`dark_step`).
* `stop_releasesIffAttended` — **`stop` releases every worker exactly when it returns where every
  blocking call is attended to**, `render` among them.
-/

import Xplay.Player.PlayerStranded

namespace Xplay

open Lib

/-- Where the video thread is in `GLVideoView::render`. -/
inductive Render
  | entering
  /-- In `noWindowCondition.wait`. -/
  | waiting
  | done
  deriving DecidableEq

/-- The player, whether its `GLVideoView` has a view, and where `render` is. -/
structure Screened where
  player : Player
  view : Bool
  render : Render

namespace Screened

open Player (Worker)

/-- A started player, with or without a view. -/
def start (file : List Packet) (view : Bool) : Screened := ⟨.start file, view, .entering⟩

/-- A step of the player, or a call of `initView`. -/
inductive Label
  | player (l : Player.Label)
  | setRender (view : Bool)

/-- `MediaSync2::videoPlay`, with `GLVideoView::render` in front of `popFrame`. -/
def videoNext (s : Screened) : Option Screened :=
  if s.player.videoSync = .popping then
    match s.render with
    | .entering => some { s with render := if s.view then .done else .waiting }
    | .waiting => none
    | .done => s.player.videoNext.map fun p => { s with player := p, render := .entering }
  else s.player.videoNext.map fun p => { s with player := p }

/-- **One step.** -/
def next (output : Kind → FrameOutput) (s : Screened) : Label → Option Screened
  | .player .videoSync => s.videoNext
  | .player l => (Player.next output s.player l).map fun p => { s with player := p }
  -- `noWindowCondition.notify_all`, whatever the view
  | .setRender view =>
    if s.player.stop = .idle then
      some { s with view := view, render := if s.render = .waiting then .done else s.render }
    else none

def system (output : Kind → FrameOutput) : System Screened Label := ⟨next output⟩

/-- The worker's function has returned. -/
def Exited (s : Screened) (w : Worker) : Prop := s.player.Exited w

/-- **Every worker is released**: it has exited, or the threads have a way on that makes it exit. -/
def Released (output : Kind → FrameOutput) (s : Screened) : Prop :=
  ∀ w, ∃ t, (system output).Reaches s t ∧ t.Exited w

/-- The video thread goes into `render` before it exits: it is there, or it may still take over the
pts of a frame. -/
def Renders (output : Kind → FrameOutput) (s : Screened) : Prop :=
  s.player.videoSync = .popping ∧ s.render ≠ .done ∨ ∃ pts, s.player.MaySet output pts

/-- **Every blocking call a worker is in, or on the way to, is attended to**, `render` by a view. -/
structure Attended (output : Kind → FrameOutput) (s : Screened) : Prop where
  player : s.player.Attended output
  render : s.view = true ∨ ¬s.Renders output

variable {output : Kind → FrameOutput} {s s' t : Screened} {l : Label}

/-! ### What a step can do -/

/-- **A step**: of the player, of `render` in front of a `popFrame`, or of `setRender`. -/
inductive Step (output : Kind → FrameOutput) (s : Screened) : Label → Screened → Prop
  | player {l : Player.Label} {p : Player} (apart : l = .videoSync → s.player.videoSync ≠ .popping)
    (step : (Player.system output).next s.player l = some p) :
    Step output s (.player l) { s with player := p }
  | render (here : s.player.videoSync = .popping) (enters : s.render = .entering) :
    Step output s (.player .videoSync) { s with render := if s.view then .done else .waiting }
  | pop {p : Player} (here : s.player.videoSync = .popping) (done : s.render = .done)
    (step : (Player.system output).next s.player .videoSync = some p) :
    Step output s (.player .videoSync) { s with player := p, render := .entering }
  | setRender (view : Bool) (here : s.player.stop = .idle) :
    Step output s (.setRender view)
      { s with view := view, render := if s.render = .waiting then .done else s.render }

theorem step_of_next (enabled : (system output).next s l = some t) : Step output s l t := by
  cases l with
  | player l =>
    by_cases video : l = .videoSync
    · subst video
      by_cases here : s.player.videoSync = .popping
      · simp only [system, next, videoNext, if_pos here] at enabled
        cases render : s.render with
        | entering =>
          rw [render] at enabled
          cases enabled
          exact .render here render
        | waiting =>
          rw [render] at enabled
          cases enabled
        | done =>
          rw [render] at enabled
          obtain ⟨p, step, rfl⟩ := Option.map_eq_some_iff.mp enabled
          exact .pop here render step
      · simp only [system, next, videoNext, if_neg here] at enabled
        obtain ⟨p, step, rfl⟩ := Option.map_eq_some_iff.mp enabled
        exact .player (fun _ => here) step
    · have moved : (Player.next output s.player l).map (fun p => { s with player := p }) = some t := by
        cases l with
        | videoSync => exact absurd rfl video
        | _ => exact enabled
      obtain ⟨p, step, rfl⟩ := Option.map_eq_some_iff.mp moved
      exact .player (fun same => absurd same video) step
  | setRender view =>
    by_cases here : s.player.stop = .idle
    · simp only [system, next, if_pos here] at enabled
      cases enabled
      exact .setRender view here
    · simp only [system, next, if_neg here] at enabled
      cases enabled

/-- A step of the player that is not `popFrame` of the video thread is one here. -/
theorem next_player {l : Player.Label} {p : Player}
    (apart : l = .videoSync → s.player.videoSync ≠ .popping)
    (step : (Player.system output).next s.player l = some p) :
    (system output).next s (.player l) = some { s with player := p } := by
  cases l with
  | videoSync =>
    have moved : s.player.videoNext = some p := step
    simp only [system, next, videoNext, if_neg (apart rfl), moved, Option.map_some]
  | _ => exact congrArg (Option.map fun p => { s with player := p }) step

/-- `render` goes on to `popFrame`, or waits. -/
theorem next_render (here : s.player.videoSync = .popping) (enters : s.render = .entering) :
    (system output).next s (.player .videoSync) =
      some { s with render := if s.view then .done else .waiting } := by
  simp only [system, next, videoNext, if_pos here, enters]

theorem next_pop {p : Player} (here : s.player.videoSync = .popping) (done : s.render = .done)
    (step : (Player.system output).next s.player .videoSync = some p) :
    (system output).next s (.player .videoSync) =
      some { s with player := p, render := .entering } := by
  have moved : s.player.videoNext = some p := step
  simp only [system, next, videoNext, if_pos here, done, moved, Option.map_some]

/-- **The player takes the step, or stays as it is.** -/
theorem Step.player_reaches (step : Step output s l t) :
    (Player.system output).Reaches s.player t.player := by
  cases step with
  | player apart step => exact .single step
  | pop here done step => exact .single step
  | render | setRender => exact .refl _

theorem player_reaches (reach : (system output).Reaches s t) :
    (Player.system output).Reaches s.player t.player :=
  System.invariant_reaches (I := fun t => (Player.system output).Reaches s.player t.player)
    (fun _ _ _ before enabled => before.trans (step_of_next enabled).player_reaches) reach (.refl _)

/-! ### The invariant -/

/-- Only the video thread moves itself. -/
theorem videoSync_other {p p' : Player} {l : Player.Label} (step : Player.Step output p l p')
    (other : l ≠ .videoSync) : p'.videoSync = p.videoSync := by
  cases step with
  | videoMove | videoShow | videoPop => exact absurd rfl other
  | _ => rfl

/-- **What holds in every run**: `render` is entered where `popFrame` is next, and waits for a view. -/
structure Sound (output : Kind → FrameOutput) (s : Screened) : Prop where
  player : s.player.Sound output
  entering : s.player.videoSync ≠ .popping → s.render = .entering
  dark : s.render = .waiting → s.view = false

theorem sound_start (file : List Packet) (view : Bool) : Sound output (start file view) where
  player := Player.sound_start file
  entering _ := rfl
  dark := by rintro ⟨⟩

theorem sound_step (sound : Sound output s) (step : Step output s l t) : Sound output t := by
  cases step with
  | @player l p apart step =>
    have move := Player.step_of_next step
    refine ⟨Player.sound_step sound.player move, fun elsewhere => sound.entering ?_, sound.dark⟩
    by_cases video : l = .videoSync
    · exact apart video
    · rwa [← videoSync_other move video]
  | render here enters =>
    refine ⟨sound.player, fun elsewhere => absurd here elsewhere, fun waits => ?_⟩
    show s.view = false
    cases view : s.view with
    | false => rfl
    | true => simp [view] at waits
  | pop here done step =>
    exact ⟨Player.sound_step sound.player (Player.step_of_next step), fun _ => rfl, by rintro ⟨⟩⟩
  | setRender view here =>
    refine ⟨sound.player, fun elsewhere => ?_, fun waits => ?_⟩
    · have enters := sound.entering elsewhere
      simp [enters]
    · by_cases waiting : s.render = .waiting <;> simp [waiting] at waits

/-- **A state in which `stop` has returned.** -/
structure Halted (output : Kind → FrameOutput) (s : Screened) : Prop where
  sound : Sound output s
  returned : s.player.stop = .returned

namespace Halted

theorem player (halted : Halted output s) : s.player.Halted output :=
  ⟨halted.sound.player, halted.returned⟩

theorem step (halted : Halted output s) (step : Step output s l t) : Halted output t := by
  refine ⟨sound_step halted.sound step, ?_⟩
  cases step with
  | player apart step => exact (halted.player.step (Player.step_of_next step)).returned
  | pop here done step => exact (halted.player.step (Player.step_of_next step)).returned
  | render here enters => exact halted.returned
  | setRender view here =>
    rw [halted.returned] at here
    cases here

theorem next (halted : Halted output s) (enabled : (system output).next s l = some t) :
    Halted output t :=
  halted.step (step_of_next enabled)

end Halted

/-! ### Where `render` is attended to -/

/-- **What the video thread renders once `stop` has begun, it would have rendered before.** -/
theorem renders_step (sound : Sound output s) (late : 7 ≤ s.player.stop.rank)
    (step : Step output s l t) (renders : t.Renders output) : s.Renders output := by
  have aborted := sound.player.aborted (Nat.le_of_add_left_le late)
  have set : ∀ {l p}, (Player.system output).next s.player l = some p →
      (∃ pts, p.MaySet output pts) → s.Renders output := by
    rintro l p step ⟨pts, later⟩
    exact .inr ⟨pts, Player.maySet_step sound.player aborted (Player.step_of_next step) later⟩
  cases step with
  | @player l p apart step =>
    rcases renders with ⟨popping, enters⟩ | later
    · by_cases video : l = .videoSync
      · subst video
        -- the video thread comes to `render` from the assignment of the pts
        cases Player.step_of_next step with
        | videoMove move => cases move <;> cases popping
        | videoShow here =>
          obtain ⟨frame, due⟩ : ∃ frame, s.player.due .video = some frame := by
            obtain ⟨stored, held⟩ := sound.player.held .video
            have bound : s.player.Bound .video := by
              unfold Player.Bound
              rw [here]
              rfl
            obtain ⟨frame, rest, unshown⟩ :=
              List.exists_cons_of_ne_nil (held.unshown_ne_nil bound)
            exact ⟨frame, by unfold Player.due; rw [unshown]⟩
          exact .inr ⟨_, frame, due, rfl, .inl here⟩
        | videoPop here => exact absurd here (apart rfl)
      · have same := videoSync_other (Player.step_of_next step) video
        exact .inl ⟨same.symm.trans popping, enters⟩
    · exact set step later
  | render here enters => exact .inl ⟨here, by rw [enters]; decide⟩
  | pop here done step =>
    rcases renders with ⟨popping, -⟩ | later
    · cases Player.step_of_next step with
      | videoMove move => cases move <;> cases popping
      | videoShow showing =>
        rw [here] at showing
        cases showing
      | videoPop => cases popping
    · exact set step later
  | setRender view here =>
    rw [here] at late
    exact absurd late (by decide)

/-- `render` stays attended to. -/
theorem lit_step (sound : Sound output s) (late : 7 ≤ s.player.stop.rank)
    (lit : s.view = true ∨ ¬s.Renders output) (step : Step output s l t) :
    t.view = true ∨ ¬t.Renders output := by
  rcases lit with view | none
  · cases step with
    | setRender view here =>
      rw [here] at late
      exact absurd late (by decide)
    | _ => exact .inl view
  · exact .inr fun renders => none (renders_step sound late step renders)

/-- **What is attended to when `stop` is about to return stays attended to.** -/
theorem attended_step (sound : Sound output s) (late : 7 ≤ s.player.stop.rank)
    (attended : Attended output s) (step : Step output s l t) : Attended output t := by
  refine ⟨?_, lit_step sound late attended.render step⟩
  cases step with
  | player apart step =>
    exact Player.attended_step sound.player late attended.player (Player.step_of_next step)
  | pop here done step =>
    exact Player.attended_step sound.player late attended.player (Player.step_of_next step)
  | render | setRender => exact attended.player

/-- `stop` has returned, and `render` is attended to. -/
structure Lit (output : Kind → FrameOutput) (s : Screened) : Prop extends Halted output s where
  lit : s.view = true ∨ ¬s.Renders output

theorem Lit.reaches (lit : Lit output s) (reach : (system output).Reaches s t) : Lit output t :=
  System.invariant_reaches (I := Lit output)
    (fun _ _ _ lit enabled => ⟨lit.next enabled, lit_step lit.sound
      (by rw [lit.returned]; decide) lit.lit (step_of_next enabled)⟩) reach lit

/-- **Every step of the player is taken here** where `render` is attended to, after `render`. -/
theorem Lit.step (lit : Lit output s) {l : Player.Label} {p : Player}
    (step : (Player.system output).next s.player l = some p) :
    ∃ t, (system output).Reaches s t ∧ t.player = p := by
  by_cases apart : l = .videoSync → s.player.videoSync ≠ .popping
  · exact ⟨_, .single (next_player apart step), rfl⟩
  · obtain ⟨rfl, here⟩ := Classical.not_imp.mp apart
    have here := not_not.mp here
    cases render : s.render with
    | done => exact ⟨_, .single (next_pop here render step), rfl⟩
    | entering =>
      have view : s.view = true :=
        lit.lit.resolve_right fun none => none (.inl ⟨here, by rw [render]; decide⟩)
      have enters : (system output).next s (.player .videoSync) = some { s with render := .done } := by
        rw [next_render here render, view]
        rfl
      have pops : (system output).next { s with render := .done } (.player .videoSync) =
          some { s with player := p, render := .entering } := next_pop here rfl step
      exact ⟨_, .head enters (.single pops), rfl⟩
    | waiting =>
      rcases lit.lit with view | none
      · rw [lit.sound.dark render] at view
        cases view
      · exact absurd (.inl ⟨here, by rw [render]; decide⟩) none

/-- **So is every run of it.** -/
theorem Lit.run (lit : Lit output s) {p : Player}
    (reach : (Player.system output).Reaches s.player p) :
    ∃ t, (system output).Reaches s t ∧ t.player = p := by
  have lifts : ∀ p t l p', (t.player = p ∧ Lit output t) → True →
      (Player.system output).next p l = some p' →
      ∃ t', (system output).Reaches t t' ∧ t'.player = p' ∧ Lit output t' := by
    rintro p t l p' ⟨rfl, lit⟩ - step
    obtain ⟨t', reach, same⟩ := lit.step step
    exact ⟨t', reach, same, lit.reaches reach⟩
  obtain ⟨labels, run⟩ := reach
  obtain ⟨t, reach, same, -⟩ :=
    System.reaches_lift lifts ⟨labels, fun _ _ => trivial, run⟩ ⟨rfl, lit⟩
  exact ⟨t, reach, same⟩

/-- A run of the player without its video thread is one here. -/
theorem lift_without {p : Player}
    (reach : (Player.system output).ReachesBy (· ≠ .videoSync) s.player p) :
    ∃ t, (system output).Reaches s t ∧ t = { s with player := p } := by
  have lifts : ∀ p t l p', t = { s with player := p } → l ≠ .videoSync →
      (Player.system output).next p l = some p' →
      ∃ t', (system output).Reaches t t' ∧ t' = { s with player := p' } := by
    rintro p t l p' rfl other step
    exact ⟨_, .single (next_player (fun video => absurd video other) step), rfl⟩
  exact System.reaches_lift lifts reach rfl

/-! ### A video thread left in `render` -/

/-- The video thread waits in `render`. -/
structure Dark (output : Kind → FrameOutput) (s : Screened) : Prop extends Halted output s where
  popping : s.player.videoSync = .popping
  waiting : s.render = .waiting

/-- **Nobody wakes it later either.** -/
theorem dark_step (dark : Dark output s) (step : Step output s l t) : Dark output t := by
  refine ⟨dark.toHalted.step step, ?_, ?_⟩
  · cases step with
    | @player l p apart step =>
      have other : l ≠ .videoSync := fun video => apart video dark.popping
      exact (videoSync_other (Player.step_of_next step) other).trans dark.popping
    | render here enters => exact here
    | pop here done step => exact absurd (done.symm.trans dark.waiting) (by decide)
    | setRender view here => exact dark.popping
  · cases step with
    | player apart step => exact dark.waiting
    | render here enters => exact absurd (enters.symm.trans dark.waiting) (by decide)
    | pop here done step => exact absurd (done.symm.trans dark.waiting) (by decide)
    | setRender view here =>
      rw [dark.returned] at here
      cases here

theorem not_released_of_dark (dark : Dark output s) : ¬Released output s := by
  intro released
  obtain ⟨t, reach, exited⟩ := released .videoSync
  have still := System.invariant_reaches (I := Dark output)
    (fun _ _ _ dark enabled => dark_step dark (step_of_next enabled)) reach dark
  exact absurd (exited.symm.trans still.popping) (by decide)

/-- At `render` without a view the video thread waits. -/
theorem darkens_popping (halted : Halted output s) (view : s.view = false)
    (here : s.player.videoSync = .popping) (render : s.render ≠ .done) :
    ∃ t, (system output).Reaches s t ∧ Dark output t := by
  cases place : s.render with
  | done => exact absurd place render
  | waiting => exact ⟨s, .refl s, halted, here, place⟩
  | entering =>
    have enters : (system output).next s (.player .videoSync) = some { s with render := .waiting } := by
      rw [next_render here place, view]
      rfl
    exact ⟨_, .single enters, halted.next enters, here, rfl⟩

/-- A video thread that shows a frame gets to `render`. -/
theorem darkens_showing (halted : Halted output s) (view : s.view = false)
    (here : s.player.videoSync = .showing) :
    ∃ t, (system output).Reaches s t ∧ Dark output t := by
  have enters : s.render = .entering := halted.sound.entering (by rw [here]; decide)
  have enabled : (Player.system output).next s.player .videoSync = some { s.player with
      lastFramePts := (s.player.decode .video).frameQueue.currentFrame.pts
      videoSync := .popping } := by
    simp [Player.system, Player.next, Player.videoNext, here]
  have shows := next_player (fun _ => by rw [here]; decide) enabled
  obtain ⟨t, reach, dark⟩ := darkens_popping (halted.next shows) view rfl
    (by show s.render ≠ .done; rw [enters]; decide)
  exact ⟨t, .head shows reach, dark⟩

/-- **A `render` that is not attended to**: the frame comes, and the video thread goes into the wait. -/
theorem darkens (halted : Halted output s) (view : s.view = false) (renders : s.Renders output) :
    ∃ t, (system output).Reaches s t ∧ Dark output t := by
  rcases renders with ⟨here, render⟩ | ⟨pts, frame, due, -, stands⟩
  · exact darkens_popping halted view here render
  · rcases stands with showing | ⟨looking, sized⟩
    · exact darkens_showing halted view showing
    · obtain ⟨p, reach, still, beside, front⟩ := Player.due_arrives halted.player due
      obtain ⟨u, reach, rfl⟩ := lift_without reach
      have halted := System.invariant_reaches (I := Halted output)
        (fun _ _ _ halted enabled => halted.next enabled) reach halted
      have looks : p.videoSync = .looking := beside.videoSync.trans looking
      have saw : (Player.system output).next p .videoSync = some { p with videoSync := .showing } := by
        simp [Player.system, Player.next, Player.videoNext, looks,
          (Player.current_of_head still front).1, sized]
      have sees := next_player (s := { s with player := p }) (fun _ => by
        show p.videoSync ≠ .popping
        rw [looks]
        decide) saw
      obtain ⟨t, later, dark⟩ := darkens_showing (halted.next sees) view rfl
      exact ⟨t, reach.trans (.head sees later), dark⟩

/-! ### Runs -/

/-- `stop` returns only where every blocking call is attended to. -/
def ReturnsAttended (output : Kind → FrameOutput) (s : Screened) (l : Label) : Prop :=
  l = .player .stop → s.player.stop = .videoDecode → Attended output s

/-- **The run lemma**: from the return of `stop` on, every blocking call is attended to. -/
theorem attended_run {file : List Packet} {view : Bool} {labels : List Label}
    (guarded : (system output).Guarded (ReturnsAttended output) (start file view) labels)
    (run : (system output).run (start file view) labels = some s) :
    Sound output s ∧ (s.player.stop = .returned → Attended output s) := by
  refine System.invariant_guarded
    (I := fun s => Sound output s ∧ (s.player.stop = .returned → Attended output s))
    (fun s l t here meets enabled => ?_) guarded run
    ⟨sound_start file view, fun returned => by cases returned⟩
  obtain ⟨sound, attended⟩ := here
  have step := step_of_next enabled
  refine ⟨sound_step sound step, fun returned => ?_⟩
  by_cases before : s.player.stop = .returned
  · exact attended_step sound (by rw [before]; decide) (attended before) step
  · cases step with
    | @player l p apart move =>
      have stops : l = .stop ∧ s.player.stop = .videoDecode := by
        cases Player.step_of_next move with
        | stopVideo here => exact ⟨rfl, here⟩
        | stopAbort | stopSync | stopPlay | stopNotEmpty | stopNotFull | stopDemux | stopAudio =>
          cases returned
        | _ => exact absurd returned before
      obtain ⟨rfl, here⟩ := stops
      exact attended_step sound (by rw [here]; decide) (meets rfl here) (.player apart move)
    | render | setRender => exact absurd returned before
    | pop here done move =>
      cases Player.step_of_next move with
      | videoMove | videoShow | videoPop => exact absurd returned before

/-- **Where every blocking call is attended to, every worker is released.** -/
theorem released_of_attended (halted : Halted output s) (attended : Attended output s) :
    Released output s := by
  intro w
  obtain ⟨p, reaches, exited⟩ := Player.Stopped.released ⟨halted.player, attended.player⟩ w
  obtain ⟨t, reach, rfl⟩ := Lit.run ⟨halted, attended.render⟩ reaches
  exact ⟨t, reach, exited⟩

/-- A worker that is released here is released in the player. -/
theorem Released.player (released : Released output s) : s.player.Released output := by
  intro w
  obtain ⟨t, reach, exited⟩ := released w
  exact ⟨t.player, player_reaches reach, exited⟩

/-- **Where some blocking call is not attended to, the threads can go on to a state in which some
worker is not released.** -/
theorem stranded_of_not_attended (halted : Halted output s) (unattended : ¬Attended output s) :
    ∃ t, (system output).Reaches s t ∧ Halted output t ∧ ¬Released output t := by
  by_cases lit : s.view = true ∨ ¬s.Renders output
  · obtain ⟨p, w, reaches, halted', stuck⟩ :=
      Player.mayStick_of_not_attended halted.player fun attended => unattended ⟨attended, lit⟩
    obtain ⟨t, reach, rfl⟩ := Lit.run ⟨halted, lit⟩ reaches
    have halted := System.invariant_reaches (I := Halted output)
      (fun _ _ _ halted enabled => halted.next enabled) reach halted
    exact ⟨t, reach, halted, fun released =>
      Player.not_released_of_stuck halted' stuck released.player⟩
  · obtain ⟨view, renders⟩ := not_or.mp lit
    obtain ⟨t, reach, dark⟩ := darkens halted (Bool.eq_false_iff.mpr view) (not_not.mp renders)
    exact ⟨t, reach, dark.toHalted, not_released_of_dark dark⟩

/-- The last store of `stop` changes nothing a blocking call depends on. -/
theorem attended_of_return
    (attended : Attended output
      { s with player := { s.player.stopDecode .video with stop := .returned } }) :
    Attended output s where
  player := Player.attended_of_return attended.player
  render := attended.render

/-- Attended returns are exactly what `stop` needs: in a run whose `stop` returns only where every
blocking call is attended to, every worker is released from then on, and from every other state
`stop` is about to return in, a run goes on to a state in which some worker is not. -/
structure ReleasesIffAttended (output : Kind → FrameOutput) (file : List Packet) (view : Bool) :
    Prop where
  released : ∀ labels s, (system output).Guarded (ReturnsAttended output) (start file view) labels →
    (system output).run (start file view) labels = some s → s.player.stop = .returned →
      Released output s
  stranded : ∀ labels s, (system output).run (start file view) labels = some s →
    s.player.stop = .videoDecode → ¬Attended output s →
      ∃ t, (system output).Reaches s t ∧ t.player.stop = .returned ∧ ¬Released output t

/-- **`stop` releases every worker exactly when it returns where every blocking call is attended
to.** -/
theorem stop_releasesIffAttended (output : Kind → FrameOutput) (file : List Packet) (view : Bool) :
    ReleasesIffAttended output file view where
  released _ _ guarded run returned := by
    obtain ⟨sound, attended⟩ := attended_run guarded run
    exact released_of_attended ⟨sound, returned⟩ (attended returned)
  stranded labels s run here unattended := by
    have enabled : (Player.system output).next s.player .stop =
        some { s.player.stopDecode .video with stop := .returned } := by
      simp [Player.system, Player.next, Player.stopNext, here]
    have returns := next_player (by rintro ⟨⟩) enabled
    have sound : Sound output s := System.invariant_run (I := Sound output)
      (fun _ _ _ sound enabled => sound_step sound (step_of_next enabled)) run
      (sound_start file view)
    have halted : Halted output
        { s with player := { s.player.stopDecode .video with stop := .returned } } :=
      ⟨sound_step sound (step_of_next returns), rfl⟩
    obtain ⟨t, reach, halted, caught⟩ :=
      stranded_of_not_attended halted (mt attended_of_return unattended)
    exact ⟨t, .head returns reach, halted.returned, caught⟩

/-! ### A `stop` that releases, and two that do not -/

/-- A `stop` that runs through while every worker stands at its flag check. -/
theorem guarded_of_checks (checks : s.player.AtChecks) (n : Nat) :
    (system output).Guarded (ReturnsAttended output) s (List.replicate n (.player .stop)) := by
  induction n generalizing s with
  | zero => trivial
  | succ n ih =>
    refine ⟨fun _ _ => ⟨checks.attended, .inr ?_⟩, fun t enabled => ih ?_⟩
    · have top := checks.videoSync
      rintro (⟨popping, -⟩ | ⟨pts, frame, -, -, showing | ⟨looking, -⟩⟩) <;> simp_all
    · cases step_of_next enabled with
      | player apart step => exact checks.step (Player.step_of_next step)

/-- A player that is stopped before any of its threads ran, without a view. -/
theorem stop_releasesAtOnce : ∃ s,
    (system (decoders ⟨1, 25⟩ ⟨25, 1⟩)).run (start [] false) (List.replicate 8 (.player .stop)) =
        some s ∧
      s.player.stop = .returned ∧ Released (decoders ⟨1, 25⟩ ⟨25, 1⟩) s :=
  ⟨_, rfl, rfl, (stop_releasesIffAttended _ [] false).released _ _
    (guarded_of_checks ⟨rfl, fun _ => rfl, rfl, rfl, rfl⟩ 8) rfl rfl⟩

/-- The demux thread exits at the end of the file, the audio decoder waits for a packet, and `stop`
runs through. -/
def strandingRun : List Label :=
  [.player .demux, .player (.decode .audio true), .player (.decode .audio true)] ++
    List.replicate 8 (.player .stop)

/-- A file with one video frame. -/
def oneFrame : List Packet :=
  [⟨.video, { AVFrame.blank with linesize0 := 1, height := 1 }⟩]

/-- Its frame is decoded, the video thread gets to `render`, and `stop` runs through. -/
def darkRun : List Label :=
  List.replicate 3 (.player .demux) ++ List.replicate 6 (.player (.decode .video true)) ++
    List.replicate 4 (.player .videoSync) ++ List.replicate 8 (.player .stop)

/-- **An empty file strands the audio decoder, and a player without a view the video thread.** -/
theorem stop_strands :
    (∃ s, (system (decoders ⟨1, 25⟩ ⟨25, 1⟩)).run (start [] true) strandingRun = some s ∧
        s.player.stop = .returned ∧ ¬Released (decoders ⟨1, 25⟩ ⟨25, 1⟩) s) ∧
      ∃ s, (system (decoders ⟨1, 25⟩ ⟨25, 1⟩)).run (start oneFrame false) darkRun = some s ∧
        s.player.stop = .returned ∧ ¬Released (decoders ⟨1, 25⟩ ⟨25, 1⟩) s := by
  have sound : ∀ {file view labels s},
      (system (decoders ⟨1, 25⟩ ⟨25, 1⟩)).run (start file view) labels = some s →
        Sound (decoders ⟨1, 25⟩ ⟨25, 1⟩) s := fun run =>
    System.invariant_run (I := Sound _)
      (fun _ _ _ sound enabled => sound_step sound (step_of_next enabled)) run (sound_start _ _)
  constructor
  · obtain ⟨s, run, returned, waits, nothing⟩ : ∃ s,
        (system (decoders ⟨1, 25⟩ ⟨25, 1⟩)).run (start [] true) strandingRun = some s ∧
          s.player.stop = .returned ∧ (s.player.decode .audio).loc = .popWaiting ∧
          s.player.nextPacket .audio = none :=
      ⟨_, rfl, rfl, rfl, rfl⟩
    refine ⟨s, run, returned, fun released => ?_⟩
    exact Player.not_released_of_stuck ⟨(sound run).player, returned⟩
      (.pop .audio (.inr waits) nothing) released.player
  · obtain ⟨s, run, returned, popping, waits⟩ : ∃ s,
        (system (decoders ⟨1, 25⟩ ⟨25, 1⟩)).run (start oneFrame false) darkRun = some s ∧
          s.player.stop = .returned ∧ s.player.videoSync = .popping ∧ s.render = .waiting :=
      ⟨_, rfl, rfl, rfl, rfl⟩
    exact ⟨s, run, returned, not_released_of_dark ⟨⟨sound run, returned⟩, popping, waits⟩⟩

end Screened

end Xplay
