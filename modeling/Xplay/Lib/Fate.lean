/-
**Steps that keep a property, and steps that break it.**

An invariant implies a property. `Fate` is what is to be proved of one step from the invariant: either
it meets a condition, and then the invariant holds on, or it does not, and then the property is
broken. So a run has the property throughout exactly if all its steps meet the condition.
-/

import Xplay.Lib.System

namespace Xplay.Lib

/-- **What becomes of a step** that meets a condition or not. -/
structure Fate (kept sound owned : Prop) : Prop where
  keeps : kept → sound
  breaks : ¬kept → ¬owned

variable {kept sound owned : Prop}

theorem Fate.of_sound (holds : kept) (after : sound) : Fate kept sound owned :=
  ⟨fun _ => after, fun not => absurd holds not⟩

theorem Fate.of_broken (not : ¬kept) (broken : ¬owned) : Fate kept sound owned :=
  ⟨fun holds => absurd holds not, fun _ => broken⟩

theorem Fate.imp {sound' : Prop} (fate : Fate kept sound owned) (more : sound → sound') :
    Fate kept sound' owned :=
  ⟨fun holds => more (fate.keeps holds), fate.breaks⟩

namespace System

variable {State Label : Type*} {Sound Owned : State → Prop}
  {Kept : State → Label → Prop}

/-- **The fate rule.** -/
theorem steps_iff_of_fate (sys : System State Label) (owned : ∀ s, Sound s → Owned s)
    (fate : ∀ s l t, Sound s → sys.next s l = some t → Fate (Kept s l) (Sound t) (Owned t))
    {s : State} (start : Sound s) (labels : List Label) :
    sys.Steps (fun _ _ t => Owned t) s labels ↔ sys.Steps (fun s l _ => Kept s l) s labels := by
  refine System.steps_iff (I := Sound) ?_ ?_ start labels
  · intro s l t sound step
    have fate := fate s l t sound step
    exact ⟨fun owned => by_contra fun not => fate.breaks not owned,
      fun kept => owned t (fate.keeps kept)⟩
  · intro s l t sound step kept
    exact (fate s l t sound step).keeps kept

/-- A run whose steps all meet the condition keeps the invariant. -/
theorem run_of_fate (sys : System State Label)
    (fate : ∀ s l t, Sound s → sys.next s l = some t → Fate (Kept s l) (Sound t) (Owned t))
    {s t : State} (start : Sound s) {labels : List Label}
    (kept : sys.Steps (fun s l _ => Kept s l) s labels) (run : sys.run s labels = some t) :
    Sound t := by
  refine System.invariant_guarded (I := Sound) ?_ kept run start
  intro s l t sound meets step
  exact (fate s l t sound step).keeps (meets t step)

end System

end Xplay.Lib
