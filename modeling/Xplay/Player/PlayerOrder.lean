/-
**Frames come out in the order of the file**, in every run: played, paused or stopped.

`stages` is a stream of the file as the player still holds it, from what was shown to what was not
read yet. A step leaves it alone or takes one frame out of it (`stages_step`), exactly when the step
loses that frame (`Loses`); so nothing is ever repeated or reordered (`frames_inOrder`).
-/

import Xplay.Player.PlayerFlow
import Mathlib.Data.List.Infix

namespace Xplay

open Lib

namespace Player

variable {output : Kind → FrameOutput} {file : List Packet} {s t : Player} {l : Label}

/-! ### A stream in the player's hands -/

/-- A stream of the file as it lies in the player: shown, unshown, in a decoder's hand, in its packet
queue, in the demux thread's hand, not read. -/
def stages (k : Kind) (s : Player) : List AVFrame :=
  (s.decode k).stream ++ framesOf k s.demux.hand ++ framesOf k s.file

/-- The step loses a frame of the stream: its decoder makes no frame of its packet, or the demux
thread drops the packet because the player is being stopped. -/
def Loses (k : Kind) (s : Player) : Label → Prop
  | .decode k' made => k' = k ∧ made = false ∧ ∃ frame, (s.decode k).loc = .decoding frame
  | .demux => ∃ p, s.demux = .routing p ∧ p.kind = k ∧
      ((s.decode k).isExit = true ∨ s.abortRequest = true)
  | _ => False

theorem stages_start (k : Kind) (file : List Packet) : stages k (start file) = framesOf k file := by
  simp [stages, start, IDecode.new, IDecode.stream, DecodeLoc.hand, DemuxLoc.hand, framesOf]

/-- One element is taken out of a list. -/
def OneOut {α : Type} (before after : List α) : Prop :=
  ∃ left x right, before = left ++ x :: right ∧ after = left ++ right

theorem OneOut.sublist {α : Type} {before after : List α} (out : OneOut before after) :
    after.Sublist before := by
  obtain ⟨left, x, right, rfl, rfl⟩ := out
  exact List.Sublist.append_left (List.sublist_cons_self x right) left

theorem OneOut.length {α : Type} {before after : List α} (out : OneOut before after) :
    after.length < before.length := by
  obtain ⟨left, x, right, rfl, rfl⟩ := out
  simp

/-- A decoder's own step keeps its stream, or makes no frame of a packet. -/
theorem stream_decodeStep {d d' : IDecode} {k : Kind} {made : Bool}
    (started : d.frameQueue.abortRequest = false) (own : DecodeStep (output k) s d made d') :
    (made = false → ∀ frame, d.loc ≠ .decoding frame) ∧ d'.stream = d.stream ∨
      made = false ∧ (∃ frame, d.loc = .decoding frame) ∧ OneOut d.stream d'.stream := by
  cases own with
  | move move =>
    left
    cases move with
    | null frame here aborted =>
      rw [started] at aborted
      cases aborted
    | poll here | quit here | pop here | empty here | wait frame here | grant frame here
    | woken frame here =>
      exact ⟨fun _ frame there => by simp [here] at there,
        IDecode.stream_goto (by simp [here, DecodeLoc.hand])⟩
  | make frame here makes =>
    left
    exact ⟨fun skips => absurd (makes.symm.trans skips) (by decide),
      IDecode.stream_goto (by rw [here]; rfl)⟩
  | skip frame here skips =>
    right
    refine ⟨skips, ⟨frame, here⟩, d.shown ++ d.unshown, frame, d.packetQueue.map Packet.frame, ?_, ?_⟩
    · simp [IDecode.stream, here, DecodeLoc.hand]
    · simp [IDecode.stream, IDecode.goto, DecodeLoc.hand]
  | fill frame j here =>
    exact .inl ⟨fun _ frame there => by simp [here] at there, IDecode.stream_fill here⟩
  | push here =>
    exact .inl ⟨fun _ frame there => by simp [here] at there, IDecode.stream_pushFrame here⟩

/-- One element is taken out of the front part of a list. -/
theorem OneOut.append {α : Type} {before after : List α} (out : OneOut before after)
    (rest : List α) : OneOut (before ++ rest) (after ++ rest) := by
  obtain ⟨left, x, right, rfl, rfl⟩ := out
  exact ⟨left, x, right ++ rest, by simp, by simp⟩

/-- **The step lemma**: a step keeps a stream as it lies, or loses one frame of it. -/
theorem stages_step (sound : Sound output s) (enabled : (system output).next s l = some t)
    (k : Kind) :
    ¬Loses k s l ∧ stages k t = stages k s ∨ Loses k s l ∧ OneOut (stages k s) (stages k t) := by
  have keep : ∀ k' d, d.stream = (s.decode k').stream →
      stages k (s.setDecode k' d) = stages k s := by
    intro k' d same
    unfold stages
    rw [setDecode_same IDecode.stream same k]
    rfl
  have step := step_of_next enabled
  cases step with
  | demuxMove move =>
    cases move with
    | poll here | quit here =>
      refine .inl ⟨by rintro ⟨p, there, -⟩; simp [here] at there, ?_⟩
      simp [stages, here, DemuxLoc.hand]
    | full p here full =>
      refine .inl ⟨by rintro ⟨p, there, -⟩; simp [here] at there, ?_⟩
      simp [stages, here, DemuxLoc.hand]
    | route p here clear =>
      refine .inl ⟨?_, by simp [stages, here, DemuxLoc.hand]⟩
      rintro ⟨p', there, kind, flag⟩
      -- with its flag set the thread would have gone back to the top
      cases here.symm.trans there
      rw [← kind] at flag
      have drops : (system output).next s .demux = some { s with demux := .top } := by
        simp only [system, next, demuxNext, here]
        rw [if_pos (by simpa using flag)]
      have same := drops.symm.trans enabled
      simp at same
    | drop p here flag =>
      by_cases kind : p.kind = k
      · subst kind
        refine .inr ⟨⟨p, here, rfl, flag⟩, (s.decode p.kind).stream, p.frame,
          framesOf p.kind s.file, ?_, ?_⟩
        · simp [stages, here, DemuxLoc.hand, framesOf_singleton]
        · simp [stages, DemuxLoc.hand, framesOf]
      · refine .inl ⟨?_, ?_⟩
        · rintro ⟨p', there, other, -⟩
          cases here.symm.trans there
          exact kind other
        · simp [stages, here, DemuxLoc.hand, kind, framesOf]
  | demuxEof here nothing =>
    refine .inl ⟨by rintro ⟨p, there, -⟩; simp [here] at there, ?_⟩
    simp [stages, here, DemuxLoc.hand]
  | demuxRead p rest here front clear =>
    refine .inl ⟨by rintro ⟨p, there, -⟩; simp [here] at there, ?_⟩
    unfold stages
    rw [here, front, List.append_assoc, List.append_assoc, ← framesOf_append, ← framesOf_append]
    rfl
  | demuxPush p here room =>
    refine .inl ⟨by rintro ⟨p, there, -⟩; simp [here] at there, ?_⟩
    unfold stages
    rw [here]
    simp only [setDecode_decode, DemuxLoc.hand, framesOf_singleton]
    split
    · next kind =>
      rw [IDecode.stream_pushPacket, if_pos kind.symm, kind]
      simp [framesOf, setDecode]
    · next other =>
      rw [if_neg (Ne.symm other)]
      simp [framesOf, setDecode]
  | decodeStep k' made own =>
    obtain ⟨stored, held⟩ := sound.held k'
    rcases stream_decodeStep held.started own with ⟨makes, same⟩ | ⟨skips, frame, out⟩
    · refine .inl ⟨?_, keep k' _ same⟩
      rintro ⟨kind, skips, frame, here⟩
      subst kind
      exact makes skips frame here
    · by_cases kind : k' = k
      · subst kind
        refine .inr ⟨⟨rfl, skips, frame⟩, ?_⟩
        unfold stages
        rw [setDecode_decode, if_pos rfl]
        exact (out.append _).append _
      · refine .inl ⟨fun loses => kind loses.1, ?_⟩
        unfold stages
        rw [setDecode_decode, if_neg (Ne.symm kind)]
        rfl
  | decodePop k' made p rest here front =>
    refine .inl ⟨?_, ?_⟩
    · rintro ⟨kind, -, frame, there⟩
      subst kind
      simp [here] at there
    · refine .trans ?_ (keep k' _ (IDecode.stream_popPacket here front))
      simp [stages, setDecode]
  | audioPop resampled here => exact .inl ⟨id, keep .audio _ (IDecode.stream_popFrame _)⟩
  | videoPop here => exact .inl ⟨id, keep .video _ (IDecode.stream_popFrame _)⟩
  | stopAudio here => exact .inl ⟨id, keep .audio _ rfl⟩
  | stopVideo here => exact .inl ⟨id, keep .video _ rfl⟩
  | _ => exact .inl ⟨id, rfl⟩

/-- **The run lemma**: a run only takes frames out of a stream, and takes none exactly if no step of
it loses one. -/
theorem stages_run {labels : List Label} (sound : Sound output s)
    (run : (system output).run s labels = some t) (k : Kind) :
    (stages k t).Sublist (stages k s) ∧
      (stages k t = stages k s ↔ (system output).Guarded (fun s l => ¬Loses k s l) s labels) := by
  induction labels generalizing s with
  | nil =>
    cases run
    exact ⟨List.Sublist.refl _, iff_of_true rfl trivial⟩
  | cons l labels ih =>
    obtain ⟨u, enabled, rest⟩ := (system output).run_cons_eq_some.mp run
    obtain ⟨later, all⟩ := ih (sound_step sound (step_of_next enabled)) rest
    have guarded : (system output).Guarded (fun s l => ¬Loses k s l) s (l :: labels) ↔
        ¬Loses k s l ∧ (system output).Guarded (fun s l => ¬Loses k s l) u labels := by
      refine ⟨fun guarded => guarded.cons enabled, fun ⟨first, later⟩ => ⟨first, fun u' same => ?_⟩⟩
      cases enabled.symm.trans same
      exact later
    rw [guarded]
    rcases stages_step sound enabled k with ⟨keeps, same⟩ | ⟨loses, out⟩
    · rw [← same]
      exact ⟨later, all.trans (and_iff_right keeps).symm⟩
    · refine ⟨later.trans out.sublist, iff_of_false (fun same => ?_) fun ⟨keeps, _⟩ => keeps loses⟩
      have shorter := out.length
      have length := later.length_le
      rw [same] at length
      omega

/-- In every run the player holds a stream in the order of the file, nothing of it twice; and all of
it exactly if no step lost a frame. -/
def InOrder (output : Kind → FrameOutput) (file : List Packet) (k : Kind) : Prop :=
  ∀ labels s, (system output).run (start file) labels = some s →
    (stages k s).Sublist (framesOf k file) ∧
      (stages k s = framesOf k file ↔
        (system output).Guarded (fun s l => ¬Loses k s l) (start file) labels)

end Player

end Xplay
