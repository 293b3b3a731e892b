/-
**When a playing player does not get stuck.**

`audioPlay` takes no frame while `lastFramePts` is `0`, its value before the first video frame and
after a video frame of pts `0`. Nobody empties the audio queues meanwhile, and the demux thread, which
reads the streams in file order, waits at the first audio packet they have no room for.

* `Flows` — the files this does not happen to: every frame has a size, no audio is left behind a
  closed gate at the end, and no audio packet follows `audioRoom` others behind one.
* `deadlockFree_of_flows` — a player on such a file never gets stuck, however its threads are
  scheduled.
-/

import Xplay.Player.PlayerRests

namespace Xplay

open Lib

/-- The audio packets and frames the player holds while nothing is shown: a full packet queue, the
frame in the decoder's hand, a full frame queue. -/
def audioRoom : Nat := packetQueueSize + 1 + FRAME_QUEUE_SIZE

/-- The audio gate is closed once the video of these packets is shown. -/
def GateClosed (output : Kind → FrameOutput) (packets : List Packet) : Prop :=
  lastPts (output .video) (framesOf .video packets) = some 0

/-- Every frame has a size. -/
def Sized (output : Kind → FrameOutput) (file : List Packet) : Prop :=
  ∀ p ∈ file, (output p.kind).size p.frame ≠ 0

/-- **The files a player gets through.** -/
structure Flows (output : Kind → FrameOutput) (file : List Packet) : Prop where
  sized : Sized output file
  leadIn : ∀ before p after, file = before ++ p :: after → p.kind = .audio →
    GateClosed output before → (framesOf .audio before).length < audioRoom
  ending : GateClosed output file → framesOf .audio file = []

namespace Player

/-- **A player on this file never gets stuck**: in every state it reaches that has packets or unshown
frames left, some thread moves. -/
def DeadlockFree (output : Kind → FrameOutput) (file : List Packet) : Prop :=
  ∀ s, (system output).ReachesBy Playing (start file) s → s.Left → Moves output s

variable {output : Kind → FrameOutput} {file : List Packet} {s : Player}

/-! ### What the player holds -/

/-- The frames of a decoder came from the file. -/
theorem mem_of_stream (flow : Flow output file s) {k : Kind} {frame : AVFrame}
    (given : frame ∈ (s.decode k).stream) : ∃ p ∈ s.pushed, p.kind = k ∧ p.frame = frame := by
  rw [flow.stream k] at given
  obtain ⟨p, chosen, same⟩ := List.mem_map.mp given
  obtain ⟨pushed, kind⟩ := List.mem_filter.mp chosen
  exact ⟨p, pushed, of_decide_eq_true kind, same⟩

/-- An unshown frame is seen. -/
theorem saw_of_unshown (sound : Sound output s) (flow : Flow output file s)
    (sized : Sized output file) {k : Kind} (some : (s.decode k).unshown ≠ []) :
    (s.decode k).frameQueue.currentFrame.size ≠ 0 := by
  obtain ⟨stored, held⟩ := sound.held k
  rcases held.current with ⟨frame, rest, unshown, size, -⟩ | ⟨nothing, -⟩
  · have given : frame ∈ (s.decode k).stream := by simp [IDecode.stream, unshown]
    obtain ⟨p, pushed, rfl, rfl⟩ := mem_of_stream flow given
    rw [size]
    refine sized p ?_
    rw [← flow.order]
    simp [pushed]
  · exact absurd nothing some

/-- **How much of a stream the player holds**: a full packet queue, a frame in the decoder's hand, and
a full frame queue, which from the first pop on keeps a shown frame. -/
theorem pushed_le (sound : Sound output s) (flow : Flow output file s) (k : Kind) :
    (framesOf k s.pushed).length + min (s.decode k).shown.length 1 ≤
      (s.decode k).shown.length + audioRoom := by
  obtain ⟨stored, held⟩ := sound.held k
  have kept := flow.kept k
  have packets := sound.packets k
  have length := held.unshown_length
  have size := held.shared.ring.size_le
  have hand : (s.decode k).loc.hand.length ≤ 1 := by
    cases (s.decode k).loc <;> simp [DecodeLoc.hand]
  rw [held.maxSize] at size
  rw [← flow.stream k]
  simp only [IDecode.stream, List.length_append, List.length_map]
  unfold audioRoom
  omega

/-- A demux thread that is gone has pushed all of the file. -/
theorem pushed_all (flow : Flow output file s) (gone : s.demux = .exited) :
    s.file = [] ∧ s.pushed = file := by
  have read : s.file = [] := flow.alive.demux gone
  have order := flow.order
  rw [gone, read, List.append_nil] at order
  exact ⟨read, by simpa [DemuxLoc.hand] using order⟩

/-- A demux thread that waits holds the next packet of the file. -/
theorem pushed_next (flow : Flow output file s) {p : Packet} (waits : s.demux = .pushWaiting p) :
    file = s.pushed ++ p :: s.file := by
  rw [← flow.order, waits]
  simp [DemuxLoc.hand]

/-! ### Players whose threads wait -/

namespace Waiting

/-- The video is shown. -/
theorem video_shown (waiting : Waiting s) (sound : Sound output s) (flow : Flow output file s)
    (sized : Sized output file) : (s.decode .video).unshown = [] := by
  by_contra some
  exact saw_of_unshown sound flow sized some waiting.dark

/-- A decoder without unshown frames waits for a packet. -/
theorem popWaiting (waiting : Waiting s) (sound : Sound output s) {k : Kind}
    (nothing : (s.decode k).unshown = []) :
    (s.decode k).loc = .popWaiting ∧ (s.decode k).packetQueue = [] := by
  obtain ⟨stored, held⟩ := sound.held k
  have claims := held.claims
  rcases waiting.decode k with waits | ⟨frame, waits⟩ <;> rw [waits] at claims
  · exact ⟨waits, claims⟩
  · exact absurd nothing (held.unshown_of_full claims)

/-- The unshown frames of a decoder that waits are those in its queue. -/
theorem unshown_size (waiting : Waiting s) (sound : Sound output s) (k : Kind) :
    (s.decode k).unshown.length = (s.decode k).frameQueue.getFrameSize := by
  obtain ⟨stored, held⟩ := sound.held k
  have length := held.unshown_length
  have ahead : (s.decode k).loc.ahead = 0 := by
    rcases waiting.decode k with waits | ⟨frame, waits⟩ <;> rw [waits] <;> rfl
  unfold FrameQueue.getFrameSize
  omega

/-- **All video that was pushed was shown**, and decides the gate. -/
theorem gate (waiting : Waiting s) (sound : Sound output s) (flow : Flow output file s)
    (sized : Sized output file) :
    s.lastFramePts = lastPts (output .video) (framesOf .video s.pushed) := by
  have nothing := waiting.video_shown sound flow sized
  obtain ⟨waits, empty⟩ := waiting.popWaiting sound nothing
  have stream := flow.stream .video
  simp only [IDecode.stream, nothing, empty, waits, DecodeLoc.hand, List.map_nil,
    List.append_nil] at stream
  have loose : s.videoSync ≠ .popping := by
    intro popping
    have bound := waiting.videoSync
    rw [popping] at bound
    cases bound
  rw [flow.gate]
  unfold seen
  rw [if_neg loose, List.append_nil, stream]

/-- **A demux thread that waits has pushed all the audio there is room for.** -/
theorem crowded (waiting : Waiting s) (sound : Sound output s) (flow : Flow output file s)
    (sized : Sized output file) {p : Packet} (waits : s.demux = .pushWaiting p) :
    p.kind = .audio ∧ (s.decode .audio).unshown ≠ [] ∧
      (framesOf .audio s.pushed).length + min (s.decode .audio).shown.length 1 =
        (s.decode .audio).shown.length + audioRoom := by
  have full := sound.pushWaiting p waits
  have some : (s.decode p.kind).unshown ≠ [] := by
    intro nothing
    rw [(waiting.popWaiting sound nothing).2] at full
    cases full
  cases kind : p.kind with
  | video =>
    rw [kind] at some
    exact absurd (waiting.video_shown sound flow sized) some
  | audio =>
    rw [kind] at full some
    refine ⟨rfl, some, Nat.le_antisymm (pushed_le sound flow .audio) ?_⟩
    obtain ⟨stored, held⟩ := sound.held .audio
    have claims := held.claims
    have length := held.unshown_length
    have kept := flow.kept .audio
    rcases waiting.decode .audio with there | ⟨frame, there⟩ <;> rw [there] at claims length
    · rw [claims] at full
      cases full
    · have size : FRAME_QUEUE_SIZE ≤ (s.decode .audio).frameQueue.size := by
        rw [← held.maxSize]
        exact claims
      rw [← flow.stream .audio]
      simp only [IDecode.stream, there, DecodeLoc.hand, List.length_append, List.length_map,
        List.length_singleton]
      simp only [DecodeLoc.ahead] at length
      unfold audioRoom
      omega

end Waiting

/-! ### Files that flow -/

namespace Rests

/-- The audio of a player at rest is shown, or behind a closed gate. -/
theorem audio_shown (rests : Rests s) (sound : Sound output s) (flow : Flow output file s)
    (sized : Sized output file) :
    (s.decode .audio).unshown = [] ∨ GateClosed output s.pushed := by
  rcases rests.deaf with blank | closed
  · left
    by_contra some
    exact saw_of_unshown sound flow sized some blank
  · exact .inr ((rests.gate sound flow sized).symm.trans closed)

/-- **On a file that flows a player at rest has nothing left.** -/
theorem not_left (rests : Rests s) (sound : Sound output s) (flow : Flow output file s)
    (flows : Flows output file) : ¬s.Left := by
  have audio := rests.audio_shown sound flow flows.sized
  rcases rests.demux with gone | ⟨p, waits⟩
  · obtain ⟨read, pushed⟩ := pushed_all flow gone
    have shown : (s.decode .audio).unshown = [] := by
      rcases audio with nothing | closed
      · exact nothing
      · have none := flows.ending (pushed ▸ closed)
        have stream := flow.stream .audio
        rw [pushed, none] at stream
        simp only [IDecode.stream, List.append_eq_nil_iff] at stream
        exact stream.1.1.2
    rintro (left | left | ⟨k, left⟩)
    · exact left read
    · rw [gone] at left
      exact left rfl
    · have nothing : (s.decode k).unshown = [] := by
        cases k with
        | audio => exact shown
        | video => exact rests.video_shown sound flow flows.sized
      obtain ⟨waits, empty⟩ := rests.popWaiting sound nothing
      have size := rests.unshown_size sound k
      rw [nothing, List.length_nil] at size
      rw [waits] at left
      rcases left with left | left | left
      · exact left empty
      · exact left rfl
      · omega
  · -- the packet it holds would be one too many
    obtain ⟨kind, some, many⟩ := rests.crowded sound flow flows.sized waits
    have few := flows.leadIn s.pushed p s.file (pushed_next flow waits) kind
      (audio.resolve_left some)
    omega

end Rests

/-- **A player on a file that flows never gets stuck.** -/
theorem deadlockFree_of_flows (flows : Flows output file) : DeadlockFree output file := by
  intro s reach left
  obtain ⟨sound, flow⟩ := flow_run (sound_start file) (flow_start output file) reach
  by_contra stays
  exact ((not_moves_iff sound flow).mp stays).not_left sound flow flows left

end Player

end Xplay
