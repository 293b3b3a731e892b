/-
**Who frees a container, and who a codec context.**

`FFDemux::open` closes its container and opens another; `IDecode::openDecode` allocates a codec
context for it, and remembers the container and one of its streams. `readPacket` remembers a stream
too. The contexts are cells of a `Heap`; a stream belongs to its container. The public calls come one
after the other, `setDataSource` and `openSource` in steps between which the threads read and decode.

A step that dereferences a null pointer is left out here, and so is what happens after `release`.

* `fate` — a step that is `Kept` leads on, and any other breaks the account.
* `contexts_owned_iff` — **the contexts of a run are owned throughout exactly if** no decoder that has
  a codec context is given another, and no container is used that the demuxer has closed.
-/

import Xplay.Lib.Ownership
import Xplay.Lib.Fate

namespace Xplay

open Lib

namespace ContextOwnership

/-- `IDecode`: the container of `formatCtx` and `pStream`, and the codec context. -/
structure Decoder where
  formatCtx : Option Nat
  codecContext : Option Nat

/-- `AudioDecode` and `VideoDecode`. -/
inductive Kind
  | audio
  | video

/-- How far `openDecode` gets. -/
inductive Answer
  | noParameters
  | notFound
  | allocated

/-- `setDataSource` or `openSource`, before its next step. -/
inductive Place
  | out
  | closed
  | opened
  | videoOpened
  | released

/-- The contexts and who points at them. `pStream` is the demuxer's. -/
structure Contexts where
  heap : Heap
  place : Place
  formatContext : Option Nat
  pStream : Option Nat
  video : Decoder
  audio : Decoder

inductive Label
  | close
  /-- With the results of `avformat_open_input` and `avformat_find_stream_info`. -/
  | avformat_open_input (opened found : Bool)
  | openVideo (answer : Answer)
  | openAudio (answer : Answer)
  /-- Or `getVideoHeight`. -/
  | getVideoWidth
  | getDuration
  | getCurrentPosition
  /-- With whether `av_read_frame` has a packet. -/
  | readPacket (packet : Bool)
  /-- `av_guess_frame_rate` or `av_guess_sample_aspect_ratio`, of `VideoDecode::decodePacket`. -/
  | av_guess
  /-- `avcodec_send_packet` or `avcodec_receive_frame`. -/
  | avcodec (kind : Kind)
  | release

/-- `IDecode::openDecode`. -/
def Decoder.openDecode (d : Decoder) (formatContext : Option Nat) (answer : Answer) (h : Heap) :
    Heap × Decoder :=
  match answer with
  | .noParameters => (h, d)
  | .notFound => (h, { d with formatCtx := formatContext })
  | .allocated => (h.alloc, ⟨formatContext, some h.fresh⟩)

namespace Contexts

/-- A player that was just built. -/
def new : Contexts := ⟨Heap.empty, .out, none, none, ⟨none, none⟩, ⟨none, none⟩⟩

/-- `audioDecode` and `videoDecode`. -/
def decoder (s : Contexts) : Kind → Decoder
  | .audio => s.audio
  | .video => s.video

/-- **One step.** -/
def next (s : Contexts) : Label → Option Contexts
  | .close =>
    match s.place with
    | .out => some { s with
        heap := s.heap.releaseAt s.formatContext
        formatContext := none
        place := .closed }
    | _ => none
  | .avformat_open_input opened found =>
    match s.place with
    | .closed =>
      if opened then
        some { s with
          heap := s.heap.alloc
          formatContext := some s.heap.fresh
          place := if found then .opened else .out }
      else some { s with place := .out }
    | _ => none
  | .openVideo answer =>
    match s.place with
    | .opened =>
      let d := s.video.openDecode s.formatContext answer s.heap
      some { s with heap := d.1, video := d.2, place := .videoOpened }
    | _ => none
  | .openAudio answer =>
    match s.place with
    | .videoOpened =>
      let d := s.audio.openDecode s.formatContext answer s.heap
      some { s with heap := d.1, audio := d.2, place := .out }
    | _ => none
  | .getVideoWidth =>
    match s.place, s.video.codecContext with
    | .out, some codecContext => some { s with heap := s.heap.use codecContext }
    | _, _ => none
  | .getDuration =>
    match s.place, s.video.formatCtx, s.video.codecContext with
    | .out, some formatCtx, some codecContext =>
      some { s with heap := (s.heap.use formatCtx).use codecContext }
    | _, _, _ => none
  | .getCurrentPosition =>
    match s.place, s.video.formatCtx with
    | .released, _ => none
    | _, some formatCtx => some { s with heap := s.heap.use formatCtx }
    | _, none => none
  | .readPacket packet =>
    match s.place, s.formatContext with
    | .released, _ => none
    | _, some formatContext =>
      let heap := s.heap.use formatContext
      let pStream := s.pStream.getD formatContext
      some (if packet then { s with heap := heap.use pStream, pStream := some pStream }
        else { s with heap := heap })
    | _, none => none
  | .av_guess =>
    match s.place, s.video.formatCtx with
    | .released, _ => none
    | _, some formatCtx => some { s with heap := s.heap.use formatCtx }
    | _, none => none
  | .avcodec kind =>
    match s.place, (s.decoder kind).codecContext with
    | .released, _ => none
    | _, some codecContext => some { s with heap := s.heap.use codecContext }
    | _, none => none
  | .release =>
    match s.place with
    | .out =>
      some { s with
        heap := ((s.heap.releaseAt s.formatContext).releaseAt s.audio.codecContext).releaseAt
          s.video.codecContext
        place := .released
        formatContext := none
        pStream := none
        video := ⟨none, none⟩
        audio := ⟨none, none⟩ }
    | _ => none

def system : System Contexts Label := ⟨next⟩

/-! ### Who holds a context -/

/-- The contexts of the demuxer and of the decoders. -/
def held (s : Contexts) : List Nat :=
  s.formatContext.toList ++ s.audio.codecContext.toList ++ s.video.codecContext.toList

/-- **Every context is held once or was freed once, and no freed context was used.** -/
def Owned (s : Contexts) : Prop := s.heap.Accounts s.held

/-- **The steps that keep it so.** -/
def Kept (s : Contexts) : Label → Prop
  | .openVideo .allocated => s.video.codecContext = none
  | .openAudio .allocated => s.audio.codecContext = none
  | .getDuration | .getCurrentPosition | .av_guess => s.video.formatCtx = s.formatContext
  | .readPacket true => s.pStream = none ∨ s.pStream = s.formatContext
  | _ => True

/-- A container that is remembered is the demuxer's, or it was closed. -/
def Remembers (s : Contexts) (pointer : Option Nat) : Prop :=
  ∀ p, pointer = some p → s.formatContext = some p ∨ s.heap.released p ≠ 0

/-- **The account**, and what the pointers into it point at. -/
structure Sound (s : Contexts) : Prop where
  owned : s.Owned
  video : s.Remembers s.video.formatCtx
  audio : s.Remembers s.audio.formatCtx
  demux : s.Remembers s.pStream
  closed : s.place = .closed → s.formatContext = none

theorem sound_new : new.Sound := ⟨Heap.accounts_empty, nofun, nofun, nofun, nofun⟩

/-- **What becomes of a step**: one that is `Kept` leads on, any other breaks the account. -/
abbrev Fate (s : Contexts) (l : Label) (t : Contexts) : Prop := Lib.Fate (s.Kept l) t.Sound t.Owned

variable {s t : Contexts} {l : Label}

theorem Remembers.later {pointer : Option Nat} (remembers : s.Remembers pointer)
    (later : s.heap.Later t.heap)
    (closed : ∀ p, s.formatContext = some p → t.formatContext = some p ∨ t.heap.released p ≠ 0) :
    t.Remembers pointer := by
  intro p named
  rcases remembers p named with here | gone
  · exact closed p here
  · exact .inr (later.released p gone)

/-- **A context that is held is used**: the pointers do not change. -/
theorem Sound.use (sound : s.Sound) {p : Nat} (holds : p ∈ s.held) :
    Sound { s with heap := s.heap.use p } :=
  ⟨sound.owned.use holds, sound.video, sound.audio, sound.demux, sound.closed⟩

/-- **The container is closed**, and whoever remembers it remembers a freed one. -/
theorem fate_close (sound : s.Sound) (step : s.next .close = some t) : Fate s .close t := by
  dsimp only [next] at step
  split at step
  case h_1 =>
    cases step
    have owned : s.heap.Accounts (s.formatContext.toList ++
        (s.audio.codecContext.toList ++ s.video.codecContext.toList)) :=
      List.append_assoc .. ▸ sound.owned
    have remembers {pointer : Option Nat} (before : s.Remembers pointer) (place : Place) :
        Remembers { s with
          heap := s.heap.releaseAt s.formatContext
          formatContext := none
          place := place } pointer := by
      refine before.later (Heap.later_releaseAt ..) fun p here => .inr ?_
      rw [here]
      exact (Heap.release_released ..).trans_ne (Nat.succ_ne_zero _)
    exact .of_sound trivial ⟨Heap.Accounts.releaseAt owned, remembers sound.video _,
      remembers sound.audio _, remembers sound.demux _, fun _ => rfl⟩
  case h_2 => cases step

/-- **A new container** takes the place of none. -/
theorem fate_avformat_open_input (sound : s.Sound) {opened found : Bool}
    (step : s.next (.avformat_open_input opened found) = some t) :
    Fate s (.avformat_open_input opened found) t := by
  dsimp only [next] at step
  split at step
  case h_1 place =>
    have none := sound.closed place
    have owned : s.heap.Accounts s.held := sound.owned
    rw [held, none] at owned
    cases opened with
    | true =>
      cases step
      have remembers {pointer : Option Nat} (before : s.Remembers pointer) (place : Place) :
          Remembers { s with
            heap := s.heap.alloc
            formatContext := some s.heap.fresh
            place := place } pointer :=
        before.later (Heap.later_alloc _) fun p here => nomatch none.symm.trans here
      refine .of_sound trivial ⟨owned.alloc, remembers sound.video _, remembers sound.audio _,
        remembers sound.demux _, fun place => ?_⟩
      cases found <;> cases place
    | false =>
      cases step
      exact .of_sound trivial ⟨sound.owned, sound.video, sound.audio, sound.demux, nofun⟩
  case h_2 => cases step

/-- **What `openDecode` does to the account** of a decoder. -/
theorem openDecode_accounts {h : Heap} {d : Decoder} {rest : List Nat} (formatContext : Option Nat)
    (answer : Answer) (accounts : h.Accounts (d.codecContext.toList ++ rest)) :
    (answer = .allocated ∧ d.codecContext ≠ none ∧
      ¬(d.openDecode formatContext answer h).1.Accounts
        ((d.openDecode formatContext answer h).2.codecContext.toList ++ rest)) ∨
    ((answer = .allocated → d.codecContext = none) ∧
      (d.openDecode formatContext answer h).1.Accounts
        ((d.openDecode formatContext answer h).2.codecContext.toList ++ rest)) := by
  cases answer with
  | noParameters => exact .inr ⟨nofun, accounts⟩
  | notFound => exact .inr ⟨nofun, accounts⟩
  | allocated =>
    obtain ⟨formatCtx, codecContext⟩ := d
    cases codecContext with
    | none => exact .inr ⟨fun _ => rfl, accounts.alloc⟩
    | some p =>
      refine .inl ⟨rfl, nofun, fun without => ?_⟩
      -- the old context is in the account, the new one is not lost with it
      have both : h.alloc.Accounts (p :: h.fresh :: rest) :=
        accounts.alloc.perm (List.Perm.swap ..)
      exact both.not_lost without

theorem later_openDecode (d : Decoder) (formatContext : Option Nat) (answer : Answer) (h : Heap) :
    h.Later (d.openDecode formatContext answer h).1 := by
  cases answer with
  | noParameters => exact .refl h
  | notFound => exact .refl h
  | allocated => exact Heap.later_alloc h

/-- A decoder remembers the container it remembered, or the one it was given. -/
theorem openDecode_formatCtx (d : Decoder) (formatContext : Option Nat) (answer : Answer)
    (h : Heap) : (d.openDecode formatContext answer h).2.formatCtx = d.formatCtx ∨
      (d.openDecode formatContext answer h).2.formatCtx = formatContext := by
  cases answer with
  | noParameters => exact .inl rfl
  | notFound => exact .inr rfl
  | allocated => exact .inr rfl

/-- **The video decoder** that gets a codec context loses the one it had. -/
theorem fate_openVideo (sound : s.Sound) {answer : Answer}
    (step : s.next (.openVideo answer) = some t) : Fate s (.openVideo answer) t := by
  dsimp only [next] at step
  split at step
  case h_1 =>
    cases step
    have first : s.held.Perm (s.video.codecContext.toList ++
        (s.formatContext.toList ++ s.audio.codecContext.toList)) := List.perm_append_comm
    have kept : s.Kept (.openVideo answer) ↔ (answer = .allocated → s.video.codecContext = none) := by
      cases answer <;> simp [Kept]
    have remembers {pointer : Option Nat} (before : s.Remembers pointer) :
        Remembers { s with
          heap := (s.video.openDecode s.formatContext answer s.heap).1
          video := (s.video.openDecode s.formatContext answer s.heap).2
          place := .videoOpened } pointer :=
      before.later (later_openDecode ..) fun _ here => .inl here
    rcases openDecode_accounts s.formatContext answer (Heap.Accounts.perm sound.owned first.symm) with
      ⟨allocated, old, broken⟩ | ⟨fits, owned⟩
    · exact .of_broken (fun holds => old (kept.mp holds allocated)) fun owned' =>
        broken (owned'.perm List.perm_append_comm)
    · refine .of_sound (kept.mpr fits) ⟨owned.perm List.perm_append_comm, ?_, remembers sound.audio,
        remembers sound.demux, nofun⟩
      rcases openDecode_formatCtx s.video s.formatContext answer s.heap with same | same
      · rw [same]
        exact remembers sound.video
      · rw [same]
        exact fun _ here => .inl here
  case h_2 => cases step

/-- **The audio decoder** that gets a codec context loses the one it had. -/
theorem fate_openAudio (sound : s.Sound) {answer : Answer}
    (step : s.next (.openAudio answer) = some t) : Fate s (.openAudio answer) t := by
  dsimp only [next] at step
  split at step
  case h_1 =>
    cases step
    have first (audio : Option Nat) : (s.formatContext.toList ++ audio.toList ++
        s.video.codecContext.toList).Perm (audio.toList ++
          (s.formatContext.toList ++ s.video.codecContext.toList)) := by
      rw [← List.append_assoc]
      exact List.perm_append_comm.append_right _
    have kept : s.Kept (.openAudio answer) ↔ (answer = .allocated → s.audio.codecContext = none) := by
      cases answer <;> simp [Kept]
    have remembers {pointer : Option Nat} (before : s.Remembers pointer) :
        Remembers { s with
          heap := (s.audio.openDecode s.formatContext answer s.heap).1
          audio := (s.audio.openDecode s.formatContext answer s.heap).2
          place := .out } pointer :=
      before.later (later_openDecode ..) fun _ here => .inl here
    rcases openDecode_accounts s.formatContext answer
      (Heap.Accounts.perm sound.owned (first _).symm) with ⟨allocated, old, broken⟩ | ⟨fits, owned⟩
    · exact .of_broken (fun holds => old (kept.mp holds allocated)) fun owned' =>
        broken (owned'.perm (first _).symm)
    · refine .of_sound (kept.mpr fits) ⟨owned.perm (first _), remembers sound.video, ?_,
        remembers sound.demux, nofun⟩
      rcases openDecode_formatCtx s.audio s.formatContext answer s.heap with same | same
      · rw [same]
        exact remembers sound.audio
      · rw [same]
        exact fun _ here => .inl here
  case h_2 => cases step

/-- **A container that is remembered is used**: it is the demuxer's, or it was closed. -/
theorem Sound.use_remembered (sound : s.Sound) {pointer : Option Nat} (remembers : s.Remembers pointer)
    {p : Nat} (named : pointer = some p) :
    (pointer = s.formatContext → Sound { s with heap := s.heap.use p }) ∧
      (pointer ≠ s.formatContext → s.heap.released p ≠ 0) := by
  refine ⟨fun here => sound.use ?_, fun other => ?_⟩
  · have there : p ∈ s.formatContext.toList := by rw [← here, named]; exact List.mem_singleton_self p
    exact List.mem_append_left _ (List.mem_append_left _ there)
  · rcases remembers p named with here | gone
    · exact absurd (named.trans here.symm) other
    · exact gone

/-- A codec context that a decoder points at is held. -/
theorem mem_held_codec (kind : Kind) {p : Nat} (named : (s.decoder kind).codecContext = some p) :
    p ∈ s.held := by
  cases kind with
  | audio =>
    have there : p ∈ s.audio.codecContext.toList := Option.mem_toList.mpr named
    exact List.mem_append_left _ (List.mem_append_right _ there)
  | video =>
    have there : p ∈ s.video.codecContext.toList := Option.mem_toList.mpr named
    exact List.mem_append_right _ there

/-- **The container of the video decoder is used**, and maybe its codec context. -/
theorem fate_video (sound : s.Sound) {p : Nat} (named : s.video.formatCtx = some p)
    (kept : s.Kept l ↔ s.video.formatCtx = s.formatContext) :
    Fate s l { s with heap := s.heap.use p } ∧
      ∀ q, s.video.codecContext = some q → Fate s l { s with heap := (s.heap.use p).use q } := by
  obtain ⟨here, gone⟩ := sound.use_remembered sound.video named
  by_cases same : s.video.formatCtx = s.formatContext
  · exact ⟨.of_sound (kept.mpr same) (here same), fun q named' =>
      .of_sound (kept.mpr same) ((here same).use (mem_held_codec .video named'))⟩
  · exact ⟨.of_broken (fun holds => same (kept.mp holds)) (Heap.not_accounts_use (gone same) _),
      fun q _ => .of_broken (fun holds => same (kept.mp holds))
        (Heap.not_accounts_use_use (gone same) q _)⟩

/-- **The demuxer reads from its container**, and looks at the stream it remembers. -/
theorem fate_readPacket (sound : s.Sound) {packet : Bool}
    (step : s.next (.readPacket packet) = some t) : Fate s (.readPacket packet) t := by
  dsimp only [next] at step
  split at step
  case h_1 => cases step
  case h_2 formatContext named _ =>
    have holds : formatContext ∈ s.held := List.mem_append_left _ (List.mem_append_left _
      (Option.mem_toList.mpr named))
    have read := sound.use holds
    cases packet with
    | false =>
      cases step
      exact .of_sound trivial read
    | true =>
      cases step
      cases remembered : s.pStream with
      | none =>
        exact .of_sound (.inl remembered) ⟨(read.use holds).owned, read.video, read.audio,
          fun p same => .inl (named.trans same), read.closed⟩
      | some p =>
        obtain ⟨here, gone⟩ := read.use_remembered read.demux remembered
        by_cases same : s.pStream = s.formatContext
        · have after := here same
          exact .of_sound (.inr same) ⟨after.owned, after.video, after.audio,
            fun q named' => .inl (same.symm.trans (remembered.trans named')), after.closed⟩
        · refine .of_broken (fun kept => ?_) (Heap.not_accounts_use (gone same) _)
          exact kept.elim (fun none => nomatch remembered.symm.trans none) same
  case h_3 => cases step

/-- **`release` frees what is held.** -/
theorem fate_release (sound : s.Sound) (step : s.next .release = some t) : Fate s .release t := by
  dsimp only [next] at step
  split at step
  case h_1 =>
    cases step
    have owned : s.heap.Accounts (s.formatContext.toList ++
        (s.audio.codecContext.toList ++ s.video.codecContext.toList)) :=
      List.append_assoc .. ▸ sound.owned
    have last : ((s.heap.releaseAt s.formatContext).releaseAt s.audio.codecContext).Accounts
        (s.video.codecContext.toList ++ []) :=
      (List.append_nil s.video.codecContext.toList).symm ▸
        Heap.Accounts.releaseAt (Heap.Accounts.releaseAt owned)
    exact .of_sound trivial ⟨Heap.Accounts.releaseAt last, nofun, nofun, nofun, fun _ => rfl⟩
  case h_2 => cases step

theorem fate (sound : s.Sound) (step : s.next l = some t) : Fate s l t := by
  cases l with
  | close => exact fate_close sound step
  | avformat_open_input => exact fate_avformat_open_input sound step
  | openVideo => exact fate_openVideo sound step
  | openAudio => exact fate_openAudio sound step
  | readPacket => exact fate_readPacket sound step
  | release => exact fate_release sound step
  | getVideoWidth =>
    dsimp only [next] at step
    split at step
    case h_1 p _ named =>
      cases step
      exact .of_sound trivial (sound.use (mem_held_codec .video named))
    case h_2 => cases step
  | getDuration =>
    dsimp only [next] at step
    split at step
    case h_1 p q _ named named' =>
      cases step
      exact (fate_video sound named Iff.rfl).2 q named'
    case h_2 => cases step
  | getCurrentPosition =>
    dsimp only [next] at step
    split at step
    case h_2 p named _ =>
      cases step
      exact (fate_video sound named Iff.rfl).1
    all_goals cases step
  | av_guess =>
    dsimp only [next] at step
    split at step
    case h_2 p named _ =>
      cases step
      exact (fate_video sound named Iff.rfl).1
    all_goals cases step
  | avcodec kind =>
    dsimp only [next] at step
    split at step
    case h_2 p named _ =>
      cases step
      exact .of_sound trivial (sound.use (mem_held_codec kind named))
    all_goals cases step

/-- `setDataSource`, then `openSource` for a file that has gone, and `getDuration`. -/
def reopened : List Label :=
  [.close, .avformat_open_input true true, .openVideo .allocated, .openAudio .allocated,
    .close, .avformat_open_input false false, .getDuration]

/-- The decoder reads the duration of the container that was closed. -/
example : ∃ s, system.run new reopened = some s ∧ s.heap.released 0 = 1 ∧ s.heap.misused = true :=
  ⟨_, rfl, rfl, rfl⟩

end Contexts

end ContextOwnership

end Xplay
