/-
**What `MediaMetadataRetriever` allocates and frees.**

The struct behind `state` owns the container, and an encoder and a scaler for the frames of the
video's own size and for those of another. `init` closes the container and keeps the contexts, of
which `openStream` makes new ones; a source that cannot be opened sets `state` to null and frees
nothing; `release` frees everything and leaves `state` as it is. The structs, containers, contexts
and option dictionaries are cells of a `Heap`.

What a call does that reads a freed struct is not followed further. Left out are the packet of the
caller and what `decodeFrame` and `encodeImage` allocate and free themselves.

* `make_accounts` — an encoder and a scaler are made, and what the two members named before is lost.
* `retriever_owned_iff` — everything is owned throughout a run exactly if every source opens, leaves
  no option, and finds the members empty that it assigns, and no call follows a `release`.
* `owned_destroyed` — then the destructor leaves nothing behind.
-/

import Xplay.Lib.Fate
import Xplay.Lib.Ownership

namespace Xplay.RetrieverOwnership

open Lib

/-- The members of `MetadataState` that own something. -/
inductive Member
  | pFormatCtx
  | pSwsContext
  | pCodecContext
  | pScaleCodecContext
  | pScaleSwsContext
  deriving DecidableEq

/-- In the order in which `release` frees them. -/
def members : List Member :=
  [.pFormatCtx, .pSwsContext, .pCodecContext, .pScaleCodecContext, .pScaleSwsContext]

/-- How far `openStream` or `initScaleContext` comes with the PNG encoder and the scaler. -/
inductive Made
  | noEncoder
  | noContext
  | notOpened
  | noScaler
  | all

/-- The members that are assigned. -/
def Made.assigns (codec scaler : Member) : Made → List Member
  | .noEncoder => []
  | .noContext | .notOpened => [codec]
  | .noScaler | .all => [codec, scaler]

/-- FFmpeg's answers to `setDataSource`: whether `avformat_open_input` leaves options in the
dictionary, opens the container, and finds its streams; and, if a video stream is opened, how far
its encoder and scaler come. -/
structure Source where
  unused : Bool
  opened : Bool
  found : Bool
  video : Option Made

/-- `MetadataState`; `video`: there is a `videoStreamIndex`. -/
structure MetadataState where
  owns : Member → Option Nat
  video : Bool

/-- The retriever. `struct` is what is behind `state`, unless it was freed. -/
structure Retriever where
  heap : Heap
  state : Option Nat
  struct : Option MetadataState
  destroyed : Bool

inductive Label
  | setDataSource (source : Source)
  /-- `getMetadata`, `extractMetadata`. -/
  | query
  /-- `getFrame`: whether it comes to `encodeImage`, and with a size. -/
  | getFrame (encodes sized : Bool) (made : Made)
  | release
  | destroy

/-- An encoder and a scaler are made for two members. -/
def make (made : Made) (codec scaler : Member) (h : Heap) (owns : Member → Option Nat) :
    Heap × (Member → Option Nat) :=
  match made with
  | .noEncoder => (h, owns)
  | .noContext => (h, Function.update owns codec none)
  | .notOpened => (h.alloc, Function.update owns codec (some h.fresh))
  | .noScaler =>
    (h.alloc, Function.update (Function.update owns codec (some h.fresh)) scaler none)
  | .all =>
    (h.alloc.alloc,
      Function.update (Function.update owns codec (some h.fresh)) scaler (some h.alloc.fresh))

namespace Retriever

def new : Retriever := ⟨Heap.empty, none, none, false⟩

/-- `state` names a struct that was freed. -/
def Dangling (s : Retriever) : Prop := s.state ≠ none ∧ s.struct = none

/-- `init`: the struct, and what it owns then. -/
def init (s : Retriever) : Heap × Nat × (Member → Option Nat) :=
  match s.state, s.struct with
  | some p, some m =>
    ((s.heap.use p).releaseAt (m.owns .pFormatCtx), p, Function.update m.owns .pFormatCtx none)
  | _, _ => (s.heap.alloc, s.heap.fresh, fun _ => none)

/-- The dictionary that `avformat_open_input` gets, and frees unless options are left in it. -/
def options (h : Heap) (source : Source) : Heap :=
  if source.unused then h.alloc else h.alloc.release h.fresh

/-- `setDataSource` from `avformat_open_input` on, for the struct at `p`. -/
def openInput (s : Retriever) (source : Source) (h : Heap) (p : Nat)
    (owns : Member → Option Nat) : Retriever :=
  if source.opened then
    if source.found then
      let owns := Function.update owns .pFormatCtx (some h.fresh)
      match source.video with
      | none => { s with heap := h.alloc, state := some p, struct := some ⟨owns, false⟩ }
      | some made =>
        let contexts := make made .pCodecContext .pSwsContext h.alloc owns
        { s with heap := contexts.1, state := some p, struct := some ⟨contexts.2, true⟩ }
    else { s with heap := h.alloc.release h.fresh, state := none, struct := none }
  else { s with heap := h, state := none, struct := none }

/-- `setDataSource`. -/
def setDataSource (s : Retriever) (source : Source) : Retriever :=
  let d := s.init
  s.openInput source (options d.1 source) d.2.1 d.2.2

/-- `encodeImage` makes the contexts for frames of another size while one of them is missing. -/
def lacks (m : MetadataState) (encodes sized : Bool) : Bool :=
  m.video && encodes && sized &&
    ((m.owns .pScaleCodecContext).isNone || (m.owns .pScaleSwsContext).isNone)

/-- `getFrame`. -/
def getFrame (s : Retriever) (p : Nat) (m : MetadataState) (encodes sized : Bool) (made : Made) :
    Retriever :=
  let h := s.heap.use p
  if lacks m encodes sized then
    let contexts := make made .pScaleCodecContext .pScaleSwsContext h m.owns
    { s with heap := contexts.1, struct := some { m with owns := contexts.2 } }
  else { s with heap := h }

/-- `release`. -/
def release (s : Retriever) (p : Nat) (m : MetadataState) : Retriever :=
  { s with
    heap := (members.foldl (fun h member => h.releaseAt (m.owns member)) (s.heap.use p)).release p
    struct := none }

/-- **One step.** -/
def next (s : Retriever) (l : Label) : Option Retriever :=
  if s.destroyed then none
  else
    match s.state, s.struct with
    | some p, none => some { s with heap := s.heap.use p }
    | none, _ =>
      match l with
      | .setDataSource source => some (s.setDataSource source)
      | .destroy => some { s with destroyed := true }
      | _ => some s
    | some p, some m =>
      match l with
      | .setDataSource source => some (s.setDataSource source)
      | .query => some { s with heap := s.heap.use p }
      | .getFrame encodes sized made => some (s.getFrame p m encodes sized made)
      | .release => some (s.release p m)
      | .destroy => some { s.release p m with destroyed := true }

def system : System Retriever Label := ⟨next⟩

/-- The struct and what it owns. -/
def held (s : Retriever) : List Nat :=
  match s.struct with
  | some m => s.state.toList ++ slotted members m.owns
  | none => []

/-- **Everything is owned by the struct or was freed once, and nothing freed was used.** -/
def Owned (s : Retriever) : Prop := s.heap.Accounts s.held

/-- **The call loses nothing, and reads no freed struct.** -/
def Keeps (s : Retriever) (l : Label) : Prop :=
  ¬s.Dangling ∧
    match l with
    | .setDataSource source =>
      source.unused = false ∧ source.opened = true ∧ source.found = true ∧
        ∀ made, source.video = some made → ∀ m, s.struct = some m →
          ∀ member ∈ made.assigns .pCodecContext .pSwsContext, m.owns member = none
    | .getFrame encodes sized made =>
      ∀ m, s.struct = some m → lacks m encodes sized = true →
        ∀ member ∈ made.assigns .pScaleCodecContext .pScaleSwsContext, m.owns member = none
    | _ => True

end Retriever

/-! ### The contexts -/

section Assign

variable {h : Heap} {rest : List Nat} {owns : Member → Option Nat}

theorem nodup_members : members.Nodup := by decide

theorem mem_members (member : Member) : member ∈ members := by cases member <;> decide

/-- **A member is assigned** a cell that is held apart, and lets go of the one it had. -/
theorem assign_accounts (rest : List Nat) (member : Member) (cell : Option Nat)
    (accounts : h.Accounts (cell.toList ++ (rest ++ slotted members owns))) :
    h.Accounts ((owns member).toList ++
      (rest ++ slotted members (Function.update owns member cell))) := by
  have before := slotted_perm (mem_members member) owns
  have after := slotted_update_perm nodup_members (mem_members member) owns cell
  refine accounts.perm (List.perm_iff_count.mpr fun p => ?_)
  have before := before.count_eq p
  have after := after.count_eq p
  simp only [List.count_append] at before after ⊢
  omega

/-- **An encoder and a scaler are made**: what the members named that are assigned is lost. -/
theorem make_accounts (codec scaler : Member) (differ : codec ≠ scaler) (made : Made)
    (accounts : h.Accounts (rest ++ slotted members owns)) :
    (make made codec scaler h owns).1.Accounts (slotted (made.assigns codec scaler) owns ++
      (rest ++ slotted members (make made codec scaler h owns).2)) := by
  have second (cell cell' : Option Nat) {h : Heap} (accounts : h.Accounts (cell'.toList ++
      ((owns codec).toList ++ (rest ++ slotted members (Function.update owns codec cell))))) :
      h.Accounts (slotted [codec, scaler] owns ++ (rest ++ slotted members
        (Function.update (Function.update owns codec cell) scaler cell'))) := by
    have assigned := assign_accounts ((owns codec).toList ++ rest) scaler cell'
      (accounts.perm (by rw [List.append_assoc]))
    rw [Function.update_of_ne differ.symm] at assigned
    refine assigned.perm (List.perm_iff_count.mpr fun p => ?_)
    simp only [slotted_cons, slotted_nil, List.append_nil, List.count_append]
    omega
  have first (cell : Option Nat) {h : Heap}
      (accounts : h.Accounts (cell.toList ++ (rest ++ slotted members owns))) :
      h.Accounts (slotted [codec] owns ++
        (rest ++ slotted members (Function.update owns codec cell))) := by
    rw [slotted_cons, slotted_nil, List.append_nil]
    exact assign_accounts _ codec cell accounts
  cases made with
  | noEncoder => exact accounts
  | noContext => exact first none accounts
  | notOpened => exact first _ accounts.alloc
  | noScaler => exact second _ none (assign_accounts _ codec _ accounts.alloc)
  | all => exact second _ _ (assign_accounts _ codec _ accounts.alloc).alloc

end Assign

namespace Retriever

variable {s t : Retriever}

/-- **The invariant of every run.** -/
structure Sound (s : Retriever) : Prop where
  accounts : s.Owned
  alive : ∀ m, s.struct = some m → s.state ≠ none
  dead : ∀ p, s.state = some p → s.struct = none → s.heap.released p ≠ 0

theorem sound_new : new.Sound := ⟨Heap.accounts_empty, nofun, nofun⟩

/-- **What `init` leaves**: a struct without a container, with the contexts it had. -/
theorem Sound.init (sound : s.Sound) (not : ¬s.Dangling) :
    s.init.1.Accounts ([s.init.2.1] ++ slotted members s.init.2.2) ∧
      s.init.2.2 .pFormatCtx = none ∧
      ∀ member, member ≠ .pFormatCtx →
        (s.init.2.2 member = none ↔ ∀ m, s.struct = some m → m.owns member = none) := by
  have accounts : s.heap.Accounts s.held := sound.accounts
  unfold Retriever.init
  unfold held at accounts
  cases state : s.state with
  | none =>
    cases struct : s.struct with
    | none =>
      rw [struct] at accounts
      exact ⟨accounts.alloc, rfl, fun _ _ => ⟨fun _ => nofun, fun _ => rfl⟩⟩
    | some m => exact absurd state (sound.alive m struct)
  | some p =>
    cases struct : s.struct with
    | none => exact absurd ⟨by rw [state]; exact nofun, struct⟩ not
    | some m =>
      rw [struct, state] at accounts
      have used := accounts.use (p := p) List.mem_cons_self
      have closed := assign_accounts [p] .pFormatCtx none used
      dsimp only
      refine ⟨closed.releaseAt, Function.update_self .., fun member other => ?_⟩
      rw [Function.update_of_ne other]
      exact ⟨fun none _ same => Option.some.inj same ▸ none, fun all => all m rfl⟩

/-- The contexts are not the container. -/
theorem ne_pFormatCtx {codec scaler member : Member} {made : Made} (left : codec ≠ .pFormatCtx)
    (right : scaler ≠ .pFormatCtx) (assigned : member ∈ made.assigns codec scaler) :
    member ≠ .pFormatCtx := by
  cases made <;> simp only [Made.assigns, List.mem_cons, List.not_mem_nil, or_false] at assigned
  case noContext | notOpened => exact assigned ▸ left
  all_goals
    rcases assigned with rfl | rfl
    · exact left
    · exact right

/-- **What is lost when the container is opened**: the struct, if it is not, and otherwise what is
overwritten. -/
theorem openInput_accounts (s : Retriever) (source : Source) {h : Heap} {before : List Nat}
    {p : Nat} {owns : Member → Option Nat} (closed : owns .pFormatCtx = none)
    (accounts : h.Accounts (before ++ ([p] ++ slotted members owns))) :
    ∃ lost, (s.openInput source h p owns).heap.Accounts
        (before ++ (lost ++ (s.openInput source h p owns).held)) ∧
      (lost = [] ↔ source.opened = true ∧ source.found = true ∧
        ∀ made, source.video = some made →
          ∀ member ∈ made.assigns .pCodecContext .pSwsContext, owns member = none) := by
  have freed := accounts.alloc.release
  unfold openInput
  by_cases opened : source.opened
  case neg =>
    rw [if_neg opened]
    refine ⟨[p] ++ slotted members owns, ?_, ?_⟩
    · show h.Accounts (before ++ (([p] ++ slotted members owns) ++ []))
      rwa [List.append_nil]
    · exact ⟨nofun, fun all => absurd all.1 opened⟩
  rw [if_pos opened]
  by_cases found : source.found
  case neg =>
    rw [if_neg found]
    refine ⟨[p] ++ slotted members owns, ?_, ?_⟩
    · show (h.alloc.release h.fresh).Accounts (before ++ (([p] ++ slotted members owns) ++ []))
      rwa [List.append_nil]
    · exact ⟨nofun, fun all => absurd all.2.1 found⟩
  rw [if_pos found]
  have container : h.alloc.Accounts ((before ++ [p]) ++
      slotted members (Function.update owns .pFormatCtx (some h.fresh))) := by
    have assigned := assign_accounts (before ++ [p]) .pFormatCtx (some h.fresh)
      (accounts.alloc.perm (by rw [List.append_assoc]; exact List.Perm.refl _))
    rwa [closed] at assigned
  dsimp only
  cases video : source.video with
  | none =>
    refine ⟨[], ?_, fun _ => ⟨opened, found, nofun⟩, fun _ => rfl⟩
    rw [List.append_assoc] at container
    exact container
  | some made =>
    refine ⟨slotted (made.assigns .pCodecContext .pSwsContext) owns, ?_, ?_⟩
    · have contexts := make_accounts .pCodecContext .pSwsContext
        (by decide) made container
      have same : slotted (made.assigns .pCodecContext .pSwsContext)
          (Function.update owns .pFormatCtx (some h.fresh)) =
          slotted (made.assigns .pCodecContext .pSwsContext) owns :=
        List.filterMap_congr fun member assigned =>
          Function.update_of_ne (ne_pFormatCtx (by decide) (by decide) assigned) ..
      rw [same] at contexts
      refine contexts.perm (List.perm_iff_count.mpr fun q => ?_)
      simp only [held, Option.toList_some, List.count_append]
      omega
    · rw [slotted_eq_nil_iff]
      exact ⟨fun all => ⟨opened, found, fun _ same => Option.some.inj same ▸ all⟩,
        fun all => all.2.2 made rfl⟩

/-- Whether there is a struct, after a source was set. -/
theorem openInput_struct (s : Retriever) (source : Source) (h : Heap) (p : Nat)
    (owns : Member → Option Nat) : (s.openInput source h p owns).struct = none ↔
      (s.openInput source h p owns).state = none := by
  unfold openInput
  split_ifs
  · dsimp only
    cases source.video <;> simp
  · simp
  · simp

/-- **A source is set.** -/
theorem fate_setDataSource (sound : s.Sound) (not : ¬s.Dangling) (source : Source) :
    Fate (s.Keeps (.setDataSource source)) (s.setDataSource source).Sound
      (s.setDataSource source).Owned := by
  obtain ⟨accounts, closed, owns⟩ := sound.init not
  have assigned : (∀ made, source.video = some made →
        ∀ member ∈ made.assigns .pCodecContext .pSwsContext, s.init.2.2 member = none) ↔
      ∀ made, source.video = some made → ∀ m, s.struct = some m →
        ∀ member ∈ made.assigns .pCodecContext .pSwsContext, m.owns member = none := by
    constructor
    · intro none made video m struct member inside
      have other := ne_pFormatCtx (by decide) (by decide) inside
      exact (owns member other).mp (none made video member inside) m struct
    · intro none made video member inside
      have other := ne_pFormatCtx (by decide) (by decide) inside
      exact (owns member other).mpr fun m struct => none made video m struct member inside
  have whole : (s.setDataSource source).Owned ↔ s.Keeps (.setDataSource source) := by
    by_cases unused : source.unused
    · have lost : (options s.init.1 source).Accounts ([s.init.1.fresh] ++
          ([s.init.2.1] ++ slotted members s.init.2.2)) := by
        rw [options, if_pos unused]
        exact accounts.alloc
      obtain ⟨more, after, -⟩ := s.openInput_accounts source closed lost
      rw [← List.append_assoc] at after
      refine ⟨fun owned => ?_, fun keeps => ?_⟩
      · exact nomatch after.whole_iff.mp owned
      · exact nomatch unused.symm.trans keeps.2.1
    · have none : (options s.init.1 source).Accounts ([] ++
          ([s.init.2.1] ++ slotted members s.init.2.2)) := by
        rw [options, if_neg unused]
        exact accounts.alloc.release
      obtain ⟨lost, after, iff⟩ := s.openInput_accounts source closed none
      rw [List.nil_append] at after
      rw [assigned] at iff
      exact after.whole_iff.trans (iff.trans
        ⟨fun all => ⟨not, (Bool.not_eq_true _).mp unused, all⟩, fun keeps => keeps.2.2⟩)
  have shape := s.openInput_struct source (options s.init.1 source) s.init.2.1 s.init.2.2
  refine ⟨fun keeps => ⟨whole.mpr keeps, fun m struct state => ?_, fun p state struct => ?_⟩,
    fun not owned => not (whole.mp owned)⟩
  · exact nomatch (shape.mpr state).symm.trans struct
  · exact nomatch (shape.mp struct).symm.trans state

/-- The struct is there. -/
theorem Sound.held_eq (sound : s.Sound) {p : Nat} {m : MetadataState} (state : s.state = some p)
    (struct : s.struct = some m) : s.heap.Accounts ([p] ++ slotted members m.owns) := by
  have accounts : s.heap.Accounts s.held := sound.accounts
  unfold held at accounts
  rw [struct, state] at accounts
  exact accounts

/-- **A frame is asked for.** -/
theorem fate_getFrame (sound : s.Sound) {p : Nat} {m : MetadataState} (state : s.state = some p)
    (struct : s.struct = some m) (encodes sized : Bool) (made : Made) :
    Fate (s.Keeps (.getFrame encodes sized made)) (s.getFrame p m encodes sized made).Sound
      (s.getFrame p m encodes sized made).Owned := by
  have used := (sound.held_eq state struct).use (p := p) List.mem_cons_self
  have there : ¬s.Dangling := fun dangling => nomatch struct.symm.trans dangling.2
  unfold getFrame
  by_cases lacking : lacks m encodes sized
  · rw [if_pos lacking]
    have contexts := make_accounts .pScaleCodecContext .pScaleSwsContext
      (by decide) made used
    have whole : (make made .pScaleCodecContext .pScaleSwsContext (s.heap.use p) m.owns).1.Accounts
        (s.state.toList ++ slotted members
          (make made .pScaleCodecContext .pScaleSwsContext (s.heap.use p) m.owns).2) ↔
        s.Keeps (.getFrame encodes sized made) := by
      rw [state]
      refine contexts.whole_iff.trans (slotted_eq_nil_iff.trans ⟨fun none => ⟨there, ?_⟩, ?_⟩)
      · exact fun m' struct' _ => Option.some.inj (struct.symm.trans struct') ▸ none
      · exact fun keeps => keeps.2 m struct lacking
    refine ⟨fun keeps => ⟨whole.mpr keeps, fun _ _ none => ?_, fun _ _ none => nomatch none⟩,
      fun not owned => not (whole.mp owned)⟩
    exact nomatch state.symm.trans none
  · rw [if_neg lacking]
    refine .of_sound ⟨there, fun m' struct' lacks => ?_⟩ ⟨?_, sound.alive, fun _ _ none => ?_⟩
    · exact absurd (Option.some.inj (struct.symm.trans struct') ▸ lacks) lacking
    · show (s.heap.use p).Accounts s.held
      unfold held
      rw [struct, state]
      exact used
    · exact nomatch struct.symm.trans none

/-- **`release`** leaves nothing, and a pointer to the struct it freed. -/
theorem Sound.release (sound : s.Sound) {p : Nat} {m : MetadataState} (state : s.state = some p)
    (struct : s.struct = some m) : (s.release p m).Sound := by
  have used := (sound.held_eq state struct).use (p := p) List.mem_cons_self
  refine ⟨used.releaseAll.release, nofun, fun q same _ => ?_⟩
  obtain rfl : p = q := Option.some.inj (state.symm.trans same)
  dsimp only [Retriever.release]
  rw [Heap.release_released]
  exact Nat.succ_ne_zero _

/-- **The step lemma.** -/
theorem step_fate (sound : s.Sound) {l : Label} (step : s.next l = some t) :
    Fate (s.Keeps l) t.Sound t.Owned := by
  unfold next at step
  split_ifs at step with ended
  split at step
  case h_1 p state struct =>
    cases step
    have dangling : s.Dangling := ⟨by rw [state]; exact nofun, struct⟩
    exact .of_broken (fun keeps => keeps.1 dangling)
      (Heap.not_accounts_use (sound.dead p state struct) _)
  case h_2 state =>
    have there : ¬s.Dangling := fun dangling => dangling.1 state
    cases l with
    | setDataSource source =>
      cases step
      exact fate_setDataSource sound there source
    | destroy =>
      cases step
      exact .of_sound ⟨there, trivial⟩ ⟨sound.accounts, sound.alive, sound.dead⟩
    | query | release =>
      cases step
      exact .of_sound ⟨there, trivial⟩ sound
    | getFrame encodes sized made =>
      cases step
      exact .of_sound ⟨there, fun m struct => absurd state (sound.alive m struct)⟩ sound
  case h_3 p m state struct =>
    have there : ¬s.Dangling := fun dangling => nomatch struct.symm.trans dangling.2
    cases l with
    | setDataSource source =>
      cases step
      exact fate_setDataSource sound there source
    | query =>
      cases step
      refine .of_sound ⟨there, trivial⟩ ⟨?_, sound.alive, fun _ _ none => ?_⟩
      · show (s.heap.use p).Accounts s.held
        unfold held
        rw [struct, state]
        exact (sound.held_eq state struct).use List.mem_cons_self
      · exact nomatch struct.symm.trans none
    | getFrame encodes sized made =>
      cases step
      exact fate_getFrame sound state struct encodes sized made
    | release =>
      cases step
      exact .of_sound ⟨there, trivial⟩ (sound.release state struct)
    | destroy =>
      cases step
      have after := sound.release state struct
      exact .of_sound ⟨there, trivial⟩ ⟨after.accounts, after.alive, after.dead⟩

/-- **Everything that the retriever allocates is owned or was freed once, throughout a run, exactly
if every call keeps it**: each source opens and leaves no option, the members that are assigned are
empty, and no call follows a `release` that freed the struct. -/
theorem retriever_owned_iff (labels : List Label) :
    system.Steps (fun _ _ t => t.Owned) new labels ↔
      system.Steps (fun s l _ => s.Keeps l) new labels :=
  system.steps_iff_of_fate (fun _ sound => sound.accounts)
    (fun _ _ _ sound step => step_fate sound step) sound_new labels

/-- A second video is enough to lose the contexts of the first. -/
example : ((system.run new [.setDataSource ⟨false, true, true, some .all⟩,
    .setDataSource ⟨false, true, true, some .all⟩, .destroy]).map fun s =>
      (List.range s.heap.fresh).filter fun p => s.heap.released p = 0) = some [3, 4] := by
  decide

theorem openInput_destroyed (s : Retriever) (source : Source) (h : Heap) (p : Nat)
    (owns : Member → Option Nat) : (s.openInput source h p owns).destroyed = s.destroyed := by
  unfold openInput
  split_ifs
  · dsimp only
    cases source.video <;> rfl
  · rfl
  · rfl

theorem getFrame_destroyed (s : Retriever) (p : Nat) (m : MetadataState) (encodes sized : Bool)
    (made : Made) : (s.getFrame p m encodes sized made).destroyed = s.destroyed := by
  unfold getFrame
  split_ifs <;> rfl

/-- The destroyed retriever has no struct. -/
theorem Sound.struct_of_destroyed (sound : s.Sound) {l : Label} (step : s.next l = some t)
    (destroyed : t.destroyed = true) : t.struct = none := by
  unfold next at step
  split_ifs at step with ended
  split at step
  case h_1 struct =>
    cases step
    exact struct
  case h_2 state =>
    cases l with
    | setDataSource source =>
      cases step
      exact absurd ((openInput_destroyed ..).symm.trans destroyed) ended
    | destroy =>
      cases step
      by_contra there
      obtain ⟨m, struct⟩ := Option.ne_none_iff_exists'.mp there
      exact sound.alive m struct state
    | query | release | getFrame =>
      cases step
      exact absurd destroyed ended
  case h_3 p m state struct =>
    cases l with
    | setDataSource source =>
      cases step
      exact absurd ((openInput_destroyed ..).symm.trans destroyed) ended
    | getFrame encodes sized made =>
      cases step
      exact absurd ((getFrame_destroyed ..).symm.trans destroyed) ended
    | destroy =>
      cases step
      rfl
    | query | release =>
      cases step
      exact absurd destroyed ended

/-- **The destructor leaves nothing behind**, after calls that kept everything. -/
def DestroyedEmpty : Prop :=
  ∀ labels s, system.run new labels = some s →
    system.Steps (fun s l _ => s.Keeps l) new labels → s.destroyed = true → s.heap.Accounts []

theorem owned_destroyed : DestroyedEmpty := by
  intro labels s run kept destroyed
  have fate (s : Retriever) (l : Label) (t : Retriever)
      (sound : s.Sound ∧ (s.destroyed = true → s.struct = none)) (step : system.next s l = some t) :
      Fate (s.Keeps l) (t.Sound ∧ (t.destroyed = true → t.struct = none)) t.Owned :=
    (step_fate sound.1 step).imp fun after => ⟨after, sound.1.struct_of_destroyed step⟩
  obtain ⟨sound, empty⟩ : s.Sound ∧ (s.destroyed = true → s.struct = none) :=
    system.run_of_fate fate ⟨sound_new, nofun⟩ kept run
  have accounts : s.heap.Accounts s.held := sound.accounts
  unfold held at accounts
  rw [empty destroyed] at accounts
  exact accounts

end Retriever

end Xplay.RetrieverOwnership
