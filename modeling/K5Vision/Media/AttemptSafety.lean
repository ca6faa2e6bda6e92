import K5Vision.Media.RecordingAttempt

/-!
# Attempts do not get in each other's way

The marker and the staging file of an attempt are removed by that attempt alone, and its
publication neither replaces a file nor publishes anything but what it wrote.  Ownership is
read back from tokens, but between the reading and the removal nobody else touches a marker:
it can only be created where there is none, and removed by who created it.  This is what
every operation of an attempt promises (`guar`), and all it counts on.
-/

namespace K5Vision.Media.Attempts

open Library Routine
open Function (update_of_ne update_self)

set_option linter.unusedSectionVars false

variable {ι : Type} [DecidableEq ι] {tokens : ι → Token} {policy : Policy ι} {i j : ι}
  {before after state : State ι} {inode : Inode}

/-- There is a file of an attempt under a name. -/
def Has (state : State ι) (name : Name) (i : ι) : Prop :=
  ∃ inode, state.links name = some inode ∧ state.creator inode = some i

structure Inv (tokens : ι → Token) (state : State ι) : Prop where
  /-- An attempt owns the marker exactly while there is one of its own. -/
  lock : ∀ i, state.ownsLock i = true ↔ Has state .marker i
  staging : ∀ i, state.ownsStaging i = true ↔ Has state (.staging (tokens i)) i
  /-- A file holds what its creator has written. -/
  written : ∀ inode, state.content inode = state.written inode
  opened : ∀ i inode, inode ∈ state.opened i → state.creator inode = some i

/-- An inode that is linked or open. -/
def InUse (state : State ι) (j : ι) (inode : Inode) : Prop :=
  (∃ name, state.links name = some inode) ∨ inode ∈ state.opened j

/-- Nothing that belongs to an attempt has changed. -/
structure Spares (j : ι) (before after : State ι) : Prop where
  ownsLock : after.ownsLock j = before.ownsLock j
  ownsStaging : after.ownsStaging j = before.ownsStaging j
  opened : after.opened j = before.opened j
  files : ∀ inode, before.creator inode = some j → InUse before j inode →
    after.creator inode = some j ∧ after.content inode = before.content inode
  creator : ∀ inode, after.creator inode = some j → before.creator inode = some j
  links : ∀ name inode, before.links name = some inode → before.creator inode = some j →
    after.links name = some inode
  added : ∀ name inode, after.links name = some inode → after.creator inode = some j →
    before.links name = some inode

structure StepSafe (tokens : ι → Token) (i : ι) (before after : State ι) : Prop where
  /-- Only an attempt's own marker and staging file are removed, and only its publication. -/
  kept : ∀ name inode, before.links name = some inode → before.creator inode ≠ some i →
    after.links name = some inode
  /-- No name gets another file. -/
  replaced : ∀ name inode, before.links name = some inode →
    after.links name = some inode ∨ after.links name = none
  /-- What is published is the staging file of the attempt that holds the marker. -/
  published : ∀ inode, before.links .final = none → after.links .final = some inode →
    before.links (.staging (tokens i)) = some inode ∧ before.ownsLock i = true ∧
      before.creator inode = some i ∧ after.content inode = before.written inode

/-- The attempts among each other. -/
def among (tokens : ι → Token) (policy : Policy ι) (i : ι) : Among interface Raised (State ι) Choice where
  toServer := server tokens policy i
  rely before after := (Inv tokens before → Inv tokens after) ∧ Spares i before after
  guar before after := (Inv tokens before → Inv tokens after) ∧
    (∀ j, j ≠ i → Spares j before after) ∧ StepSafe tokens i before after

theorem spares_refl (j : ι) (state : State ι) : Spares j state state :=
  ⟨rfl, rfl, rfl, fun _ h _ => ⟨h, rfl⟩, fun _ h => h, fun _ _ h _ => h, fun _ _ h _ => h⟩

theorem Spares.trans {middle : State ι} (hfirst : Spares j before middle)
    (hsecond : Spares j middle after) : Spares j before after where
  ownsLock := hsecond.ownsLock.trans hfirst.ownsLock
  ownsStaging := hsecond.ownsStaging.trans hfirst.ownsStaging
  opened := hsecond.opened.trans hfirst.opened
  files inode hcreator huse := by
    obtain ⟨hmiddle, hcontent⟩ := hfirst.files inode hcreator huse
    have huse : InUse middle j inode := by
      rcases huse with ⟨name, hname⟩ | hopened
      · exact .inl ⟨name, hfirst.links name inode hname hcreator⟩
      · exact .inr (hfirst.opened ▸ hopened)
    obtain ⟨hafter, hsame⟩ := hsecond.files inode hmiddle huse
    exact ⟨hafter, hsame.trans hcontent⟩
  links name inode hname hcreator :=
    hsecond.links name inode (hfirst.links name inode hname hcreator)
      (hfirst.files inode hcreator (.inl ⟨name, hname⟩)).1
  creator inode hcreator := hfirst.creator inode (hsecond.creator inode hcreator)
  added name inode hname hcreator :=
    hfirst.added name inode (hsecond.added name inode hname hcreator)
      (hsecond.creator inode hcreator)

theorem stepSafe_refl (state : State ι) : StepSafe tokens i state state where
  kept _ _ h _ := h
  replaced _ _ h := .inl h
  published inode hnone hsome := by
    rw [hnone] at hsome
    cases hsome

theorem guar_refl (state : State ι) : (among tokens policy i).guar state state :=
  ⟨id, fun j _ => spares_refl j state, stepSafe_refl state⟩

structure Base (tokens : ι → Token) (i : ι) (handles : Handles) (state : State ι) : Prop where
  inv : Inv tokens state
  file : ∀ inode, handles.file = some inode → inode ∈ state.opened i
  identity : ∀ inode, handles.identity = some inode →
    state.links .final = some inode ∧ state.creator inode = some i

variable {handles : Handles}

theorem Base.of_rely (h : Base tokens i handles before)
    (hrely : (among tokens policy i).rely before after) : Base tokens i handles after where
  inv := hrely.1 h.inv
  file inode hfile := hrely.2.opened ▸ h.file inode hfile
  identity inode hidentity := by
    obtain ⟨hlink, hcreator⟩ := h.identity inode hidentity
    exact ⟨hrely.2.links _ _ hlink hcreator, (hrely.2.files inode hcreator (.inl ⟨_, hlink⟩)).1⟩

/-! ## Single operations -/

theorem Spec.operation {request : Request} {pre : State ι → Prop}
    {done : interface.Answer request → State ι → Prop} {failed : Raised → State ι → Prop}
    (hstable : ∀ state now, pre state → (among tokens policy i).rely state now → pre now)
    (hserve : ∀ state choice, pre state → permits choice request state →
      policy.allowed choice request state →
      (among tokens policy i).guar state (serve tokens i choice request state).2 ∧
        Ends done failed (serve tokens i choice request state).1
          (serve tokens i choice request state).2) :
    Spec (among tokens policy i) pre (call request) done failed :=
  Spec.call hstable fun state choice hpre hallowed =>
    hserve state choice hpre (policy.permitted hallowed) hallowed

/-! ### The flags -/

section Own

variable (name : Name) (value : Bool)

@[simp] theorem links_own : (State.own tokens i state name value).links = state.links := by
  unfold State.own
  split_ifs <;> rfl

@[simp] theorem content_own : (State.own tokens i state name value).content = state.content := by
  unfold State.own
  split_ifs <;> rfl

@[simp] theorem creator_own : (State.own tokens i state name value).creator = state.creator := by
  unfold State.own
  split_ifs <;> rfl

@[simp] theorem written_own : (State.own tokens i state name value).written = state.written := by
  unfold State.own
  split_ifs <;> rfl

@[simp] theorem opened_own : (State.own tokens i state name value).opened = state.opened := by
  unfold State.own
  split_ifs <;> rfl

theorem ownsLock_own (j : ι) : (State.own tokens i state name value).ownsLock j =
    if name = .marker ∧ j = i then value else state.ownsLock j := by
  unfold State.own
  split_ifs with hmarker hstaging h h h <;> simp_all

theorem ownsStaging_own (j : ι) : (State.own tokens i state name value).ownsStaging j =
    if name = .staging (tokens i) ∧ j = i then value else state.ownsStaging j := by
  unfold State.own
  split_ifs with hmarker hstaging h h h <;> simp_all

end Own

/-! ### A new file -/

section Add

variable {name : Name}

theorem creator_add_of_inUse (hfree : Free state inode) {other : Inode}
    (huse : InUse state j other) : (state.add i name inode).creator other = state.creator other := by
  refine update_of_ne ?_ _ _
  rintro rfl
  rcases huse with ⟨linked, hlinked⟩ | hopened
  · exact hfree.1 linked hlinked
  · exact hfree.2 j hopened

theorem has_add (hfree : Free state inode) (other : Name) :
    Has (state.add i name inode) other j ↔ if other = name then j = i else Has state other j := by
  unfold Has
  split_ifs with heq
  · subst heq
    simp only [State.add, update_self, Option.some.injEq, exists_eq_left']
    exact eq_comm
  have hlinks : (state.add i name inode).links other = state.links other :=
    update_of_ne heq _ _
  rw [hlinks]
  refine exists_congr fun linked => and_congr_right fun hlinked => ?_
  rw [creator_add_of_inUse (j := i) hfree (.inl ⟨other, hlinked⟩)]

theorem flag_created {key : Name} {flag : Bool} (hflag : flag = true ↔ Has state key j)
    (hnone : state.links name = none) (hfree : Free state inode) :
    (if name = key ∧ j = i then true else flag) = true ↔
      Has (state.add i name inode) key j := by
  rw [has_add hfree]
  by_cases hname : key = name
  · subst hname
    have hnot : ¬ Has state key j := by
      rintro ⟨linked, hlinked, -⟩
      rw [hnone] at hlinked
      cases hlinked
    rw [if_pos rfl]
    split_ifs with hji
    · simp [hji.2]
    · rw [hflag]
      exact ⟨fun h => absurd h hnot, fun h => absurd ⟨rfl, h⟩ hji⟩
  · rw [if_neg hname, if_neg (fun h => hname h.1.symm)]
    exact hflag

theorem staging_own_iff (name : Name) (value : Bool) (j : ι) :
    (State.own tokens i state name value).ownsStaging j =
      if name = .staging (tokens j) ∧ j = i then value else state.ownsStaging j := by
  rw [ownsStaging_own]
  by_cases hji : j = i
  · subst hji
    rfl
  · simp [hji]

theorem inv_created (hinv : Inv tokens state) (hnone : state.links name = none)
    (hfree : Free state inode) :
    Inv tokens (State.own tokens i (state.add i name inode) name true) where
  lock j := by
    rw [ownsLock_own]
    unfold Has
    rw [links_own, creator_own]
    exact flag_created (hinv.lock j) hnone hfree
  staging j := by
    rw [staging_own_iff]
    unfold Has
    rw [links_own, creator_own]
    exact flag_created (hinv.staging j) hnone hfree
  written other := by
    rw [content_own, written_own]
    by_cases hother : other = inode
    · subst hother
      simp [State.add]
    · simp [State.add, hother, hinv.written other]
  opened j other hopened := by
    rw [opened_own] at hopened
    rw [creator_own]
    by_cases hother : other = inode
    · subst hother
      by_cases hji : j = i
      · simp [State.add, hji]
      · have hold : other ∈ state.opened j := by simpa [State.add, hji] using hopened
        exact absurd hold (hfree.2 j)
    · have hold : other ∈ state.opened j := by
        by_cases hji : j = i
        · subst hji
          simpa [State.add, hother] using hopened
        · simpa [State.add, hji] using hopened
      rw [creator_add_of_inUse hfree (.inr hold)]
      exact hinv.opened j other hold

theorem spares_created (hne : j ≠ i) (hnone : state.links name = none) (hfree : Free state inode) :
    Spares j state (State.own tokens i (state.add i name inode) name true) where
  ownsLock := by simp [ownsLock_own, hne, State.add]
  ownsStaging := by simp [ownsStaging_own, hne, State.add]
  opened := by simp [State.add, hne]
  files other hcreator huse := by
    have hother : other ≠ inode := by
      rintro rfl
      rcases huse with ⟨linked, hlinked⟩ | hopened
      · exact hfree.1 linked hlinked
      · exact hfree.2 j hopened
    simp [State.add, hother, hcreator]
  creator other hcreator := by
    rw [creator_own] at hcreator
    by_cases hother : other = inode
    · subst hother
      simp only [State.add, update_self, Option.some.injEq] at hcreator
      exact absurd hcreator.symm hne
    · simpa [State.add, hother] using hcreator
  links other linked hlinked _ := by
    have hname : other ≠ name := by
      rintro rfl
      rw [hnone] at hlinked
      cases hlinked
    simp [State.add, hname, hlinked]
  added other linked hlinked hcreator := by
    rw [links_own] at hlinked
    rw [creator_own] at hcreator
    by_cases hname : other = name
    · subst hname
      simp only [State.add, update_self, Option.some.injEq] at hlinked hcreator
      subst hlinked
      simp only [update_self, Option.some.injEq] at hcreator
      exact absurd hcreator.symm hne
    · simpa [State.add, hname] using hlinked

theorem stepSafe_created (hname : name ≠ .final) (hnone : state.links name = none) :
    StepSafe tokens i state (State.own tokens i (state.add i name inode) name true) where
  kept other linked hlinked _ := by
    have hother : other ≠ name := by
      rintro rfl
      rw [hnone] at hlinked
      cases hlinked
    simp [State.add, hother, hlinked]
  replaced other linked hlinked := by
    have hother : other ≠ name := by
      rintro rfl
      rw [hnone] at hlinked
      cases hlinked
    simp [State.add, hother, hlinked]
  published linked hbefore hafter := by
    rw [links_own] at hafter
    simp only [State.add, update_of_ne (Ne.symm hname)] at hafter
    rw [hbefore] at hafter
    cases hafter

theorem guar_created (hname : name ≠ .final) (hnone : state.links name = none)
    (hfree : Free state inode) :
    (among tokens policy i).guar state (State.own tokens i (state.add i name inode) name true) :=
  ⟨fun hinv => inv_created hinv hnone hfree, fun _ hne => spares_created hne hnone hfree,
    stepSafe_created hname hnone⟩

end Add

/-! ### A name taken away -/

section Drop

variable {name : Name}

theorem Has.unique (hi : Has state name i) (hj : Has state name j) : j = i := by
  obtain ⟨first, hfirst, hcreator⟩ := hi
  obtain ⟨second, hsecond, hother⟩ := hj
  rw [hfirst] at hsecond
  cases hsecond
  rw [hcreator] at hother
  cases hother
  rfl

theorem has_drop (other : Name) :
    Has (state.drop name) other j ↔ other ≠ name ∧ Has state other j := by
  unfold Has
  by_cases heq : other = name
  · subst heq
    simp [State.drop]
  · simp [State.drop, heq]

theorem flag_dropped {key : Name} {flag : Bool} (hflag : flag = true ↔ Has state key j)
    (hhas : Has state name i) :
    (if name = key ∧ j = i then false else flag) = true ↔ Has (state.drop name) key j := by
  rw [has_drop]
  by_cases hname : name = key
  · subst hname
    split_ifs with hji
    · simp
    · rw [hflag]
      exact ⟨fun h => absurd ⟨rfl, hhas.unique h⟩ hji, fun h => absurd rfl h.1⟩
  · rw [if_neg (fun h => hname h.1), hflag]
    exact (and_iff_right (Ne.symm hname)).symm

theorem inv_dropped (hinv : Inv tokens state) (hhas : Has state name i) :
    Inv tokens (State.own tokens i (state.drop name) name false) where
  lock j := by
    rw [ownsLock_own]
    unfold Has
    rw [links_own, creator_own]
    exact flag_dropped (hinv.lock j) hhas
  staging j := by
    rw [staging_own_iff]
    unfold Has
    rw [links_own, creator_own]
    exact flag_dropped (hinv.staging j) hhas
  written other := by
    rw [content_own, written_own]
    exact hinv.written other
  opened j other hopened := by
    rw [opened_own] at hopened
    rw [creator_own]
    exact hinv.opened j other hopened

theorem ne_of_creator_ne {other : Name} {inode : Inode} (hhas : Has state name i)
    (hlinked : state.links other = some inode) (hcreator : state.creator inode ≠ some i) :
    other ≠ name := by
  rintro rfl
  obtain ⟨linked, hlink, hown⟩ := hhas
  rw [hlink] at hlinked
  cases hlinked
  exact hcreator hown

theorem spares_dropped (hne : j ≠ i) (hhas : Has state name i) :
    Spares j state (State.own tokens i (state.drop name) name false) where
  ownsLock := by simp [ownsLock_own, hne, State.drop]
  ownsStaging := by simp [ownsStaging_own, hne, State.drop]
  opened := by simp [State.drop]
  files other hcreator _ := by simp [State.drop, hcreator]
  creator other hcreator := by simpa [State.drop] using hcreator
  links other linked hlinked hcreator := by
    have hother : other ≠ name :=
      ne_of_creator_ne hhas hlinked (by rw [hcreator]; simpa using hne)
    simp [State.drop, hother, hlinked]
  added other linked hlinked _ := by
    rw [links_own] at hlinked
    by_cases hother : other = name
    · simp [State.drop, hother] at hlinked
    · simpa [State.drop, hother] using hlinked

theorem stepSafe_dropped (hhas : Has state name i) :
    StepSafe tokens i state (State.own tokens i (state.drop name) name false) where
  kept other linked hlinked hcreator := by
    simp [State.drop, ne_of_creator_ne hhas hlinked hcreator, hlinked]
  replaced other linked hlinked := by
    by_cases hother : other = name
    · simp [State.drop, hother]
    · simp [State.drop, hother, hlinked]
  published linked hbefore hafter := by
    rw [links_own] at hafter
    by_cases hname : Name.final = name
    · simp [State.drop, ← hname] at hafter
    · simp only [State.drop, update_of_ne hname] at hafter
      rw [hbefore] at hafter
      cases hafter

theorem guar_dropped (hhas : Has state name i) :
    (among tokens policy i).guar state (State.own tokens i (state.drop name) name false) :=
  ⟨fun hinv => inv_dropped hinv hhas, fun _ hne => spares_dropped hne hhas,
    stepSafe_dropped hhas⟩

end Drop

/-! ### The other operations -/

/-- The names and the flags are the same, and the files of others. -/
structure OwnFiles (i : ι) (before after : State ι) : Prop where
  links : after.links = before.links
  creator : after.creator = before.creator
  ownsLock : after.ownsLock = before.ownsLock
  ownsStaging : after.ownsStaging = before.ownsStaging
  opened : ∀ j, j ≠ i → after.opened j = before.opened j
  content : ∀ inode, before.creator inode ≠ some i → after.content inode = before.content inode

theorem OwnFiles.guar (h : OwnFiles i before after) (hinv : Inv tokens before → Inv tokens after) :
    (among tokens policy i).guar before after := by
  refine ⟨hinv, fun j hne => ?_, ?_⟩
  · constructor
    case ownsLock => rw [h.ownsLock]
    case ownsStaging => rw [h.ownsStaging]
    case opened => exact h.opened j hne
    case files =>
      intro inode hcreator _
      refine ⟨by rw [h.creator, hcreator], h.content inode ?_⟩
      rw [hcreator]
      simpa using hne
    case creator => exact fun inode hcreator => by rwa [h.creator] at hcreator
    case links => exact fun name inode hlink _ => by rwa [h.links]
    case added => exact fun name inode hlink _ => by rwa [h.links] at hlink
  · constructor
    case kept => exact fun name inode hlink _ => by rwa [h.links]
    case replaced => exact fun name inode hlink => .inl (by rwa [h.links])
    case published =>
      intro inode hbefore hafter
      rw [h.links, hbefore] at hafter
      cases hafter

theorem OwnFiles.has (h : OwnFiles i before after) : Has after = Has before := by
  funext name j
  unfold Has
  rw [h.links, h.creator]

theorem ownFiles_write (hcreator : state.creator inode = some i) (data : List UInt8) (count : ℕ) :
    OwnFiles i state (state.write i inode data count).2 where
  links := rfl
  creator := rfl
  ownsLock := rfl
  ownsStaging := rfl
  opened _ _ := rfl
  content other hother := by
    refine update_of_ne ?_ _ _
    rintro rfl
    exact hother hcreator

theorem ownFiles_close (inode : Inode) : OwnFiles i state (state.close i inode).2 where
  links := rfl
  creator := rfl
  ownsLock := rfl
  ownsStaging := rfl
  opened _ hne := update_of_ne hne _ _
  content _ _ := rfl

theorem inv_write (hinv : Inv tokens state) (hcreator : state.creator inode = some i)
    (data : List UInt8) (count : ℕ) : Inv tokens (state.write i inode data count).2 where
  __ := hinv
  written other := by
    by_cases hother : other = inode
    · subst hother
      simp [State.write, hcreator, hinv.written other]
    · simp [State.write, hcreator, hother, hinv.written other]

theorem inv_close (hinv : Inv tokens state) (inode : Inode) :
    Inv tokens (state.close i inode).2 where
  __ := hinv
  opened j other hopened := by
    refine hinv.opened j other ?_
    by_cases hji : j = i
    · subst hji
      simp only [State.close, update_self] at hopened
      exact List.mem_of_mem_erase hopened
    · simpa [State.close, hji] using hopened

/-! ### The publication -/

section Link

theorem has_linked {name : Name} (hname : name ≠ .final) :
    Has (state.addLink .final inode) name j ↔ Has state name j := by
  have hlinks : (state.addLink .final inode).links name = state.links name :=
    update_of_ne hname _ _
  unfold Has
  rw [hlinks]
  rfl

theorem inv_linked (hinv : Inv tokens state) : Inv tokens (state.addLink .final inode) where
  lock j := (hinv.lock j).trans (has_linked (by simp)).symm
  staging j := (hinv.staging j).trans (has_linked (by simp)).symm
  __ := hinv

theorem guar_linked (hinv : Inv tokens state) (hlock : state.ownsLock i = true)
    (hlink : state.links (.staging (tokens i)) = some inode)
    (hcreator : state.creator inode = some i) (hnone : state.links .final = none) :
    (among tokens policy i).guar state (state.addLink .final inode) := by
  have hkept : ∀ name other, state.links name = some other →
      (state.addLink .final inode).links name = some other := by
    intro name other hname
    refine (update_of_ne ?_ _ _).trans hname
    rintro rfl
    rw [hnone] at hname
    cases hname
  refine ⟨inv_linked, fun j hne => ⟨rfl, rfl, rfl, fun _ h _ => ⟨h, rfl⟩, fun _ h => h,
    fun name other hname _ => hkept name other hname, ?_⟩,
    ⟨fun name other hname _ => hkept name other hname, fun name other hname =>
      .inl (hkept name other hname), ?_⟩⟩
  · intro name other hname hother
    by_cases hfinal : name = .final
    · subst hfinal
      simp only [State.addLink, update_self, Option.some.injEq] at hname
      subst hname
      change state.creator inode = some j at hother
      rw [hcreator] at hother
      cases hother
      exact absurd rfl hne
    · simpa [State.addLink, hfinal] using hname
  · intro other _ hafter
    simp only [State.addLink, update_self, Option.some.injEq] at hafter
    subst hafter
    exact ⟨hlink, hlock, hcreator, hinv.written inode⟩

end Link

/-! ## The contracts of the operations -/

/-- What an attempt knows of itself: whether it owns the marker and its staging file, and whether
it has published. -/
abbrev View := Bool → Bool → Prop → Prop

/-- The attempt holds its handles, and what it knows is as `view` says. -/
structure Own (tokens : ι → Token) (i : ι) (handles : Handles) (view : View) (state : State ι) :
    Prop where
  base : Base tokens i handles state
  view : view (state.ownsLock i) (state.ownsStaging i) (Has state .final i)

variable {view : View}

variable {name : Name}

theorem has_of_spares (h : Spares j before after) : Has after name j ↔ Has before name j := by
  constructor
  · rintro ⟨inode, hlink, hcreator⟩
    exact ⟨inode, h.added name inode hlink hcreator, h.creator inode hcreator⟩
  · rintro ⟨inode, hlink, hcreator⟩
    exact ⟨inode, h.links name inode hlink hcreator,
      (h.files inode hcreator (.inl ⟨name, hlink⟩)).1⟩

theorem Own.of_rely (h : Own tokens i handles view before)
    (hrely : (among tokens policy i).rely before after) : Own tokens i handles view after where
  base := h.base.of_rely hrely
  view := by
    rw [hrely.2.ownsLock, hrely.2.ownsStaging, has_of_spares hrely.2]
    exact h.view

theorem Own.mono {view' : View} (h : Own tokens i handles view state)
    (himp : ∀ lock staging published, view lock staging published →
      view' lock staging published) : Own tokens i handles view' state :=
  ⟨h.base, himp _ _ _ h.view⟩

theorem touch_spec : Spec (among tokens policy i) (Own tokens i handles view) touch
      (fun _ => Own tokens i handles view) (fun _ => Own tokens i handles view) := by
  refine Spec.operation (fun _ _ h hrely => h.of_rely hrely) ?_
  intro state choice hown _ _
  unfold serve
  cases choice.failure with
  | none => exact ⟨guar_refl state, hown⟩
  | some raised => exact ⟨guar_refl state, hown⟩

theorem owned_spec : Spec (among tokens policy i) (Own tokens i handles view) owned
      (fun owns => Own tokens i handles fun lock staging published =>
        lock = owns.1 ∧ staging = owns.2 ∧ view lock staging published)
      (fun _ _ => False) := by
  refine Spec.operation (fun _ _ h hrely => h.of_rely hrely) ?_
  intro state choice hown _ _
  unfold serve
  exact ⟨guar_refl state, hown.base, rfl, rfl, hown.view⟩

variable {identity : Option Inode}

theorem base_created (hname : name ≠ .final) (hnone : state.links name = none)
    (hfree : Free state inode) (hbase : Base tokens i ⟨none, identity⟩ state) :
    Base tokens i ⟨some inode, identity⟩
      (State.own tokens i (state.add i name inode) name true) where
  inv := inv_created hbase.inv hnone hfree
  file other hother := by
    cases hother
    simp [State.add]
  identity other hother := by
    obtain ⟨hlink, hcreator⟩ := hbase.identity other hother
    rw [links_own, creator_own, creator_add_of_inUse (j := i) hfree (.inl ⟨_, hlink⟩)]
    exact ⟨(update_of_ne (Ne.symm hname) _ _).trans hlink, hcreator⟩

theorem has_own_final {value : Bool} (hname : name ≠ .final) (hfree : Free state inode) :
    Has (State.own tokens i (state.add i name inode) name value) .final i ↔ Has state .final i := by
  unfold Has
  rw [links_own, creator_own]
  change Has (state.add i name inode) .final i ↔ _
  rw [has_add hfree, if_neg (Ne.symm hname)]
  rfl

theorem create_marker_spec :
    Spec (among tokens policy i) (Own tokens i ⟨none, identity⟩ view) (create .marker)
      (fun inode => Own tokens i ⟨some inode, identity⟩ fun lock staging published =>
        lock = true ∧ view false staging published)
      (fun _ => Own tokens i ⟨none, identity⟩ view) := by
  refine Spec.operation (fun _ _ h hrely => h.of_rely hrely) ?_
  intro state choice hown hpermits _
  have hfree := hpermits.2.2 .marker rfl
  unfold serve
  cases choice.failure with
  | some raised => exact ⟨guar_refl state, hown⟩
  | none =>
      dsimp only
      unfold State.create
      by_cases hsome : (state.links .marker).isSome = true
      · rw [if_pos hsome]
        exact ⟨guar_refl state, hown⟩
      rw [if_neg hsome]
      have hnone : state.links .marker = none := by simpa using hsome
      have hlock : state.ownsLock i = false := by
        by_contra howns
        obtain ⟨other, hlink, -⟩ := (hown.base.inv.lock i).mp (by simpa using howns)
        rw [hnone] at hlink
        cases hlink
      refine ⟨guar_created (by simp) hnone hfree,
        base_created (by simp) hnone hfree hown.base, ?_, ?_⟩
      · simp [ownsLock_own]
      have hview := hown.view
      rw [hlock] at hview
      rw [has_own_final (by simp) hfree]
      simpa [ownsStaging_own, State.add] using hview

theorem create_staging_spec : Spec (among tokens policy i) (Own tokens i ⟨none, identity⟩ view)
      (create (.staging (tokens i)))
      (fun inode => Own tokens i ⟨some inode, identity⟩ fun lock staging published =>
        staging = true ∧ view lock false published)
      (fun _ => Own tokens i ⟨none, identity⟩ view) := by
  refine Spec.operation (fun _ _ h hrely => h.of_rely hrely) ?_
  intro state choice hown hpermits _
  have hfree := hpermits.2.2 (.staging (tokens i)) rfl
  unfold serve
  cases choice.failure with
  | some raised => exact ⟨guar_refl state, hown⟩
  | none =>
      dsimp only
      unfold State.create
      by_cases hsome : (state.links (.staging (tokens i))).isSome = true
      · rw [if_pos hsome]
        exact ⟨guar_refl state, hown⟩
      rw [if_neg hsome]
      have hnone : state.links (.staging (tokens i)) = none := by simpa using hsome
      have hstaging : state.ownsStaging i = false := by
        by_contra howns
        obtain ⟨other, hlink, -⟩ := (hown.base.inv.staging i).mp (by simpa using howns)
        rw [hnone] at hlink
        cases hlink
      refine ⟨guar_created (by simp) hnone hfree,
        base_created (by simp) hnone hfree hown.base, ?_, ?_⟩
      · simp [ownsStaging_own]
      have hview := hown.view
      rw [hstaging] at hview
      rw [has_own_final (by simp) hfree]
      simpa [ownsLock_own, State.add] using hview

theorem OwnFiles.own {handles' : Handles} (h : OwnFiles i before after)
    (hown : Own tokens i handles view before) (hinv : Inv tokens after)
    (hfile : ∀ inode, handles'.file = some inode → inode ∈ after.opened i)
    (hidentity : handles'.identity = handles.identity) : Own tokens i handles' view after where
  base := by
    refine ⟨hinv, hfile, fun inode heq => ?_⟩
    rw [h.links, h.creator]
    exact hown.base.identity inode (hidentity ▸ heq)
  view := by
    rw [h.ownsLock, h.ownsStaging, h.has]
    exact hown.view

theorem writeSome_spec (data : List UInt8) :
    Spec (among tokens policy i) (Own tokens i ⟨some inode, identity⟩ view) (writeSome inode data)
      (fun _ => Own tokens i ⟨some inode, identity⟩ view)
      (fun _ => Own tokens i ⟨some inode, identity⟩ view) := by
  refine Spec.operation (fun _ _ h hrely => h.of_rely hrely) ?_
  intro state choice hown _ _
  unfold serve
  cases choice.failure with
  | some raised => exact ⟨guar_refl state, hown⟩
  | none =>
      have hopened := hown.base.file inode rfl
      have hcreator := hown.base.inv.opened i inode hopened
      have hfiles := ownFiles_write hcreator data choice.count
      refine ⟨hfiles.guar fun hinv => inv_write hinv hcreator data choice.count, ?_⟩
      refine hfiles.own hown (inv_write hown.base.inv hcreator data choice.count) ?_ rfl
      rintro other ⟨⟩
      exact hopened

theorem writeAll_spec (data : List UInt8) :
    Spec (among tokens policy i) (Own tokens i ⟨some inode, identity⟩ view) (writeAll inode data)
      (fun _ => Own tokens i ⟨some inode, identity⟩ view)
      (fun _ => Own tokens i ⟨some inode, identity⟩ view) := by
  suffices h : ∀ turns data, Spec (among tokens policy i)
      (Own tokens i ⟨some inode, identity⟩ view) (writeTurns inode turns data)
      (fun _ => Own tokens i ⟨some inode, identity⟩ view)
      (fun _ => Own tokens i ⟨some inode, identity⟩ view) from h _ _
  intro turns
  induction turns with
  | zero => exact fun data => Spec.pure fun _ h => h
  | succ turns ih =>
      intro data
      unfold writeTurns
      split_ifs
      · exact Spec.pure fun _ h => h
      refine (writeSome_spec data).bind fun written => ?_
      split_ifs
      · exact Spec.raise fun _ h => h
      · exact ih _

theorem close_spec :
    Spec (among tokens policy i) (Own tokens i ⟨some inode, identity⟩ view) (close inode)
      (fun _ => Own tokens i ⟨none, identity⟩ view)
      (fun _ => Own tokens i ⟨none, identity⟩ view) := by
  refine Spec.operation (fun _ _ h hrely => h.of_rely hrely) ?_
  intro state choice hown _ _
  have hfiles : OwnFiles i state (state.close i inode).2 := ownFiles_close inode
  have hafter : Own tokens i ⟨none, identity⟩ view (state.close i inode).2 :=
    hfiles.own hown (inv_close hown.base.inv inode) (by rintro other ⟨⟩) rfl
  have hguar : (among tokens policy i).guar state (state.close i inode).2 :=
    hfiles.guar fun hinv => inv_close hinv inode
  unfold serve
  cases choice.failure with
  | none => exact ⟨hguar, hafter⟩
  | some raised => exact ⟨hguar, hafter⟩

/-! ## Releasing the marker and the staging file -/

theorem failure_ne_fileNotFound {choice : Choice} {request : Request} {raised : Raised}
    (hpermits : permits choice request state) (hfailure : choice.failure = some raised) :
    raised ≠ .fileNotFound := by
  rintro rfl
  exact hpermits.2.1 hfailure

theorem readBytes_marker_spec (hview : ∀ lock staging published, view lock staging published →
      lock = true) :
    Spec (among tokens policy i) (Own tokens i handles view) (readBytes .marker)
      (fun _ => Own tokens i handles view)
      (fun raised state => raised ≠ .fileNotFound ∧ Own tokens i handles view state) := by
  refine Spec.operation (fun _ _ h hrely => h.of_rely hrely) ?_
  intro state choice hown hpermits _
  unfold serve
  cases hfailure : choice.failure with
  | some raised => exact ⟨guar_refl state, failure_ne_fileNotFound hpermits hfailure, hown⟩
  | none =>
      obtain ⟨inode, hlink, -⟩ := (hown.base.inv.lock i).mp (hview _ _ _ hown.view)
      dsimp only
      unfold State.readBytes
      rw [hlink]
      exact ⟨guar_refl state, hown⟩

theorem base_dropped (hname : name ≠ .final) (hhas : Has state name i)
    (hbase : Base tokens i handles state) :
    Base tokens i handles (State.own tokens i (state.drop name) name false) where
  inv := inv_dropped hbase.inv hhas
  file inode hfile := by
    rw [opened_own]
    exact hbase.file inode hfile
  identity inode hidentity := by
    obtain ⟨hlink, hcreator⟩ := hbase.identity inode hidentity
    rw [links_own, creator_own]
    exact ⟨(update_of_ne (Ne.symm hname) _ _).trans hlink, hcreator⟩

theorem has_dropped_final (hname : name ≠ .final) :
    Has (State.own tokens i (state.drop name) name false) .final i ↔ Has state .final i := by
  unfold Has
  rw [links_own, creator_own]
  change Has (state.drop name) .final i ↔ _
  rw [has_drop]
  exact and_iff_right (Ne.symm hname)

theorem unlink_own {choice : Choice} {done : View} (hname : name ≠ .final)
    (hhas : Has state name i) (hown : Own tokens i handles view state)
    (hpermits : permits choice (.unlink name) state)
    (hdone : done ((State.own tokens i (state.drop name) name false).ownsLock i)
      ((State.own tokens i (state.drop name) name false).ownsStaging i) (Has state .final i)) :
    (among tokens policy i).guar state (serve tokens i choice (.unlink name) state).2 ∧
      Ends (fun _ : Unit => Own tokens i handles done)
        (fun raised state => raised ≠ .fileNotFound ∧ Own tokens i handles view state)
        (serve tokens i choice (.unlink name) state).1
        (serve tokens i choice (.unlink name) state).2 := by
  unfold serve
  cases hfailure : choice.failure with
  | some raised => exact ⟨guar_refl state, failure_ne_fileNotFound hpermits hfailure, hown⟩
  | none =>
      obtain ⟨inode, hlink, -⟩ := id hhas
      dsimp only
      unfold State.unlink
      rw [hlink]
      refine ⟨guar_dropped hhas, base_dropped hname hhas hown.base, ?_⟩
      rw [has_dropped_final hname]
      exact hdone

theorem unlink_marker_spec (hview : ∀ lock staging published, view lock staging published →
      lock = true) :
    Spec (among tokens policy i) (Own tokens i handles view) (unlink .marker)
      (fun _ => Own tokens i handles fun lock staging published =>
        lock = false ∧ view true staging published)
      (fun raised state => raised ≠ .fileNotFound ∧ Own tokens i handles view state) := by
  refine Spec.operation (fun _ _ h hrely => h.of_rely hrely) ?_
  intro state choice hown hpermits _
  have howns := hview _ _ _ hown.view
  refine unlink_own (by simp) ((hown.base.inv.lock i).mp howns) hown hpermits ⟨?_, ?_⟩
  · simp [ownsLock_own]
  · have := hown.view
    rw [howns] at this
    simpa [ownsStaging_own, State.drop] using this

theorem unlink_staging_spec (hview : ∀ lock staging published, view lock staging published →
      staging = true) :
    Spec (among tokens policy i) (Own tokens i handles view) (unlink (.staging (tokens i)))
      (fun _ => Own tokens i handles fun lock staging published =>
        staging = false ∧ view lock true published)
      (fun raised state => raised ≠ .fileNotFound ∧ Own tokens i handles view state) := by
  refine Spec.operation (fun _ _ h hrely => h.of_rely hrely) ?_
  intro state choice hown hpermits _
  have howns := hview _ _ _ hown.view
  refine unlink_own (by simp) ((hown.base.inv.staging i).mp howns) hown hpermits ⟨?_, ?_⟩
  · simp [ownsStaging_own]
  · have := hown.view
    rw [howns] at this
    simpa [ownsLock_own, State.drop] using this

/-- What is known when the flags are not. -/
def View.anyFlags (view : View) : View := fun _ _ published => ∃ lock staging,
  view lock staging published

/-- Neither the marker nor the staging file is the attempt's any more. -/
def View.cleared (view : View) : View := fun lock staging published =>
  lock = false ∧ staging = false ∧ view.anyFlags lock staging published

theorem releaseOwnedLock_spec (hview : ∀ lock staging published, view lock staging published →
      lock = true) :
    Spec (among tokens policy i) (Own tokens i handles view) (releaseOwnedLock (tokens i))
      (fun _ => Own tokens i handles fun lock staging published =>
        lock = false ∧ view true staging published)
      (fun _ => Own tokens i handles view) := by
  refine (readBytes_marker_spec hview).follow ?_ ?_
  · intro marker
    dsimp only
    split_ifs
    · exact (unlink_marker_spec hview).mono (fun _ _ h => h) fun _ _ h => h.2
    · exact Spec.raise fun _ h => h
  · intro raised
    cases raised with
    | fileNotFound => exact ⟨fun _ h => absurd rfl h.1⟩
    | fileExists | os | base => exact Spec.raise fun _ h => h.2

theorem releaseLock_spec :
    Spec (among tokens policy i) (Own tokens i handles view) (releaseLock (tokens i))
      (fun _ => Own tokens i handles fun lock staging published =>
        lock = false ∧ ∃ before, view before staging published)
      (fun _ => Own tokens i handles view) := by
  refine (owned_spec.mono (fun _ _ h => h) fun _ _ h => h.elim).bind fun owns => ?_
  split_ifs with howns
  · refine (releaseOwnedLock_spec ?_).mono ?_ ?_
    · rintro lock staging published ⟨rfl, -, -⟩
      exact howns
    · exact fun _ _ h => h.mono fun _ _ _ hview => ⟨hview.1, true, hview.2.2.2⟩
    · exact fun _ _ h => h.mono fun _ _ _ hview => hview.2.2
  · refine Spec.pure fun _ h => h.mono fun lock _ _ hview => ⟨?_, lock, hview.2.2⟩
    rw [hview.1]
    simpa using howns

theorem removeStaging_spec :
    Spec (among tokens policy i) (Own tokens i handles view) (removeStaging (tokens i))
      (fun _ => Own tokens i handles fun lock staging published =>
        staging = false ∧ ∃ before, view lock before published)
      (fun _ => Own tokens i handles view) := by
  refine (owned_spec.mono (fun _ _ h => h) fun _ _ h => h.elim).bind fun owns => ?_
  split_ifs with howns
  · refine Spec.recover (((unlink_staging_spec ?_).mono ?_ fun _ _ h => h)) fun raised => ?_
    · rintro lock staging published ⟨-, rfl, -⟩
      exact howns
    · exact fun _ _ h => h.mono fun _ _ _ hview => ⟨hview.1, true, hview.2.2.2⟩
    · -- the staging file is there
      split_ifs with hmissing
      · exact ⟨fun _ h => absurd hmissing h.1⟩
      · exact Spec.raise fun _ h => h.2.mono fun _ _ _ hview => hview.2.2
  · refine Spec.pure fun _ h => h.mono fun _ staging _ hview => ⟨?_, staging, hview.2.2⟩
    rw [hview.2.1]
    simpa using howns

theorem releaseLock_anyFlags_spec :
    Spec (among tokens policy i) (Own tokens i handles view.anyFlags) (releaseLock (tokens i))
      (fun _ => Own tokens i handles view.anyFlags)
      (fun _ => Own tokens i handles view.anyFlags) := by
  refine releaseLock_spec.mono ?_ fun _ _ h => h
  rintro _ state h
  refine h.mono ?_
  rintro _ _ _ ⟨-, _, lock, staging, hview⟩
  exact ⟨lock, staging, hview⟩

theorem ignoringOsErrors_spec {method : Method Unit} {pre : State ι → Prop} {post : State ι → Prop}
    (h : Spec (among tokens policy i) pre method (fun _ => post) (fun _ => post)) :
    Spec (among tokens policy i) pre (ignoringOsErrors method) (fun _ => post) (fun _ => post) := by
  refine h.recover fun raised => ?_
  split_ifs
  · exact Spec.pure fun _ h => h
  · exact Spec.raise fun _ h => h

theorem onRaise_spec {α : Type} {method : Method α} {handle : Method Unit} {pre : State ι → Prop}
    {post : α → State ι → Prop} {raised failed : State ι → Prop}
    (h : Spec (among tokens policy i) pre method post fun _ => raised)
    (hhandle : Spec (among tokens policy i) raised handle (fun _ => failed) fun _ => failed) :
    Spec (among tokens policy i) pre (onRaise method handle) post fun _ => failed :=
  h.recover fun _ => hhandle.bind fun _ => Spec.raise fun _ h => h

theorem cleanup_spec : Spec (among tokens policy i) (Own tokens i handles view) (cleanup (tokens i))
      (fun _ => Own tokens i handles view.cleared)
      (fun _ => Own tokens i handles view.anyFlags) := by
  refine removeStaging_spec.follow ?_ ?_
  · intro _
    refine releaseLock_spec.mono ?_ ?_
    · intro _ _ h
      refine h.mono ?_
      rintro _ _ _ ⟨hlock, lock, hstaging, staging, hview⟩
      exact ⟨hlock, hstaging, lock, staging, hview⟩
    · intro _ _ h
      refine h.mono ?_
      rintro lock _ _ ⟨-, staging, hview⟩
      exact ⟨lock, staging, hview⟩
  · intro error
    have hforget : ∀ state, Own tokens i handles view state →
        Own tokens i handles view.anyFlags state :=
      fun _ h => h.mono fun lock staging _ hview => ⟨lock, staging, hview⟩
    cases error with
    | base => exact Spec.raise hforget
    | fileExists | fileNotFound | os =>
        refine Spec.bind ?_ fun _ => Spec.raise fun _ h => h
        exact ignoringOsErrors_spec (releaseLock_anyFlags_spec.imp hforget)

/-! ## Acquiring them -/

theorem acquireLock_spec :
    Spec (among tokens policy i) (Own tokens i ⟨none, identity⟩ view) (acquireLock (tokens i))
      (fun _ => Own tokens i ⟨none, identity⟩ fun lock staging published =>
        lock = true ∧ view false staging published)
      (fun _ => Own tokens i ⟨none, identity⟩ view.anyFlags) := by
  have hforget : ∀ state, Own tokens i ⟨none, identity⟩ view state →
      Own tokens i ⟨none, identity⟩ view.anyFlags state :=
    fun _ h => h.mono fun lock staging _ hview => ⟨lock, staging, hview⟩
  have hfailed : ∀ state, Own tokens i ⟨none, identity⟩ (fun lock staging published =>
      lock = true ∧ view false staging published) state →
      Own tokens i ⟨none, identity⟩ view.anyFlags state :=
    fun _ h => h.mono fun _ staging _ hview => ⟨false, staging, hview.2⟩
  refine (create_marker_spec.mono (fun _ _ h => h) fun _ => hforget).bind fun inode => ?_
  refine Spec.bind (onRaise_spec ((writeAll_spec (tokens i)).bind fun _ => touch_spec) ?_)
    fun _ => close_spec.mono (fun _ _ h => h) fun _ => hfailed
  have hrelease : Spec (among tokens policy i) (Own tokens i ⟨none, identity⟩
      fun lock staging published => lock = true ∧ view false staging published)
      (ignoringOsErrors (releaseLock (tokens i)))
      (fun _ => Own tokens i ⟨none, identity⟩ view.anyFlags)
      (fun _ => Own tokens i ⟨none, identity⟩ view.anyFlags) :=
    ignoringOsErrors_spec (releaseLock_anyFlags_spec.imp hfailed)
  exact close_spec.ensure (fun _ => hrelease) fun _ => hrelease

theorem acquireStaging_spec :
    Spec (among tokens policy i) (Own tokens i ⟨none, identity⟩ view) (acquireStaging (tokens i))
      (fun inode => Own tokens i ⟨some inode, identity⟩ fun lock staging published =>
        lock = true ∧ staging = true ∧ view false false published)
      (fun _ => Own tokens i ⟨none, identity⟩ view.anyFlags) := by
  have hforget : ∀ state, Own tokens i ⟨none, identity⟩ view state →
      Own tokens i ⟨none, identity⟩ view.anyFlags state :=
    fun _ h => h.mono fun lock staging _ hview => ⟨lock, staging, hview⟩
  refine (touch_spec.mono (fun _ _ h => h) fun _ => hforget).bind fun _ => ?_
  refine acquireLock_spec.bind fun _ => ?_
  refine Spec.bind (onRaise_spec (create_staging_spec.mono (fun _ _ h => h) fun _ _ h => h) ?_)
    fun inode => ?_
  · refine releaseLock_anyFlags_spec.imp fun _ h => h.mono ?_
    rintro _ staging _ ⟨-, hview⟩
    exact ⟨false, staging, hview⟩
  refine Spec.bind (onRaise_spec touch_spec ?_) fun _ => Spec.pure fun _ h => h.mono ?_
  · refine (close_spec.mono (fun _ _ h => h) fun _ _ h => h.mono ?_).bind fun _ => ?_
    · rintro _ _ _ ⟨-, -, hview⟩
      exact ⟨false, false, hview⟩
    refine ignoringOsErrors_spec (cleanup_spec.mono ?_ ?_)
    · rintro _ _ h
      refine h.mono ?_
      rintro _ _ _ ⟨-, -, _, _, -, -, hview⟩
      exact ⟨false, false, hview⟩
    · rintro _ _ h
      refine h.mono ?_
      rintro _ _ _ ⟨_, _, -, -, hview⟩
      exact ⟨false, false, hview⟩
  · rintro _ _ _ ⟨hstaging, hlock, hview⟩
    exact ⟨hlock, hstaging, hview⟩

/-! ## Publishing -/

/-- The file under the final name cannot always be removed again. -/
def Policy.RemovalCanFail (policy : Policy ι) : Prop :=
  ∃ choice state, choice.failure ≠ none ∧
    (policy.allowed choice (.stat .final) state ∨ policy.allowed choice (.unlink .final) state)

variable {file : Option Inode} {identity : Inode}

theorem Base.published (hbase : Base tokens i ⟨file, some identity⟩ state) : Has state .final i :=
  ⟨identity, hbase.identity identity rfl⟩

theorem stat_final_spec :
    Spec (among tokens policy i) (Own tokens i ⟨file, some identity⟩ view) (stat .final)
      (fun current state => current = identity ∧ Own tokens i ⟨file, some identity⟩ view state)
      (fun raised state => (raised ≠ .fileNotFound ∧ policy.RemovalCanFail) ∧
        Own tokens i ⟨file, some identity⟩ view state) := by
  refine Spec.operation (fun _ _ h hrely => h.of_rely hrely) ?_
  intro state choice hown hpermits hallowed
  unfold serve
  cases hfailure : choice.failure with
  | some raised =>
      refine ⟨guar_refl state, ⟨failure_ne_fileNotFound hpermits hfailure, ?_⟩, hown⟩
      exact ⟨choice, state, by simp [hfailure], .inl hallowed⟩
  | none =>
      dsimp only
      unfold State.stat
      rw [(hown.base.identity identity rfl).1]
      exact ⟨guar_refl state, rfl, hown⟩

/-- What is known behind a publication that was taken back. -/
def View.withdrawn (view : View) : View := fun lock staging published =>
  ¬ published ∧ view lock staging True

theorem unlink_final_spec :
    Spec (among tokens policy i) (Own tokens i ⟨file, some identity⟩ view) (unlink .final)
      (fun _ => Own tokens i ⟨file, none⟩ view.withdrawn)
      (fun _ state => policy.RemovalCanFail ∧ Own tokens i ⟨file, some identity⟩ view state) := by
  refine Spec.operation (fun _ _ h hrely => h.of_rely hrely) ?_
  intro state choice hown _ hallowed
  have hhas := hown.base.published
  have hlink := (hown.base.identity identity rfl).1
  unfold serve
  cases hfailure : choice.failure with
  | some raised =>
      exact ⟨guar_refl state, ⟨choice, state, by simp [hfailure], .inr hallowed⟩, hown⟩
  | none =>
      dsimp only
      unfold State.unlink
      rw [hlink]
      refine ⟨guar_dropped hhas, ⟨inv_dropped hown.base.inv hhas, ?_, ?_⟩, ?_, ?_⟩
      · intro inode hfile
        rw [opened_own]
        exact hown.base.file inode hfile
      · rintro _ ⟨⟩
      · unfold Has
        rw [links_own, creator_own]
        change ¬ Has (state.drop .final) .final i
        rw [has_drop]
        exact fun h => h.1 rfl
      · have hview := hown.view
        rw [eq_true hhas] at hview
        simpa [ownsLock_own, ownsStaging_own, State.drop] using hview

theorem Own.forgetIdentity (h : Own tokens i ⟨file, some identity⟩ view state) :
    Own tokens i ⟨file, none⟩ view state where
  base := ⟨h.base.inv, h.base.file, by rintro _ ⟨⟩⟩
  view := h.view

theorem rollbackPublished_spec :
    Spec (among tokens policy i) (Own tokens i ⟨file, some identity⟩ view)
      (rollbackPublished identity)
      (fun _ => Own tokens i ⟨file, none⟩ view.withdrawn)
      (fun _ state => policy.RemovalCanFail ∧ Own tokens i ⟨file, none⟩ view state) := by
  refine stat_final_spec.follow ?_ ?_
  · intro current
    dsimp only
    split_ifs with hcurrent
    · exact (unlink_final_spec.imp fun _ h => h.2).mono (fun _ _ h => h)
        fun _ _ h => ⟨h.1, h.2.forgetIdentity⟩
    · exact ⟨fun _ h => absurd h.1 hcurrent⟩
  · intro raised
    cases raised with
    | fileNotFound => exact ⟨fun _ h => absurd rfl h.1.1⟩
    | fileExists | os | base => exact Spec.raise fun _ h => ⟨h.1.2, h.2.forgetIdentity⟩

/-- The attempt has not published, unless it had before or a removal failed. -/
def View.unpublished (policy : Policy ι) (view : View) : View := fun _ _ published =>
  published → policy.RemovalCanFail ∨ ∃ lock staging, view lock staging True

/-- The staging file is there, with its inode. -/
structure Staged (tokens : ι → Token) (i : ι) (identity : Inode) (state : State ι) : Prop where
  link : state.links (.staging (tokens i)) = some identity
  creator : state.creator identity = some i

theorem Staged.of_rely (h : Staged tokens i identity before)
    (hrely : (among tokens policy i).rely before after) : Staged tokens i identity after where
  link := hrely.2.links _ _ h.link h.creator
  creator := (hrely.2.files _ h.creator (.inl ⟨_, h.link⟩)).1

theorem stat_staging_spec (hview : ∀ lock staging published, view lock staging published →
      staging = true) :
    Spec (among tokens policy i) (Own tokens i handles view) (stat (.staging (tokens i)))
      (fun identity state => Own tokens i handles view state ∧ Staged tokens i identity state)
      (fun _ => Own tokens i handles view) := by
  refine Spec.operation (fun _ _ h hrely => h.of_rely hrely) ?_
  intro state choice hown hpermits _
  unfold serve
  cases choice.failure with
  | some raised => exact ⟨guar_refl state, hown⟩
  | none =>
      obtain ⟨inode, hlink, hcreator⟩ := (hown.base.inv.staging i).mp (hview _ _ _ hown.view)
      dsimp only
      unfold State.stat
      rw [hlink]
      exact ⟨guar_refl state, hown, hlink, hcreator⟩

theorem link_final_spec (hview : ∀ lock staging published, view lock staging published →
      lock = true) :
    Spec (among tokens policy i)
      (fun state => Own tokens i ⟨file, none⟩ view state ∧ Staged tokens i identity state)
      (link (.staging (tokens i)) .final)
      (fun _ => Own tokens i ⟨file, some identity⟩ fun lock staging published =>
        published ∧ view lock staging False)
      (fun _ => Own tokens i ⟨file, none⟩ view) := by
  refine Spec.operation (fun _ _ h hrely => ⟨h.1.of_rely hrely, h.2.of_rely hrely⟩) ?_
  rintro state choice ⟨hown, hstaged⟩ _ _
  unfold serve
  cases choice.failure with
  | some raised => exact ⟨guar_refl state, hown⟩
  | none =>
      dsimp only
      unfold State.link
      rw [hstaged.link]
      dsimp only
      by_cases hsome : (state.links .final).isSome = true
      · rw [if_pos hsome]
        exact ⟨guar_refl state, hown⟩
      rw [if_neg hsome]
      have hnone : state.links .final = none := by simpa using hsome
      have hlinked : (state.addLink .final identity).links .final = some identity := by
        simp [State.addLink]
      have hnot : ¬ Has state .final i := by
        rintro ⟨inode, hlink, -⟩
        rw [hnone] at hlink
        cases hlink
      refine ⟨guar_linked hown.base.inv (hview _ _ _ hown.view) hstaged.link hstaged.creator hnone,
        ⟨inv_linked hown.base.inv, hown.base.file, ?_⟩, ⟨identity, hlinked, hstaged.creator⟩, ?_⟩
      · rintro _ ⟨⟩
        exact ⟨hlinked, hstaged.creator⟩
      · have hbefore := hown.view
        rw [eq_false hnot] at hbefore
        exact hbefore

theorem takeBack_spec :
    Spec (among tokens policy i) (Own tokens i ⟨file, some identity⟩ fun _ _ _ => True)
      (do ignoringOsErrors (rollbackPublished identity); ignoringOsErrors (cleanup (tokens i)))
      (fun _ => Own tokens i ⟨file, none⟩ (view.unpublished policy))
      (fun _ => Own tokens i ⟨file, none⟩ (view.unpublished policy)) := by
  have hrollback : Spec (among tokens policy i)
      (Own tokens i ⟨file, some identity⟩ fun _ _ _ => True) (rollbackPublished identity)
      (fun _ => Own tokens i ⟨file, none⟩ (view.unpublished policy))
      (fun _ => Own tokens i ⟨file, none⟩ (view.unpublished policy)) := by
    refine rollbackPublished_spec.mono (fun _ _ h => h.mono ?_) fun _ _ h => h.2.mono ?_
    · exact fun _ _ _ hview hpublished => absurd hpublished hview.1
    · exact fun _ _ _ _ _ => .inl h.1
  refine (ignoringOsErrors_spec hrollback).bind fun _ => ignoringOsErrors_spec ?_
  refine cleanup_spec.mono (fun _ _ h => h.mono ?_) fun _ _ h => h.mono ?_
  · rintro _ _ _ ⟨-, -, _, _, hview⟩
    exact hview
  · rintro _ _ _ ⟨_, _, hview⟩
    exact hview

theorem publishOwned_spec (hview : ∀ lock staging published, view lock staging published →
      lock = true ∧ staging = true) :
    Spec (among tokens policy i) (Own tokens i ⟨file, none⟩ view) (publishOwned (tokens i))
      (fun identity => Own tokens i ⟨file, some identity⟩ fun lock staging published =>
        lock = false ∧ staging = false ∧ published)
      (fun _ => Own tokens i ⟨file, none⟩ (view.unpublished policy)) := by
  have hbefore : ∀ state, Own tokens i ⟨file, none⟩ view state →
      Own tokens i ⟨file, none⟩ (view.unpublished policy) state := by
    intro state h
    refine h.mono ?_
    intro lock staging published hold hpublished
    rw [eq_true hpublished] at hold
    exact .inr ⟨lock, staging, hold⟩
  refine ((stat_staging_spec fun _ _ _ h => (hview _ _ _ h).2).mono (fun _ _ h => h)
    fun _ => hbefore).bind fun identity => ?_
  refine ((link_final_spec fun _ _ _ h => (hview _ _ _ h).1).mono (fun _ _ h => h)
    fun _ => hbefore).bind fun _ => ?_
  have hbody : Spec (among tokens policy i)
      (Own tokens i ⟨file, some identity⟩ fun lock staging published =>
        published ∧ view lock staging False)
      (do unlink (.staging (tokens i)); releaseLock (tokens i))
      (fun _ => Own tokens i ⟨file, some identity⟩ fun lock staging published =>
        lock = false ∧ staging = false ∧ published)
      (fun _ => Own tokens i ⟨file, some identity⟩ fun _ _ _ => True) := by
    refine ((unlink_staging_spec fun _ _ _ h => (hview _ _ _ h.2).2).mono (fun _ _ h => h)
      fun _ _ h => h.2.mono fun _ _ _ _ => trivial).bind fun _ => ?_
    refine releaseLock_spec.mono (fun _ _ h => h.mono ?_) fun _ _ h => h.mono fun _ _ _ _ => trivial
    rintro lock staging published ⟨hlock, _, hstaging, hpublished, -⟩
    exact ⟨hlock, hstaging, hpublished⟩
  exact (onRaise_spec hbody takeBack_spec).bind fun _ => Spec.pure fun _ h => h

theorem publish_spec :
    Spec (among tokens policy i) (Own tokens i ⟨file, none⟩ view) (publish (tokens i))
      (fun identity => Own tokens i ⟨file, some identity⟩ fun lock staging published =>
        lock = false ∧ staging = false ∧ published)
      (fun _ => Own tokens i ⟨file, none⟩ (view.unpublished policy)) := by
  refine (owned_spec.mono (fun _ _ h => h) fun _ _ h => h.elim).bind fun owns => ?_
  split_ifs with howns
  · rw [Bool.and_eq_true] at howns
    refine (publishOwned_spec ?_).mono (fun _ _ h => h) fun _ _ h => h.mono ?_
    · rintro lock staging published ⟨rfl, rfl, -⟩
      exact howns
    intro lock staging published hunpublished hpublished
    refine (hunpublished hpublished).imp_right ?_
    rintro ⟨first, second, -, -, hview⟩
    exact ⟨first, second, hview⟩
  · refine Spec.raise fun _ h => h.mono ?_
    rintro lock staging published ⟨-, -, hview⟩ hpublished
    rw [eq_true hpublished] at hview
    exact .inr ⟨lock, staging, hview⟩

/-! ## Whole attempts -/

/-- Nothing is known but the handles. -/
def View.any : View := fun _ _ _ => True

theorem attemptCall_spec (handles : Handles) (next : AttemptCall) :
    Spec (among tokens policy i) (Own tokens i handles .any)
      (attemptCall (tokens i) handles next) (fun handles => Own tokens i handles .any)
      (fun _ _ => False) := by
  have hany : ∀ {handles : Handles} {view : View} {state : State ι},
      Own tokens i handles view state → Own tokens i handles .any state :=
    fun h => h.mono fun _ _ _ _ => trivial
  obtain ⟨file, identity⟩ := handles
  cases next with
  | acquire =>
      cases file with
      | some file => exact Spec.pure fun _ h => h
      | none =>
          exact acquireStaging_spec.follow (fun file => Spec.pure fun _ h => hany h)
            fun _ => Spec.pure fun _ h => hany h
  | write data =>
      cases file with
      | none => exact Spec.pure fun _ h => h
      | some file =>
          exact (writeAll_spec data).follow (fun _ => Spec.pure fun _ h => h)
            fun _ => Spec.pure fun _ h => h
  | close =>
      cases file with
      | none => exact Spec.pure fun _ h => h
      | some file =>
          exact close_spec.follow (fun _ => Spec.pure fun _ h => h) fun _ => Spec.pure fun _ h => h
  | publish =>
      cases identity with
      | some identity => exact Spec.pure fun _ h => h
      | none =>
          exact publish_spec.follow (fun identity => Spec.pure fun _ h => hany h)
            fun _ => Spec.pure fun _ h => hany h
  | rollback =>
      cases identity with
      | none => exact Spec.pure fun _ h => h
      | some identity =>
          exact rollbackPublished_spec.follow (fun _ => Spec.pure fun _ h => hany h)
            fun _ => Spec.pure fun _ h => h.2
  | cleanup =>
      exact cleanup_spec.follow (fun _ => Spec.pure fun _ h => hany h)
        fun _ => Spec.pure fun _ h => hany h

theorem attempt_spec (handles : Handles) (calls : List AttemptCall) :
    Spec (among tokens policy i) (Own tokens i handles .any) (attempt (tokens i) handles calls)
      (fun _ => Inv tokens) (fun _ _ => False) := by
  induction calls generalizing handles with
  | nil => exact Spec.pure fun _ h => h.base.inv
  | cons next rest ih => exact (attemptCall_spec handles next).bind fun handles => ih handles

/-! ## Every interleaving -/

theorem fits_of_stable {α : Type} {post : ι → Except Raised α → State ι → Prop}
    (hstable : ∀ i outcome before after, post i outcome before →
      (among tokens policy i).rely before after → post i outcome after) :
    Routine.Fits (among tokens policy) post where
  refl i state := ⟨id, spares_refl i state⟩
  trans i first second third hfirst hsecond :=
    ⟨fun h => hsecond.1 (hfirst.1 h), hfirst.2.trans hsecond.2⟩
  guar i j before after hne hguar := ⟨hguar.1, hguar.2.1 j (Ne.symm hne)⟩
  stable := hstable

theorem fits_among : Routine.Fits (among tokens policy)
    (fun _ outcome => Ends (fun _ : Unit => Inv tokens) (fun _ _ => False) outcome) := by
  refine fits_of_stable fun i outcome before after hpost hrely => ?_
  cases outcome with
  | ok => exact hrely.1 hpost
  | error => exact hpost

theorem inv_initial (links : Name → Option Inode) (content : Inode → List UInt8) :
    Inv tokens (State.initial links content) where
  lock i := by simp [State.initial, Has]
  staging i := by simp [State.initial, Has]
  written _ := rfl
  opened _ _ h := by cases h

variable {calls : ι → List AttemptCall} {links : Name → Option Inode}
  {content : Inode → List UInt8} {events : List (ι × Choice)}
  {threads : Threads interface Raised Unit (State ι) ι}

structure AttemptsSafe (tokens : ι → Token) (threads : Threads interface Raised Unit (State ι) ι) :
    Prop where
  /-- At most one attempt holds the marker, and it does so exactly while the marker is its own. -/
  exclusive : ∀ i j, threads.state.ownsLock i = true → threads.state.ownsLock j = true → i = j
  holder : ∀ i, threads.state.ownsLock i = true ↔ Has threads.state .marker i
  /-- A file holds what its creator has written, byte for byte. -/
  written : ∀ inode, threads.state.content inode = threads.state.written inode
  step : ∀ event, (machine Unit (server tokens .any)).admissible threads event →
    StepSafe tokens event.1 threads.state
      (threads.advance (server tokens .any) event).state

/-- **Attempts are safe** in every interleaving of their file operations. -/
theorem attempts_safe
    (h : (machine Unit (server tokens .any)).Reaches (begin tokens calls links content) events
      threads) : AttemptsSafe tokens threads := by
  have hstart : ∀ i, ((begin tokens calls links content).routine i).Meets (among tokens .any i)
      (fun outcome => Ends (fun _ : Unit => Inv tokens) (fun _ _ => False) outcome)
      (State.initial links content) := by
    refine fun i => (attempt_spec _ _).run _ ⟨⟨inv_initial links content, ?_, ?_⟩, trivial⟩
    · rintro _ ⟨⟩
    · rintro _ ⟨⟩
  have hmeets := reaches_meets fits_among h hstart
  have hinv : Inv tokens threads.state :=
    reaches_kept fits_among (fun _ _ _ hguar => hguar.1) h hstart (inv_initial links content)
  constructor
  case exclusive =>
    intro i j hi hj
    exact ((hinv.lock j).mp hj).unique ((hinv.lock i).mp hi)
  case holder => exact hinv.lock
  case written => exact hinv.written
  case step =>
    intro event hadmissible
    rcases guar_advance fits_among (hmeets event.1) hadmissible with heq | hguar
    · change StepSafe tokens event.1 threads.state
        (threads.advance (fun i => (among tokens .any i).toServer) event).state
      rw [heq]
      exact stepSafe_refl _
    · exact hguar.2.2

def smoothly (count : ℕ) (inode : Inode) : Choice := ⟨none, count, inode⟩

def contended : List (Bool × Choice) :=
  [(false, smoothly 0 0), (true, smoothly 0 0), (false, smoothly 0 0), (true, smoothly 0 1),
    (false, smoothly 1 0)]

def oneByteToken (second : Bool) : Token := if second then [2] else [1]

def acquiring : Threads interface Raised Unit (State Bool) Bool :=
  begin oneByteToken (fun _ => [.acquire]) (fun _ => none) fun _ => []

def afterContended : Threads interface Raised Unit (State Bool) Bool :=
  contended.foldl (Threads.advance (server oneByteToken .any)) acquiring

theorem attempts_safe_contended :
    AttemptsSafe oneByteToken afterContended ∧ afterContended.state.ownsLock false = true ∧
      (afterContended.routine true).isDone = true := by
  have hreach : (machine Unit (server oneByteToken .any)).Reaches acquiring contended
      afterContended := by
    have hfirst : ∀ name, acquiring.state.links name ≠ some 0 := fun name => by rintro ⟨⟩
    refine ⟨⟨by rintro ⟨⟩, by rintro ⟨⟩, by rintro _ ⟨⟩⟩,
      ⟨by rintro ⟨⟩, by rintro ⟨⟩, by rintro _ ⟨⟩⟩,
      ⟨by rintro ⟨⟩, by rintro ⟨⟩, fun _ _ => ⟨hfirst, fun _ h => by cases h⟩⟩,
      ⟨by rintro ⟨⟩, by rintro ⟨⟩, fun _ _ => ⟨fun name => ?_, fun i => ?_⟩⟩,
      ⟨by rintro ⟨⟩, by rintro ⟨⟩, by rintro _ ⟨⟩⟩, rfl⟩
    · cases name <;> rintro ⟨⟩
    · cases i <;> decide
  exact ⟨attempts_safe hreach, rfl, rfl⟩

end K5Vision.Media.Attempts
