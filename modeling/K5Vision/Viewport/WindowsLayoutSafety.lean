import K5Vision.Viewport.WindowsLayout

/-!
# The targets of a layout object

Whatever the operations of its targets come to, a layout object holds one target for each placement
while it is open, and none otherwise; a target that it opened and does not hold was closed exactly
once.

## Strategy

The accounts of the desk are kept by the contracts of its calls (`Holdings`).  They come with two
lists, of the windows that came up and of those that are held, and others may hold windows beside
the layout object: the contracts below are for any such `up` and `others`.  So the runtime, which
holds surfaces on the same desk, uses them as they stand.
-/

namespace K5Vision.Viewport.Windows

open Library Library.Holdings

/-! ## Maps of windows -/

section Maps

variable {windows : SlotMap} {slot : ℕ} {handle : Handle}

theorem assign_of_not_mem (h : slot ∉ windows.map Prod.fst) :
    windows.assign slot handle = windows ++ [(slot, handle)] := by
  refine if_neg fun hany => ?_
  obtain ⟨entry, hentry, heq⟩ := List.any_eq_true.mp hany
  exact h (List.mem_map.mpr ⟨entry, hentry, of_decide_eq_true heq⟩)

@[simp] theorem handles_nil : SlotMap.handles [] = [] := rfl

theorem handles_append (windows others : SlotMap) :
    SlotMap.handles (windows ++ others) = windows.handles ++ others.handles :=
  List.map_append

end Maps

/-- A map has one target for each placement, with its geometry. -/
def Placed (placements : List ViewportPlacement) (targets : SlotMap) : Prop :=
  targets.map (fun entry => (entry.1, entry.2.2)) =
    placements.map fun placement => (placement.logicalSlot, .target placement.geometry)

section Targets

variable {up others : List Handle} {targets : SlotMap} {done rest : List ViewportPlacement}

theorem Placed.slots (h : Placed done targets) :
    targets.map Prod.fst = done.map ViewportPlacement.logicalSlot := by
  have hfst := congrArg (List.map Prod.fst) h
  rwa [List.map_map, List.map_map] at hfst

theorem closeTargetMap_spec :
    Handler.Spec (Accounts up (others ++ targets.handles)) (closeTargetMap targets)
      (fun _ => Accounts up others) fun _ => False :=
  closeAll_spec (List.perm_append_comm.trans ((List.reverse_perm _).symm.append_right _))

theorem abandon_spec {α : Type} {more : List Handle} {error : Raised}
    {post : α → WindowsDesk → Prop} (hsub : up ⊆ more) :
    Handler.Spec (Accounts more (others ++ targets.handles)) (abandon targets error) post
      (Accounts up others) :=
  (closeTargetMap_spec.mono (fun _ _ h => h) fun _ h => h.elim).bind fun _ =>
    Handler.Spec.raise fun _ h => h.less hsub

theorem openTargetMap_spec (hplaced : Placed done targets)
    (hnodup : ((done ++ rest).map ViewportPlacement.logicalSlot).Nodup) :
    Handler.Spec (Accounts (up ++ targets.handles) (others ++ targets.handles))
      (openTargetMap rest targets)
      (fun opened desk => Accounts (up ++ opened.handles) (others ++ opened.handles) desk ∧
        Placed (done ++ rest) opened)
      (Accounts up others) := by
  induction rest generalizing done targets with
  | nil =>
      refine Handler.Spec.pure fun desk h => ⟨h, ?_⟩
      rwa [List.append_nil]
  | cons placement rest ih =>
      have hslot : placement.logicalSlot ∉ targets.map Prod.fst := by
        rw [hplaced.slots]
        intro hmem
        rw [List.map_append, List.map_cons] at hnodup
        exact (List.nodup_append.mp hnodup).2.2 _ hmem _ List.mem_cons_self rfl
      have hmake : Handler.Spec (Accounts (up ++ targets.handles) (others ++ targets.handles))
          (make.recover (abandon targets))
          (fun id desk => Accounts (up ++ targets.handles) (others ++ targets.handles) desk ∧
            New id desk)
          (Accounts up others) :=
        make_spec.recover fun _ => abandon_spec (List.subset_append_left _ _)
      refine hmake.bind fun id => ?_
      obtain ⟨entry, hentry⟩ : ∃ entry : Handle, entry = (id, .target placement.geometry) :=
        ⟨_, rfl⟩
      obtain ⟨opened, hopened⟩ : ∃ opened : SlotMap,
          opened = targets ++ [(placement.logicalSlot, entry)] := ⟨_, rfl⟩
      have hnext : Placed (done ++ [placement]) opened := by
        unfold Placed at hplaced ⊢
        rw [hopened, hentry, List.map_append, List.map_append, hplaced]
        rfl
      have hhandles : opened.handles = targets.handles ++ [entry] := by
        rw [hopened, handles_append]
        rfl
      rw [← hentry, assign_of_not_mem hslot, ← hopened]
      have habandon : ∀ error : Raised, Handler.Spec
          (Accounts (up ++ targets.handles) (others ++ opened.handles))
          (abandon (α := PUnit) opened error)
          (fun _ => Accounts (up ++ opened.handles) (others ++ opened.handles))
          (Accounts up others) := fun _ => abandon_spec (List.subset_append_left _ _)
      have hopen : Handler.Spec (fun desk =>
          Accounts (up ++ targets.handles) (others ++ targets.handles) desk ∧ New id desk)
          ((openOne entry).recover (abandon opened))
          (fun _ => Accounts (up ++ opened.handles) (others ++ opened.handles))
          (Accounts up others) := by
        rw [hhandles, ← List.append_assoc, ← List.append_assoc] at habandon ⊢
        subst hentry
        exact openOne_spec.recover habandon
      have hrest := ih hnext (by rwa [List.append_assoc, List.singleton_append])
      rw [List.append_assoc, List.singleton_append] at hrest
      exact hopen.bind fun _ => hrest

end Targets

/-! ## What a layout object keeps -/

/-- Behind a failure or a close. -/
def WindowsState.Ended (state : WindowsState) : Prop := state = .failed ∨ state = .closed

instance : DecidablePred WindowsState.Ended := fun _ => inferInstanceAs (Decidable (_ ∨ _))

theorem WindowsState.Ended.ne_open {state : WindowsState} (h : state.Ended) : state ≠ .open := by
  rintro rfl
  exact absurd h (by decide)

/-- The targets are those of the placements while the object is open, and none otherwise. -/
structure Shaped (object : WindowsLayout) : Prop where
  placed : object.state = .open → Placed object.layout.placements object.targets
  dropped : object.state ≠ .open → object.targets = []

/-- The object is shaped, and the accounts are right; `others` are held beside its targets. -/
structure LayoutSound (up others : List Handle) (world : LayoutWorld) : Prop where
  accounts : Accounts (up ++ world.object.targets.handles) (others ++ world.object.targets.handles)
    world.desk
  shaped : Shaped world.object

/-- The object was open or opens now, and has targets for `layout`. -/
structure Showing (up others : List Handle) (before : WindowsLayout) (layout : ViewportLayout)
    (world : LayoutWorld) : Prop where
  sound : LayoutSound up others world
  going : ¬ before.state.Ended
  state : world.object.state = .open
  layout : world.object.layout = layout

/-- Nothing happened, or the object has failed. -/
structure Left (up others : List Handle) (before : WindowsLayout) (world : LayoutWorld) :
    Prop where
  sound : LayoutSound up others world
  failed : world.object = before ∨ world.object.state = .failed

/-- The object is `object`, and the desk is in `kept`. -/
structure On (object : WindowsLayout) (kept : WindowsDesk → Prop) (world : LayoutWorld) : Prop where
  same : world.object = object
  desk : kept world.desk

namespace LayoutWorld

variable {up others : List Handle} {object : WindowsLayout}

section Steps

variable {α : Type} {kept failed : WindowsDesk → Prop} {post : α → WindowsDesk → Prop}
  {done : α → LayoutWorld → Prop} {broken : LayoutWorld → Prop}

theorem self_spec {next : WindowsLayout → LayoutHandler α}
    (h : Handler.Spec (On object kept) (next object) done broken) :
    Handler.Spec (On object kept) (self >>= next) done broken := by
  constructor
  intro world hon
  have hrun := h.run world hon
  rwa [← hon.same] at hrun

theorem onDesk_spec {handler : Handler WindowsDesk Raised α}
    (h : Handler.Spec kept handler post failed) :
    Handler.Spec (On object kept) (onDesk handler) (fun a => On object (post a))
      (On object failed) :=
  Handler.Spec.zoom (fun _ _ => h) (fun _ hon => hon.desk)
    (fun _ _ _ hon hpost => ⟨hon.same, hpost⟩) fun _ _ hon hfailed => ⟨hon.same, hfailed⟩

theorem change_spec (update : WindowsLayout → WindowsLayout) :
    Handler.Spec (On object kept) (change update) (fun _ => On (update object) kept) broken :=
  Handler.Spec.modify fun _ hon => ⟨congrArg update hon.same, hon.desk⟩

theorem closeTargets_spec :
    Handler.Spec (On object (Accounts up (others ++ object.targets.handles))) closeTargets
      (fun _ => On { object with targets := [] } (Accounts up others)) broken := by
  refine self_spec ((change_spec _).bind fun _ => ?_)
  exact (onDesk_spec closeTargetMap_spec).mono (fun _ _ h => h) fun _ h => h.desk.elim

theorem fail_spec {error : Raised}
    (h : ∀ world, On { object with targets := [], state := .failed } (Accounts up others) world →
      broken world) :
    Handler.Spec (On object (Accounts up (others ++ object.targets.handles)))
      (closeTargets >>= fun _ => setState .failed >>= fun _ => Handler.raise error) done broken :=
  closeTargets_spec.bind fun _ => (change_spec _).bind fun _ => Handler.Spec.raise h

theorem sound_spec {handler : LayoutHandler α} (h : Shaped object → Handler.Spec
      (On object (Accounts (up ++ object.targets.handles) (others ++ object.targets.handles)))
      handler done broken) :
    Handler.Spec (fun world => LayoutSound up others world ∧ world.object = object) handler done
      broken := by
  constructor
  rintro world ⟨hsound, rfl⟩
  exact (h hsound.shaped).run world ⟨rfl, hsound.accounts⟩

end Steps

/-! ## Contracts of the calls -/

theorem sound_of_dropped {more : List Handle} {world : LayoutWorld}
    (h : On object (Accounts more others) world) (hsub : up ⊆ more) (htargets : object.targets = [])
    (hstate : object.state ≠ .open) : LayoutSound up others world := by
  obtain ⟨hsame, hdesk⟩ := h
  subst hsame
  refine ⟨?_, fun hopen => absurd hopen hstate, fun _ => htargets⟩
  rw [htargets, handles_nil, List.append_nil, List.append_nil]
  exact hdesk.less hsub

theorem left_of_failed {more : List Handle} {world : LayoutWorld} {before : WindowsLayout}
    (h : On { object with targets := [], state := .failed } (Accounts more others) world)
    (hsub : up ⊆ more) : Left up others before world :=
  ⟨sound_of_dropped h hsub rfl WindowsState.noConfusion, .inr (by rw [h.same])⟩

theorem left_of_same {world : LayoutWorld} (hshaped : Shaped object) (h : On object
      (Accounts (up ++ object.targets.handles) (others ++ object.targets.handles)) world) :
    Left up others object world := by
  obtain ⟨hsame, hdesk⟩ := h
  subst hsame
  exact ⟨⟨hdesk, hshaped⟩, .inl rfl⟩

theorem showing_of_placed {world : LayoutWorld} {before : WindowsLayout} {layout : ViewportLayout}
    (h : On object
      (Accounts (up ++ object.targets.handles) (others ++ object.targets.handles)) world)
    (hgoing : ¬ before.state.Ended) (hstate : object.state = .open)
    (hplaced : Placed object.layout.placements object.targets)
    (hlayout : object.layout = layout) : Showing up others before layout world := by
  obtain ⟨hsame, hdesk⟩ := h
  subst hsame
  exact ⟨⟨hdesk, fun _ => hplaced, fun hnot => absurd hstate hnot⟩, hgoing, hstate, hlayout⟩

theorem snapshot_spec {kept shown broken : LayoutWorld → Prop}
    (h : ∀ world, kept world → shown world) :
    Handler.Spec kept snapshot (fun _ => shown) broken :=
  ⟨h⟩

theorem targets_spec (placements : List ViewportPlacement)
    (hnodup : (placements.map ViewportPlacement.logicalSlot).Nodup) :
    Handler.Spec (On object (Accounts up others))
      (onDesk (openTargetMap placements []))
      (fun targets world => Placed placements targets ∧
        On object (Accounts (up ++ targets.handles) (others ++ targets.handles)) world)
      (On object (Accounts up others)) := by
  have hfirst : Placed [] [] := rfl
  have hopened : Handler.Spec (Accounts up others) (openTargetMap placements [])
      (fun targets desk => Accounts (up ++ targets.handles) (others ++ targets.handles) desk ∧
        Placed placements targets) (Accounts up others) :=
    (openTargetMap_spec hfirst hnodup).imp fun desk h => by
      rwa [handles_nil, List.append_nil, List.append_nil]
  exact (onDesk_spec hopened).mono (fun _ _ h => ⟨h.desk.2, h.same, h.desk.1⟩) fun _ h => h

theorem open_spec : Handler.Spec (fun world => LayoutSound up others world ∧ world.object = object)
      LayoutWorld.open (fun _ => Showing up others object object.layout)
      (Left up others object) := by
  refine sound_spec fun hshaped => self_spec ?_
  split_ifs with hopen hready
  · have hgoing : ¬ object.state.Ended := hopen ▸ by decide
    exact snapshot_spec fun _ h =>
      showing_of_placed h hgoing hopen (hshaped.placed hopen) rfl
  · exact Handler.Spec.raise fun _ h => left_of_same hshaped h
  have hgoing : ¬ object.state.Ended := not_not.mp hready ▸ by decide
  rw [hshaped.dropped hopen, handles_nil, List.append_nil, List.append_nil]
  refine Handler.Spec.bind ((targets_spec _ object.layout.nodup_slots).recover fun error =>
    (change_spec _).bind fun _ => Handler.Spec.raise fun _ h =>
      left_of_failed h (List.Subset.refl _)) fun targets => ?_
  exact Handler.Spec.given fun hplaced => (change_spec _).bind fun _ =>
    snapshot_spec fun _ h => showing_of_placed h hgoing rfl hplaced rfl

theorem relayout_spec (layout : ViewportLayout) :
    Handler.Spec (fun world => LayoutSound up others world ∧ world.object = object)
      (relayout layout) (fun _ => Showing up others object layout) (Left up others object) := by
  refine sound_spec fun hshaped => self_spec ?_
  split_ifs with hopen hslots
  · exact Handler.Spec.raise fun _ h => left_of_same hshaped h
  · exact Handler.Spec.raise fun _ h => left_of_same hshaped h
  have hgoing : ¬ object.state.Ended := not_not.mp hopen ▸ by decide
  refine Handler.Spec.bind ((targets_spec _ layout.nodup_slots).recover fun error =>
    fail_spec fun _ h => left_of_failed h (List.subset_append_left _ _))
    fun targets => Handler.Spec.given fun hplaced => (change_spec _).bind fun _ => ?_
  -- The prior targets are held beside the new ones until they are closed.
  have hprior : Handler.Spec
      (Accounts (up ++ object.targets.handles ++ targets.handles)
        (others ++ object.targets.handles ++ targets.handles))
      (closeTargetMap object.targets)
      (fun _ => Accounts (up ++ targets.handles) (others ++ targets.handles))
      (fun _ => False) := by
    refine closeTargetMap_spec.imp fun desk h => (h.less ?_).perm ?_
    · rw [List.append_assoc]
      exact List.append_subset.mpr ⟨List.subset_append_left _ _,
        fun _ hmem => List.mem_append_right _ (List.mem_append_right _ hmem)⟩
    · rw [List.append_assoc, List.append_assoc]
      exact List.perm_append_comm.append_left _
  refine Handler.Spec.bind ((onDesk_spec hprior).mono (fun _ _ h => h) fun _ h => h.desk.elim)
    fun failed => ?_
  cases failed with
  | true => exact fail_spec fun _ h => left_of_failed h (List.subset_append_left _ _)
  | false =>
      rw [if_neg Bool.false_ne_true]
      exact snapshot_spec fun _ h => showing_of_placed h hgoing (not_not.mp hopen) hplaced rfl

theorem present_spec (slot : ℕ) :
    Handler.Spec (fun world => LayoutSound up others world ∧ world.object = object)
      (present slot) (fun _ => Showing up others object object.layout)
      (Left up others object) := by
  refine sound_spec fun hshaped => self_spec ?_
  split_ifs with hopen hslot hlimit
  · exact Handler.Spec.raise fun _ h => left_of_same hshaped h
  · exact Handler.Spec.raise fun _ h => left_of_same hshaped h
  · exact fail_spec fun _ h => left_of_failed h (List.subset_append_left _ _)
  have hstate := not_not.mp hopen
  have hgoing : ¬ object.state.Ended := hstate ▸ by decide
  refine Handler.Spec.bind ((onDesk_spec (ask_spec fun _ answers h => h.answers answers)).recover
    fun error => ?_) fun _ => (change_spec _).bind fun _ => snapshot_spec fun _ h =>
      showing_of_placed h hgoing hstate (hshaped.placed hstate) rfl
  split_ifs
  · exact Handler.Spec.raise fun _ h => left_of_same hshaped h
  · exact fail_spec fun _ h => left_of_failed h (List.subset_append_left _ _)

theorem fail_raises {α : Type} {more : List Handle} {error : Raised} (herror : error ≠ .deferred) :
    Handler.Raises (On object (Accounts more (others ++ object.targets.handles)))
      (closeTargets >>= fun _ => setState .failed >>= fun _ => Handler.raise error :
        LayoutHandler α)
      fun raised world => raised = .deferred → world.object = object := by
  refine closeTargets_spec.never.bind closeTargets_spec fun _ => ?_
  refine (change_spec _).never.bind (change_spec _) fun _ => ?_
  exact Handler.Raises.raise fun _ _ hdeferred => absurd hdeferred herror

theorem reported_ne_deferred (code : WindowsLayoutErrorCode) (message : String) (error : Raised) :
    reported code message error ≠ .deferred := by
  cases error <;> exact Raised.noConfusion

theorem self_raises {α : Type} {kept : WindowsDesk → Prop} {next : WindowsLayout → LayoutHandler α}
    {raised : Raised → LayoutWorld → Prop}
    (h : Handler.Raises (On object kept) (next object) raised) :
    Handler.Raises (On object kept) (self >>= next) raised := by
  constructor
  intro world error after hon hexec
  refine h.run world error after hon ?_
  rwa [← hon.same]

theorem present_raises (slot : ℕ) :
    Handler.Raises (fun world => LayoutSound up others world ∧ world.object = object)
      (present slot) fun raised world => raised = .deferred → world.object = object := by
  suffices h : Handler.Raises
      (On object (Accounts (up ++ object.targets.handles) (others ++ object.targets.handles)))
      (present slot) fun raised world => raised = .deferred → world.object = object by
    constructor
    rintro world error after ⟨hsound, rfl⟩
    exact h.run world error after ⟨rfl, hsound.accounts⟩
  refine self_raises ?_
  split_ifs
  · exact Handler.Raises.raise fun _ h _ => h.same
  · exact Handler.Raises.raise fun _ h _ => h.same
  · exact fail_raises Raised.noConfusion
  have hask : Handler.Spec
      (On object (Accounts (up ++ object.targets.handles) (others ++ object.targets.handles)))
      (onDesk ask)
      (fun _ => On object
        (Accounts (up ++ object.targets.handles) (others ++ object.targets.handles)))
      (On object
        (Accounts (up ++ object.targets.handles) (others ++ object.targets.handles))) :=
    onDesk_spec (ask_spec fun _ answers h => h.answers answers)
  refine Handler.Raises.bind (Handler.Raises.recover hask fun error => ?_)
    (hask.recover fun _ => ?_) fun _ => ?_
  · split_ifs
    · exact Handler.Raises.raise fun _ h _ => h.same
    · exact fail_raises (reported_ne_deferred _ _ _)
  · split_ifs
    · exact Handler.Spec.raise fun _ _ => trivial
    · exact fail_spec fun _ _ => trivial
  · exact ((change_spec _).bind fun _ => snapshot_spec fun _ h => h).never

theorem close_spec :
    Handler.Spec (fun world => LayoutSound up others world ∧ world.object = object) close
      (fun _ world => LayoutSound up others world ∧ world.object.state.Ended)
      (fun world => LayoutSound up others world ∧ world.object.state.Ended) := by
  refine sound_spec fun hshaped => self_spec ?_
  split_ifs with hclosed
  · exact snapshot_spec fun _ h => ⟨(left_of_same hshaped h).sound, .inr (h.same ▸ hclosed)⟩
  have hends : ∀ (state : WindowsState) (world : LayoutWorld), state.Ended →
      On { object with targets := [], state := state }
        (Accounts (up ++ object.targets.handles) others) world →
      LayoutSound up others world ∧ world.object.state.Ended := by
    intro state world hended h
    refine ⟨sound_of_dropped h (List.subset_append_left _ _) rfl hended.ne_open, ?_⟩
    rwa [h.same]
  refine closeTargets_spec.bind fun failed => ?_
  split_ifs
  · exact (change_spec _).bind fun _ => Handler.Spec.raise fun _ h => hends .failed _ (.inl rfl) h
  · exact (change_spec _).bind fun _ => snapshot_spec fun _ h => hends .closed _ (.inr rfl) h

end LayoutWorld

end K5Vision.Viewport.Windows
