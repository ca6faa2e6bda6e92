import K5Vision.Viewport.WindowsLayoutSafety
import K5Vision.Viewport.WindowsRuntime

/-!
# Every window is closed exactly once

Whatever the calls of a runtime and of its layout object come to, a window that was opened is held
until it is closed, and then it was closed exactly once.

## Strategy

The contracts of the layout object are used on the desk that it shares with the surfaces of the
runtime (`Spec.zoom`), with these surfaces as the windows of the others.  A runtime that is about
to fail holds some surfaces and perhaps its layout object (`Held`); `closeResources` drops all of
them.  Between the calls a runtime is `RuntimeSound`, and one whose layout object is not called by
others has an open one while it is open (`Agrees`).
-/

namespace K5Vision.Viewport.Windows

open Library Library.Holdings

/-- One surface for each slot of the layout. -/
structure Surfaced (layout : ViewportLayout) (surfaces : SlotMap) : Prop where
  slots : (surfaces.map Prod.fst).Perm layout.slots
  surface : ∀ entry ∈ surfaces, entry.2.2 = .surface

/-- A layout object that the runtime does not hold was not made yet, or was closed. -/
structure Lent (made holding : Bool) (object : WindowsLayout) : Prop where
  unmade : made = false → holding = false ∧ object.state = .ready
  ended : made = true → holding = false → object.state.Ended

theorem Lent.made_of_holding {made holding : Bool} {object : WindowsLayout}
    (h : Lent made holding object) (hholding : holding = true) : made = true := by
  by_contra hnot
  have hunmade := h.unmade (Bool.eq_false_iff.mpr hnot)
  exact Bool.noConfusion (hholding.symm.trans hunmade.1)

theorem Lent.not_open {made holding : Bool} {object : WindowsLayout} (h : Lent made holding object)
    (hdropped : holding = false) : object.state ≠ .open := by
  cases made with
  | false => exact (h.unmade rfl).2 ▸ WindowsState.noConfusion
  | true => exact (h.ended rfl hdropped).ne_open

structure Held (runtime : WindowsRuntime) : Prop where
  layout : LayoutSound [] runtime.surfaces.handles ⟨runtime.desk, runtime.object⟩
  lent : Lent runtime.made runtime.holding runtime.object

structure RuntimeSound (runtime : WindowsRuntime) : Prop where
  layout : LayoutSound runtime.surfaces.handles runtime.surfaces.handles
    ⟨runtime.desk, runtime.object⟩
  lent : Lent runtime.made runtime.holding runtime.object
  surfaced : runtime.state = .open →
    runtime.holding = true ∧ Surfaced runtime.layout runtime.surfaces
  dropped : runtime.state ≠ .open → runtime.surfaces = [] ∧ runtime.holding = false

/-- The layout object of an open runtime is open, with its layout. -/
def Agrees (runtime : WindowsRuntime) : Prop :=
  runtime.state = .open →
    runtime.object.state = .open ∧ runtime.object.layout = runtime.layout

theorem LayoutSound.less {up fewer others : List Handle} {world : LayoutWorld}
    (h : LayoutSound up others world) (hsub : fewer ⊆ up) : LayoutSound fewer others world :=
  ⟨h.accounts.less (List.append_subset.mpr
    ⟨fun _ hmem => List.mem_append_left _ (hsub hmem), List.subset_append_right _ _⟩), h.shaped⟩

theorem RuntimeSound.held {runtime : WindowsRuntime} (h : RuntimeSound runtime) : Held runtime :=
  ⟨h.layout.less (List.nil_subset _), h.lent⟩

namespace WindowsRuntime

/-! ## What is dropped -/

/-- Nothing is held any more. -/
structure Dropped (runtime : WindowsRuntime) : Prop where
  layout : LayoutSound [] [] ⟨runtime.desk, runtime.object⟩
  lent : Lent runtime.made false runtime.object
  surfaces : runtime.surfaces = []
  holding : runtime.holding = false

theorem Dropped.sound {runtime : WindowsRuntime} (h : Dropped runtime)
    (hstate : runtime.state ≠ .open) : RuntimeSound runtime := by
  obtain ⟨hlayout, hlent, hsurfaces, hholding⟩ := h
  refine ⟨?_, hholding ▸ hlent, fun hopen => absurd hopen hstate, fun _ => ⟨hsurfaces, hholding⟩⟩
  rw [hsurfaces]
  exact hlayout

section Steps

variable {α : Type} {pre broken : WindowsRuntime → Prop} {done : α → WindowsRuntime → Prop}

theorem self_spec {next : WindowsRuntime → RuntimeHandler α} (h : ∀ runtime, pre runtime →
      Handler.Spec (fun now => now = runtime) (next runtime) done broken) :
    Handler.Spec pre (self >>= next) done broken :=
  ⟨fun runtime hpre => (h runtime hpre).run runtime rfl⟩

theorem snapshot_spec {shown : WindowsRuntime → Prop} (h : ∀ runtime, pre runtime → shown runtime) :
    Handler.Spec pre snapshot (fun _ => shown) broken :=
  ⟨h⟩

variable {runtime : WindowsRuntime}

theorem update_spec (update : WindowsRuntime → WindowsRuntime) :
    Handler.Spec (fun now => now = runtime) (modify update : RuntimeHandler PUnit)
      (fun _ now => now = update runtime) broken :=
  Handler.Spec.modify fun _ hnow => congrArg update hnow

theorem onDesk_spec {handler : Handler WindowsDesk Raised α} {kept failed : WindowsDesk → Prop}
    {post : α → WindowsDesk → Prop} (h : Handler.Spec kept handler post failed)
    (hkept : kept runtime.desk)
    (hdone : ∀ a desk, post a desk → done a { runtime with desk := desk })
    (hbroken : ∀ desk, failed desk → broken { runtime with desk := desk }) :
    Handler.Spec (fun now => now = runtime) (onDesk handler) done broken := by
  refine Handler.Spec.zoom (fun _ _ => h) ?_ ?_ ?_
  · rintro now rfl
    exact hkept
  · rintro now a desk rfl hpost
    exact hdone a desk hpost
  · rintro now desk rfl hfailed
    exact hbroken desk hfailed

theorem onLayout_spec {handler : LayoutHandler α} {kept failed : LayoutWorld → Prop}
    {post : α → LayoutWorld → Prop} (h : Handler.Spec kept handler post failed)
    (hkept : kept ⟨runtime.desk, runtime.object⟩) (hdone : ∀ a world, post a world →
      done a { runtime with desk := world.desk, object := world.object })
    (hbroken : ∀ world, failed world →
      broken { runtime with desk := world.desk, object := world.object }) :
    Handler.Spec (fun now => now = runtime) (onLayout handler) done broken := by
  refine Handler.Spec.zoom (fun _ _ => h) ?_ ?_ ?_
  · rintro now rfl
    exact hkept
  · rintro now a world rfl hpost
    exact hdone a world hpost
  · rintro now world rfl hfailed
    exact hbroken world hfailed

theorem onLayout_raises {handler : LayoutHandler α} {kept : LayoutWorld → Prop}
    {raised : Raised → LayoutWorld → Prop} {left : Raised → WindowsRuntime → Prop}
    (h : Handler.Raises kept handler raised) (hkept : kept ⟨runtime.desk, runtime.object⟩)
    (hleft : ∀ error world, raised error world →
      left error { runtime with desk := world.desk, object := world.object }) :
    Handler.Raises (fun now => now = runtime) (onLayout handler) left := by
  constructor
  rintro now error after rfl hexec
  obtain ⟨herror, hafter⟩ := Prod.mk.inj hexec
  rw [← hafter]
  exact hleft error _ (h.run _ error _ hkept (Prod.ext herror rfl))

theorem closeHeldLayout_spec : Handler.Spec Held closeHeldLayout
      (fun _ runtime => Held runtime ∧ runtime.holding = false) broken := by
  refine self_spec fun runtime hheld => (update_spec _).bind fun _ => ?_
  split_ifs with hholding
  · have hmade := hheld.lent.made_of_holding hholding
    have hclosed : ∀ world : LayoutWorld,
        LayoutSound [] runtime.surfaces.handles world ∧ world.object.state.Ended →
        Held { runtime with holding := false, desk := world.desk, object := world.object } :=
      fun world h => ⟨h.1, fun hunmade => Bool.noConfusion (hmade.symm.trans hunmade),
        fun _ _ => h.2⟩
    have hclose : Handler.Spec (fun now => now = { runtime with holding := false })
        (onLayout LayoutWorld.close)
        (fun _ now => Held now ∧ now.holding = false)
        (fun now => Held now ∧ now.holding = false) :=
      onLayout_spec LayoutWorld.close_spec ⟨hheld.layout, rfl⟩
        (fun _ world h => ⟨hclosed world h, rfl⟩) fun world h => ⟨hclosed world h, rfl⟩
    exact (hclose.bind fun _ => Handler.Spec.pure fun _ h => h).recover fun _ =>
      Handler.Spec.pure fun _ h => h
  · have hsame : runtime.holding = false := Bool.eq_false_iff.mpr hholding
    refine Handler.Spec.pure fun now hnow => ?_
    subst hnow
    exact ⟨⟨hheld.layout, fun hunmade => ⟨rfl, (hheld.lent.unmade hunmade).2⟩,
      fun hmade _ => hheld.lent.ended hmade hsame⟩, rfl⟩

theorem closeSurfaces_spec :
    Handler.Spec (fun runtime => Held runtime ∧ runtime.holding = false) closeSurfaces
      (fun _ => Dropped) broken := by
  refine self_spec fun runtime h => (update_spec _).bind fun _ => ?_
  obtain ⟨⟨⟨haccounts, hshaped⟩, hlent⟩, hholding⟩ := h
  rw [hholding] at hlent
  refine onDesk_spec (closeAll_spec ((List.reverse_perm _).symm.append_right _)) haccounts
    (fun _ desk hdesk => ⟨⟨hdesk, hshaped⟩, hlent, rfl, hholding⟩) fun _ h => h.elim

theorem closeResources_spec : Handler.Spec Held closeResources (fun _ => Dropped) broken :=
  closeHeldLayout_spec.bind fun _ => closeSurfaces_spec.bind fun _ => Handler.Spec.pure fun _ h => h

/-- The runtime has failed and holds nothing. -/
def Failed (runtime : WindowsRuntime) : Prop := RuntimeSound runtime ∧ runtime.state = .failed

theorem Dropped.update (h : Dropped runtime) (state : WindowsState) (hstate : state ≠ .open) :
    RuntimeSound { runtime with state := state } :=
  Dropped.sound ⟨h.layout, h.lent, h.surfaces, h.holding⟩ hstate

variable {raised : Raised}

theorem failClosed_spec : Handler.Spec Held (failClosed raised) done Failed :=
  closeResources_spec.bind fun _ => Handler.Spec.bind
    (Handler.Spec.modify fun _ h => ⟨Dropped.update h .failed WindowsState.noConfusion, rfl⟩)
    fun _ => Handler.Spec.raise fun _ h => h

/-! ## Opening -/

/-- The surfaces of some slots are open, and the layout object is not. -/
structure Opening (layout : ViewportLayout) (slots : List ℕ) (runtime : WindowsRuntime) :
    Prop where
  accounts : Accounts runtime.surfaces.handles runtime.surfaces.handles runtime.desk
  slots : runtime.surfaces.map Prod.fst = slots
  surface : ∀ entry ∈ runtime.surfaces, entry.2.2 = .surface
  layout : runtime.layout = layout
  targets : runtime.object.targets = []
  closed : runtime.object.state ≠ .open
  holding : runtime.holding = false
  lent : Lent runtime.made runtime.holding runtime.object

theorem held_of_accounts {up : List Handle} (h : Accounts up runtime.surfaces.handles runtime.desk)
    (htargets : runtime.object.targets = []) (hclosed : runtime.object.state ≠ .open)
    (hlent : Lent runtime.made runtime.holding runtime.object) : Held runtime := by
  refine ⟨⟨?_, fun hopen => absurd hopen hclosed, fun _ => htargets⟩, hlent⟩
  show Accounts ([] ++ runtime.object.targets.handles)
    (runtime.surfaces.handles ++ runtime.object.targets.handles) runtime.desk
  rw [htargets, handles_nil, List.append_nil, List.append_nil]
  exact h.less (List.nil_subset _)

variable {slots : List ℕ} {layout : ViewportLayout}

theorem Opening.held (h : Opening layout slots runtime) : Held runtime :=
  held_of_accounts h.accounts h.targets h.closed h.lent

variable {slot : ℕ}

theorem openSurface_spec (hslot : slot ∉ slots) :
    Handler.Spec (Opening layout slots) (openSurface slot)
      (fun _ => Opening layout (slots ++ [slot])) Held := by
  have hmake : Handler.Spec (Opening layout slots) (onDesk make)
      (fun id runtime => Opening layout slots runtime ∧ New id runtime.desk) Held :=
    Handler.Spec.zoom (fun _ _ => make_spec) (fun _ h => h.accounts)
      (fun _ _ _ h hdesk => ⟨{ h with accounts := hdesk.1 }, hdesk.2⟩)
      fun _ _ h hdesk => Opening.held { h with accounts := hdesk }
  refine hmake.bind fun id => ?_
  constructor
  rintro runtime ⟨h, hnew⟩
  obtain ⟨entry, hentry⟩ : ∃ entry : Handle, entry = (id, .surface) := ⟨_, rfl⟩
  obtain ⟨surfaces, hsurfaces⟩ : ∃ surfaces : SlotMap,
      surfaces = runtime.surfaces ++ [(slot, entry)] := ⟨_, rfl⟩
  have hhandles : surfaces.handles = runtime.surfaces.handles ++ [entry] := by
    rw [hsurfaces, handles_append]
    rfl
  have hassign : runtime.surfaces.assign slot (id, .surface) = surfaces := by
    rw [hsurfaces, ← hentry]
    exact assign_of_not_mem (h.slots ▸ hslot)
  have hopened : Handler.Spec (fun now => now = runtime)
      ((modify fun runtime => { runtime with
        surfaces := runtime.surfaces.assign slot (id, .surface) } : RuntimeHandler PUnit) >>=
        fun _ => onDesk (openOne (id, .surface)))
      (fun _ => Opening layout (slots ++ [slot])) Held := by
    refine (update_spec _).bind fun _ => ?_
    rw [hassign, ← hentry]
    refine onDesk_spec openOne_spec ⟨h.accounts, hentry ▸ hnew⟩ (fun _ desk hdesk => ?_)
      fun desk hdesk => ?_
    · rw [← hhandles] at hdesk
      refine ⟨hdesk, ?_, fun other hother => ?_, h.layout, h.targets, h.closed, h.holding, h.lent⟩
      · show surfaces.map Prod.fst = slots ++ [slot]
        rw [hsurfaces, List.map_append, h.slots]
        rfl
      have hmem : other ∈ runtime.surfaces ++ [(slot, entry)] := hsurfaces ▸ hother
      rcases List.mem_append.mp hmem with hold | hnewest
      · exact h.surface other hold
      · rw [List.mem_singleton.mp hnewest, hentry]
    · have haccounts : Accounts runtime.surfaces.handles surfaces.handles desk := hhandles ▸ hdesk
      exact held_of_accounts haccounts h.targets h.closed h.lent
  exact hopened.run runtime rfl

theorem openSurfaces_spec {rest : List ViewportPlacement}
    (hnodup : (slots ++ rest.map ViewportPlacement.logicalSlot).Nodup) :
    Handler.Spec (Opening layout slots) (openSurfaces rest)
      (fun _ => Opening layout (slots ++ rest.map ViewportPlacement.logicalSlot)) Failed := by
  induction rest generalizing slots with
  | nil =>
      refine Handler.Spec.pure fun runtime h => ?_
      rwa [List.map_nil, List.append_nil]
  | cons placement rest ih =>
      rw [List.map_cons] at hnodup ⊢
      have hslot : placement.logicalSlot ∉ slots := fun hmem =>
        (List.nodup_append.mp hnodup).2.2 _ hmem _ List.mem_cons_self rfl
      rw [List.append_cons] at hnodup ⊢
      exact ((openSurface_spec hslot).recover fun _ => failClosed_spec).bind fun _ => ih hnodup

/-- The runtime is open, and shows a layout with its layout object. -/
structure Shown (layout : ViewportLayout) (runtime : WindowsRuntime) : Prop where
  sound : RuntimeSound { runtime with state := .open }
  shows : runtime.object.state = .open ∧ runtime.object.layout = layout
  same : runtime.layout = layout

theorem lent_of_holding {made holding : Bool} {object : WindowsLayout} (hmade : made = true)
    (hholding : holding = true) : Lent made holding object :=
  ⟨fun hunmade => Bool.noConfusion (hmade.symm.trans hunmade),
    fun _ hdropped => Bool.noConfusion (hholding.symm.trans hdropped)⟩

/-- A new layout object is held beside the surfaces. -/
structure Made (layout : ViewportLayout) (runtime : WindowsRuntime) : Prop where
  sound : LayoutSound runtime.surfaces.handles runtime.surfaces.handles
    ⟨runtime.desk, runtime.object⟩
  surfaced : Surfaced layout runtime.surfaces
  made : runtime.made = true
  holding : runtime.holding = true
  shows : runtime.object.layout = layout
  same : runtime.layout = layout

theorem makeLayout_spec :
    Handler.Spec (Opening layout layout.slots) makeLayout (fun _ => Made layout) Held := by
  have hask : Handler.Spec (Opening layout layout.slots) (onDesk ask)
      (fun _ => Opening layout layout.slots) Held :=
    Handler.Spec.zoom (fun _ _ => ask_spec fun _ answers h => h.answers answers)
      (fun _ h => h.accounts) (fun _ _ _ h hdesk => { h with accounts := hdesk })
      fun _ _ h hdesk => Opening.held { h with accounts := hdesk }
  refine hask.bind fun _ => Handler.Spec.modify fun runtime h => ?_
  refine ⟨⟨?_, WindowsState.noConfusion, fun _ => rfl⟩, ⟨?_, h.surface⟩, rfl, rfl, h.layout,
    h.layout⟩
  · show Accounts (runtime.surfaces.handles ++ []) (runtime.surfaces.handles ++ []) runtime.desk
    rw [List.append_nil]
    exact h.accounts
  · show (runtime.surfaces.map Prod.fst).Perm layout.slots
    rw [h.slots]

theorem openLayout_spec :
    Handler.Spec (Made layout) (onLayout LayoutWorld.open) (fun _ => Shown layout) Held := by
  refine Handler.Spec.each fun runtime h => ?_
  have hlent : ∀ object, Lent runtime.made runtime.holding object := fun object =>
    lent_of_holding h.made h.holding
  refine onLayout_spec LayoutWorld.open_spec ⟨h.sound, rfl⟩ (fun _ world hworld => ?_)
    fun world hworld => ?_
  · refine ⟨⟨hworld.sound, hlent _, fun _ => ⟨h.holding, h.same ▸ h.surfaced⟩,
      fun hnot => absurd rfl hnot⟩, ⟨hworld.state, hworld.layout.trans h.shows⟩, h.same⟩
  · exact ⟨hworld.sound.less (List.nil_subset _), hlent _⟩

/-! ## Contracts of the calls -/

/-- What is kept between the calls; while others do not call the layout object (`alone`), an open
runtime agrees with it. -/
structure Kept (alone : Prop) (runtime : WindowsRuntime) : Prop where
  sound : RuntimeSound runtime
  agrees : alone → Agrees runtime

variable {alone : Prop}

theorem Failed.kept (h : Failed runtime) : Kept alone runtime :=
  ⟨h.1, fun _ hopen => WindowsState.noConfusion (h.2.symm.trans hopen)⟩

theorem Shown.kept (h : Shown layout runtime) : Kept alone { runtime with state := .open } :=
  ⟨h.sound, fun _ _ => ⟨h.shows.1, h.shows.2.trans h.same.symm⟩⟩

theorem Kept.desk {desk : WindowsDesk} (h : Kept alone runtime)
    (hdesk : Accounts (runtime.surfaces.handles ++ runtime.object.targets.handles)
      (runtime.surfaces.handles ++ runtime.object.targets.handles) desk) :
    Kept alone { runtime with desk := desk } :=
  ⟨⟨⟨hdesk, h.sound.layout.shaped⟩, h.sound.lent, h.sound.surfaced, h.sound.dropped⟩, h.agrees⟩

theorem failKept_spec : Handler.Spec Held (failClosed raised) done (Kept alone) :=
  failClosed_spec.mono (fun _ _ h => h) fun _ h => h.kept

theorem failNow_spec (h : Held runtime) :
    Handler.Spec (fun now => now = runtime) (failClosed raised) done (Kept alone) :=
  failKept_spec.imp fun now hnow => by rwa [hnow]

theorem opening_of_ready (h : RuntimeSound runtime) (hstate : runtime.state = .ready) :
    Opening runtime.layout [] runtime := by
  have hready : runtime.state ≠ .open := hstate ▸ WindowsState.noConfusion
  obtain ⟨hsurfaces, hholding⟩ := h.dropped hready
  have hclosed := h.lent.not_open hholding
  have htargets : runtime.object.targets = [] := h.layout.shaped.dropped hclosed
  have haccounts := h.layout.accounts
  rw [htargets, handles_nil, List.append_nil] at haccounts
  refine ⟨haccounts, congrArg (List.map Prod.fst) hsurfaces, fun entry hentry => ?_, rfl, htargets,
    hclosed, hholding, h.lent⟩
  rw [hsurfaces] at hentry
  exact absurd hentry List.not_mem_nil

theorem open_spec :
    Handler.Spec (Kept alone) WindowsRuntime.open (fun _ => Kept alone) (Kept alone) := by
  refine self_spec fun runtime h => ?_
  split_ifs with hopen hready
  · exact snapshot_spec fun _ hnow => hnow ▸ h
  · exact Handler.Spec.raise fun _ hnow => hnow ▸ h
  have hopened : Handler.Spec (Opening runtime.layout [])
      (openSurfaces runtime.layout.placements)
      (fun _ => Opening runtime.layout ([] ++ runtime.layout.slots)) Failed :=
    openSurfaces_spec runtime.layout.nodup_slots
  have hsurfaces : Handler.Spec (fun now => now = runtime)
      (openSurfaces runtime.layout.placements)
      (fun _ => Opening runtime.layout runtime.layout.slots) (Kept alone) := by
    refine (hopened.imp fun now hnow => ?_).mono (fun _ _ h => h) fun _ h => h.kept
    rw [hnow]
    exact opening_of_ready h.sound (not_not.mp hready)
  have hlayout : Handler.Spec (Opening runtime.layout runtime.layout.slots)
      ((makeLayout >>= fun _ => onLayout LayoutWorld.open).recover fun error =>
        failClosed
          (reported .layoutOpenFailure "viewport runtime target layout open failed" error))
      (fun _ => Shown runtime.layout) (Kept alone) :=
    (makeLayout_spec.bind fun _ => openLayout_spec).recover fun _ => failKept_spec
  refine hsurfaces.bind fun _ => hlayout.bind fun _ => Handler.Spec.bind
    (Handler.Spec.modify fun _ h => h.kept) fun _ => snapshot_spec fun _ h => h

/-- The replacement has the slots of the surfaces. -/
theorem surfaced_of_sameSlots {before : ViewportLayout} {surfaces : SlotMap}
    (h : Surfaced before surfaces) (hsame : LayoutWorld.sameSlots layout.slots surfaces = true) :
    Surfaced layout surfaces := by
  refine ⟨(List.perm_ext_iff_of_nodup (h.slots.nodup_iff.mpr before.nodup_slots)
    layout.nodup_slots).mpr fun slot => ?_, h.surface⟩
  unfold LayoutWorld.sameSlots at hsame
  rw [Bool.and_eq_true, List.all_eq_true, List.all_eq_true] at hsame
  exact ⟨fun hmem => List.contains_iff_mem.mp (hsame.2 slot hmem),
    fun hmem => List.contains_iff_mem.mp (hsame.1 slot hmem)⟩

/-- Behind a call of its layout object, which is held, an open runtime holds what it held. -/
theorem kept_of_showing {world : LayoutWorld} (hmade : runtime.made = true)
    (hholding : runtime.holding = true)
    (hsound : LayoutSound runtime.surfaces.handles runtime.surfaces.handles world)
    (hsurfaced : Surfaced layout runtime.surfaces) (hstate : runtime.state = .open)
    (hagrees : alone → world.object.state = .open ∧ world.object.layout = layout) :
    Kept alone { runtime with desk := world.desk, object := world.object, layout := layout } :=
  ⟨⟨hsound, lent_of_holding hmade hholding, fun _ => ⟨hholding, hsurfaced⟩,
    fun hnot => absurd hstate hnot⟩, fun halone _ => hagrees halone⟩

theorem relayout_spec (layout : ViewportLayout) :
    Handler.Spec (Kept alone) (relayout layout) (fun _ => Kept alone) (Kept alone) := by
  refine self_spec fun runtime h => ?_
  split_ifs with hopen hslots hdropped
  · exact Handler.Spec.raise fun _ hnow => hnow ▸ h
  · exact Handler.Spec.raise fun _ hnow => hnow ▸ h
  · exact failNow_spec h.sound.held
  have hstate := not_not.mp hopen
  obtain ⟨hholding, hsurfaced⟩ := h.sound.surfaced hstate
  have hmade := h.sound.lent.made_of_holding hholding
  have hnew := surfaced_of_sameSlots hsurfaced (by simpa using hslots)
  have hlayout : Handler.Spec (fun now => now = runtime)
      (onLayout (LayoutWorld.relayout layout))
      (fun _ now => Kept alone { now with layout := layout }) Held :=
    onLayout_spec (LayoutWorld.relayout_spec layout) ⟨h.sound.layout, rfl⟩
      (fun _ world hworld => kept_of_showing hmade hholding hworld.sound hnew hstate
        fun _ => ⟨hworld.state, hworld.layout⟩)
      fun world hworld => ⟨hworld.sound.less (List.nil_subset _), lent_of_holding hmade hholding⟩
  exact Handler.Spec.bind (hlayout.recover fun _ => failKept_spec) fun _ =>
    Handler.Spec.bind (Handler.Spec.modify fun _ h => h) fun _ => snapshot_spec fun _ h => h

theorem close_spec : Handler.Spec (Kept alone) close (fun _ => Kept alone) (Kept alone) := by
  refine self_spec fun runtime h => ?_
  split_ifs with hclosed
  · exact snapshot_spec fun _ hnow => hnow ▸ h
  have hended : ∀ (state : WindowsState) (now : WindowsRuntime), state ≠ .open → Dropped now →
      Kept alone { now with state := state } := fun state now hstate hnow =>
    ⟨Dropped.update hnow state hstate, fun _ hopen => absurd hopen hstate⟩
  have hclosing : Handler.Spec (fun now => now = runtime) closeResources (fun _ => Dropped)
      (Kept alone) := closeResources_spec.imp fun now hnow => hnow ▸ h.sound.held
  refine hclosing.bind fun failed => ?_
  split_ifs
  · exact Handler.Spec.bind (Handler.Spec.modify fun now hnow =>
      hended .failed now WindowsState.noConfusion hnow) fun _ => Handler.Spec.raise fun _ h => h
  · exact Handler.Spec.bind (Handler.Spec.modify fun now hnow =>
      hended .closed now WindowsState.noConfusion hnow) fun _ => snapshot_spec fun _ h => h

theorem ask_kept (h : Kept alone runtime) : Handler.Spec (fun now => now = runtime) (onDesk ask)
      (fun _ now => Kept alone now ∧ now.state = runtime.state)
      (fun now => Kept alone now ∧ now.state = runtime.state) := by
  exact onDesk_spec (ask_spec fun _ answers hold => hold.answers answers) h.sound.layout.accounts
    (fun _ _ hdesk => ⟨h.desk hdesk, rfl⟩) fun _ hdesk => ⟨h.desk hdesk, rfl⟩

theorem showFrame_spec (h : Kept alone runtime) (hstate : runtime.state = .open) :
    Handler.Spec (fun now => now = runtime) (showFrame slot) (fun _ => Kept alone)
      (fun _ => True) := by
  refine ((ask_kept h).mono (fun _ _ h => h) fun _ _ => trivial).bind fun _ =>
    Handler.Spec.each fun now hnow => ?_
  have hopen := hnow.2.trans hstate
  obtain ⟨hholding, hsurfaced⟩ := hnow.1.sound.surfaced hopen
  have hmade := hnow.1.sound.lent.made_of_holding hholding
  have hlayout : Handler.Spec (fun later => later = now) (onLayout (LayoutWorld.present slot))
      (fun _ => Kept alone) (fun _ => True) :=
    onLayout_spec (LayoutWorld.present_spec slot) ⟨hnow.1.sound.layout, rfl⟩
      (fun _ world hworld => kept_of_showing hmade hholding hworld.sound hsurfaced hopen
        fun halone => ⟨hworld.state, hworld.layout.trans (hnow.1.agrees halone hopen).2⟩)
      fun _ _ => trivial
  exact hlayout.bind fun _ => Handler.Spec.pure fun _ h => h

/-- Behind a deferral the frame was not shown, and nothing else has changed. -/
theorem showFrame_raises (h : Kept alone runtime) (hstate : runtime.state = .open) :
    Handler.Raises (fun now => now = runtime) (showFrame slot)
      fun error now => Held now ∧ (error = .deferred → Kept alone now) := by
  have hask : Handler.Raises (fun now => now = runtime) (onDesk ask)
      fun error now => Held now ∧ (error = .deferred → Kept alone now) :=
    ⟨fun _ _ _ hpre hexec =>
      have hkept := (ask_kept h).of_error hpre hexec
      ⟨hkept.1.sound.held, fun _ => hkept.1⟩⟩
  refine hask.bind ((ask_kept h).mono (fun _ _ h => h) fun _ _ => trivial) fun _ => ?_
  constructor
  intro now error after hnow
  have hopen := hnow.2.trans hstate
  obtain ⟨hholding, hsurfaced⟩ := hnow.1.sound.surfaced hopen
  have hlent : ∀ object, Lent now.made now.holding object := fun object =>
    lent_of_holding (hnow.1.sound.lent.made_of_holding hholding) hholding
  have hlayout : Handler.Raises (fun later => later = now) (onLayout (LayoutWorld.present slot))
      fun error later => Held later ∧ (error = .deferred → Kept alone later) := by
    refine onLayout_raises ((LayoutWorld.present_raises slot).beside
      (LayoutWorld.present_spec slot)) ⟨hnow.1.sound.layout, rfl⟩ fun raised world hworld => ?_
    obtain ⟨⟨hsound, _⟩, hsame⟩ := hworld
    refine ⟨⟨hsound.less (List.nil_subset _), hlent _⟩, fun hdeferred => ?_⟩
    refine ⟨⟨hsound, hlent _, hnow.1.sound.surfaced, hnow.1.sound.dropped⟩, fun halone _ => ?_⟩
    show world.object.state = .open ∧ world.object.layout = now.layout
    rw [hsame hdeferred]
    exact hnow.1.agrees halone hopen
  have hreturns : Handler.Spec (fun later => later = now) (onLayout (LayoutWorld.present slot))
      (fun _ _ => True) (fun _ => True) :=
    onLayout_spec (LayoutWorld.present_spec slot) ⟨hnow.1.sound.layout, rfl⟩
      (fun _ _ _ => trivial) fun _ _ => trivial
  exact (hlayout.bind hreturns fun _ => Handler.Raises.pure).run now error after rfl

theorem present_spec (slot : ℕ) :
    Handler.Spec (Kept alone) (present slot) (fun _ => Kept alone) (Kept alone) := by
  refine self_spec fun runtime h => ?_
  split_ifs with hopen hslot hlimit hdropped
  · exact Handler.Spec.raise fun _ hnow => hnow ▸ h
  · exact Handler.Spec.raise fun _ hnow => hnow ▸ h
  · exact failNow_spec h.sound.held
  · exact failNow_spec h.sound.held
  have hstate := not_not.mp hopen
  have hshown : Handler.Spec (fun now => now = runtime)
      ((showFrame slot).recover fun error =>
        if error = .deferred then pure false
        else failClosed
          (reported .presentationFailure "viewport runtime presentation failed" error))
      (fun _ => Kept alone) (Kept alone) := by
    refine (showFrame_spec h hstate).recover_raises (showFrame_raises h hstate) fun error => ?_
    split_ifs with hdeferred
    · exact Handler.Spec.pure fun _ hnow => hnow.2 hdeferred
    · exact failKept_spec.imp fun _ hnow => hnow.1
  refine hshown.bind fun shown => ?_
  split_ifs
  · have hcounted : ∀ now : WindowsRuntime, Kept alone now →
        Kept alone { now with presentations := now.presentations + 1 } := fun now hnow =>
      ⟨⟨hnow.sound.layout, hnow.sound.lent, hnow.sound.surfaced, hnow.sound.dropped⟩, hnow.agrees⟩
    exact Handler.Spec.bind (Handler.Spec.modify hcounted) fun _ => snapshot_spec fun _ h => h
  · exact snapshot_spec fun _ h => h

theorem call_spec (call : WindowsCall) :
    Handler.Spec (Kept alone) (WindowsRuntime.call call) (fun _ => Kept alone) (Kept alone) := by
  cases call with
  | «open» => exact open_spec
  | relayout layout => exact relayout_spec layout
  | present slot => exact present_spec slot
  | close => exact close_spec

end Steps

end WindowsRuntime

theorem LayoutWorld.call_spec {up others : List Handle} {object : WindowsLayout}
    (call : WindowsRuntime.WindowsCall) :
    Handler.Spec (fun world => LayoutSound up others world ∧ world.object = object)
      (LayoutWorld.call call)
      (fun _ world => LayoutSound up others world ∧
        (object.state.Ended → world.object.state.Ended))
      (fun world => LayoutSound up others world ∧
        (object.state.Ended → world.object.state.Ended)) := by
  have hshowing : ∀ {layout : ViewportLayout} {world : LayoutWorld},
      Showing up others object layout world →
      LayoutSound up others world ∧ (object.state.Ended → world.object.state.Ended) :=
    fun h => ⟨h.sound, fun hended => absurd hended h.going⟩
  have hleft : ∀ world, Left up others object world →
      LayoutSound up others world ∧ (object.state.Ended → world.object.state.Ended) := by
    rintro world ⟨hsound, hsame | hfailed⟩
    · exact ⟨hsound, fun hended => hsame ▸ hended⟩
    · exact ⟨hsound, fun _ => .inl hfailed⟩
  cases call with
  | «open» => exact open_spec.mono (fun _ _ h => hshowing h) hleft
  | relayout layout => exact (relayout_spec layout).mono (fun _ _ h => hshowing h) hleft
  | present slot => exact (present_spec slot).mono (fun _ _ h => hshowing h) hleft
  | close => exact close_spec.mono (fun _ _ h => ⟨h.1, fun _ => h.2⟩) fun _ h => ⟨h.1, fun _ => h.2⟩

/-! ## Runs -/

namespace WindowsRuntime

theorem direct_spec (call : WindowsCall) :
    Handler.Spec (fun runtime => RuntimeSound runtime ∧ runtime.made = true)
      (onLayout (LayoutWorld.call call)) (fun _ => RuntimeSound) RuntimeSound := by
  refine Handler.Spec.each fun runtime h => ?_
  obtain ⟨hsound, hmade⟩ := h
  have hcalled : ∀ world : LayoutWorld,
      LayoutSound runtime.surfaces.handles runtime.surfaces.handles world ∧
        (runtime.object.state.Ended → world.object.state.Ended) →
      RuntimeSound { runtime with desk := world.desk, object := world.object } := fun world h =>
    ⟨h.1, ⟨fun hunmade => Bool.noConfusion (hmade.symm.trans hunmade),
      fun hmade hdropped => h.2 (hsound.lent.ended hmade hdropped)⟩, hsound.surfaced,
      hsound.dropped⟩
  exact onLayout_spec (LayoutWorld.call_spec call) ⟨hsound.layout, rfl⟩ (fun _ => hcalled) hcalled

variable {alone : Prop}

theorem step_kept {runtime : WindowsRuntime} {event : WindowsEvent} (h : Kept alone runtime)
    (halone : alone → event.direct = false) : Kept alone (runtime.step event) := by
  have hasked : Kept alone
      { runtime with desk := { runtime.desk with answers := event.answers } } :=
    h.desk (h.sound.layout.accounts.answers event.answers)
  unfold step
  dsimp only
  split_ifs with hdirect hmade
  · exact ⟨(direct_spec event.call).leaves ⟨hasked.sound, hmade⟩,
      fun hyes => Bool.noConfusion (hdirect.symm.trans (halone hyes))⟩
  · exact h
  · exact (call_spec event.call).leaves hasked

theorem new_kept (layout : ViewportLayout) (limit layoutLimit : ℕ) :
    Kept alone (new layout limit layoutLimit) :=
  ⟨⟨⟨accounts_nil _ _, WindowsState.noConfusion, fun _ => rfl⟩, ⟨fun _ => ⟨rfl, rfl⟩,
    Bool.noConfusion⟩, WindowsState.noConfusion, fun _ => ⟨rfl, rfl⟩⟩,
    fun _ => WindowsState.noConfusion⟩

theorem run_kept {events : List WindowsEvent}
    (halone : alone → ∀ event ∈ events, event.direct = false) (layout : ViewportLayout)
    (limit layoutLimit : ℕ) : Kept alone (events.foldl step (new layout limit layoutLimit)) :=
  List.foldlRecOn events step (new_kept layout limit layoutLimit) fun _ h event hevent =>
    step_kept h fun hyes => halone hyes event hevent

def windows (runtime : WindowsRuntime) : List Handle :=
  runtime.surfaces.handles ++ runtime.object.targets.handles

end WindowsRuntime

/-- The windows in `held` are different, are open, and are those that were opened and not closed;
any other window that was opened was closed exactly once. -/
structure Accounted (held : List Handle) (desk : WindowsDesk) : Prop where
  nodup : held.Nodup
  standing : ∀ window ∈ held, window ∈ desk.opened ∧ window.1 ∈ desk.standing
  closed : ∀ window ∈ desk.opened,
    desk.closed.count window.1 = if window ∈ held then 0 else 1

theorem accounted_of_accounts {held : List Handle} {desk : WindowsDesk}
    (h : Accounts held held desk) : Accounted held desk :=
  ⟨h.nodup_held.of_map _, fun window hwindow => ⟨h.known window hwindow, h.standing window hwindow⟩,
    fun _ hwindow => h.count_closed hwindow⟩

/-- A runtime between two calls: its windows are accounted for, its layout object has one target for
each placement while it is open and none otherwise, the runtime has one surface for each slot
while it is open, and behind a failure or a close nothing is held. -/
structure WindowsRight (runtime : WindowsRuntime) : Prop where
  accounted : Accounted runtime.windows runtime.desk
  targets : Shaped runtime.object
  surfaces : runtime.state = .open → Surfaced runtime.layout runtime.surfaces
  dropped : runtime.state.Ended → runtime.windows = []

theorem RuntimeSound.right {runtime : WindowsRuntime} (h : RuntimeSound runtime) :
    WindowsRight runtime := by
  refine ⟨accounted_of_accounts h.layout.accounts, h.layout.shaped,
    fun hopen => (h.surfaced hopen).2, fun hended => ?_⟩
  obtain ⟨hsurfaces, hholding⟩ := h.dropped hended.ne_open
  have hclosed := h.lent.not_open hholding
  have htargets : runtime.object.targets = [] := h.layout.shaped.dropped hclosed
  unfold WindowsRuntime.windows
  rw [hsurfaces, htargets]
  rfl

theorem LayoutWorld.step_sound {world : LayoutWorld}
    {event : WindowsRuntime.WindowsCall × List (Option Raised)} (h : LayoutSound [] [] world) :
    LayoutSound [] [] (world.step event) := by
  have hasked : LayoutSound [] []
      { world with desk := { world.desk with answers := event.2 } } :=
    ⟨h.accounts.answers event.2, h.shaped⟩
  exact (((call_spec event.1).mono (fun _ _ h => h.1) fun _ h => h.1).leaves ⟨hasked, rfl⟩)

theorem LayoutWorld.run_sound (layout : ViewportLayout) (limit : ℕ)
    (events : List (WindowsRuntime.WindowsCall × List (Option Raised))) :
    LayoutSound [] [] (events.foldl step ⟨⟨[], 0, [], [], []⟩, .new layout limit⟩) :=
  List.foldlRecOn events step ⟨accounts_nil _ _, WindowsState.noConfusion, fun _ => rfl⟩
    fun _ h _ _ => step_sound h

/-- Whatever the operations of the windows come to, every window that was opened is held until it
is closed, which happens once; a layout object that is open has the targets of its layout, and
nothing is held behind a failure or a close.  The layout of an open runtime is shown, if others
do not call its layout object; and a layout object alone keeps the same. -/
theorem windows_closed_once (layout : ViewportLayout) (limit layoutLimit : ℕ)
    (events : List WindowsEvent)
    (calls : List (WindowsRuntime.WindowsCall × List (Option Raised))) :
    WindowsRight (events.foldl WindowsRuntime.step (.new layout limit layoutLimit)) ∧
    ((∀ event ∈ events, event.direct = false) →
      (events.foldl WindowsRuntime.step (.new layout limit layoutLimit)).state = .open →
      Placed (events.foldl WindowsRuntime.step (.new layout limit layoutLimit)).layout.placements
        (events.foldl WindowsRuntime.step (.new layout limit layoutLimit)).object.targets) ∧
    Accounted (calls.foldl LayoutWorld.step
        ⟨⟨[], 0, [], [], []⟩, .new layout limit⟩).object.targets.handles
      (calls.foldl LayoutWorld.step ⟨⟨[], 0, [], [], []⟩, .new layout limit⟩).desk ∧
    Shaped (calls.foldl LayoutWorld.step ⟨⟨[], 0, [], [], []⟩, .new layout limit⟩).object := by
  have hkept : WindowsRuntime.Kept (∀ event ∈ events, event.direct = false) _ :=
    WindowsRuntime.run_kept id layout limit layoutLimit
  have halone := LayoutWorld.run_sound layout limit calls
  refine ⟨hkept.sound.right, fun hdirect hopen => ?_, accounted_of_accounts halone.accounts,
    halone.shaped⟩
  obtain ⟨hstate, hlayout⟩ := hkept.agrees hdirect hopen
  have hplaced := hkept.sound.layout.shaped.placed hstate
  rwa [hlayout] at hplaced

end K5Vision.Viewport.Windows
