import K5Vision.Viewport.ViewportStack

/-!
# What a stack edit does

An edit of `media/viewport_stack.py` takes its slot to one end of the stack and leaves the rest of
it as it was (`stack_edited`).  The order of the stack is only implicit in the levels, which may be
equal or sparse before an edit; so the levels are never compared with each other.  `stackOrder` says
where a placement stands (`keyAt_lt_iff`), and the order of an edited layout is the one that its
levels were taken from (`stackOrder_restack`).
-/

namespace K5Vision.Viewport

/-! ## Places in a list -/

variable {order : List ℕ}

theorem pairwise_idxOf (h : order.Nodup) :
    order.Pairwise fun first second => order.idxOf first < order.idxOf second := by
  refine List.pairwise_iff_getElem.mpr fun first second hfirst hsecond hlt => ?_
  rwa [h.idxOf_getElem first hfirst, h.idxOf_getElem second hsecond]

variable {first second : ℕ}

theorem idxOf_lt_of_sublist {part : List ℕ} (hpart : part.Sublist order) (hnodup : order.Nodup)
    (hfirst : first ∈ part) (hsecond : second ∈ part) (hlt : part.idxOf first < part.idxOf second) :
    order.idxOf first < order.idxOf second := by
  have hpairs := List.pairwise_iff_getElem.mp ((pairwise_idxOf hnodup).sublist hpart)
  have hbefore := hpairs _ _ (List.idxOf_lt_length_of_mem hfirst)
    (List.idxOf_lt_length_of_mem hsecond) hlt
  rwa [List.getElem_idxOf, List.getElem_idxOf] at hbefore

theorem idxOf_lt_iff_of_sublist {part : List ℕ} (hpart : part.Sublist order)
    (hnodup : order.Nodup) (hfirst : first ∈ part) (hsecond : second ∈ part) :
    part.idxOf first < part.idxOf second ↔ order.idxOf first < order.idxOf second := by
  refine ⟨idxOf_lt_of_sublist hpart hnodup hfirst hsecond, fun hlt => ?_⟩
  by_contra hnot
  rcases (not_lt.mp hnot).lt_or_eq with hgt | heq
  · exact lt_asymm hlt (idxOf_lt_of_sublist hpart hnodup hsecond hfirst hgt)
  · rw [(List.idxOf_inj hsecond).mp heq] at hlt
    exact lt_irrefl _ hlt

/-! ## The order of a layout -/

theorem keyAt_injective (layout : ViewportLayout) : Function.Injective layout.keyAt :=
  fun _ _ h => (Prod.mk.inj (toLex_inj.mp h)).2

variable {layout : ViewportLayout}

/-- One placement is stacked below another where it stands before it. -/
theorem keyAt_lt_iff (hfirst : first < layout.placements.length)
    (hsecond : second < layout.placements.length) :
    layout.keyAt first < layout.keyAt second ↔
      (stackOrder layout).idxOf first < (stackOrder layout).idxOf second := by
  have hle : ∀ {low high : ℕ}, low < layout.placements.length → high < layout.placements.length →
      (stackOrder layout).idxOf low < (stackOrder layout).idxOf high →
        layout.keyAt low ≤ layout.keyAt high := by
    intro low high hlow hhigh hlt
    have hpairs := List.pairwise_iff_getElem.mp (sorted_stackOrder layout) _ _
      (List.idxOf_lt_length_of_mem (mem_stackOrder.mpr hlow))
      (List.idxOf_lt_length_of_mem (mem_stackOrder.mpr hhigh)) hlt
    rwa [List.getElem_idxOf, List.getElem_idxOf] at hpairs
  constructor
  · intro hlt
    by_contra hnot
    rcases (not_lt.mp hnot).lt_or_eq with hgt | heq
    · exact absurd (hle hsecond hfirst hgt) (not_le.mpr hlt)
    · rw [(List.idxOf_inj (mem_stackOrder.mpr hsecond)).mp heq] at hlt
      exact lt_irrefl _ hlt
  · intro hlt
    refine (hle hfirst hsecond hlt).lt_of_ne fun heq => ?_
    rw [keyAt_injective layout heq] at hlt
    exact lt_irrefl _ hlt

variable {index : ℕ}

theorem keyAt_restack (h : order.length ≤ 64) (hindex : index < layout.placements.length) :
    (layout.restack order h).keyAt index = toLex ((order.idxOf index : ℤ), index) := by
  have hlength : index < (layout.restack order h).placements.length := by
    simpa [ViewportLayout.restack] using hindex
  have hplaced := List.getElem?_eq_getElem hlength
  rw [keyAt_eq hplaced, stackKey, getElem?_restack hplaced]

/-- A layout that was put on the levels of an order stands in that order. -/
theorem stackOrder_restack (h : order.length ≤ 64) (hperm : order.Perm (stackOrder layout)) :
    stackOrder (layout.restack order h) = order := by
  have hlength : (layout.restack order h).placements.length = layout.placements.length := by
    simp [ViewportLayout.restack]
  have hmem : ∀ index ∈ order, index < layout.placements.length := fun index hindex =>
    mem_stackOrder.mp (hperm.mem_iff.mp hindex)
  have hsame : (stackOrder (layout.restack order h)).Perm order := by
    refine (List.perm_insertionSort _ _).trans ?_
    rw [hlength]
    exact (List.perm_insertionSort _ _).symm.trans hperm.symm
  have hsorted : order.Pairwise fun first second =>
      (layout.restack order h).keyAt first ≤ (layout.restack order h).keyAt second := by
    have hnodup := hperm.nodup_iff.mpr (nodup_stackOrder layout)
    refine (pairwise_idxOf hnodup).imp_of_mem fun hfirst hsecond hlt => ?_
    rw [keyAt_restack h (hmem _ hfirst), keyAt_restack h (hmem _ hsecond)]
    exact (Prod.Lex.toLex_lt_toLex.mpr (.inl (Int.ofNat_lt.mpr hlt))).le
  refine hsame.eq_of_pairwise (fun first second _ _ hle hge => ?_) (sorted_stackOrder _) hsorted
  exact keyAt_injective _ (hle.antisymm hge)

/-! ## Taking an index to an end -/

theorem perm_moveIndex (h : index ∈ order) (action : ViewportStackAction) :
    (moveIndex order index action).Perm order := by
  cases action with
  | bringToFront => exact List.perm_append_comm.trans (List.perm_cons_erase h).symm
  | sendToBack => exact (List.perm_cons_erase h).symm

theorem erase_sublist_moveIndex (order : List ℕ) (index : ℕ) (action : ViewportStackAction) :
    (order.erase index).Sublist (moveIndex order index action) := by
  cases action with
  | bringToFront => exact List.sublist_append_left _ _
  | sendToBack => exact List.sublist_cons_self _ _

theorem idxOf_moveIndex_lt_iff (hnodup : order.Nodup) (hindex : index ∈ order)
    (action : ViewportStackAction) (hfirst : first ∈ order) (hsecond : second ∈ order)
    (hne : first ≠ index) (hne' : second ≠ index) :
    (moveIndex order index action).idxOf first < (moveIndex order index action).idxOf second ↔
      order.idxOf first < order.idxOf second := by
  have hmoved := (perm_moveIndex hindex action).nodup_iff.mpr hnodup
  have hleft := (List.mem_erase_of_ne hne).mpr hfirst
  have hright := (List.mem_erase_of_ne hne').mpr hsecond
  rw [← idxOf_lt_iff_of_sublist (erase_sublist_moveIndex order index action) hmoved hleft hright]
  exact idxOf_lt_iff_of_sublist List.erase_sublist hnodup hleft hright

/-- What is at the end where an action takes it, against another. -/
def Beyond {α : Type*} [LT α] (action : ViewportStackAction) (other moved : α) : Prop :=
  match action with
  | .bringToFront => other < moved
  | .sendToBack => moved < other

variable {other : ℕ}

theorem beyond_moveIndex (hnodup : order.Nodup) (hother : other ∈ order) (hne : other ≠ index)
    (action : ViewportStackAction) :
    Beyond action ((moveIndex order index action).idxOf other)
      ((moveIndex order index action).idxOf index) := by
  cases action with
  | bringToFront => exact idxOf_moveIndex_lt hnodup hother hne
  | sendToBack =>
      change List.idxOf index (index :: order.erase index) < List.idxOf other (index :: _)
      rw [List.idxOf_cons_self, List.idxOf_cons_ne _ hne.symm]
      exact Nat.succ_pos _

theorem beyond_of_atEnd (hother : other ∈ order) (hne : other ≠ index)
    {action : ViewportStackAction} (hend : atEnd order index action = true) :
    Beyond action (order.idxOf other) (order.idxOf index) := by
  have hless := List.idxOf_lt_length_of_mem hother
  have hdiffer : order.idxOf other ≠ order.idxOf index := fun heq =>
    hne ((List.idxOf_inj hother).mp heq)
  cases action with
  | bringToFront =>
      have hlast : order.idxOf index = order.length - 1 := by simpa [atEnd] using hend
      change order.idxOf other < order.idxOf index
      omega
  | sendToBack =>
      have hfirst : order.idxOf index = 0 := by simpa [atEnd] using hend
      change order.idxOf index < order.idxOf other
      omega

theorem atEnd_moveIndex (hnodup : order.Nodup) (index : ℕ) (action : ViewportStackAction) :
    atEnd (moveIndex order index action) index action = true := by
  have hgone : index ∉ order.erase index := hnodup.not_mem_erase
  cases action with
  | bringToFront => simp [atEnd, moveIndex, List.idxOf_append_of_notMem hgone]
  | sendToBack => simp [atEnd, moveIndex]

/-! ## The edited layout -/

/-- A placement as it was but for its level. -/
structure SamePlace (before after : ViewportPlacement) : Prop where
  slot : after.logicalSlot = before.logicalSlot
  x : after.geometry.x = before.geometry.x
  y : after.geometry.y = before.geometry.y
  width : after.geometry.width = before.geometry.width
  height : after.geometry.height = before.geometry.height

/-- The placement of a slot is at the end of the stack that an edit names, the rest is as it was,
and the edit made again changes nothing. -/
structure StackEdited (edit : ViewportStackEdit) (target : ℕ) (before after : ViewportLayout) :
    Prop where
  length : after.placements.length = before.placements.length
  places : ∀ (index : ℕ) placement, before.placements[index]? = some placement →
    ∃ edited, after.placements[index]? = some edited ∧ SamePlace placement edited
  levels : ∀ placement ∈ after.placements,
    0 ≤ placement.geometry.zIndex ∧ placement.geometry.zIndex ≤ maxZIndex
  order : ∀ first second, first < before.placements.length → second < before.placements.length →
    first ≠ target → second ≠ target →
      (after.keyAt first < after.keyAt second ↔ before.keyAt first < before.keyAt second)
  extreme : ∀ other, other < before.placements.length → other ≠ target →
    Beyond edit.action (after.keyAt other) (after.keyAt target)
  again : applyViewportStack after edit = .ok after

theorem extreme_of_beyond {target : ℕ} (htarget : target < layout.placements.length)
    (hother : other < layout.placements.length) {action : ViewportStackAction}
    (h : Beyond action ((stackOrder layout).idxOf other) ((stackOrder layout).idxOf target)) :
    Beyond action (layout.keyAt other) (layout.keyAt target) := by
  cases action with
  | bringToFront => exact (keyAt_lt_iff hother htarget).mpr h
  | sendToBack => exact (keyAt_lt_iff htarget hother).mpr h

variable {edit : ViewportStackEdit}

theorem applyViewportStack_atEnd
    (hfound : layout.slots.idxOf edit.logicalSlot < layout.placements.length)
    (hend : atEnd (stackOrder layout) (layout.slots.idxOf edit.logicalSlot) edit.action = true) :
    applyViewportStack layout edit = .ok layout := by
  rw [applyViewportStack, dif_pos hfound]
  exact if_pos hend

theorem idxOf_slot_lt {slot : ℕ} (h : slot ∈ layout.slots) :
    layout.slots.idxOf slot < layout.placements.length := by
  have hlt := List.idxOf_lt_length_of_mem h
  rwa [ViewportLayout.slots, List.length_map] at hlt

theorem stackEdited_self (hslot : edit.logicalSlot ∈ layout.slots)
    (hend : atEnd (stackOrder layout) (layout.slots.idxOf edit.logicalSlot) edit.action = true) :
    StackEdited edit (layout.slots.idxOf edit.logicalSlot) layout layout where
  length := rfl
  places _ placement hplaced := ⟨placement, hplaced, rfl, rfl, rfl, rfl, rfl⟩
  levels placement _ := placement.geometry.fits.2.2.2.2.1
  order _ _ _ _ _ _ := Iff.rfl
  extreme _ hother hne := extreme_of_beyond (idxOf_slot_lt hslot) hother
    (beyond_of_atEnd (mem_stackOrder.mpr hother) hne hend)
  again := applyViewportStack_atEnd (idxOf_slot_lt hslot) hend

theorem stackEdited_restack (hslot : edit.logicalSlot ∈ layout.slots)
    (hlength : (moveIndex (stackOrder layout) (layout.slots.idxOf edit.logicalSlot)
      edit.action).length ≤ 64) :
    StackEdited edit (layout.slots.idxOf edit.logicalSlot) layout
      (layout.restack (moveIndex (stackOrder layout) (layout.slots.idxOf edit.logicalSlot)
        edit.action) hlength) := by
  have htarget := idxOf_slot_lt hslot
  have hindex := mem_stackOrder.mpr htarget
  have hnodup := nodup_stackOrder layout
  have horder := stackOrder_restack hlength (perm_moveIndex hindex edit.action)
  have hcount : ∀ order h, (layout.restack order h).placements.length =
      layout.placements.length := by
    intro order h
    simp [ViewportLayout.restack]
  have hslots : ∀ order h, (layout.restack order h).slots = layout.slots := fun order h =>
    map_logicalSlot_restack order h layout.placements
  refine ⟨hcount _ _, ?_, fun placement _ => placement.geometry.fits.2.2.2.2.1, ?_, ?_, ?_⟩
  · intro index placement hplaced
    refine ⟨ViewportPlacement.restack _ hlength (placement, index), ?_, rfl, rfl, rfl, rfl, rfl⟩
    simp [ViewportLayout.restack, hplaced]
  · intro first second hfirst hsecond hne hne'
    rw [keyAt_lt_iff (by rwa [hcount]) (by rwa [hcount]), keyAt_lt_iff hfirst hsecond, horder]
    exact idxOf_moveIndex_lt_iff hnodup hindex edit.action (mem_stackOrder.mpr hfirst)
      (mem_stackOrder.mpr hsecond) hne hne'
  · intro other hother hne
    refine extreme_of_beyond ?_ ?_ ?_
    · rwa [hcount]
    · rwa [hcount]
    rw [horder]
    exact beyond_moveIndex hnodup (mem_stackOrder.mpr hother) hne edit.action
  · refine applyViewportStack_atEnd (by rwa [hslots, hcount]) ?_
    rw [hslots, horder]
    exact atEnd_moveIndex hnodup _ edit.action

theorem stackEdited_of_mem (hslot : edit.logicalSlot ∈ layout.slots) :
    ∃ edited, applyViewportStack layout edit = .ok edited ∧
      StackEdited edit (layout.slots.idxOf edit.logicalSlot) layout edited := by
  have htarget := idxOf_slot_lt hslot
  rw [applyViewportStack, dif_pos htarget]
  by_cases hend : atEnd (stackOrder layout) (layout.slots.idxOf edit.logicalSlot) edit.action = true
  · exact ⟨layout, if_pos hend, stackEdited_self hslot hend⟩
  · exact ⟨_, if_neg hend, stackEdited_restack hslot _⟩

/-! ## The hit test -/

/-- The hit test finds the slot wherever it is placed, if it is at the front, and only where no
other slot is, if it is at the back. -/
def HitAt (action : ViewportStackAction) (slot : ℕ) (layout : ViewportLayout) : Prop :=
  ∀ x y, ∀ placement ∈ layout.placements, geometryContains placement.geometry x y = true →
    match action with
    | .bringToFront => placement.logicalSlot = slot →
        (selectPointerDrag layout x y).map PointerDrag.logicalSlot = some slot
    | .sendToBack => placement.logicalSlot ≠ slot →
        (selectPointerDrag layout x y).map PointerDrag.logicalSlot ≠ some slot

theorem slot_target {before after : ViewportLayout}
    (h : StackEdited edit (before.slots.idxOf edit.logicalSlot) before after) :
    after.slots = before.slots := by
  refine List.ext_getElem? fun index => ?_
  simp only [ViewportLayout.slots, List.getElem?_map]
  cases hplaced : before.placements[index]? with
  | some placement =>
      obtain ⟨edited, hedited, hsame⟩ := h.places index placement hplaced
      rw [hedited]
      exact congrArg some hsame.slot
  | none =>
      rw [List.getElem?_eq_none_iff] at hplaced
      rw [List.getElem?_eq_none (h.length.trans_le hplaced)]

/-- The highest placement at a point is not one with another one above it there. -/
theorem StackEdited.hitAt {before after : ViewportLayout}
    (h : StackEdited edit (before.slots.idxOf edit.logicalSlot) before after) :
    HitAt edit.action edit.logicalSlot after := by
  intro x y placement hplacement hcovers
  obtain ⟨index, hlt, hindex⟩ := List.mem_iff_getElem.mp hplacement
  have hplaced : after.placements[index]? = some placement :=
    List.getElem?_eq_some_iff.mpr ⟨hlt, hindex⟩
  have hmem : (placement, index) ∈ after.placements.zipIdx :=
    (List.mk_mem_zipIdx_iff_getElem? ..).mpr hplaced
  have htop := topmost_selected after x y
  unfold selectPointerDrag
  cases hselected : after.placements.zipIdx.foldl (selectPlacement x y) none with
  | none =>
      rw [hselected] at htop
      exact absurd hcovers (htop _ hmem)
  | some top =>
      rw [hselected] at htop
      obtain ⟨highest, position⟩ := top
      obtain ⟨htopmem, -, hmax⟩ := htop
      have hat : after.placements[position]? = some highest :=
        (List.mk_mem_zipIdx_iff_getElem? ..).mp htopmem
      have hle : after.keyAt index ≤ after.keyAt position := by
        rw [keyAt_eq hplaced, keyAt_eq hat]
        exact hmax _ hmem hcovers
      have hbound := (List.getElem?_eq_some_iff.mp hat).1.trans_eq h.length
      have hextreme := h.extreme
      rw [← slot_target h] at hextreme
      cases haction : edit.action with
      | bringToFront =>
          intro hslot
          rw [haction, ← hslot, idxOf_slot hplaced] at hextreme
          by_cases hsame : position = index
          · subst hsame
            rw [hplaced] at hat
            cases hat
            exact congrArg some hslot
          · exact absurd (hextreme position hbound hsame) (not_lt.mpr hle)
      | sendToBack =>
          intro hslot heq
          have hfound : highest.logicalSlot = edit.logicalSlot := Option.some.inj heq
          rw [haction, ← hfound, idxOf_slot hat] at hextreme
          by_cases hsame : index = position
          · subst hsame
            rw [hplaced] at hat
            cases hat
            exact hslot hfound
          · exact absurd (hextreme index (hlt.trans_eq h.length) hsame) (not_lt.mpr hle)

/-- An edit of a slot that the layout places takes it to its end of the stack, as the hit test has
it. -/
theorem stack_edited {layout : ViewportLayout} {edit : ViewportStackEdit}
    (hslot : edit.logicalSlot ∈ layout.slots) :
    ∃ edited, applyViewportStack layout edit = .ok edited ∧
      StackEdited edit (layout.slots.idxOf edit.logicalSlot) layout edited ∧
        HitAt edit.action edit.logicalSlot edited := by
  obtain ⟨edited, hok, hedited⟩ := stackEdited_of_mem hslot
  exact ⟨edited, hok, hedited, hedited.hitAt⟩

theorem seven_le_maxSlot : 7 ≤ maxSlot := by decide

/-- Three tiles over each other, two of them on one level and one on the highest that there is. -/
def pile : ViewportLayout where
  placements :=
    [⟨7, ⟨0, 0, 100, 100, 5, by decide⟩, seven_le_maxSlot⟩,
      ⟨2, ⟨50, 50, 100, 100, 5, by decide⟩, by decide⟩,
      ⟨9, ⟨20, 20, 100, 100, 65535, by decide⟩, by decide⟩]
  length_pos := by decide
  length_le := by decide
  nodup_slots := by decide

theorem stack_edited_sample :
    ∃ edited, applyViewportStack pile ⟨7, .bringToFront, by decide⟩ = .ok edited ∧
      StackEdited ⟨7, .bringToFront, by decide⟩ (pile.slots.idxOf 7) pile edited ∧
        HitAt .bringToFront 7 edited :=
  stack_edited (by decide)

end K5Vision.Viewport
