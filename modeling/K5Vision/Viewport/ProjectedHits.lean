import K5Vision.Viewport.ClientProjection
import K5Vision.Viewport.ViewportStack
import Mathlib.Data.List.Forall2

/-!
# Hits on a projected layout

A projection of a layout never fails for a client in its bounds, and what is hit at a pixel of the
client is what is hit of the layout at the inverse point (`project_viewport_layout_agrees`).

## Strategy

The four edges of a placement are projected on their own (`Projects`), and a test of the placement
compares edges with a pixel only, so it has the outcome of the test at the inverse point
(`Projects.contains`).  The loop over the placements compares levels and places in the list, which
the projection keeps; so it selects the same placement (`topmost_agrees`).
-/

namespace K5Vision.Viewport

open Library

/-! ## One edge -/

namespace AxisProjection

/-- An edge of the layout, and where it is on the client. -/
structure EdgeAt (axis : AxisProjection) (pixels offset value selected : ℤ) : Prop where
  edge_eq : axis.edge value = .ok selected
  low : offset ≤ selected
  high : selected ≤ offset + pixels
  hit : ∀ pixel point i, axis.Inverse pixel point i → (selected ≤ pixel ↔ value ≤ point)

variable {axis : AxisProjection} {extent pixels offset value value' : ℤ}

theorem Exact.physical_range (h : axis.Exact extent pixels offset) {j : ℕ}
    (hj : j < axis.physical.length) :
    offset ≤ axis.physical[j] ∧ axis.physical[j] ≤ offset + pixels := by
  have hfirst := h.physical_first
  rw [List.head?_eq_getElem?] at hfirst
  obtain ⟨hzero, hfirst⟩ := List.getElem?_eq_some_iff.mp hfirst
  have hlast := h.physical_last
  rw [List.getLast?_eq_getElem?] at hlast
  obtain ⟨hend, hlast⟩ := List.getElem?_eq_some_iff.mp hlast
  constructor
  · rw [← hfirst]
    exact (getElem_le_getElem_iff h.physical_increasing hzero hj).mpr (Nat.zero_le j)
  · rw [← hlast]
    exact (getElem_le_getElem_iff h.physical_increasing hj hend).mpr (by omega)

theorem edgeAt_getElem (h : axis.Exact extent pixels offset) {j : ℕ}
    (hj : j < axis.logical.length) (hj' : j < axis.physical.length) :
    axis.EdgeAt pixels offset axis.logical[j] axis.physical[j] where
  edge_eq := edge_getElem h hj hj'
  low := (h.physical_range hj').1
  high := (h.physical_range hj').2
  hit _ _ _ hinverse := hinverse.edge_le_iff h hj hj'

theorem exists_edges (h : axis.Exact extent pixels offset) (hmem : value ∈ axis.logical)
    (hmem' : value' ∈ axis.logical) (hlt : value < value') : ∃ selected selected',
      axis.EdgeAt pixels offset value selected ∧ axis.EdgeAt pixels offset value' selected' ∧
        selected < selected' := by
  obtain ⟨i, hi, rfl⟩ := List.mem_iff_getElem.mp hmem
  obtain ⟨j, hj, rfl⟩ := List.mem_iff_getElem.mp hmem'
  have hlength := h.length_eq
  have hindex : i < j := by
    by_contra hnot
    exact absurd ((getElem_le_getElem_iff h.logical_increasing hj hi).mpr (not_lt.mp hnot))
      (not_le.mpr hlt)
  refine ⟨_, _, edgeAt_getElem h hi (by omega), edgeAt_getElem h hj (by omega), ?_⟩
  exact List.pairwise_iff_getElem.mp h.physical_increasing i j (by omega) (by omega) hindex

end AxisProjection

/-! ## One placement -/

/-- The two axes of a projection. -/
structure AxesExact (horizontal vertical : AxisProjection) (width height : ℤ)
    (clientWidth clientHeight contentTop : ℤ) : Prop where
  horizontal : horizontal.Exact width clientWidth 0
  vertical : vertical.Exact height (clientHeight - contentTop) contentTop

/-- A placement and its projection. -/
structure Projects (horizontal vertical : AxisProjection)
    (clientWidth clientHeight contentTop : ℤ) (placement projected : ViewportPlacement) : Prop where
  slot : projected.logicalSlot = placement.logicalSlot
  level : projected.geometry.zIndex = placement.geometry.zIndex
  left : horizontal.EdgeAt clientWidth 0 placement.geometry.x projected.geometry.x
  right : horizontal.EdgeAt clientWidth 0 (placement.geometry.x + placement.geometry.width)
    (projected.geometry.x + projected.geometry.width)
  top : vertical.EdgeAt (clientHeight - contentTop) contentTop placement.geometry.y
    projected.geometry.y
  bottom : vertical.EdgeAt (clientHeight - contentTop) contentTop
    (placement.geometry.y + placement.geometry.height)
    (projected.geometry.y + projected.geometry.height)

variable {horizontal vertical : AxisProjection}
  {width height clientWidth clientHeight contentTop : ℤ} {placement projected : ViewportPlacement}

theorem exists_projects
    (h : AxesExact horizontal vertical width height clientWidth clientHeight contentTop)
    (hclient : clientWidth ≤ maxClient ∧ 0 ≤ contentTop ∧ clientHeight ≤ maxClient)
    (hleft : placement.geometry.x ∈ horizontal.logical)
    (hright : placement.geometry.x + placement.geometry.width ∈ horizontal.logical)
    (htop : placement.geometry.y ∈ vertical.logical)
    (hbottom : placement.geometry.y + placement.geometry.height ∈ vertical.logical) :
    ∃ projected, projectPlacement horizontal vertical placement = .ok projected ∧
      Projects horizontal vertical clientWidth clientHeight contentTop placement projected := by
  obtain ⟨-, -, hwidth, hheight, hlevel, -, -⟩ := placement.geometry.fits
  obtain ⟨x, right, hx, hright, hxlt⟩ :=
    AxisProjection.exists_edges h.horizontal hleft hright (by omega)
  obtain ⟨y, bottom, hy, hbottom, hylt⟩ :=
    AxisProjection.exists_edges h.vertical htop hbottom (by omega)
  have hfits : geometryFits x y (right - x) (bottom - y) placement.geometry.zIndex := by
    have := hx.low
    have := hright.high
    have := hy.low
    have := hbottom.high
    unfold geometryFits maxCoordinate maxDimension
    unfold maxClient at hclient
    omega
  refine ⟨⟨placement.logicalSlot, ⟨x, y, right - x, bottom - y, placement.geometry.zIndex, hfits⟩,
    placement.slot_le⟩, ?_, ?_⟩
  · have hmake : ViewportGeometry.make x y (right - x) (bottom - y) placement.geometry.zIndex =
        some ⟨x, y, right - x, bottom - y, placement.geometry.zIndex, hfits⟩ := dif_pos hfits
    unfold projectPlacement
    dsimp only
    rw [hx.edge_eq, hy.edge_eq, hright.edge_eq, hbottom.edge_eq]
    dsimp only [bind, Except.bind]
    rw [hmake]
    rfl
  · constructor
    case slot => rfl
    case level => rfl
    case left => exact hx
    case right =>
      dsimp only
      rw [add_sub_cancel]
      exact hright
    case top => exact hy
    case bottom =>
      dsimp only
      rw [add_sub_cancel]
      exact hbottom

variable {x y logicalX logicalY : ℤ} {i j : ℕ}

/-- A placement is hit on the client as it is at the inverse point. -/
theorem Projects.contains
    (h : Projects horizontal vertical clientWidth clientHeight contentTop placement projected)
    (hx : horizontal.Inverse x logicalX i) (hy : vertical.Inverse y logicalY j) :
    geometryContains projected.geometry x y =
      geometryContains placement.geometry logicalX logicalY := by
  have hleft := h.left.hit x logicalX i hx
  have hright := h.right.hit x logicalX i hx
  have htop := h.top.hit y logicalY j hy
  have hbottom := h.bottom.hit y logicalY j hy
  rw [Bool.eq_iff_iff]
  simp only [geometryContains, Bool.and_eq_true, decide_eq_true_eq]
  omega

/-- Nothing is hit outside of the content. -/
theorem Projects.not_contains
    (h : Projects horizontal vertical clientWidth clientHeight contentTop placement projected)
    (hout : ¬ (0 ≤ x ∧ x < clientWidth ∧ contentTop ≤ y ∧ y < clientHeight)) :
    geometryContains projected.geometry x y = false := by
  have hleft := h.left.low
  have hright := h.right.high
  have htop := h.top.low
  have hbottom := h.bottom.high
  refine eq_false_of_ne_true ?_
  simp only [geometryContains, Bool.and_eq_true, decide_eq_true_eq]
  omega

/-! ## The loop over the placements -/

/-- Two placements that the loop of `_select_pointer_drag` has selected: a projection, at the same
place of the list. -/
def SelectsSame (horizontal vertical : AxisProjection) (clientWidth clientHeight contentTop : ℤ)
    (selected selected' : Option (ViewportPlacement × ℕ)) : Prop :=
  Option.Rel (fun candidate candidate' => Projects horizontal vertical clientWidth clientHeight
    contentTop candidate.1 candidate'.1 ∧ candidate'.2 = candidate.2) selected selected'

variable {selected selected' : Option (ViewportPlacement × ℕ)}

theorem selectsSame_selectPlacement {index : ℕ}
    (h : Projects horizontal vertical clientWidth clientHeight contentTop placement projected)
    (hcontains : geometryContains projected.geometry x y =
      geometryContains placement.geometry logicalX logicalY)
    (hselected : SelectsSame horizontal vertical clientWidth clientHeight contentTop selected
      selected') :
    SelectsSame horizontal vertical clientWidth clientHeight contentTop
      (selectPlacement logicalX logicalY selected (placement, index))
      (selectPlacement x y selected' (projected, index)) := by
  unfold selectPlacement
  dsimp only
  rw [hcontains]
  split
  · exact hselected
  cases hselected with
  | none => exact .some ⟨h, rfl⟩
  | some hcurrent =>
      obtain ⟨hprojects, hplace⟩ := hcurrent
      dsimp only
      rw [h.level, hprojects.level, hplace]
      split
      · exact .some ⟨h, rfl⟩
      · exact .some ⟨hprojects, hplace⟩

theorem topmost_agrees {placements projections : List ViewportPlacement} {start : ℕ}
    (h : List.Forall₂ (Projects horizontal vertical clientWidth clientHeight contentTop) placements
      projections)
    (hcontains : ∀ placement projected, Projects horizontal vertical clientWidth clientHeight
      contentTop placement projected → geometryContains projected.geometry x y =
        geometryContains placement.geometry logicalX logicalY)
    (hselected : SelectsSame horizontal vertical clientWidth clientHeight contentTop selected
      selected') :
    SelectsSame horizontal vertical clientWidth clientHeight contentTop
      ((placements.zipIdx start).foldl (selectPlacement logicalX logicalY) selected)
      ((projections.zipIdx start).foldl (selectPlacement x y) selected') := by
  induction h generalizing start selected selected' with
  | nil => exact hselected
  | cons hfirst _ ih =>
      rw [List.zipIdx_cons, List.zipIdx_cons, List.foldl_cons, List.foldl_cons]
      exact ih (selectsSame_selectPlacement hfirst (hcontains _ _ hfirst) hselected)

variable {layout physicalLayout : ViewportLayout}

def hitSlot (layout : ViewportLayout) (x y : ℤ) : Option ℕ :=
  (selectPointerDrag layout x y).map PointerDrag.logicalSlot

theorem hitSlot_eq (layout : ViewportLayout) (x y : ℤ) : hitSlot layout x y =
    (layout.placements.zipIdx.foldl (selectPlacement x y) none).map (·.1.logicalSlot) := by
  unfold hitSlot selectPointerDrag
  cases layout.placements.zipIdx.foldl (selectPlacement x y) none with
  | none => rfl
  | some selected => rfl

theorem hitSlot_agrees
    (h : List.Forall₂ (Projects horizontal vertical clientWidth clientHeight contentTop)
      layout.placements physicalLayout.placements)
    (hx : horizontal.Inverse x logicalX i) (hy : vertical.Inverse y logicalY j) :
    hitSlot physicalLayout x y = hitSlot layout logicalX logicalY := by
  have hsame : SelectsSame horizontal vertical clientWidth clientHeight contentTop
      (layout.placements.zipIdx.foldl (selectPlacement logicalX logicalY) none)
      (physicalLayout.placements.zipIdx.foldl (selectPlacement x y) none) :=
    topmost_agrees h (fun _ _ hprojects => hprojects.contains hx hy) .none
  rw [hitSlot_eq, hitSlot_eq]
  generalize layout.placements.zipIdx.foldl (selectPlacement logicalX logicalY) none = selected
    at hsame ⊢
  generalize physicalLayout.placements.zipIdx.foldl (selectPlacement x y) none = selected'
    at hsame ⊢
  cases hsame with
  | none => rfl
  | some hselected => exact congrArg some hselected.1.slot

theorem hitSlot_outside
    (h : List.Forall₂ (Projects horizontal vertical clientWidth clientHeight contentTop)
      layout.placements physicalLayout.placements)
    (hout : ¬ (0 ≤ x ∧ x < clientWidth ∧ contentTop ≤ y ∧ y < clientHeight)) :
    hitSlot physicalLayout x y = none := by
  have hnone : ∀ projected ∈ physicalLayout.placements,
      geometryContains projected.geometry x y = false := by
    intro projected hmem
    obtain ⟨k, hk, rfl⟩ := List.mem_iff_getElem.mp hmem
    exact (h.get (by rw [h.length_eq]; exact hk) hk).not_contains hout
  have htop := topmost_selected physicalLayout x y
  rw [hitSlot_eq]
  cases hselected : physicalLayout.placements.zipIdx.foldl (selectPlacement x y) none with
  | none => rfl
  | some top =>
      rw [hselected] at htop
      obtain ⟨hmem, hcovers, -⟩ := htop
      have hplacement : top.1 ∈ physicalLayout.placements := (List.fst_mem_of_mem_zipIdx hmem)
      rw [covers, hnone top.1 hplacement] at hcovers
      cases hcovers

/-! ## The projection of a layout -/

theorem le_farthest {least value : ℤ} {values : List ℤ} :
    value ≤ farthest least values ↔ value ≤ least ∨ ∃ other ∈ values, value ≤ other := by
  unfold farthest
  induction values generalizing least with
  | nil => simp
  | cons first rest ih =>
      rw [List.foldl_cons, ih, le_max_iff, List.exists_mem_cons_iff, or_assoc]

theorem farthest_le {least most : ℤ} {values : List ℤ} :
    farthest least values ≤ most ↔ least ≤ most ∧ ∀ value ∈ values, value ≤ most := by
  unfold farthest
  induction values generalizing least with
  | nil => simp
  | cons first rest ih => rw [List.foldl_cons, ih, max_le_iff, List.forall_mem_cons, and_assoc]

theorem exists_axis (layout : ViewportLayout) (first size : ViewportGeometry → ℤ)
    (reference pixels offset : ℤ) (hfirst : ∀ g, 0 ≤ first g) (hsize : ∀ g, 1 ≤ size g)
    (hlast : ∀ g, first g + size g ≤ maxLogical) (hreference : 1 ≤ reference)
    (hmost : reference ≤ maxLogical) (hpixels : minContent ≤ pixels) :
    farthest reference ((layout.placements.map (·.geometry)).map fun g => first g + size g) ≤
        maxLogical ∧
      ∃ axis, AxisProjection.build
          ((layout.placements.map (·.geometry)).flatMap fun g => [first g, first g + size g])
          (farthest reference ((layout.placements.map (·.geometry)).map fun g => first g + size g))
          pixels offset = .ok axis ∧
        axis.Exact
          (farthest reference ((layout.placements.map (·.geometry)).map fun g => first g + size g))
          pixels offset ∧
        ∀ placement ∈ layout.placements, first placement.geometry ∈ axis.logical ∧
          first placement.geometry + size placement.geometry ∈ axis.logical := by
  have hgeometries : (layout.placements.map (·.geometry)).length ≤ 64 := by
    rw [List.length_map]
    exact layout.length_le
  generalize hlist : layout.placements.map (·.geometry) = geometries at hgeometries ⊢
  have hextent : reference ≤ farthest reference (geometries.map fun g => first g + size g) :=
    le_farthest.mpr (.inl le_rfl)
  have hedges : ∀ edge ∈ geometries.flatMap fun g => [first g, first g + size g],
      0 ≤ edge ∧ edge ≤ farthest reference (geometries.map fun g => first g + size g) := by
    intro edge hedge
    obtain ⟨g, hg, hmem⟩ := List.mem_flatMap.mp hedge
    have hstart := hfirst g
    have hpositive := hsize g
    have hend : first g + size g ≤
        farthest reference (geometries.map fun g => first g + size g) :=
      le_farthest.mpr (.inr ⟨_, List.mem_map_of_mem hg, le_rfl⟩)
    rcases List.mem_cons.mp hmem with rfl | hmem
    · omega
    · rw [List.mem_singleton.mp hmem]
      omega
  have hcount : (geometries.flatMap fun g => [first g, first g + size g]).length =
      2 * geometries.length := by
    clear * -
    induction geometries with
    | nil => rfl
    | cons g rest ih =>
        rw [List.flatMap_cons, List.length_append, ih, List.length_cons]
        simp only [List.length_cons, List.length_nil]
        omega
  refine ⟨farthest_le.mpr ⟨hmost, ?_⟩, ?_⟩
  · intro value hvalue
    obtain ⟨g, -, rfl⟩ := List.mem_map.mp hvalue
    exact hlast g
  have hroom : ((geometries.flatMap fun g => [first g, first g + size g]).length : ℤ) + 1 ≤
      pixels := by
    unfold minContent at hpixels
    omega
  obtain ⟨axis, hbuild, hexact, hmem⟩ := @AxisProjection.build_eq_ok _ _ pixels offset
    (by omega) hedges hroom
  refine ⟨axis, hbuild, hexact, ?_⟩
  intro placement hplacement
  have hg : placement.geometry ∈ geometries := hlist ▸ List.mem_map_of_mem hplacement
  exact ⟨hmem _ (List.mem_flatMap.mpr ⟨_, hg, by simp⟩),
    hmem _ (List.mem_flatMap.mpr ⟨_, hg, by simp⟩)⟩

theorem make_projections {projections : List ViewportPlacement}
    (h : List.Forall₂ (Projects horizontal vertical clientWidth clientHeight contentTop)
      layout.placements projections) :
    ∃ physicalLayout, ViewportLayout.make projections = some physicalLayout ∧
      physicalLayout.placements = projections := by
  have hslots : projections.map ViewportPlacement.logicalSlot =
      layout.placements.map ViewportPlacement.logicalSlot := by
    generalize layout.placements = placements at h
    induction h with
    | nil => rfl
    | cons hfirst _ ih => rw [List.map_cons, List.map_cons, hfirst.slot, ih]
  have hlength := h.length_eq
  have hmin := layout.length_pos
  have hmax := layout.length_le
  have hvalid : 1 ≤ projections.length ∧ projections.length ≤ 64 ∧
      (projections.map ViewportPlacement.logicalSlot).Nodup := by
    refine ⟨by omega, by omega, ?_⟩
    rw [hslots]
    exact layout.nodup_slots
  exact ⟨_, dif_pos hvalid, rfl⟩

theorem mapM_projects {placements : List ViewportPlacement}
    (h : ∀ placement ∈ placements, ∃ projected,
      projectPlacement horizontal vertical placement = .ok projected ∧
        Projects horizontal vertical clientWidth clientHeight contentTop placement projected) :
    ∃ projections, placements.mapM (projectPlacement horizontal vertical) = .ok projections ∧
      List.Forall₂ (Projects horizontal vertical clientWidth clientHeight contentTop) placements
        projections := by
  induction placements with
  | nil => exact ⟨[], rfl, .nil⟩
  | cons placement rest ih =>
      obtain ⟨hplacement, hrest⟩ := List.forall_mem_cons.mp h
      obtain ⟨projected, hproject, hprojects⟩ := hplacement
      obtain ⟨projections, hmap, hall⟩ := ih hrest
      refine ⟨projected :: projections, ?_, .cons hprojects hall⟩
      rw [List.mapM_cons, hproject, hmap]
      rfl

/-- One axis of a projection: its edges are strictly increasing from one end of the client to the
other, and a pixel goes back between the same two edges, in its order. -/
structure AxisProjection.Reversible (axis : AxisProjection) (extent pixels offset : ℤ) : Prop where
  exact : axis.Exact extent pixels offset
  inverse : ∀ pixel, offset ≤ pixel → pixel < offset + pixels →
    ∃ value i, axis.Inverse pixel value i
  mono : ∀ pixel pixel' value value', offset ≤ pixel → pixel ≤ pixel' →
    pixel' < offset + pixels → axis.inverse pixel = .ok value →
    axis.inverse pixel' = .ok value' → value ≤ value'

theorem AxisProjection.Exact.reversible {axis : AxisProjection} {extent pixels offset : ℤ}
    (h : axis.Exact extent pixels offset) : axis.Reversible extent pixels offset := by
  refine ⟨h, fun pixel => AxisProjection.exists_inverse h, ?_⟩
  intro pixel pixel' value value' hlow hle hhigh hvalue hvalue'
  obtain ⟨found, i, hinverse⟩ := AxisProjection.exists_inverse h hlow (by omega)
  obtain ⟨found', j, hinverse'⟩ := AxisProjection.exists_inverse h (hlow.trans hle) hhigh
  obtain rfl : value = found := Except.ok.inj (hvalue.symm.trans hinverse.inverse_eq)
  obtain rfl : value' = found' := Except.ok.inj (hvalue'.symm.trans hinverse'.inverse_eq)
  exact hinverse.mono h hinverse' hle

structure ProjectionAgrees (layout : ViewportLayout) (clientWidth clientHeight contentTop : ℤ)
    (projection : ViewportClientProjection) : Prop where
  horizontal : ∃ width, projection.horizontal.Reversible width clientWidth 0
  vertical : ∃ height, projection.vertical.Reversible height (clientHeight - contentTop) contentTop
  /-- Every edge of a placement is projected. -/
  placements : List.Forall₂ (Projects projection.horizontal projection.vertical clientWidth
    clientHeight contentTop) layout.placements projection.physicalLayout.placements
  /-- At a pixel of the content the slot is hit that is hit at the inverse point. -/
  hit : ∀ x y, 0 ≤ x ∧ x < clientWidth ∧ contentTop ≤ y ∧ y < clientHeight →
    ∃ logicalX logicalY, projection.logicalPoint x y = .ok (some (logicalX, logicalY)) ∧
      hitSlot projection.physicalLayout x y = hitSlot layout logicalX logicalY
  outside : ∀ x y, ¬ (0 ≤ x ∧ x < clientWidth ∧ contentTop ≤ y ∧ y < clientHeight) →
    projection.logicalPoint x y = .ok none ∧ hitSlot projection.physicalLayout x y = none

/-- The projection of a layout to a client in its bounds. -/
theorem project_viewport_layout_agrees (layout : ViewportLayout)
    (referenceWidth referenceHeight clientWidth clientHeight contentTop : ℤ) :
    (clientFits referenceWidth referenceHeight clientWidth clientHeight contentTop ∧
      ∃ projection, projectViewportLayout layout referenceWidth referenceHeight clientWidth
        clientHeight contentTop = .ok projection ∧
          ProjectionAgrees layout clientWidth clientHeight contentTop projection) ∨
    (¬ clientFits referenceWidth referenceHeight clientWidth clientHeight contentTop ∧
      projectViewportLayout layout referenceWidth referenceHeight clientWidth clientHeight
        contentTop = .error (.refused "client projection geometry is invalid")) := by
  by_cases hfits : clientFits referenceWidth referenceHeight clientWidth clientHeight contentTop
  · refine .inl ⟨hfits, ?_⟩
    obtain ⟨hreference, hreference', hwidth, htop, hheight, hclient⟩ := hfits
    have hbound : maxClient ≤ maxLogical := by decide
    obtain ⟨hextent, horizontal, hhorizontal, hexact, hxEdges⟩ := exists_axis layout
      ViewportGeometry.x ViewportGeometry.width referenceWidth clientWidth 0 (fun g => g.fits.1.1)
      (fun g => g.fits.2.2.1.1) (fun g => g.fits.2.2.2.2.2.1) hreference.1
      (hreference.2.trans hbound) hwidth.1
    obtain ⟨hextent', vertical, hvertical, hexact', hyEdges⟩ := exists_axis layout
      ViewportGeometry.y ViewportGeometry.height referenceHeight (clientHeight - contentTop)
      contentTop (fun g => g.fits.2.1.1) (fun g => g.fits.2.2.2.1.1)
      (fun g => g.fits.2.2.2.2.2.2) hreference'.1 (hreference'.2.trans hbound) hheight.1
    have haxes := AxesExact.mk hexact hexact'
    obtain ⟨projections, hmap, hprojects⟩ := mapM_projects fun placement hplacement =>
      exists_projects haxes ⟨hwidth.2, htop.1, hclient⟩ (hxEdges placement hplacement).1
        (hxEdges placement hplacement).2 (hyEdges placement hplacement).1
        (hyEdges placement hplacement).2
    obtain ⟨physicalLayout, hmake, rfl⟩ := make_projections hprojects
    refine ⟨⟨physicalLayout, horizontal, vertical, clientWidth, clientHeight, contentTop⟩, ?_, ?_⟩
    · unfold projectViewportLayout
      dsimp only
      rw [if_neg (not_not.mpr ⟨hreference, hreference', hwidth, htop, hheight, hclient⟩),
        if_neg (not_lt.mpr (max_le hextent hextent')), hhorizontal]
      dsimp only [bind, Except.bind]
      rw [hvertical]
      dsimp only
      rw [hmap]
      dsimp only
      rw [hmake]
      rfl
    · constructor
      case horizontal => exact ⟨_, hexact.reversible⟩
      case vertical => exact ⟨_, hexact'.reversible⟩
      case placements => exact hprojects
      case hit =>
        intro x y hinside
        obtain ⟨logicalX, i, hx⟩ := AxisProjection.exists_inverse hexact hinside.1 (by omega)
        obtain ⟨logicalY, j, hy⟩ := AxisProjection.exists_inverse hexact' hinside.2.2.1 (by omega)
        refine ⟨logicalX, logicalY, ?_, hitSlot_agrees hprojects hx hy⟩
        unfold ViewportClientProjection.logicalPoint
        rw [if_neg (not_not.mpr hinside), hx.inverse_eq, hy.inverse_eq]
        rfl
      case outside =>
        intro x y hout
        exact ⟨if_pos hout, hitSlot_outside hprojects hout⟩
  · exact .inr ⟨hfits, if_pos hfits⟩

end K5Vision.Viewport
