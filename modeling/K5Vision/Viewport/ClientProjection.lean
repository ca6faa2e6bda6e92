import K5Vision.Library.EdgeScale
import K5Vision.Viewport.OperatorControl
import Mathlib.Data.List.Dedup
import Mathlib.Data.List.Sort

/-!
# The projection of a layout to a client

`media/viewport_client_projection.py`.  The edges of the placements, with those of the extent,
divide an axis into intervals.  The edges are projected to strictly increasing ones of the client,
and the inverse takes a pixel to the last point that it covers of the interval between the same
two edges.

## Strategy

An axis that was built is a pair of strictly increasing lists of one length
(`AxisProjection.Exact`).  A pixel lies between two edges of the client (`exists_interval`), and its
inverse between the edges of the layout with the same indices (`exists_inverse`).  So an edge of the
client is at or before a pixel exactly if the edge of the layout is at or before the inverse
(`Inverse.edge_le_iff`), which is all that the test of a placement compares.
-/

namespace K5Vision.Viewport

open Library

def maxClient : ℤ := 16384

def maxLogical : ℤ := 2000000

def minContent : ℤ := 192

inductive ProjectionError
  | refused (message : String)
  | validation
  deriving DecidableEq, Repr

structure AxisProjection where
  logical : List ℤ
  physical : List ℤ
  deriving DecidableEq

namespace AxisProjection

def build (edges : List ℤ) (extent pixels offset : ℤ) : Except ProjectionError AxisProjection :=
  let logical := (0 :: extent :: edges).dedup.insertionSort (· ≤ ·)
  if pixels < logical.length - 1 then
    .error (.refused "client projection has insufficient edge intervals")
  else
    let wanted := logical.tail.dropLast.map fun edge => offset + edge * pixels / extent
    .ok ⟨logical, offset :: spread (offset + pixels) wanted offset⟩

variable (axis : AxisProjection)

def edge (value : ℤ) : Except ProjectionError ℤ :=
  let index := bisectRight axis.logical value - 1
  if bisectRight axis.logical value = 0 ∨ axis.logical[index]? ≠ some value then
    .error (.refused "logical edge is not part of this projection")
  else
    match axis.physical[index]? with
    | some selected => .ok selected
    | none => .error (.refused "logical edge is not part of this projection")

def inverse (pixel : ℤ) : Except ProjectionError ℤ :=
  let index := bisectRight axis.physical pixel - 1
  if bisectRight axis.physical pixel = 0 ∨ axis.physical.length - 1 ≤ index then
    .error (.refused "point is outside the client content")
  else
    match axis.logical[index]?, axis.logical[index + 1]?, axis.physical[index]?,
        axis.physical[index + 1]? with
    | some logicalStart, some logicalEnd, some physicalStart, some physicalEnd =>
        .ok (lastCovered logicalStart logicalEnd physicalStart physicalEnd pixel)
    | _, _, _, _ => .error (.refused "point is outside the client content")

end AxisProjection

structure ViewportClientProjection where
  physicalLayout : ViewportLayout
  horizontal : AxisProjection
  vertical : AxisProjection
  clientWidth : ℤ
  clientHeight : ℤ
  contentTop : ℤ

def ViewportClientProjection.logicalPoint (projection : ViewportClientProjection) (x y : ℤ) :
    Except ProjectionError (Option (ℤ × ℤ)) :=
  if ¬ (0 ≤ x ∧ x < projection.clientWidth ∧ projection.contentTop ≤ y ∧
      y < projection.clientHeight) then .ok none
  else do
    let logicalX ← projection.horizontal.inverse x
    let logicalY ← projection.vertical.inverse y
    return some (logicalX, logicalY)

/-- The constructor of `ViewportLayout`; `none` is its `ValidationError`. -/
def ViewportLayout.make (placements : List ViewportPlacement) : Option ViewportLayout :=
  if h : 1 ≤ placements.length ∧ placements.length ≤ 64 ∧
      (placements.map ViewportPlacement.logicalSlot).Nodup then
    some ⟨placements, h.1, h.2.1, h.2.2⟩
  else none

/-- The checks of the arguments of `project_viewport_layout`. -/
def clientFits (referenceWidth referenceHeight clientWidth clientHeight contentTop : ℤ) : Prop :=
  (1 ≤ referenceWidth ∧ referenceWidth ≤ maxClient) ∧
    (1 ≤ referenceHeight ∧ referenceHeight ≤ maxClient) ∧
    (minContent ≤ clientWidth ∧ clientWidth ≤ maxClient) ∧
    (0 ≤ contentTop ∧ contentTop ≤ maxClient - minContent) ∧
    (minContent ≤ clientHeight - contentTop ∧ clientHeight - contentTop ≤ maxClient) ∧
    clientHeight ≤ maxClient

instance (referenceWidth referenceHeight clientWidth clientHeight contentTop : ℤ) :
    Decidable (clientFits referenceWidth referenceHeight clientWidth clientHeight contentTop) :=
  inferInstanceAs (Decidable (_ ∧ _))

def farthest (least : ℤ) (values : List ℤ) : ℤ := values.foldl max least

/-- The turn of a placement in the loop of `project_viewport_layout`. -/
def projectPlacement (horizontal vertical : AxisProjection) (placement : ViewportPlacement) :
    Except ProjectionError ViewportPlacement := do
  let g := placement.geometry
  let x ← horizontal.edge g.x
  let y ← vertical.edge g.y
  let right ← horizontal.edge (g.x + g.width)
  let bottom ← vertical.edge (g.y + g.height)
  match ViewportGeometry.make x y (right - x) (bottom - y) g.zIndex with
  | none => .error .validation
  | some geometry => return ⟨placement.logicalSlot, geometry, placement.slot_le⟩

def projectViewportLayout (layout : ViewportLayout)
    (referenceWidth referenceHeight clientWidth clientHeight contentTop : ℤ) :
    Except ProjectionError ViewportClientProjection :=
  if ¬ clientFits referenceWidth referenceHeight clientWidth clientHeight contentTop then
    .error (.refused "client projection geometry is invalid")
  else
    let geometries := layout.placements.map (·.geometry)
    let width := farthest referenceWidth (geometries.map fun g => g.x + g.width)
    let height := farthest referenceHeight (geometries.map fun g => g.y + g.height)
    if maxLogical < max width height then
      .error (.refused "client projection logical extent exceeds bound")
    else do
      let xEdges := geometries.flatMap fun g => [g.x, g.x + g.width]
      let yEdges := geometries.flatMap fun g => [g.y, g.y + g.height]
      let horizontal ← AxisProjection.build xEdges width clientWidth 0
      let vertical ← AxisProjection.build yEdges height (clientHeight - contentTop) contentTop
      let projected ← layout.placements.mapM (projectPlacement horizontal vertical)
      match ViewportLayout.make projected with
      | none => .error .validation
      | some physicalLayout =>
          return ⟨physicalLayout, horizontal, vertical, clientWidth, clientHeight, contentTop⟩

/-! ## Building an axis -/

namespace AxisProjection

/-- An axis that was built: the edges of both sides are strictly increasing, and the outer ones
are those of the extent and of the client. -/
structure Exact (axis : AxisProjection) (extent pixels offset : ℤ) : Prop where
  logical_increasing : axis.logical.Pairwise (· < ·)
  physical_increasing : axis.physical.Pairwise (· < ·)
  length_eq : axis.physical.length = axis.logical.length
  logical_first : axis.logical.head? = some 0
  logical_last : axis.logical.getLast? = some extent
  physical_first : axis.physical.head? = some offset
  physical_last : axis.physical.getLast? = some (offset + pixels)

variable {axis : AxisProjection} {edges : List ℤ} {extent pixels offset : ℤ}

theorem head?_of_least {l : List ℤ} {least : ℤ} (h : l.Pairwise (· < ·)) (hmem : least ∈ l)
    (hle : ∀ value ∈ l, least ≤ value) : l.head? = some least := by
  cases l with
  | nil => cases hmem
  | cons first rest =>
      have hfirst := hle first List.mem_cons_self
      rcases List.mem_cons.mp hmem with rfl | hmem
      · rfl
      · exact absurd ((List.pairwise_cons.mp h).1 least hmem) (not_lt.mpr hfirst)

theorem getLast?_of_greatest {l : List ℤ} {greatest : ℤ} (h : l.Pairwise (· < ·))
    (hmem : greatest ∈ l) (hle : ∀ value ∈ l, value ≤ greatest) :
    l.getLast? = some greatest := by
  rcases l.eq_nil_or_concat with rfl | ⟨front, last, rfl⟩
  · cases hmem
  rw [List.concat_eq_append] at h hmem hle ⊢
  have hlast := hle last (by simp)
  rcases List.mem_append.mp hmem with hfront | hlast'
  · have := (List.pairwise_append.mp h).2.2 greatest hfront last (by simp)
    omega
  · rw [List.getLast?_concat, List.mem_singleton.mp hlast']

theorem build_eq_ok (hextent : 0 < extent) (hedges : ∀ edge ∈ edges, 0 ≤ edge ∧ edge ≤ extent)
    (hroom : edges.length + 1 ≤ pixels) :
    ∃ axis, build edges extent pixels offset = .ok axis ∧ axis.Exact extent pixels offset ∧
      ∀ edge ∈ edges, edge ∈ axis.logical := by
  unfold build
  dsimp only
  generalize hlogical : (0 :: extent :: edges).dedup.insertionSort (· ≤ ·) = logical
  have hmem : ∀ value, value ∈ logical ↔ value = 0 ∨ value = extent ∨ value ∈ edges := by
    intro value
    rw [← hlogical, List.mem_insertionSort, List.mem_dedup, List.mem_cons, List.mem_cons]
  have hincreasing : logical.Pairwise (· < ·) := by
    have hsorted : logical.Pairwise (· ≤ ·) := hlogical ▸ List.pairwise_insertionSort _ _
    have hnodup : logical.Nodup := by
      rw [← hlogical]
      exact (List.perm_insertionSort _ _).nodup_iff.mpr (List.nodup_dedup _)
    exact (hsorted.and hnodup).imp fun h => lt_of_le_of_ne h.1 h.2
  have hrange : ∀ value ∈ logical, 0 ≤ value ∧ value ≤ extent := by
    intro value hvalue
    rcases (hmem value).mp hvalue with rfl | rfl | hedge
    · omega
    · omega
    · exact hedges value hedge
  have hfirst := head?_of_least hincreasing ((hmem 0).mpr (.inl rfl)) fun v hv => (hrange v hv).1
  have hlast := getLast?_of_greatest hincreasing ((hmem extent).mpr (.inr (.inl rfl)))
    fun v hv => (hrange v hv).2
  have hlength : logical.length ≤ edges.length + 2 := by
    rw [← hlogical, List.length_insertionSort]
    exact (List.dedup_sublist _).length_le
  -- both outer edges are there
  have htwo : 2 ≤ logical.length := by
    match logical, hfirst, hlast with
    | [value], hfirst, hlast =>
        have hzero : value = 0 := Option.some.inj hfirst
        have hend : value = extent := Option.some.inj hlast
        omega
    | _ :: _ :: _, _, _ => simp
  rw [if_neg (by omega)]
  generalize hwanted : logical.tail.dropLast.map (fun edge => offset + edge * pixels / extent) =
    wanted
  have hinner : wanted.length + 2 = logical.length := by
    rw [← hwanted, List.length_map, List.length_dropLast, List.length_tail]
    omega
  refine ⟨_, rfl, ?_, fun edge hedge => (hmem edge).mpr (.inr (.inr hedge))⟩
  constructor
  case logical_increasing => exact hincreasing
  case physical_increasing => exact spread_increasing (by omega)
  case length_eq =>
    dsimp only
    rw [List.length_cons, length_spread, ← hinner]
  case logical_first => exact hfirst
  case logical_last => exact hlast
  case physical_first => rfl
  case physical_last =>
    dsimp only
    rw [List.getLast?_cons, getLast?_spread]
    rfl

/-! ## Edges and pixels -/

theorem edge_getElem (h : axis.Exact extent pixels offset) {i : ℕ} (hi : i < axis.logical.length)
    (hi' : i < axis.physical.length) : axis.edge axis.logical[i] = .ok axis.physical[i] := by
  unfold edge
  rw [bisectRight_getElem h.logical_increasing hi]
  dsimp only
  rw [Nat.add_sub_cancel, if_neg (by simp [List.getElem?_eq_getElem hi]),
    List.getElem?_eq_getElem hi']

/-- Every pixel of the client lies between two edges. -/
theorem exists_interval (h : axis.Exact extent pixels offset) {pixel : ℤ} (hlow : offset ≤ pixel)
    (hhigh : pixel < offset + pixels) :
    ∃ i, bisectRight axis.physical pixel = i + 1 ∧ i + 1 < axis.physical.length := by
  have hfirst := h.physical_first
  rw [List.head?_eq_getElem?] at hfirst
  obtain ⟨hzero, hfirst⟩ := List.getElem?_eq_some_iff.mp hfirst
  have hlast := h.physical_last
  rw [List.getLast?_eq_getElem?] at hlast
  obtain ⟨hend, hlast⟩ := List.getElem?_eq_some_iff.mp hlast
  have hpositive := (lt_bisectRight_iff h.physical_increasing hzero).mpr (hfirst.trans_le hlow)
  have hbounded : ¬ axis.physical.length - 1 < bisectRight axis.physical pixel := by
    rw [lt_bisectRight_iff h.physical_increasing hend, hlast, not_le]
    exact hhigh
  exact ⟨bisectRight axis.physical pixel - 1, by omega, by omega⟩

structure Inverse (axis : AxisProjection) (pixel value : ℤ) (i : ℕ) : Prop where
  lt : i + 1 < axis.physical.length
  lt' : i + 1 < axis.logical.length
  bisect : bisectRight axis.physical pixel = i + 1
  low : axis.logical[i] ≤ value
  high : value < axis.logical[i + 1]
  value_eq : value = lastCovered axis.logical[i] axis.logical[i + 1] axis.physical[i]
    axis.physical[i + 1] pixel
  inverse_eq : axis.inverse pixel = .ok value

theorem exists_inverse (h : axis.Exact extent pixels offset) {pixel : ℤ} (hlow : offset ≤ pixel)
    (hhigh : pixel < offset + pixels) : ∃ value i, axis.Inverse pixel value i := by
  obtain ⟨i, hbisect, hi⟩ := exists_interval h hlow hhigh
  have hi' : i + 1 < axis.logical.length := by
    rw [← h.length_eq]
    exact hi
  have hstart : axis.physical[i] ≤ pixel :=
    (lt_bisectRight_iff h.physical_increasing (by omega)).mp (by omega)
  have hstop : pixel < axis.physical[i + 1] := by
    by_contra hle
    have := (lt_bisectRight_iff h.physical_increasing hi).mpr (not_lt.mp hle)
    omega
  have hstep : axis.logical[i] < axis.logical[i + 1] :=
    List.pairwise_iff_getElem.mp h.logical_increasing i (i + 1) (by omega) hi' (Nat.lt_succ_self i)
  obtain ⟨hmem, hmem'⟩ := lastCovered_mem hstep hstart hstop
  refine ⟨_, i, hi, hi', hbisect, hmem, hmem', rfl, ?_⟩
  unfold inverse
  rw [hbisect]
  dsimp only
  rw [Nat.add_sub_cancel, if_neg (by omega), List.getElem?_eq_getElem (by omega),
    List.getElem?_eq_getElem hi', List.getElem?_eq_getElem (by omega),
    List.getElem?_eq_getElem hi]

variable {pixel pixel' value value' : ℤ} {i j : ℕ}

theorem Inverse.bisect_logical (h : axis.Exact extent pixels offset)
    (hinverse : axis.Inverse pixel value i) : bisectRight axis.logical value = i + 1 := by
  have hlt := hinverse.lt'
  have hlow := (lt_bisectRight_iff h.logical_increasing (by omega)).mpr hinverse.low
  have hhigh : ¬ i + 1 < bisectRight axis.logical value := by
    rw [lt_bisectRight_iff h.logical_increasing hlt, not_le]
    exact hinverse.high
  omega

/-- An edge of the client is at or before a pixel exactly if that of the layout is at or before
its inverse. -/
theorem Inverse.edge_le_iff (h : axis.Exact extent pixels offset)
    (hinverse : axis.Inverse pixel value i) (hj : j < axis.logical.length)
    (hj' : j < axis.physical.length) :
    axis.physical[j] ≤ pixel ↔ axis.logical[j] ≤ value := by
  rw [← lt_bisectRight_iff h.physical_increasing hj', hinverse.bisect,
    ← lt_bisectRight_iff h.logical_increasing hj, hinverse.bisect_logical h]

theorem Inverse.mono (h : axis.Exact extent pixels offset) (hinverse : axis.Inverse pixel value i)
    (hinverse' : axis.Inverse pixel' value' j) (hle : pixel ≤ pixel') : value ≤ value' := by
  have hlt := hinverse.lt
  have hlt' := hinverse'.lt'
  have hstart : axis.physical[i] ≤ pixel :=
    (lt_bisectRight_iff h.physical_increasing (by omega)).mp (by rw [hinverse.bisect]; omega)
  have hindex : i < j + 1 := by
    rw [← hinverse'.bisect]
    exact (lt_bisectRight_iff h.physical_increasing (by omega)).mpr (hstart.trans hle)
  rcases Nat.lt_succ_iff_lt_or_eq.mp hindex with hbefore | rfl
  · -- in different intervals
    have hnext := hinverse.lt'
    have hindex' := hinverse'.lt'
    have hedge : axis.logical[i + 1] ≤ axis.logical[j] :=
      (getElem_le_getElem_iff h.logical_increasing hnext (by omega)).mpr hbefore
    have hhigh := hinverse.high
    have hlow := hinverse'.low
    omega
  · have hstep : axis.logical[i] < axis.logical[i + 1] :=
      List.pairwise_iff_getElem.mp h.logical_increasing i (i + 1) (by omega) hlt'
        (Nat.lt_succ_self i)
    have hwidth : axis.physical[i] < axis.physical[i + 1] :=
      List.pairwise_iff_getElem.mp h.physical_increasing i (i + 1) (by omega) hlt
        (Nat.lt_succ_self i)
    rw [hinverse.value_eq, hinverse'.value_eq]
    exact lastCovered_mono hstep.le hwidth hle

end AxisProjection

end K5Vision.Viewport
