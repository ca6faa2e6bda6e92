import K5Vision.Viewport.OperatorControl
import Mathlib.Data.List.Sort
import Mathlib.Data.Prod.Lex

/-!
# The stack of viewports

`media/viewport_stack.py`: a logical slot is brought to the front or sent to the back, by new levels
for all placements.  Placements are stacked by their level, and by their position among those of one
level; `_select_pointer_drag` hits the highest of those at a point (`topmost_selected`), which is a
slot that was brought to the front wherever it is (`broughtToFront_selected`).
-/

namespace K5Vision.Viewport

/-- The key that placements are stacked by. -/
def stackKey (candidate : ViewportPlacement × ℕ) : ℤ ×ₗ ℕ :=
  toLex (candidate.1.geometry.zIndex, candidate.2)

/-! ## Stack edits -/

inductive ViewportStackAction
  | bringToFront
  | sendToBack
  deriving DecidableEq, Repr

inductive ViewportStackErrorCode
  | invalidConfiguration
  | slotNotFound
  deriving DecidableEq, Repr

structure ViewportStackError where
  code : ViewportStackErrorCode
  message : String
  deriving DecidableEq, Repr

@[ext] structure ViewportStackEdit where
  logicalSlot : ℕ
  action : ViewportStackAction
  slot_le : logicalSlot ≤ maxSlot

instance : DecidableEq ViewportStackEdit := fun _ _ => decidable_of_iff' _ ViewportStackEdit.ext_iff

def ViewportLayout.keyAt (layout : ViewportLayout) (index : ℕ) : ℤ ×ₗ ℕ :=
  toLex ((layout.placements[index]?.map fun placement => placement.geometry.zIndex).getD 0, index)

def stackOrder (layout : ViewportLayout) : List ℕ :=
  (List.range layout.placements.length).insertionSort fun first second =>
    layout.keyAt first ≤ layout.keyAt second

/-- A geometry on another level: `model_copy` checks nothing, and the levels fit. -/
def ViewportGeometry.onLevel (geometry : ViewportGeometry) (level : ℕ) (h : level ≤ 64) :
    ViewportGeometry where
  x := geometry.x
  y := geometry.y
  width := geometry.width
  height := geometry.height
  zIndex := level
  fits := by
    obtain ⟨hx, hy, hwidth, hheight, -, hright, hbottom⟩ := geometry.fits
    refine ⟨hx, hy, hwidth, hheight, ⟨by omega, ?_⟩, hright, hbottom⟩
    unfold maxZIndex
    omega

/-- A placement on the level that its index has in an order. -/
def ViewportPlacement.restack (order : List ℕ) (h : order.length ≤ 64)
    (indexed : ViewportPlacement × ℕ) : ViewportPlacement :=
  { indexed.1 with
    geometry := indexed.1.geometry.onLevel (order.idxOf indexed.2)
      (List.idxOf_le_length.trans h) }

theorem map_logicalSlot_restack (order : List ℕ) (h : order.length ≤ 64)
    (placements : List ViewportPlacement) :
    (placements.zipIdx.map (ViewportPlacement.restack order h)).map ViewportPlacement.logicalSlot =
      placements.map ViewportPlacement.logicalSlot := by
  rw [List.map_map]
  have hslot : ViewportPlacement.logicalSlot ∘ ViewportPlacement.restack order h =
      ViewportPlacement.logicalSlot ∘ Prod.fst := rfl
  rw [hslot, ← List.map_map, List.zipIdx_map_fst]

/-- The layout with its placements on the levels of an order. -/
def ViewportLayout.restack (layout : ViewportLayout) (order : List ℕ) (h : order.length ≤ 64) :
    ViewportLayout where
  placements := layout.placements.zipIdx.map (ViewportPlacement.restack order h)
  length_pos := by simpa using layout.length_pos
  length_le := by simpa using layout.length_le
  nodup_slots := by
    rw [map_logicalSlot_restack]
    exact layout.nodup_slots

theorem length_stackOrder (layout : ViewportLayout) :
    (stackOrder layout).length = layout.placements.length := by
  rw [stackOrder, List.length_insertionSort, List.length_range]

variable {index : ℕ} {layout : ViewportLayout}

theorem mem_stackOrder : index ∈ stackOrder layout ↔ index < layout.placements.length := by
  rw [stackOrder, (List.perm_insertionSort _ _).mem_iff, List.mem_range]

theorem nodup_stackOrder (layout : ViewportLayout) : (stackOrder layout).Nodup := by
  rw [stackOrder, (List.perm_insertionSort _ _).nodup_iff]
  exact List.nodup_range

theorem sorted_stackOrder (layout : ViewportLayout) :
    (stackOrder layout).Pairwise fun first second => layout.keyAt first ≤ layout.keyAt second := by
  have htotal : Std.Total fun first second => layout.keyAt first ≤ layout.keyAt second :=
    ⟨fun first second => le_total _ _⟩
  have htrans : IsTrans ℕ fun first second => layout.keyAt first ≤ layout.keyAt second :=
    ⟨fun _ _ _ => le_trans⟩
  exact List.pairwise_insertionSort _ _

def moveIndex (order : List ℕ) (index : ℕ) : ViewportStackAction → List ℕ
  | .bringToFront => order.erase index ++ [index]
  | .sendToBack => index :: order.erase index

variable {order : List ℕ}

theorem length_moveIndex (h : index ∈ order) (action : ViewportStackAction) :
    (moveIndex order index action).length = order.length := by
  have hpos : 0 < order.length := List.length_pos_of_mem h
  cases action <;> simp [moveIndex, List.length_erase_of_mem h] <;> omega

def atEnd (order : List ℕ) (index : ℕ) : ViewportStackAction → Bool
  | .bringToFront => order.idxOf index = order.length - 1
  | .sendToBack => order.idxOf index = 0

def applyViewportStack (layout : ViewportLayout) (edit : ViewportStackEdit) :
    Except ViewportStackError ViewportLayout :=
  if hfound : layout.slots.idxOf edit.logicalSlot < layout.placements.length then
    let index := layout.slots.idxOf edit.logicalSlot
    let order := stackOrder layout
    if atEnd order index edit.action then .ok layout
    else
      .ok (layout.restack (moveIndex order index edit.action) (by
        rw [length_moveIndex (mem_stackOrder.mpr hfound), length_stackOrder]
        exact layout.length_le))
  else .error ⟨.slotNotFound, "viewport stack target is unavailable"⟩

/-! ## The highest placement at a point -/

def covers (x y : ℤ) (candidate : ViewportPlacement × ℕ) : Prop :=
  geometryContains candidate.1.geometry x y = true

/-- The highest of some placements at a point, if there is one. -/
def Topmost (x y : ℤ) (candidates : List (ViewportPlacement × ℕ)) :
    Option (ViewportPlacement × ℕ) → Prop
  | none => ∀ candidate ∈ candidates, ¬covers x y candidate
  | some top => top ∈ candidates ∧ covers x y top ∧
      ∀ candidate ∈ candidates, covers x y candidate → stackKey candidate ≤ stackKey top

theorem stackKey_lt {first second : ViewportPlacement × ℕ} : stackKey first < stackKey second ↔
    first.1.geometry.zIndex < second.1.geometry.zIndex ∨
      first.1.geometry.zIndex = second.1.geometry.zIndex ∧ first.2 < second.2 :=
  Prod.Lex.toLex_lt_toLex

variable {x y : ℤ} {candidates : List (ViewportPlacement × ℕ)}

theorem topmost_select {selected : Option (ViewportPlacement × ℕ)}
    (h : Topmost x y candidates selected) (candidate : ViewportPlacement × ℕ) :
    Topmost x y (candidates ++ [candidate]) (selectPlacement x y selected candidate) := by
  unfold selectPlacement
  by_cases hcovers : geometryContains candidate.1.geometry x y = true
  · rw [if_neg (by simp [hcovers])]
    cases selected with
    | none =>
        refine ⟨by simp, hcovers, ?_⟩
        intro other hother hcovered
        rcases List.mem_append.mp hother with hold | hnew
        · exact absurd hcovered (h other hold)
        · rw [List.mem_singleton.mp hnew]
    | some current =>
        obtain ⟨hmem, hcurrent, hmax⟩ := h
        dsimp only
        split_ifs with hlevel
        · refine ⟨by simp, hcovers, ?_⟩
          intro other hother hcovered
          rcases List.mem_append.mp hother with hold | hnew
          · exact (hmax other hold hcovered).trans (stackKey_lt.mpr hlevel).le
          · rw [List.mem_singleton.mp hnew]
        · refine ⟨List.mem_append_left _ hmem, hcurrent, ?_⟩
          intro other hother hcovered
          rcases List.mem_append.mp hother with hold | hnew
          · exact hmax other hold hcovered
          · rw [List.mem_singleton.mp hnew]
            exact not_lt.mp fun hlt => hlevel (stackKey_lt.mp hlt)
  · rw [if_pos (by simp [hcovers])]
    cases selected with
    | none =>
        intro other hother
        rcases List.mem_append.mp hother with hold | hnew
        · exact h other hold
        · rw [List.mem_singleton.mp hnew]
          exact hcovers
    | some current =>
        refine ⟨List.mem_append_left _ h.1, h.2.1, ?_⟩
        intro other hother hcovered
        rcases List.mem_append.mp hother with hold | hnew
        · exact h.2.2 other hold hcovered
        · rw [List.mem_singleton.mp hnew] at hcovered
          exact absurd hcovered hcovers

theorem topmost_foldl (rest : List (ViewportPlacement × ℕ))
    {selected : Option (ViewportPlacement × ℕ)} (h : Topmost x y candidates selected) :
    Topmost x y (candidates ++ rest) (rest.foldl (selectPlacement x y) selected) := by
  induction rest generalizing candidates selected with
  | nil => simpa using h
  | cons candidate rest ih =>
      have hnext := ih (topmost_select h candidate)
      rwa [List.append_assoc, List.singleton_append] at hnext

/-- What `_select_pointer_drag` selects is the highest placement at the point. -/
theorem topmost_selected (layout : ViewportLayout) (x y : ℤ) : Topmost x y layout.placements.zipIdx
      (layout.placements.zipIdx.foldl (selectPlacement x y) none) :=
  topmost_foldl layout.placements.zipIdx (show Topmost x y [] none from nofun)

/-! ## A slot at the front -/

variable {placement : ViewportPlacement}

theorem getElem?_restack {h : order.length ≤ 64}
    (hplaced : (layout.restack order h).placements[index]? = some placement) :
    placement.geometry.zIndex = order.idxOf index := by
  simp only [ViewportLayout.restack, List.getElem?_map, List.getElem?_zipIdx, Option.map_map,
    Option.map_eq_some_iff] at hplaced
  obtain ⟨before, -, rfl⟩ := hplaced
  simp [ViewportPlacement.restack, ViewportGeometry.onLevel]

theorem keyAt_eq (hplaced : layout.placements[index]? = some placement) :
    layout.keyAt index = stackKey (placement, index) := by
  simp [ViewportLayout.keyAt, stackKey, hplaced]

theorem keyAt_le_of_atEnd {other : ℕ}
    (hend : (stackOrder layout).idxOf index = (stackOrder layout).length - 1)
    (hindex : index ∈ stackOrder layout) (hother : other ∈ stackOrder layout) :
    layout.keyAt other ≤ layout.keyAt index := by
  have hlast := List.idxOf_lt_length_of_mem hindex
  have hless := List.idxOf_lt_length_of_mem hother
  rcases Nat.lt_or_ge ((stackOrder layout).idxOf other) ((stackOrder layout).idxOf index) with
    hlt | hge
  · have hkey := List.pairwise_iff_getElem.mp (sorted_stackOrder layout) _ _ hless hlast hlt
    rwa [List.getElem_idxOf, List.getElem_idxOf] at hkey
  · have hsame : (stackOrder layout).idxOf other = (stackOrder layout).idxOf index := by omega
    rw [List.idxOf_inj hother] at hsame
    rw [hsame]

/-- What is moved to the front is on a level of its own, above the others. -/
theorem idxOf_moveIndex_lt {other : ℕ} (hnodup : order.Nodup) (hother : other ∈ order)
    (hne : other ≠ index) :
    (moveIndex order index .bringToFront).idxOf other <
      (moveIndex order index .bringToFront).idxOf index := by
  have hmem : other ∈ order.erase index := (List.mem_erase_of_ne hne).mpr hother
  have hgone : index ∉ order.erase index := hnodup.not_mem_erase
  rw [moveIndex, List.idxOf_append_of_mem hmem, List.idxOf_append_of_notMem hgone]
  exact Nat.lt_of_lt_of_le (List.idxOf_lt_length_of_mem hmem) (Nat.le_add_right _ _)

theorem idxOf_slot (hplaced : layout.placements[index]? = some placement) :
    layout.slots.idxOf placement.logicalSlot = index := by
  have hslot : layout.slots[index]? = some placement.logicalSlot := by
    rw [ViewportLayout.slots, List.getElem?_map, hplaced]
    rfl
  obtain ⟨hlt, heq⟩ := List.getElem?_eq_some_iff.mp hslot
  rw [← heq]
  exact List.Nodup.idxOf_getElem layout.nodup_slots index hlt

/-- No placement is above one that was brought to the front. -/
theorem broughtToFront_highest {edited : ViewportLayout} {edit : ViewportStackEdit}
    (haction : edit.action = .bringToFront) (h : applyViewportStack layout edit = .ok edited)
    (hplaced : edited.placements[index]? = some placement)
    (hslot : placement.logicalSlot = edit.logicalSlot) {candidate : ViewportPlacement × ℕ}
    (hcandidate : candidate ∈ edited.placements.zipIdx) :
    stackKey candidate ≤ stackKey (placement, index) := by
  obtain ⟨other, position⟩ := candidate
  have hother : edited.placements[position]? = some other :=
    (List.mk_mem_zipIdx_iff_getElem? ..).mp hcandidate
  unfold applyViewportStack at h
  split at h
  swap
  · cases h
  dsimp only at h
  split_ifs at h with hatEnd
  · cases h
    have hindex : index < layout.placements.length := (List.getElem?_eq_some_iff.mp hplaced).1
    have hposition : position < layout.placements.length := (List.getElem?_eq_some_iff.mp hother).1
    rw [haction, ← hslot, idxOf_slot hplaced] at hatEnd
    rw [← keyAt_eq hplaced, ← keyAt_eq hother]
    exact keyAt_le_of_atEnd (by simpa [atEnd] using hatEnd) (mem_stackOrder.mpr hindex)
      (mem_stackOrder.mpr hposition)
  · obtain rfl := Except.ok.inj h
    have hindex : layout.slots.idxOf edit.logicalSlot = index := by
      have hslots := idxOf_slot hplaced
      rwa [hslot, ViewportLayout.slots, ViewportLayout.restack, map_logicalSlot_restack] at hslots
    have hposition : position < layout.placements.length := by
      have hlt := (List.getElem?_eq_some_iff.mp hother).1
      simpa [ViewportLayout.restack] using hlt
    rcases eq_or_ne position index with rfl | hne
    · rw [hplaced] at hother
      rw [Option.some.inj hother]
    refine (stackKey_lt.mpr (.inl ?_)).le
    dsimp only
    rw [getElem?_restack hplaced, getElem?_restack hother, haction, hindex]
    exact Int.ofNat_lt.mpr
      (idxOf_moveIndex_lt (nodup_stackOrder layout) (mem_stackOrder.mpr hposition) hne)

theorem eq_of_stackKey {placements : List ViewportPlacement}
    {first second : ViewportPlacement × ℕ} (hfirst : first ∈ placements.zipIdx)
    (hsecond : second ∈ placements.zipIdx) (h : stackKey first = stackKey second) :
    first = second := by
  have hindex : first.2 = second.2 := (Prod.mk.inj (toLex_inj.mp h)).2
  rw [List.mem_zipIdx_iff_getElem?] at hfirst hsecond
  rw [hindex, hsecond] at hfirst
  exact Prod.ext (Option.some.inj hfirst).symm hindex

/-- A slot that was brought to the front is hit wherever it is. -/
theorem broughtToFront_selected {edited : ViewportLayout} {edit : ViewportStackEdit}
    (haction : edit.action = .bringToFront) (h : applyViewportStack layout edit = .ok edited)
    (hplaced : placement ∈ edited.placements) (hslot : placement.logicalSlot = edit.logicalSlot)
    {x y : ℤ} (hcovers : geometryContains placement.geometry x y = true) :
    (selectPointerDrag edited x y).map PointerDrag.logicalSlot = some edit.logicalSlot := by
  obtain ⟨index, hlt, hindex⟩ := List.mem_iff_getElem.mp hplaced
  have hat : edited.placements[index]? = some placement :=
    List.getElem?_eq_some_iff.mpr ⟨hlt, hindex⟩
  have hmem : (placement, index) ∈ edited.placements.zipIdx :=
    (List.mk_mem_zipIdx_iff_getElem? ..).mpr hat
  have htop := topmost_selected edited x y
  unfold selectPointerDrag
  cases hselected : edited.placements.zipIdx.foldl (selectPlacement x y) none with
  | none =>
      rw [hselected] at htop
      exact absurd hcovers (htop _ hmem)
  | some top =>
      rw [hselected] at htop
      obtain ⟨htopmem, -, hmax⟩ := htop
      have hsame : stackKey top = stackKey (placement, index) :=
        (broughtToFront_highest haction h hat hslot htopmem).antisymm (hmax _ hmem hcovers)
      rw [eq_of_stackKey htopmem hmem hsame]
      exact congrArg some hslot

end K5Vision.Viewport
