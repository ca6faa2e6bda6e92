import Mathlib.Data.List.Nodup
import Mathlib.Data.Int.Notation
import Mathlib.Tactic.SplitIfs
import Mathlib.Tactic.ByContra

/-!
# Viewport layouts and their edits

`media/viewport_geometry.py` and `media/viewport_editor.py`.  A layout places logical slots;
its models refuse a geometry out of bounds and a slot that is placed twice, so a layout
carries the checks of its constructor.
-/

namespace K5Vision.Viewport

/-! ## Layouts -/

def maxCoordinate : ℤ := 1000000

def maxDimension : ℤ := 1000000

def maxZIndex : ℤ := 65535

/-- The bounds of the fields of `ViewportGeometry`, and `validate_bounds`. -/
def geometryFits (x y width height zIndex : ℤ) : Prop :=
  (0 ≤ x ∧ x ≤ maxCoordinate) ∧ (0 ≤ y ∧ y ≤ maxCoordinate) ∧
    (1 ≤ width ∧ width ≤ maxDimension) ∧ (1 ≤ height ∧ height ≤ maxDimension) ∧
    (0 ≤ zIndex ∧ zIndex ≤ maxZIndex) ∧
    x + width ≤ maxCoordinate + maxDimension ∧ y + height ≤ maxCoordinate + maxDimension

instance (x y width height zIndex : ℤ) : Decidable (geometryFits x y width height zIndex) :=
  inferInstanceAs (Decidable (_ ∧ _))

structure ViewportGeometry where
  x : ℤ
  y : ℤ
  width : ℤ
  height : ℤ
  zIndex : ℤ
  fits : geometryFits x y width height zIndex
  deriving DecidableEq

/-- The constructor of `ViewportGeometry`; `none` is its `ValidationError`. -/
def ViewportGeometry.make (x y width height zIndex : ℤ) : Option ViewportGeometry :=
  if h : geometryFits x y width height zIndex then some ⟨x, y, width, height, zIndex, h⟩ else none

def maxSlot : ℕ := 4095

structure ViewportPlacement where
  logicalSlot : ℕ
  geometry : ViewportGeometry
  slot_le : logicalSlot ≤ maxSlot
  deriving DecidableEq

/-- The bounds of `placements`, and `validate_unique_slots`. -/
structure ViewportLayout where
  placements : List ViewportPlacement
  length_pos : 1 ≤ placements.length
  length_le : placements.length ≤ 64
  nodup_slots : (placements.map ViewportPlacement.logicalSlot).Nodup
  deriving DecidableEq

def ViewportLayout.slots (layout : ViewportLayout) : List ℕ :=
  layout.placements.map ViewportPlacement.logicalSlot

/-! ## Edits -/

def maxEditDelta : ℤ := 1000000

def editFits (logicalSlot : ℕ) (first second : ℤ) : Prop :=
  logicalSlot ≤ maxSlot ∧ (-maxEditDelta ≤ first ∧ first ≤ maxEditDelta) ∧
    (-maxEditDelta ≤ second ∧ second ≤ maxEditDelta)

instance (logicalSlot : ℕ) (first second : ℤ) : Decidable (editFits logicalSlot first second) :=
  inferInstanceAs (Decidable (_ ∧ _))

structure ViewportMove where
  logicalSlot : ℕ
  dx : ℤ
  dy : ℤ
  fits : editFits logicalSlot dx dy
  deriving DecidableEq

structure ViewportResize where
  logicalSlot : ℕ
  dwidth : ℤ
  dheight : ℤ
  fits : editFits logicalSlot dwidth dheight
  deriving DecidableEq

inductive ViewportEdit
  | move (edit : ViewportMove)
  | resize (edit : ViewportResize)
  deriving DecidableEq

def ViewportEdit.logicalSlot : ViewportEdit → ℕ
  | .move edit => edit.logicalSlot
  | .resize edit => edit.logicalSlot

inductive ViewportEditorErrorCode
  | invalidConfiguration
  | invalidEdit
  | slotNotFound
  | operationLimit
  deriving DecidableEq, Repr

structure ViewportEditorError where
  code : ViewportEditorErrorCode
  message : String
  deriving DecidableEq, Repr

/-- The geometry that an edit asks for. -/
def ViewportEdit.geometry (current : ViewportGeometry) : ViewportEdit → Option ViewportGeometry
  | .move edit => ViewportGeometry.make (current.x + edit.dx) (current.y + edit.dy)
      current.width current.height current.zIndex
  | .resize edit => ViewportGeometry.make current.x current.y (current.width + edit.dwidth)
      (current.height + edit.dheight) current.zIndex

def ViewportPlacement.place (slot : ℕ) (geometry : ViewportGeometry) (item : ViewportPlacement) :
    ViewportPlacement :=
  if item.logicalSlot = slot then { item with geometry := geometry } else item

@[simp] theorem logicalSlot_place (slot : ℕ) (geometry : ViewportGeometry)
    (item : ViewportPlacement) : (item.place slot geometry).logicalSlot = item.logicalSlot := by
  unfold ViewportPlacement.place
  split_ifs <;> rfl

theorem map_logicalSlot_place (slot : ℕ) (geometry : ViewportGeometry)
    (placements : List ViewportPlacement) :
    (placements.map (ViewportPlacement.place slot geometry)).map ViewportPlacement.logicalSlot =
      placements.map ViewportPlacement.logicalSlot := by
  rw [List.map_map]
  exact List.map_congr_left fun item _ => logicalSlot_place slot geometry item

/-- The layout with a slot at another geometry. -/
def ViewportLayout.place (layout : ViewportLayout) (slot : ℕ) (geometry : ViewportGeometry) :
    ViewportLayout where
  placements := layout.placements.map (ViewportPlacement.place slot geometry)
  length_pos := by simpa using layout.length_pos
  length_le := by simpa using layout.length_le
  nodup_slots := by
    rw [map_logicalSlot_place]
    exact layout.nodup_slots

@[simp] theorem slots_place (layout : ViewportLayout) (slot : ℕ) (geometry : ViewportGeometry) :
    (layout.place slot geometry).slots = layout.slots :=
  map_logicalSlot_place slot geometry layout.placements

def applyViewportEdit (layout : ViewportLayout) (edit : ViewportEdit) :
    Except ViewportEditorError ViewportLayout :=
  match layout.placements.find? fun item => item.logicalSlot = edit.logicalSlot with
  | none => .error ⟨.slotNotFound, "viewport edit logical slot is not active"⟩
  | some selected =>
      match edit.geometry selected.geometry with
      | none => .error ⟨.invalidEdit, "viewport edit geometry is invalid"⟩
      | some geometry => .ok (layout.place edit.logicalSlot geometry)

def ViewportEdit.Targets (edit : ViewportEdit) (layout : ViewportLayout) : Prop :=
  edit.logicalSlot ∈ layout.slots

instance (edit : ViewportEdit) (layout : ViewportLayout) : Decidable (edit.Targets layout) :=
  inferInstanceAs (Decidable (_ ∈ _))

theorem find?_slot_eq_none {layout : ViewportLayout} {edit : ViewportEdit} :
    layout.placements.find? (fun item => item.logicalSlot = edit.logicalSlot) = none ↔
      ¬ edit.Targets layout := by
  simp [ViewportEdit.Targets, ViewportLayout.slots]

/-- An edit fails in two ways: its slot is not there, or its geometry is invalid. -/
theorem applyViewportEdit_cases (layout : ViewportLayout) (edit : ViewportEdit) :
    (∃ candidate, applyViewportEdit layout edit = .ok candidate ∧
        candidate.slots = layout.slots ∧ edit.Targets layout) ∨
      (∃ error, applyViewportEdit layout edit = .error error ∧ error.code = .invalidEdit ∧
        edit.Targets layout) ∨
      ∃ error, applyViewportEdit layout edit = .error error ∧ error.code = .slotNotFound ∧
        ¬ edit.Targets layout := by
  unfold applyViewportEdit
  cases hfind : layout.placements.find? fun item => item.logicalSlot = edit.logicalSlot with
  | none => exact .inr (.inr ⟨_, rfl, rfl, find?_slot_eq_none.mp hfind⟩)
  | some selected =>
      have htargets : edit.Targets layout := by
        by_contra hnot
        rw [find?_slot_eq_none.mpr hnot] at hfind
        cases hfind
      cases hgeometry : edit.geometry selected.geometry with
      | none =>
          simp only [hgeometry]
          exact .inr (.inl ⟨_, rfl, rfl, htargets⟩)
      | some geometry =>
          simp only [hgeometry]
          exact .inl ⟨_, rfl, slots_place layout _ geometry, htargets⟩

end K5Vision.Viewport
