import K5Vision.Viewport.ViewportStack
import Mathlib.Data.Finset.Dedup

/-!
# The native targets of a layout

`BoundedWindowsViewportLayout` of `media/windows_viewport_layout.py`, over the targets of
`media/windows_presentation_target.py`: one child window for each placement, created one after the
other.  `create_target` is given the position and the size of a placement, and nothing of its level.
What Windows does with child windows is an assumption: a later one lies above the earlier ones.

An operation holds the lock of the layout from its begin to its end, so it is one step; how its
calls of the targets end is an argument of the step.
-/

namespace K5Vision.Viewport

open Library

/-! ## Windows -/

/-- A child window. -/
structure NativeWindow where
  handle : ℕ
  x : ℤ
  y : ℤ
  width : ℤ
  height : ℤ
  deriving DecidableEq, Repr

def NativeWindow.contains (window : NativeWindow) (x y : ℤ) : Bool :=
  window.x ≤ x && x < window.x + window.width && window.y ≤ y && y < window.y + window.height

/-- The child windows of a shell, a later one above the earlier ones. -/
structure Desktop where
  windows : List NativeWindow
  /-- No window has had this handle, or a larger one. -/
  next : ℕ
  deriving DecidableEq, Repr

def Desktop.topmost (desktop : Desktop) (x y : ℤ) : Option NativeWindow :=
  desktop.windows.reverse.find? fun window => window.contains x y

def Desktop.createTarget (x y width height : ℤ) (desktop : Desktop) : Desktop where
  windows := desktop.windows ++ [⟨desktop.next, x, y, width, height⟩]
  next := desktop.next + 1

def Desktop.destroyTarget (handle : ℕ) (desktop : Desktop) : Desktop :=
  { desktop with windows := desktop.windows.filter fun window => window.handle ≠ handle }

/-! ## Targets -/

inductive LayoutState
  | ready
  | open
  | failed
  | closed
  deriving DecidableEq, Repr

inductive LayoutErrorCode
  | invalidConfiguration
  | invalidState
  | targetOpenFailure
  | unknownSlot
  | presentationFailure
  | cleanupFailure
  deriving DecidableEq, Repr

/-- `WindowsViewportLayoutError`. -/
structure LayoutError where
  code : LayoutErrorCode
  message : String
  deriving DecidableEq, Repr

inductive LayoutRaised
  | layout (error : LayoutError)
  | deferred
  | cancelled
  deriving DecidableEq, Repr

inductive OpenAnswer
  | opened
  | failed
  | cancelled
  deriving DecidableEq, Repr

inductive CloseAnswer
  | closed
  /-- It raises; the window is there, or not. -/
  | raised (stays : Bool)
  deriving DecidableEq, Repr

inductive PresentAnswer
  | presented
  | deferred
  | failed
  | cancelled
  deriving DecidableEq, Repr

abbrev Targets := List (ℕ × ℕ)

def closeTarget (answers : ℕ → CloseAnswer) (closing : Bool × Desktop) (target : ℕ × ℕ) :
    Bool × Desktop :=
  match answers target.2 with
  | .closed => (closing.1, closing.2.destroyTarget target.2)
  | .raised stays => (true, if stays then closing.2 else closing.2.destroyTarget target.2)

/-- `_close_target_map`: whether a target could not be closed. -/
def closeTargetMap (answers : ℕ → CloseAnswer) (targets : Targets) (desktop : Desktop) :
    Bool × Desktop :=
  targets.reverse.foldl (closeTarget answers) (false, desktop)

/-- `_open_target_map`; what has been opened is closed when a target cannot be. -/
def openTargetMap (opening : ℕ → OpenAnswer) (closing : ℕ → CloseAnswer) :
    List ViewportPlacement → Targets → Desktop → Except OpenAnswer Targets × Desktop
  | [], targets, desktop => (.ok targets, desktop)
  | placement :: rest, targets, desktop =>
      match opening placement.logicalSlot with
      | .opened =>
          let geometry := placement.geometry
          openTargetMap opening closing rest (targets ++ [(placement.logicalSlot, desktop.next)])
            (desktop.createTarget geometry.x geometry.y geometry.width geometry.height)
      | answer => (.error answer, (closeTargetMap closing targets desktop).2)

/-! ## The layout -/

/-- `WindowsViewportLayoutSnapshot`. -/
structure LayoutSnapshot where
  state : LayoutState
  targetCount : ℕ
  openTargetCount : ℕ
  presentations : ℕ
  deriving DecidableEq, Repr

structure TargetLayout where
  layout : ViewportLayout
  state : LayoutState
  targets : Targets
  presentations : ℕ
  maxPresentations : ℕ
  desktop : Desktop

namespace TargetLayout

def create (layout : ViewportLayout) (maxPresentations next : ℕ) : TargetLayout where
  layout := layout
  state := .ready
  targets := []
  presentations := 0
  maxPresentations := maxPresentations
  desktop := ⟨[], next⟩

variable (s : TargetLayout)

def snapshot : LayoutSnapshot where
  state := s.state
  targetCount := s.layout.placements.length
  openTargetCount := s.targets.length
  presentations := s.presentations

def ended : Except LayoutRaised LayoutSnapshot × TargetLayout := (.ok s.snapshot, s)

def raise (code : LayoutErrorCode) (message : String) :
    Except LayoutRaised LayoutSnapshot × TargetLayout :=
  (.error (.layout ⟨code, message⟩), s)

/-- `_close_targets`: whether a target could not be closed. -/
def closeTargets (closing : ℕ → CloseAnswer) : Bool × TargetLayout :=
  let closed := closeTargetMap closing s.targets s.desktop
  (closed.1, { s with targets := [], desktop := closed.2 })

/-- `_close_targets`, and a failure. -/
def fail (closing : ℕ → CloseAnswer) : TargetLayout :=
  { (s.closeTargets closing).2 with state := .failed }

def «open» (opening : ℕ → OpenAnswer) (closing : ℕ → CloseAnswer) :
    Except LayoutRaised LayoutSnapshot × TargetLayout :=
  if s.state = .open then s.ended
  else if s.state ≠ .ready then
    s.raise .invalidState "viewport target layout cannot open from current state"
  else
    let opened := openTargetMap opening closing s.layout.placements [] s.desktop
    match opened.1 with
    | .ok targets => { s with state := .open, targets := targets, desktop := opened.2 }.ended
    | .error .cancelled =>
        (.error .cancelled, { s with state := .failed, targets := [], desktop := opened.2 })
    | .error _ => { s with state := .failed, targets := [], desktop := opened.2 }.raise
        .targetOpenFailure "viewport target layout open failed"

def relayout (layout : ViewportLayout) (opening : ℕ → OpenAnswer) (closing : ℕ → CloseAnswer) :
    Except LayoutRaised LayoutSnapshot × TargetLayout :=
  if s.state ≠ .open then s.raise .invalidState "viewport target layout is not open"
  else if (s.targets.map Prod.fst).toFinset ≠ layout.slots.toFinset then
    s.raise .invalidConfiguration "replacement viewport slot set does not match active layout"
  else
    let opened := openTargetMap opening closing layout.placements [] s.desktop
    match opened.1 with
    | .error .cancelled => (.error .cancelled, { s with desktop := opened.2 }.fail closing)
    | .error _ => ({ s with desktop := opened.2 }.fail closing).raise .targetOpenFailure
        "replacement viewport target layout open failed"
    | .ok targets =>
        let closed := closeTargetMap closing s.targets opened.2
        let replaced := { s with layout := layout, targets := targets, desktop := closed.2 }
        if closed.1 then
          (replaced.fail closing).raise .cleanupFailure
            "prior viewport target layout cleanup failed"
        else replaced.ended

def present (logicalSlot : ℕ) (answer : PresentAnswer) (closing : ℕ → CloseAnswer) :
    Except LayoutRaised LayoutSnapshot × TargetLayout :=
  if s.state ≠ .open then s.raise .invalidState "viewport target layout is not open"
  else if logicalSlot ∉ s.targets.map Prod.fst then
    s.raise .unknownSlot "viewport logical slot is not open"
  else if s.maxPresentations ≤ s.presentations then
    (s.fail closing).raise .presentationFailure "viewport target layout presentation limit exceeded"
  else
    match answer with
    | .presented => { s with presentations := s.presentations + 1 }.ended
    | .deferred => (.error .deferred, s)
    | .cancelled => (.error .cancelled, s.fail closing)
    | .failed => (s.fail closing).raise .presentationFailure
        "viewport target layout presentation failed"

def close (closing : ℕ → CloseAnswer) : Except LayoutRaised LayoutSnapshot × TargetLayout :=
  if s.state = .closed then s.ended
  else
    let closed := s.closeTargets closing
    if closed.1 then
      { closed.2 with state := .failed }.raise .cleanupFailure
        "viewport target layout cleanup failed"
    else { closed.2 with state := .closed }.ended

inductive Event
  | open (opening : ℕ → OpenAnswer) (closing : ℕ → CloseAnswer)
  | relayout (layout : ViewportLayout) (opening : ℕ → OpenAnswer) (closing : ℕ → CloseAnswer)
  | present (logicalSlot : ℕ) (answer : PresentAnswer) (closing : ℕ → CloseAnswer)
  | close (closing : ℕ → CloseAnswer)

def step : Event → TargetLayout
  | .open opening closing => (s.open opening closing).2
  | .relayout layout opening closing => (s.relayout layout opening closing).2
  | .present logicalSlot answer closing => (s.present logicalSlot answer closing).2
  | .close closing => (s.close closing).2

def machine : Machine TargetLayout Event where
  step := step
  admissible _ _ := True

/-! ## What is seen -/

def slotOf (handle : ℕ) : Option ℕ := (s.targets.find? fun target => target.2 = handle).map Prod.fst

def seenAt (x y : ℤ) : Option ℕ :=
  (s.desktop.topmost x y).bind fun window => s.slotOf window.handle

/-- The keys of the placements, in the order in which their windows were created. -/
def createdKeys : List (ℤ ×ₗ ℕ) :=
  s.desktop.windows.filterMap fun window =>
    (s.slotOf window.handle).bind fun slot =>
      (s.layout.placements.zipIdx.find? fun candidate => candidate.1.logicalSlot = slot).map stackKey

end TargetLayout

end K5Vision.Viewport
