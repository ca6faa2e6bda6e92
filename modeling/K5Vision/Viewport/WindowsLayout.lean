import K5Vision.Library.Holdings
import K5Vision.Viewport.Editor

/-!
# Windows targets of a layout

`BoundedWindowsViewportLayout` of `media/windows_viewport_layout.py`: one positioned target for each
placement of a layout.  Targets come from a factory, and each of their operations can return or
raise: a failure, a cancellation, or the deferral of a minimized window.

The desk writes down which windows were opened, with the geometry of a target, and which were
closed.
-/

namespace K5Vision.Viewport.Windows

open Library Library.Holdings

/-- `WindowsViewportLayoutState` and `WindowsViewportRuntimeState`. -/
inductive WindowsState
  | ready
  | open
  | failed
  | closed
  deriving DecidableEq, Repr

inductive WindowsLayoutErrorCode
  | invalidConfiguration
  | invalidState
  | targetOpenFailure
  | unknownSlot
  | presentationFailure
  | cleanupFailure
  deriving DecidableEq, Repr

inductive WindowsRuntimeErrorCode
  | invalidConfiguration
  | invalidState
  | surfaceOpenFailure
  | layoutOpenFailure
  | relayoutFailure
  | unknownSlot
  | presentationLimit
  | presentationFailure
  | cleanupFailure
  deriving DecidableEq, Repr

inductive Raised
  /-- By an operation, or for an object of a factory that lacks operations. -/
  | failed
  | deferred
  | cancelled
  | layout (code : WindowsLayoutErrorCode) (message : String)
  | runtime (code : WindowsRuntimeErrorCode) (message : String)
  deriving DecidableEq, Repr

inductive Window
  | surface
  | target (geometry : ViewportGeometry)
  deriving DecidableEq

abbrev Handle := ℕ × Window

abbrev WindowsDesk := Desk Window Raised

abbrev SlotMap := List (ℕ × Handle)

def SlotMap.assign (slot : ℕ) (handle : Handle) (windows : SlotMap) : SlotMap :=
  if windows.any fun entry => entry.1 = slot then
    windows.map fun entry => if entry.1 = slot then (slot, handle) else entry
  else windows ++ [(slot, handle)]

def SlotMap.handles (windows : SlotMap) : List Handle := windows.map Prod.snd

structure WindowsLayout where
  layout : ViewportLayout
  state : WindowsState
  targets : SlotMap
  presentations : ℕ
  maxPresentations : ℕ
  deriving DecidableEq

def WindowsLayout.new (layout : ViewportLayout) (maxPresentations : ℕ) : WindowsLayout :=
  ⟨layout, .ready, [], 0, maxPresentations⟩

structure WindowsSnapshot where
  state : WindowsState
  count : ℕ
  openCount : ℕ
  presentations : ℕ
  deriving DecidableEq, Repr

def WindowsLayout.snapshot (object : WindowsLayout) : WindowsSnapshot :=
  ⟨object.state, object.layout.placements.length, object.targets.length, object.presentations⟩

/-! ## Maps of targets -/

/-- `_close_target_map`: the last one first. -/
def closeTargetMap (targets : SlotMap) : Handler WindowsDesk Raised Bool :=
  closeAll targets.handles.reverse

def abandon {α : Type} (targets : SlotMap) (error : Raised) : Handler WindowsDesk Raised α :=
  closeTargetMap targets >>= fun _ => Handler.raise error

/-- `_open_target_map`, behind some targets; its handler is inside the loop here. -/
def openTargetMap : List ViewportPlacement → SlotMap → Handler WindowsDesk Raised SlotMap
  | [], targets => pure targets
  | placement :: rest, targets =>
      make.recover (abandon targets) >>= fun id =>
      (openOne (id, .target placement.geometry)).recover
        (abandon (targets.assign placement.logicalSlot (id, .target placement.geometry)))
        >>= fun _ =>
      openTargetMap rest (targets.assign placement.logicalSlot (id, .target placement.geometry))

/-! ## The layout -/

/-- A layout object, and the desk of its windows. -/
structure LayoutWorld where
  desk : WindowsDesk
  object : WindowsLayout

abbrev LayoutHandler := Handler LayoutWorld Raised

namespace LayoutWorld

def onDesk {α : Type} (handler : Handler WindowsDesk Raised α) : LayoutHandler α :=
  Handler.zoom LayoutWorld.desk (fun desk world => { world with desk := desk }) handler

def self : LayoutHandler WindowsLayout := Handler.read fun world => .ok world.object

def change (update : WindowsLayout → WindowsLayout) : LayoutHandler PUnit :=
  modify fun world => { world with object := update world.object }

def setState (state : WindowsState) : LayoutHandler PUnit :=
  change fun object => { object with state := state }

def snapshot : LayoutHandler WindowsSnapshot :=
  Handler.read fun world => .ok world.object.snapshot

def closeTargets : LayoutHandler Bool :=
  self >>= fun object =>
  change (fun object => { object with targets := [] }) >>= fun _ =>
  onDesk (closeTargetMap object.targets)

/-- What is raised for a failure: a cancellation stays one. -/
def reported (code : WindowsLayoutErrorCode) (message : String) : Raised → Raised
  | .cancelled => .cancelled
  | _ => .layout code message

def «open» : LayoutHandler WindowsSnapshot :=
  self >>= fun object =>
  if object.state = .open then snapshot
  else if object.state ≠ .ready then
    Handler.raise (.layout .invalidState "viewport target layout cannot open from current state")
  else
    (onDesk (openTargetMap object.layout.placements [])).recover (fun error =>
      change (fun object => { object with targets := [], state := .failed }) >>= fun _ =>
      Handler.raise (reported .targetOpenFailure "viewport target layout open failed" error))
    >>= fun targets =>
    change (fun object => { object with targets := targets, state := .open }) >>= fun _ =>
    snapshot

def sameSlots (slots : List ℕ) (windows : SlotMap) : Bool :=
  slots.all (fun slot => (windows.map Prod.fst).contains slot) &&
    (windows.map Prod.fst).all fun slot => slots.contains slot

def relayout (layout : ViewportLayout) : LayoutHandler WindowsSnapshot :=
  self >>= fun object =>
  if object.state ≠ .open then
    Handler.raise (.layout .invalidState "viewport target layout is not open")
  else if !sameSlots layout.slots object.targets then
    Handler.raise (.layout .invalidConfiguration
      "replacement viewport slot set does not match active layout")
  else
    (onDesk (openTargetMap layout.placements [])).recover (fun error =>
      closeTargets >>= fun _ => setState .failed >>= fun _ =>
      Handler.raise
        (reported .targetOpenFailure "replacement viewport target layout open failed" error))
    >>= fun replacement =>
    change (fun object => { object with targets := replacement, layout := layout }) >>= fun _ =>
    onDesk (closeTargetMap object.targets) >>= fun failed =>
    if failed then
      closeTargets >>= fun _ => setState .failed >>= fun _ =>
      Handler.raise (.layout .cleanupFailure "prior viewport target layout cleanup failed")
    else snapshot

/-- `present`: a deferral passes through, anything else closes the targets. -/
def present (slot : ℕ) : LayoutHandler WindowsSnapshot :=
  self >>= fun object =>
  if object.state ≠ .open then
    Handler.raise (.layout .invalidState "viewport target layout is not open")
  else if (object.targets.lookup slot).isNone then
    Handler.raise (.layout .unknownSlot "viewport logical slot is not open")
  else if object.maxPresentations ≤ object.presentations then
    closeTargets >>= fun _ => setState .failed >>= fun _ =>
    Handler.raise (.layout .presentationFailure
      "viewport target layout presentation limit exceeded")
  else
    (onDesk ask).recover (fun error =>
      if error = .deferred then Handler.raise .deferred
      else
        closeTargets >>= fun _ => setState .failed >>= fun _ =>
        Handler.raise
          (reported .presentationFailure "viewport target layout presentation failed" error))
    >>= fun _ =>
    change (fun object => { object with presentations := object.presentations + 1 }) >>= fun _ =>
    snapshot

def close : LayoutHandler WindowsSnapshot :=
  self >>= fun object =>
  if object.state = .closed then snapshot
  else
    closeTargets >>= fun failed =>
    if failed then
      setState .failed >>= fun _ =>
      Handler.raise (.layout .cleanupFailure "viewport target layout cleanup failed")
    else setState .closed >>= fun _ => snapshot

end LayoutWorld

end K5Vision.Viewport.Windows
