import K5Vision.Viewport.WindowsLayout

/-!
# Windows surfaces of a runtime

`BoundedWindowsViewportRuntime` of `media/windows_viewport_runtime.py`: one surface for each slot
of a layout, and a `BoundedWindowsViewportLayout` of targets that they are shown on.  The layout
object is there for others too, who may call it between the calls of the runtime.
-/

namespace K5Vision.Viewport.Windows

open Library Library.Holdings

/-- A runtime, its layout object once it was made, and the desk of the windows of both. -/
structure WindowsRuntime where
  desk : WindowsDesk
  object : WindowsLayout
  made : Bool
  holding : Bool
  layout : ViewportLayout
  state : WindowsState
  surfaces : SlotMap
  presentations : ℕ
  maxPresentations : ℕ

abbrev RuntimeHandler := Handler WindowsRuntime Raised

/-- `__init__`; the layout object will have its own limit. -/
def WindowsRuntime.new (layout : ViewportLayout) (maxPresentations layoutLimit : ℕ) :
    WindowsRuntime :=
  ⟨⟨[], 0, [], [], []⟩, .new layout layoutLimit, false, false, layout, .ready, [], 0,
    maxPresentations⟩

namespace WindowsRuntime

def onDesk {α : Type} (handler : Handler WindowsDesk Raised α) : RuntimeHandler α :=
  Handler.zoom WindowsRuntime.desk (fun desk runtime => { runtime with desk := desk }) handler

def onLayout {α : Type} (handler : LayoutHandler α) : RuntimeHandler α :=
  Handler.zoom (fun runtime => ⟨runtime.desk, runtime.object⟩)
    (fun world runtime => { runtime with desk := world.desk, object := world.object }) handler

def self : RuntimeHandler WindowsRuntime := Handler.read .ok

def setState (state : WindowsState) : RuntimeHandler PUnit :=
  modify fun runtime => { runtime with state := state }

def snapshot : RuntimeHandler WindowsSnapshot :=
  Handler.read fun runtime => .ok ⟨runtime.state, runtime.layout.placements.length,
    runtime.surfaces.length, runtime.presentations⟩

/-- Close the layout object, if it is held. -/
def closeHeldLayout : RuntimeHandler Bool :=
  self >>= fun runtime =>
  modify (fun runtime => { runtime with holding := false }) >>= fun _ =>
  if runtime.holding then
    (onLayout LayoutWorld.close >>= fun _ => pure false).recover fun _ => pure true
  else pure false

def closeSurfaces : RuntimeHandler Bool :=
  self >>= fun runtime =>
  modify (fun runtime => { runtime with surfaces := [] }) >>= fun _ =>
  onDesk (closeAll runtime.surfaces.handles.reverse)

def closeResources : RuntimeHandler Bool :=
  closeHeldLayout >>= fun failed =>
  closeSurfaces >>= fun others => pure (failed || others)

/-- `_fail_closed`, and what is raised then. -/
def failClosed {α : Type} (raised : Raised) : RuntimeHandler α :=
  closeResources >>= fun _ => setState .failed >>= fun _ => Handler.raise raised

/-- What is raised for a failure: a cancellation stays one. -/
def reported (code : WindowsRuntimeErrorCode) (message : String) : Raised → Raised
  | .cancelled => .cancelled
  | _ => .runtime code message

def openSurface (slot : ℕ) : RuntimeHandler PUnit :=
  onDesk make >>= fun id =>
  modify (fun runtime => { runtime with surfaces := runtime.surfaces.assign slot (id, .surface) })
    >>= fun _ =>
  onDesk (openOne (id, .surface))

def openSurfaces : List ViewportPlacement → RuntimeHandler PUnit
  | [] => pure ⟨⟩
  | placement :: rest =>
      (openSurface placement.logicalSlot).recover (fun error =>
        failClosed
          (reported .surfaceOpenFailure "viewport runtime surface open failed" error))
        >>= fun _ => openSurfaces rest

def makeLayout : RuntimeHandler PUnit :=
  onDesk ask >>= fun _ =>
  modify fun runtime => { runtime with
    object := .new runtime.layout runtime.object.maxPresentations, made := true, holding := true }

def «open» : RuntimeHandler WindowsSnapshot :=
  self >>= fun runtime =>
  if runtime.state = .open then snapshot
  else if runtime.state ≠ .ready then
    Handler.raise (.runtime .invalidState "viewport runtime cannot open from current state")
  else
    openSurfaces runtime.layout.placements >>= fun _ =>
    (makeLayout >>= fun _ => onLayout LayoutWorld.open).recover (fun error =>
      failClosed
        (reported .layoutOpenFailure "viewport runtime target layout open failed" error))
    >>= fun _ => setState .open >>= fun _ => snapshot

def relayout (layout : ViewportLayout) : RuntimeHandler WindowsSnapshot :=
  self >>= fun runtime =>
  if runtime.state ≠ .open then
    Handler.raise (.runtime .invalidState "viewport runtime is not open")
  else if !LayoutWorld.sameSlots layout.slots runtime.surfaces then
    Handler.raise (.runtime .invalidConfiguration
      "replacement viewport runtime slot set does not match active layout")
  else if !runtime.holding then
    failClosed
      (.runtime .relayoutFailure "viewport runtime target layout cannot be replaced")
  else
    (onLayout (LayoutWorld.relayout layout)).recover (fun error =>
      failClosed (reported .relayoutFailure "viewport runtime relayout failed" error))
    >>= fun _ => modify (fun runtime => { runtime with layout := layout }) >>= fun _ => snapshot

def showFrame (slot : ℕ) : RuntimeHandler Bool :=
  onDesk ask >>= fun _ => onLayout (LayoutWorld.present slot) >>= fun _ => pure true

/-- `present`; behind a deferral it returns without a presentation. -/
def present (slot : ℕ) : RuntimeHandler WindowsSnapshot :=
  self >>= fun runtime =>
  if runtime.state ≠ .open then
    Handler.raise (.runtime .invalidState "viewport runtime is not open")
  else if (runtime.surfaces.lookup slot).isNone then
    Handler.raise (.runtime .unknownSlot "viewport runtime slot is not open")
  else if runtime.maxPresentations ≤ runtime.presentations then
    failClosed (.runtime .presentationLimit "viewport runtime presentation limit exceeded")
  else if !runtime.holding then
    failClosed
      (.runtime .presentationFailure "viewport runtime target layout is unavailable")
  else
    (showFrame slot).recover (fun error =>
      if error = .deferred then pure false
      else
        failClosed
          (reported .presentationFailure "viewport runtime presentation failed" error))
    >>= fun shown =>
    if shown then
      modify (fun runtime => { runtime with presentations := runtime.presentations + 1 })
        >>= fun _ => snapshot
    else snapshot

def close : RuntimeHandler WindowsSnapshot :=
  self >>= fun runtime =>
  if runtime.state = .closed then snapshot
  else
    closeResources >>= fun failed =>
    if failed then
      setState .failed >>= fun _ =>
      Handler.raise (.runtime .cleanupFailure "viewport runtime cleanup failed")
    else setState .closed >>= fun _ => snapshot

/-! ## Sequences of calls -/

inductive WindowsCall
  | open
  | relayout (layout : ViewportLayout)
  | present (slot : ℕ)
  | close
  deriving DecidableEq

def call : WindowsCall → RuntimeHandler WindowsSnapshot
  | .open => WindowsRuntime.open
  | .relayout layout => relayout layout
  | .present slot => present slot
  | .close => close

end WindowsRuntime

def LayoutWorld.call : WindowsRuntime.WindowsCall → LayoutHandler WindowsSnapshot
  | .open => LayoutWorld.open
  | .relayout layout => LayoutWorld.relayout layout
  | .present slot => LayoutWorld.present slot
  | .close => LayoutWorld.close

/-- A call of the runtime or of its layout object, and what its operations come to. -/
structure WindowsEvent where
  direct : Bool
  call : WindowsRuntime.WindowsCall
  answers : List (Option Raised)

/-- Nobody has the layout object before it is made. -/
def WindowsRuntime.step (runtime : WindowsRuntime) (event : WindowsEvent) : WindowsRuntime :=
  let asked := { runtime with desk := { runtime.desk with answers := event.answers } }
  if event.direct then
    if runtime.made then ((onLayout (LayoutWorld.call event.call)).exec asked).2 else runtime
  else ((WindowsRuntime.call event.call).exec asked).2

/-- A layout object on its own. -/
def LayoutWorld.step (world : LayoutWorld)
    (event : WindowsRuntime.WindowsCall × List (Option Raised)) : LayoutWorld :=
  ((LayoutWorld.call event.1).exec
    { world with desk := { world.desk with answers := event.2 } }).2

end K5Vision.Viewport.Windows
