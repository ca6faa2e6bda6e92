import K5Vision.Viewport.EditorHistory
import K5Vision.Library.Machine

/-!
# The live control of an operator session

`media/windows_operator_control.py` and `media/windows_operator_history_control.py`: requests
and pointer gestures go into a queue of fixed capacity, and the session takes them out between
two pumps of its window.  The application is one that can `relayout`, as the one that the product
builds; how it answers, and how it ends, are arguments of the steps.

A session is followed from the moment when `application.start` has shown its first layout, with
requests of other tasks between any two steps, to the moment when `run` leaves its loop; of its
cleanup there is the `finally` clause, and the status that it aims at.
-/

namespace K5Vision.Viewport

open Library

/-! ## Pointer gestures -/

inductive WindowsPointerEventKind
  | down
  | move
  | up
  | cancel
  deriving DecidableEq, Repr

/-- The bounds of `WindowsPointerEvent`, or those of `_ProjectedWindowsPointerEvent`. -/
def pointFits (x y : ℤ) : Prop :=
  ((-32768 ≤ x ∧ x ≤ 32767) ∧ (-32768 ≤ y ∧ y ≤ 32767)) ∨
    ((0 ≤ x ∧ x ≤ 2000000) ∧ (0 ≤ y ∧ y ≤ 2000000))

instance (x y : ℤ) : Decidable (pointFits x y) := inferInstanceAs (Decidable (_ ∨ _))

structure WindowsPointerEvent where
  kind : WindowsPointerEventKind
  x : ℤ
  y : ℤ
  fits : pointFits x y

inductive PointerDragKind
  | move
  | resize
  deriving DecidableEq, Repr

@[ext] structure PointerDrag where
  logicalSlot : ℕ
  kind : PointerDragKind
  startX : ℤ
  startY : ℤ
  slot_le : logicalSlot ≤ maxSlot

instance : DecidableEq PointerDrag := fun _ _ => decidable_of_iff' _ PointerDrag.ext_iff

def resizeHandlePixels : ℤ := 16

def geometryContains (geometry : ViewportGeometry) (x y : ℤ) : Bool :=
  geometry.x ≤ x && x < geometry.x + geometry.width && geometry.y ≤ y &&
    y < geometry.y + geometry.height

/-- One turn of the loop of `_select_pointer_drag`: a placement is selected in the place of an
earlier one if it lies above it, and the later of two on one level is. -/
def selectPlacement (x y : ℤ) (selected : Option (ViewportPlacement × ℕ))
    (candidate : ViewportPlacement × ℕ) : Option (ViewportPlacement × ℕ) :=
  if !geometryContains candidate.1.geometry x y then selected
  else
    match selected with
    | none => some candidate
    | some current =>
        if current.1.geometry.zIndex < candidate.1.geometry.zIndex ∨
            current.1.geometry.zIndex = candidate.1.geometry.zIndex ∧ current.2 < candidate.2 then
          some candidate
        else some current

def selectPointerDrag (layout : ViewportLayout) (x y : ℤ) : Option PointerDrag :=
  match layout.placements.zipIdx.foldl (selectPlacement x y) none with
  | none => none
  | some (placement, _) =>
      let geometry := placement.geometry
      let handle := min resizeHandlePixels (max 1 (min geometry.width geometry.height / 4))
      let kind := if geometry.x + geometry.width - handle ≤ x ∧
          geometry.y + geometry.height - handle ≤ y then .resize else .move
      some ⟨placement.logicalSlot, kind, x, y, placement.slot_le⟩

/-- The edit that a drag asks for when it ends; `none` is a `ValidationError` of its model. -/
def PointerDrag.edit (drag : PointerDrag) (dx dy : ℤ) : Option ViewportEdit :=
  if h : editFits drag.logicalSlot dx dy then
    match drag.kind with
    | .move => some (.move ⟨drag.logicalSlot, dx, dy, h⟩)
    | .resize => some (.resize ⟨drag.logicalSlot, dx, dy, h⟩)
  else none

/-! ## The session -/

inductive WindowsOperatorControlErrorCode
  | invalidConfiguration
  | invalidState
  | invalidEdit
  | controlLimit
  | applicationFailure
  deriving DecidableEq, Repr

structure WindowsOperatorControlError where
  code : WindowsOperatorControlErrorCode
  message : String
  deriving DecidableEq, Repr

inductive Raised
  | control (error : WindowsOperatorControlError)
  /-- An error of the editor, of the history or of a model that nothing translates. -/
  | untranslated
  | application
  | cancelled
  deriving DecidableEq, Repr

inductive WindowsOperatorSessionState
  | ready
  | running
  | complete
  | userClosed
  | cancelled
  | failed
  | closed
  deriving DecidableEq, Repr

/-- A request in the queue.  An edit is marked when it comes from the pointer. -/
inductive ControlRequest
  | replace (layout : ViewportLayout)
  | relayout (layout : ViewportLayout)
  | edit (edit : ViewportEdit) (pointerOrigin : Bool)
  | stop
  | undo
  | redo
  deriving DecidableEq

/-- The arguments of the constructor, in the bounds that it checks.  `keepsHistory` tells
`BoundedHistoryWindowsOperatorControl` from `BoundedWindowsOperatorControl`. -/
structure ControlConfig where
  keepsHistory : Bool
  maxPendingControls : ℕ
  maxControlsPerCycle : ℕ
  maxViewportHistory : ℕ
  maxViewportHistoryOperations : ℕ
  pending_fits : 1 ≤ maxPendingControls ∧ maxPendingControls ≤ 64
  cycle_fits : 1 ≤ maxControlsPerCycle ∧ maxControlsPerCycle ≤ 16
  history_fits : 1 ≤ maxViewportHistory ∧ maxViewportHistory ≤ maxHistoryBound
  operations_fit :
    1 ≤ maxViewportHistoryOperations ∧ maxViewportHistoryOperations ≤ maxOperationsBound

structure ControlCounters where
  processedControls : ℕ
  replacements : ℕ
  relayouts : ℕ
  viewportEdits : ℕ
  interactionEdits : ℕ
  cancelledInteractions : ℕ
  stopRequests : ℕ
  undoRequests : ℕ
  redoRequests : ℕ
  historyRebases : ℕ
  deriving DecidableEq, Repr

inductive Phase
  /-- In `_process_controls`, with so many requests left for this cycle. -/
  | controls (left : ℕ)
  | pump
  deriving DecidableEq, Repr

/-- A session, with the layout that its application accepted last. -/
structure OperatorControl where
  status : WindowsOperatorSessionState
  phase : Phase
  controls : List ControlRequest
  activeLayout : ViewportLayout
  viewportHistory : Option BoundedViewportEditorHistory
  shown : ViewportLayout
  pointerDrag : Option PointerDrag
  counters : ControlCounters

/-- How a turn of the loop of `_process_controls` ends. -/
inductive Verdict
  | goOn
  | terminal (state : WindowsOperatorSessionState)
  | raised (raised : Raised)
  deriving DecidableEq, Repr

namespace OperatorControl

variable (config : ControlConfig) (control : OperatorControl)

def count (change : ControlCounters → ControlCounters) : OperatorControl :=
  { control with counters := change control.counters }

/-! ### Requests of other tasks -/

/-- `_enqueue`; the application is there as long as the session runs. -/
def enqueue (request : ControlRequest) : Except WindowsOperatorControlError OperatorControl :=
  if control.status ≠ .running then
    .error ⟨.invalidState, "operator control requires a running session"⟩
  else if config.maxPendingControls ≤ control.controls.length then
    .error ⟨.controlLimit, "operator control queue limit reached"⟩
  else .ok { control with controls := control.controls ++ [request] }

/-! ### Pointer events -/

/-- A gesture that is under way is cancelled. -/
def cancelInteraction : OperatorControl :=
  match control.pointerDrag with
  | none => control
  | some _ => { control.count (fun counters =>
      { counters with cancelledInteractions := counters.cancelledInteractions + 1 }) with
      pointerDrag := none }

/-- A drag has ended somewhere else than it began: its edit goes into the queue. -/
def releaseDrag (drag : PointerDrag) (dx dy : ℤ) : Verdict × OperatorControl :=
  match drag.edit dx dy with
  | none => (.raised .untranslated, control)
  | some edit =>
      match control.enqueue config (.edit edit true) with
      | .error error => (.raised (.control error), control)
      | .ok queued => (.goOn, queued)

/-- `_consume_pointer_events` for one event. -/
def consumePointerEvent (event : WindowsPointerEvent) : Verdict × OperatorControl :=
  match event.kind with
  | .cancel => (.goOn, control.cancelInteraction)
  | .down => (.goOn, { control.cancelInteraction with
      pointerDrag := selectPointerDrag control.activeLayout event.x event.y })
  | .move => (.goOn, control)
  | .up =>
      match control.pointerDrag with
      | none => (.goOn, control)
      | some drag =>
          let released := { control with pointerDrag := none }
          let dx := event.x - drag.startX
          let dy := event.y - drag.startY
          if dx = 0 ∧ dy = 0 then (.goOn, released) else released.releaseDrag config drag dx dy

def consumePointerEvents (control : OperatorControl) :
    List WindowsPointerEvent → Verdict × OperatorControl
  | [] => (.goOn, control)
  | event :: events =>
      match control.consumePointerEvent config event with
      | (.goOn, consumed) => consumed.consumePointerEvents events
      | ended => ended

/-! ### `_process_controls` without a history -/

def invalidEdit : Raised := .control ⟨.invalidEdit, "operator viewport edit is invalid"⟩

/-- What the application raises when it does not accept. -/
def refusal : Answer → Raised
  | .cancelled => .cancelled
  | _ => .application

/-- An edit that the editor refuses: from the pointer it cancels the gesture when its geometry is
invalid, else it is raised. -/
def refuseEdit (pointerOrigin : Bool) (error : ViewportEditorError) : Verdict × OperatorControl :=
  if pointerOrigin && error.code = .invalidEdit then
    (.goOn, control.count fun counters =>
      { counters with cancelledInteractions := counters.cancelledInteractions + 1 })
  else (.raised invalidEdit, control)

/-- The counters of an edit that was shown. -/
def countEdit (pointerOrigin : Bool) (counters : ControlCounters) : ControlCounters :=
  { counters with
    processedControls := counters.processedControls + 1
    relayouts := counters.relayouts + 1
    viewportEdits := counters.viewportEdits + 1
    interactionEdits := counters.interactionEdits + if pointerOrigin then 1 else 0 }

def countRelayout (counters : ControlCounters) : ControlCounters :=
  { counters with
    processedControls := counters.processedControls + 1
    relayouts := counters.relayouts + 1 }

def countReplacement (counters : ControlCounters) : ControlCounters :=
  { counters with
    processedControls := counters.processedControls + 1
    replacements := counters.replacements + 1 }

def processStop (answer : Answer) : Verdict × OperatorControl :=
  match answer with
  | .accepted => (.terminal .complete, control.count fun counters =>
      { counters with
        processedControls := counters.processedControls + 1
        stopRequests := counters.stopRequests + 1 })
  | answer => (.raised (refusal answer), control)

def display (layout : ViewportLayout) : OperatorControl :=
  { control with activeLayout := layout, shown := layout }

/-- One request in `BoundedWindowsOperatorControl._process_controls`. -/
def processRequest (request : ControlRequest) (answer : Answer) : Verdict × OperatorControl :=
  match request with
  | .stop => control.processStop answer
  | .edit edit pointerOrigin =>
      match applyViewportEdit control.activeLayout edit with
      | .error error => control.refuseEdit pointerOrigin error
      | .ok candidate =>
          match answer with
          | .accepted => (.goOn, (control.display candidate).count (countEdit pointerOrigin))
          | answer => (.raised (refusal answer), control)
  | .relayout layout =>
      match answer with
      | .accepted => (.goOn, (control.display layout).count countRelayout)
      | answer => (.raised (refusal answer), control)
  | .replace layout =>
      match answer with
      | .accepted => (.goOn, (control.display layout).count countReplacement)
      | answer => (.raised (refusal answer), control)
  | .undo | .redo =>
      (.raised (.control ⟨.applicationFailure, "operator layout request is invalid"⟩), control)

/-! ### `_process_controls` with a history -/

def ensureHistory : Except Raised BoundedViewportEditorHistory :=
  match control.viewportHistory with
  | some history => .ok history
  | none =>
      match Editing.create control.activeLayout config.maxViewportHistory
          config.maxViewportHistoryOperations with
      | .error _ => .error .untranslated
      | .ok editing => .ok editing.history

def raiseHistoryFailure : HistoryRaised → Raised
  | .cancelled => .cancelled
  | .editor _ => .untranslated
  | .control error =>
      match error.code with
      | .relayoutFailure =>
          .control ⟨.applicationFailure, "operator viewport relayout was rejected"⟩
      | .invalidConfiguration =>
          .control ⟨.applicationFailure, "operator viewport history boundary is invalid"⟩
      | .historyFailure =>
          .control ⟨.invalidEdit, "operator viewport history request is unavailable"⟩

def settle (change : ControlCounters → ControlCounters)
    (ended : Except HistoryRaised ViewportHistorySnapshot × Editing) : Verdict × OperatorControl :=
  let control := { control with
    viewportHistory := some ended.2.history
    shown := ended.2.shown }
  match ended.1 with
  | .error raised => (.raised (raiseHistoryFailure raised), control)
  | .ok accepted =>
      (.goOn, { control with activeLayout := accepted.layout }.count change)

/-- `_rebase_history`, behind an acceptance. -/
def rebaseHistory (history : BoundedViewportEditorHistory) (layout : ViewportLayout) :
    OperatorControl :=
  let rebased := (Editing.mk history control.shown).rebase layout
  { control.cancelInteraction with
    viewportHistory := some rebased.history
    shown := rebased.shown
    activeLayout := layout }.count fun counters =>
      { counters with historyRebases := counters.historyRebases + 1 }

/-- One request in `BoundedHistoryWindowsOperatorControl._process_controls`. -/
def processHistoryRequest (history : BoundedViewportEditorHistory) (request : ControlRequest)
    (answer : Answer) : Verdict × OperatorControl :=
  let editing : Editing := ⟨history, control.shown⟩
  match request with
  | .stop => control.processStop answer
  | .undo => control.settle (fun counters =>
      { countRelayout counters with undoRequests := counters.undoRequests + 1 })
      (editing.undo answer)
  | .redo => control.settle (fun counters =>
      { countRelayout counters with redoRequests := counters.redoRequests + 1 })
      (editing.redo answer)
  | .edit edit pointerOrigin =>
      match applyViewportEdit control.activeLayout edit with
      | .error error => control.refuseEdit pointerOrigin error
      | .ok _ => control.settle (countEdit pointerOrigin) (editing.apply edit answer)
  | .relayout layout =>
      match answer with
      | .accepted => (.goOn, (control.rebaseHistory history layout).count countRelayout)
      | answer => (.raised (refusal answer), control)
  | .replace layout =>
      match answer with
      | .accepted => (.goOn, (control.rebaseHistory history layout).count countReplacement)
      | answer => (.raised (refusal answer), control)

/-- One request, as the class of the session has it. -/
def process (request : ControlRequest) (answer : Answer) : Verdict × OperatorControl :=
  if config.keepsHistory then
    match control.ensureHistory config with
    | .error raised => (.raised raised, control)
    | .ok history =>
        { control with viewportHistory := some history }.processHistoryRequest history request
          answer
  else control.processRequest request answer

/-! ### The loop -/

/-- The status that a raising step leaves: `run` cleans up and ends. -/
def statusOf : Raised → WindowsOperatorSessionState
  | .cancelled => .cancelled
  | _ => .failed

/-- `run` leaves its loop; its `finally` cancels the gesture and empties the queue. -/
def finish (status : WindowsOperatorSessionState) : OperatorControl :=
  { control.cancelInteraction with status := status, controls := [] }

/-- The session behind a part of its loop: it goes on, or it ends. -/
def resume (next : OperatorControl → OperatorControl) : Verdict × OperatorControl → OperatorControl
  | (.goOn, control) => next control
  | (.terminal status, control) => control.finish status
  | (.raised raised, control) => control.finish (statusOf raised)

/-- One turn of the loop of `_process_controls`. -/
def advanceControls (left : ℕ) (answer : Answer) : OperatorControl :=
  match left, control.controls with
  | 0, _ => { control with phase := .pump }
  | _, [] => { control with phase := .pump }
  | left + 1, request :: rest =>
      let taken := { control with controls := rest, phase := .controls left }
      resume id (taken.process config request answer)

/-- What `pump` and the calls behind it find. -/
inductive Pumped
  /-- A batch of pointer events; the application goes on. -/
  | events (events : List WindowsPointerEvent)
  | closed
  /-- A batch of pointer events, and the application has ended. -/
  | ended (events : List WindowsPointerEvent) (completed : Bool)
  /-- `pump` or the drain raises, or the session has had its cycles. -/
  | failed
  /-- `pump`, the drain or the sleep is cancelled. -/
  | cancelled

/-- The rest of a cycle behind `_process_controls`. -/
def advancePump (pumped : Pumped) : OperatorControl :=
  match pumped with
  | .closed => control.finish .userClosed
  | .failed => control.finish .failed
  | .cancelled => control.finish .cancelled
  | .events events =>
      control.consumePointerEvents config events |> resume fun consumed =>
        { consumed with phase := .controls config.maxControlsPerCycle }
  | .ended events completed =>
      control.consumePointerEvents config events |> resume fun consumed =>
        consumed.finish (if completed then .complete else .failed)

inductive Event
  | request (request : ControlRequest)
  /-- The next turn of `_process_controls`, with the answer of the application. -/
  | control (answer : Answer)
  | pump (pumped : Pumped)

/-- The session goes on; a request that `_enqueue` refuses is raised to its caller. -/
def step : Event → OperatorControl
  | .request request => (control.enqueue config request).toOption.getD control
  | .control answer =>
      match control.status, control.phase with
      | .running, .controls left => control.advanceControls config left answer
      | _, _ => control
  | .pump pumped =>
      match control.status, control.phase with
      | .running, .pump => control.advancePump config pumped
      | _, _ => control

/-- A session whose application has shown its first layout; other tasks have made requests since
`run` began. -/
def started (layout : ViewportLayout) (controls : List ControlRequest) : OperatorControl where
  status := .running
  phase := .controls config.maxControlsPerCycle
  controls := controls
  activeLayout := layout
  viewportHistory := none
  shown := layout
  pointerDrag := none
  counters := ⟨0, 0, 0, 0, 0, 0, 0, 0, 0, 0⟩

/-- Sessions; only the pointer marks its edits. -/
def machine : Machine OperatorControl Event where
  step control event := control.step config event
  admissible _ event :=
    match event with
    | .request (.edit _ pointerOrigin) => pointerOrigin = false
    | _ => True

end OperatorControl

end K5Vision.Viewport
