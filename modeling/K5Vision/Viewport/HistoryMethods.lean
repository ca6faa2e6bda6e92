import K5Vision.Library.Handler
import K5Vision.Library.Machine
import K5Vision.Viewport.EditorHistory

/-!
# The methods of the history

The methods `apply`, `undo` and `redo` of `BoundedViewportEditorHistory` in
`media/viewport_editor_history.py`, one assignment after the other: what a method has changed before
it raises stays changed.  None has: on a history they do what `apply`, `takeBack` and `bringBack` do
as a whole (`exec_call`).
-/

namespace K5Vision.Viewport

open Library

/-! ## Methods -/

/-- The attributes of a `BoundedViewportEditorHistory`. -/
structure HistoryFields where
  layout : ViewportLayout
  maxHistory : ℕ
  maxOperations : ℕ
  operations : ℕ
  undo : List ViewportLayout
  redo : List ViewportLayout
  deriving DecidableEq

inductive MethodRaised
  | failure (failure : HistoryFailure)
  | validation
  deriving DecidableEq, Repr

abbrev HistoryMethod := Handler HistoryFields MethodRaised

namespace HistoryFields

/-- The constructor of `ViewportEditorHistorySnapshot`, with the bounds of its fields. -/
def snapshot (fields : HistoryFields) : Except MethodRaised ViewportHistorySnapshot :=
  if fields.undo.length ≤ maxHistoryBound ∧ fields.redo.length ≤ maxHistoryBound ∧
      fields.operations ≤ maxOperationsBound then
    .ok ⟨fields.layout, fields.undo.length, fields.redo.length, fields.operations⟩
  else .error .validation

def candidate (fields : HistoryFields) (edit : ViewportEdit) : Except MethodRaised ViewportLayout :=
  (applyViewportEdit fields.layout edit).mapError fun error => .failure (.editor error)

def undoCandidate (fields : HistoryFields) : Except MethodRaised ViewportLayout :=
  match fields.undo.getLast? with
  | none => .error (.failure (.history
      ⟨.nothingToUndo, "no viewport edit is available to undo"⟩))
  | some layout => .ok layout

def redoCandidate (fields : HistoryFields) : Except MethodRaised ViewportLayout :=
  match fields.redo.getLast? with
  | none => .error (.failure (.history
      ⟨.nothingToRedo, "no viewport edit is available to redo"⟩))
  | some layout => .ok layout

def ensureOperationAvailable : HistoryMethod Unit :=
  Handler.of fun fields =>
    (if fields.maxOperations ≤ fields.operations then
      .error (.failure (.history BoundedViewportEditorHistory.operationLimit))
    else .ok (), fields)

def consume : HistoryMethod Unit := do
  ensureOperationAvailable
  modify fun fields => { fields with operations := fields.operations + 1 }

def apply (edit : ViewportEdit) : HistoryMethod ViewportHistorySnapshot := do
  let candidate ← Handler.read fun fields => fields.candidate edit
  consume
  modify fun fields => { fields with undo := fields.undo ++ [fields.layout] }
  modify fun fields => { fields with
    undo := if fields.maxHistory < fields.undo.length then fields.undo.drop 1 else fields.undo }
  modify fun fields => { fields with layout := candidate }
  modify fun fields => { fields with redo := [] }
  Handler.read snapshot

def undoMethod : HistoryMethod ViewportHistorySnapshot := do
  let previous ← Handler.read undoCandidate
  consume
  modify fun fields => { fields with undo := fields.undo.dropLast }
  modify fun fields => { fields with redo := fields.redo ++ [fields.layout] }
  modify fun fields => { fields with layout := previous }
  Handler.read snapshot

def redoMethod : HistoryMethod ViewportHistorySnapshot := do
  let following ← Handler.read redoCandidate
  consume
  modify fun fields => { fields with redo := fields.redo.dropLast }
  modify fun fields => { fields with undo := fields.undo ++ [fields.layout] }
  modify fun fields => { fields with layout := following }
  Handler.read snapshot

end HistoryFields

inductive HistoryCall
  | apply (edit : ViewportEdit)
  | undo
  | redo
  deriving DecidableEq

def HistoryCall.method : HistoryCall → HistoryMethod ViewportHistorySnapshot
  | .apply edit => HistoryFields.apply edit
  | .undo => HistoryFields.undoMethod
  | .redo => HistoryFields.redoMethod

def historyMachine : Machine HistoryFields HistoryCall where
  step fields call := (call.method.exec fields).2
  admissible _ _ := True

/-! ## A method as a whole -/

namespace BoundedViewportEditorHistory

variable {history : BoundedViewportEditorHistory}

def fields (history : BoundedViewportEditorHistory) : HistoryFields where
  layout := history.layout
  maxHistory := history.maxHistory
  maxOperations := history.maxOperations
  operations := history.operations
  undo := history.undo
  redo := history.redo

def call (history : BoundedViewportEditorHistory) :
    HistoryCall → Except HistoryFailure BoundedViewportEditorHistory
  | .apply edit => history.apply edit
  | .undo => history.takeBack
  | .redo => history.bringBack

theorem snapshot_fields (history : BoundedViewportEditorHistory) :
    history.fields.snapshot = .ok history.snapshot :=
  if_pos history.snapshot_fits

/-! ### Steps of a method -/

section Steps

variable {α : Type} {fields : HistoryFields}

theorem exec_consume (rest : Unit → HistoryMethod α) :
    (HistoryFields.consume >>= rest).exec fields =
      if fields.operations < fields.maxOperations then
        (rest ()).exec { fields with operations := fields.operations + 1 }
      else (.error (.failure (.history operationLimit)), fields) := by
  have hconsume : HistoryFields.consume.exec fields =
      if fields.operations < fields.maxOperations then
        (.ok (), { fields with operations := fields.operations + 1 })
      else (.error (.failure (.history operationLimit)), fields) := by
    rw [HistoryFields.consume, Handler.exec_bind]
    simp only [HistoryFields.ensureOperationAvailable, Handler.exec_of]
    by_cases hleft : fields.operations < fields.maxOperations
    · rw [if_neg (Nat.not_le.mpr hleft), if_pos hleft]
      rfl
    · rw [if_pos (Nat.not_lt.mp hleft), if_neg hleft]
  rw [Handler.exec_bind, hconsume]
  by_cases hleft : fields.operations < fields.maxOperations
  · rw [if_pos hleft, if_pos hleft]
  · rw [if_neg hleft, if_neg hleft]

theorem exec_operation (rest : Unit → HistoryMethod α) :
    (HistoryFields.consume >>= rest).exec history.fields =
      if history.operations < history.maxOperations then
        (rest ()).exec { history.fields with operations := history.operations + 1 }
      else (.error (.failure (.history operationLimit)), history.fields) :=
  exec_consume rest

end Steps

def ended (fields : HistoryFields) : Except HistoryFailure BoundedViewportEditorHistory →
      Except MethodRaised ViewportHistorySnapshot × HistoryFields
  | .error failure => (.error (.failure failure), fields)
  | .ok history => (.ok history.snapshot, history.fields)

theorem exec_snapshot {fields : HistoryFields} (after : BoundedViewportEditorHistory)
    (h : fields = after.fields) :
    (Handler.read HistoryFields.snapshot).exec fields = (.ok after.snapshot, after.fields) := by
  subst h
  simp only [Handler.read, Handler.exec_of]
  rw [snapshot_fields]

theorem exec_apply (edit : ViewportEdit) :
    (HistoryFields.apply edit).exec history.fields = ended history.fields (history.apply edit) := by
  have hfound : history.fields.candidate edit =
      (applyViewportEdit history.layout edit).mapError fun error => .failure (.editor error) := rfl
  rw [HistoryFields.apply, Handler.exec_read_bind, hfound]
  unfold apply
  cases applyViewportEdit history.layout edit with
  | error error => rfl
  | ok candidate =>
      simp only [Except.mapError]
      rw [exec_operation]
      by_cases hleft : history.operations < history.maxOperations
      · rw [if_pos hleft, dif_pos hleft]
        simp only [Handler.exec_modify_bind]
        exact exec_snapshot _ rfl
      · rw [if_neg hleft, dif_neg hleft]
        rfl

theorem exec_undo :
    HistoryFields.undoMethod.exec history.fields = ended history.fields history.takeBack := by
  unfold takeBack
  split
  · next hlast =>
      rw [HistoryFields.undoMethod, Handler.exec_read_bind, HistoryFields.undoCandidate]
      rw [show history.fields.undo.getLast? = none from hlast]
      rfl
  next previous hlast =>
    rw [HistoryFields.undoMethod, Handler.exec_read_bind, HistoryFields.undoCandidate]
    rw [show history.fields.undo.getLast? = some previous from hlast]
    simp only
    rw [exec_operation]
    by_cases hleft : history.operations < history.maxOperations
    · rw [if_pos hleft, dif_pos hleft]
      simp only [Handler.exec_modify_bind]
      exact exec_snapshot _ rfl
    · rw [if_neg hleft, dif_neg hleft]
      rfl

theorem exec_redo :
    HistoryFields.redoMethod.exec history.fields = ended history.fields history.bringBack := by
  unfold bringBack
  split
  · next hlast =>
      rw [HistoryFields.redoMethod, Handler.exec_read_bind, HistoryFields.redoCandidate]
      rw [show history.fields.redo.getLast? = none from hlast]
      rfl
  next following hlast =>
    rw [HistoryFields.redoMethod, Handler.exec_read_bind, HistoryFields.redoCandidate]
    rw [show history.fields.redo.getLast? = some following from hlast]
    simp only
    rw [exec_operation]
    by_cases hleft : history.operations < history.maxOperations
    · rw [if_pos hleft, dif_pos hleft]
      simp only [Handler.exec_modify_bind]
      exact exec_snapshot _ rfl
    · rw [if_neg hleft, dif_neg hleft]
      rfl

theorem exec_call (call : HistoryCall) :
    call.method.exec history.fields = ended history.fields (history.call call) := by
  cases call with
  | apply edit => exact exec_apply edit
  | undo => exact exec_undo
  | redo => exact exec_redo

end BoundedViewportEditorHistory

end K5Vision.Viewport
