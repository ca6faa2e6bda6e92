import K5Vision.Library.Transactions
import K5Vision.Operator.PersonEvents

/-!
# The transactions of the person event store

The calls of `OperatorEventStore` as the statements that they execute on their connection, with
a fault at any of them, and the file of the store over closings, reopenings and a process that
ends in the middle of a transaction.

A `Ledger` has, beside the tables, the events that were ever appended.  No statement reads them;
they are written and rolled back with the tables.
-/

namespace K5Vision.Operator.PersonEvents

open Library Library.Transactions

/-- The tables, and all events that were appended to them, in their order. -/
structure Ledger where
  store : EventStore
  appended : List PersonEvent
  deriving DecidableEq, Repr

def Ledger.empty : Ledger := ⟨⟨[], [], 0⟩, []⟩

/-- Where a call can fail: at the admissions of the files, or at a statement. -/
inductive Stage
  | admission
  | beginning
  | selection
  | update
  | insertion
  | deletion
  | commit
  | readmission
  | rollback
  deriving DecidableEq, Repr

abbrev Faults := Stage → Option Fault

inductive CallError
  | refused (error : EventsError)
  | database
  deriving DecidableEq, Repr

abbrev EventsHandler := Handler (Connection Ledger) CallError

/-! ## The statements -/

def selectCamera (camera : Camera) (ledger : Ledger) : Option (Option CameraAnalytics × Ledger) :=
  some (ledger.store.cameras.find? fun row => row.cameraId = camera, ledger)

def updateFrameKey (frame : PersonFrame) (ledger : Ledger) : Option (Unit × Ledger) :=
  some ((), { ledger with store.cameras := ledger.store.cameras.map fun row =>
    if row.cameraId = frame.cameraId then { row with lastFrameKey := some frame.frameKey }
    else row })

/-- `INSERT OR IGNORE INTO person_events`; there is no identity behind the last one of 64 bits. -/
def insertInto (frame : PersonFrame) (skipped : ℕ) (ledger : Ledger) : Option (Bool × Ledger) :=
  if 2 ^ 63 ≤ ledger.store.lastId + 1 + skipped then none
  else
    let inserted := insertEvent frame skipped ledger.store
    some (inserted.1,
      ⟨inserted.2, ledger.appended ++ inserted.2.rows.drop ledger.store.rows.length⟩)

def deleteOldest (ledger : Ledger) : Option (Unit × Ledger) :=
  some ((), { ledger with store := pruneEvents ledger.store })

/-- `INSERT INTO camera_analytics … ON CONFLICT … DO UPDATE`. -/
def upsertCamera (camera : Camera) (enabled : Bool) (confidence : ℚ) (ledger : Ledger) :
    Option (Unit × Ledger) :=
  some ((), { ledger with store := (configure camera enabled confidence ledger.store).2 })

/-! ## The calls -/

/-- `write` of `record`. -/
def recordStatements (frame : PersonFrame) (skipped : ℕ) (faults : Faults) : EventsHandler Bool :=
  beginning .database (faults .beginning) >>= fun _ =>
  statement .database (faults .selection) (selectCamera frame.cameraId) >>= fun row =>
  match row with
  | none => commit .database (faults .commit) >>= fun _ => pure false
  | some settings =>
      if !settings.enabled || settings.lastFrameKey = some frame.frameKey then
        commit .database (faults .commit) >>= fun _ => pure false
      else
        statement .database (faults .update) (updateFrameKey frame) >>= fun _ =>
        if frame.emit && frame.personCount ≠ 0 then
          statement .database (faults .insertion) (insertInto frame skipped) >>= fun inserted =>
          statement .database (faults .deletion) deleteOldest >>= fun _ =>
          commit .database (faults .commit) >>= fun _ => pure inserted
        else commit .database (faults .commit) >>= fun _ => pure false

/-- `_execute`: whatever is raised, an open transaction is rolled back. -/
def execute {α : Type} (faults : Faults) (operation : EventsHandler α) : EventsHandler α :=
  Handler.recover
    (Handler.require (faults .admission).isNone .database >>= fun _ =>
      operation >>= fun result =>
      Handler.require (faults .readmission).isNone .database >>= fun _ => pure result)
    fun _ =>
      rollback .database (faults .rollback) >>= fun _ =>
      Handler.read fun _ => .error (.refused .unavailable)

/-- `settings`, with its defaults. -/
def settings (camera : Camera) (faults : Faults) : EventsHandler (Bool × ℚ) :=
  execute faults
    (statement .database (faults .selection) (selectCamera camera) >>= fun row =>
      pure (row.elim (false, 65 / 100) fun settings => (settings.enabled, settings.confidence)))

/-- `configure` behind its check; the settings are read again, with faults of their own. -/
def configureStatements (camera : Camera) (enabled : Bool) (confidence : ℚ)
    (faults reading : Faults) : EventsHandler (Bool × ℚ) :=
  execute faults
    (statement .database (faults .insertion) (upsertCamera camera enabled confidence))
    >>= fun _ => settings camera reading

/-! ## The file -/

/-- The file of the store; a file without tables is left where they could not be created. -/
inductive EventFile
  | absent
  | blank
  | closed (ledger : Ledger)
  | opened (connection : Connection Ledger)
  deriving DecidableEq, Repr

/-- How far `__init__` comes before it fails. -/
inductive OpenFault
  | before
  | creating
  | behind
  deriving DecidableEq, Repr

namespace EventFile

def stored : EventFile → Ledger
  | .absent => .empty
  | .blank => .empty
  | .closed ledger => ledger
  | .opened connection => connection.stored

/-- `close`, and the end of a process: an open transaction is gone. -/
def close : EventFile → EventFile
  | .opened connection => .closed connection.stored
  | file => file

/-- `__init__`; the settings of all cameras are checked again. -/
def «open» (fault : Option OpenFault) : EventFile → EventFile
  | .absent =>
      match fault with
      | none => .opened ⟨.empty, none⟩
      | some .before => .absent
      | some .creating => .blank
      | some .behind => .closed .empty
  | .closed ledger =>
      if fault.isNone && ledger.store.cameras.all fun row => settingsAdmitted row.confidence then
        .opened ⟨ledger, none⟩
      else .closed ledger
  | file => file

def record (frame : PersonFrame) (skipped : ℕ) (faults : Faults) (file : EventFile) :
    Except CallError Bool × EventFile :=
  if !frame.admitted then (.error (.refused .frame), file)
  else
    match file with
    | .opened connection =>
        let result := (execute faults (recordStatements frame skipped faults)).exec connection
        (result.1, .opened result.2)
    | file => (.error (.refused .unavailable), file)

def configure (camera : Camera) (enabled : Bool) (confidence : ℚ) (faults reading : Faults)
    (file : EventFile) : Except CallError (Bool × ℚ) × EventFile :=
  if !settingsAdmitted confidence then (.error (.refused .settings), file)
  else
    match file with
    | .opened connection =>
        let result := (configureStatements camera enabled confidence faults reading).exec connection
        (result.1, .opened result.2)
    | file => (.error (.refused .unavailable), file)

end EventFile

inductive EventsCall
  | record (frame : PersonFrame) (skipped : ℕ) (faults : Faults)
  | configure (camera : Camera) (enabled : Bool) (confidence : ℚ) (faults reading : Faults)
  | close
  | reopen (fault : Option OpenFault)

def EventFile.step (file : EventFile) : EventsCall → EventFile
  | .record frame skipped faults => (file.record frame skipped faults).2
  | .configure camera enabled confidence faults reading =>
      (file.configure camera enabled confidence faults reading).2
  | .close => file.close
  | .reopen fault => file.close.open fault

def EventFile.run (calls : List EventsCall) : EventFile := calls.foldl EventFile.step .absent

end K5Vision.Operator.PersonEvents
