import K5Vision.Library.Pages
import Mathlib.Algebra.Order.Ring.Rat

/-!
# The person events

`OperatorEventStore` of `operator_events.py`: the analytics settings of the cameras, and the
person events under append identities.  The events are read in pages by cameras, and from their
identities on by the integrations.
-/

namespace K5Vision.Operator.PersonEvents

open Library

def maxEventRows : ℕ := 100000

abbrev Camera := String

structure PersonEvent where
  id : ℕ
  cameraId : Camera
  occurredAt : String
  confidence : ℚ
  personCount : ℕ
  frameKey : String
  deriving DecidableEq, Repr

structure CameraAnalytics where
  cameraId : Camera
  enabled : Bool
  confidence : ℚ
  lastFrameKey : Option String
  deriving DecidableEq, Repr

/-- The two tables, and the sequence of the event identities. -/
structure EventStore where
  cameras : List CameraAnalytics
  rows : List PersonEvent
  lastId : ℕ
  deriving DecidableEq, Repr

inductive EventsError
  | settings
  | frame
  | limit
  | cursor
  | range
  | unavailable
  deriving DecidableEq, Repr

/-! ## Writing -/

/-- `_settings`. -/
def settingsAdmitted (confidence : ℚ) : Bool := 1 / 2 ≤ confidence && confidence ≤ 99 / 100

def configure (camera : Camera) (enabled : Bool) (confidence : ℚ) (store : EventStore) :
    Except EventsError Unit × EventStore :=
  if !settingsAdmitted confidence then (.error .settings, store)
  else if store.cameras.any fun row => row.cameraId = camera then
    (.ok (), { store with cameras := store.cameras.map fun row =>
      if row.cameraId = camera then { row with enabled := enabled, confidence := confidence }
      else row })
  else (.ok (), { store with cameras := store.cameras ++ [⟨camera, enabled, confidence, none⟩] })

/-- The arguments of `record`, behind their types. -/
structure PersonFrame where
  cameraId : Camera
  frameKey : String
  occurredAt : String
  confidence : ℚ
  personCount : ℕ
  emit : Bool
  deriving DecidableEq, Repr

def isFrameKey (key : String) : Bool :=
  key.length = 64 && key.toList.all "0123456789abcdef".toList.contains

/-- The checks of `record`. -/
def PersonFrame.admitted (frame : PersonFrame) : Bool :=
  isFrameKey frame.frameKey && 0 ≤ frame.confidence && frame.confidence ≤ 1 &&
    frame.personCount ≤ 32

/-- `INSERT OR IGNORE`.  `AUTOINCREMENT` gives an identity above all earlier ones, and may pass
over some. -/
def insertEvent (frame : PersonFrame) (skipped : ℕ) (store : EventStore) : Bool × EventStore :=
  if store.rows.any fun row => row.cameraId = frame.cameraId && row.frameKey = frame.frameKey then
    (false, { store with lastId := store.lastId + skipped })
  else
    (true, { store with
      rows := store.rows ++ [⟨store.lastId + 1 + skipped, frame.cameraId, frame.occurredAt,
        frame.confidence, frame.personCount, frame.frameKey⟩]
      lastId := store.lastId + 1 + skipped })

/-- The identity behind the newest rows that are retained. -/
def pruneLimit (store : EventStore) : ℕ :=
  match store.rows.reverse.drop maxEventRows with
  | [] => 0
  | row :: _ => row.id

def pruneEvents (store : EventStore) : EventStore :=
  { store with rows := store.rows.filter fun row => pruneLimit store < row.id }

/-- `record`; an identity is at most of 64 bits. -/
def record (frame : PersonFrame) (skipped : ℕ) (store : EventStore) :
    Except EventsError Bool × EventStore :=
  if !frame.admitted then (.error .frame, store)
  else
    match store.cameras.find? fun row => row.cameraId = frame.cameraId with
    | none => (.ok false, store)
    | some settings =>
        if !settings.enabled || settings.lastFrameKey = some frame.frameKey then
          (.ok false, store)
        else
          let seen := { store with cameras := store.cameras.map fun row =>
            if row.cameraId = frame.cameraId then { row with lastFrameKey := some frame.frameKey }
            else row }
          if frame.emit && frame.personCount ≠ 0 then
            if 2 ^ 63 ≤ store.lastId + 1 + skipped then (.error .unavailable, store)
            else
              let inserted := insertEvent frame skipped seen
              (.ok inserted.1, pruneEvents inserted.2)
          else (.ok false, seen)

/-! ## Reading -/

structure ShownEvent where
  id : ℕ
  cameraId : Camera
  occurredAt : String
  confidence : ℚ
  personCount : ℕ
  playbackAt : String
  deriving DecidableEq, Repr

def PersonEvent.shown (row : PersonEvent) : ShownEvent :=
  ⟨row.id, row.cameraId, row.occurredAt, row.confidence, row.personCount, row.occurredAt⟩

/-- The arguments of `events` that select rows, with the instants in microseconds. -/
structure EventFilter where
  cameraId : Camera
  start : Option ℤ
  finish : Option ℤ
  deriving DecidableEq, Repr

variable (utc : ℤ → String)

/-- The `WHERE` clauses but the cursor's; `utc` is `_utc`. -/
def EventFilter.matching (filter : EventFilter) (row : PersonEvent) : Bool :=
  row.cameraId = filter.cameraId &&
    filter.start.all (fun start => utc start ≤ row.occurredAt) &&
    filter.finish.all (fun finish => row.occurredAt < utc finish)

/-- A range has both ends, and at most a day between them. -/
def EventFilter.rangeAdmitted (filter : EventFilter) : Bool :=
  match filter.start, filter.finish with
  | none, none => true
  | some start, some finish =>
      0 < finish - start && finish - start ≤ 24 * 60 * 60 * 1000000
  | _, _ => false

/-- `events`; a cursor beyond 64 bits cannot be bound. -/
def events (filter : EventFilter) (limit : ℕ) (before : Option ℕ) (store : EventStore) :
    Except EventsError (Page ShownEvent) :=
  if limit < 1 || 100 < limit then .error .limit
  else if before.any (fun cursor => cursor < 1) then .error .cursor
  else if !filter.rangeAdmitted then .error .range
  else if before.any (fun cursor => 2 ^ 63 ≤ cursor) then .error .unavailable
  else .ok ((pageOf PersonEvent.id store.rows (filter.matching utc) limit before).map
    PersonEvent.shown)

/-- The rows that `capture_person_events` reads. -/
def eventsAfter (cursor limit : ℕ) (store : EventStore) : List PersonEvent :=
  (store.rows.filter fun row => cursor < row.id).take limit

end K5Vision.Operator.PersonEvents
