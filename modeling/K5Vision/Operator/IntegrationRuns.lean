import K5Vision.Operator.IntegrationStore

/-!
# Runs of the integration store

The store at work: requests of operators and providers, the recorder that appends person events
beside it, and the two tasks that commit statement by statement, `capture_person_events` and
`pull`.  A task holds the lock of the store until it ends, so other requests wait for it; person
events have a lock of their own.  A statement of a task can fail, and the process can end at any
time and come up again.
-/

namespace K5Vision.Operator.Integrations

open PersonEvents

/-- An item that `pull` hands out. -/
structure Pulled where
  request : LabRequest
  observation : Observation
  sequence : ℕ
  attempt : ℕ
  replay : Bool
  deriving DecidableEq, Repr

inductive Task
  | idle
  /-- `capture_person_events` before the next connection. -/
  | choosing (connections : List Connection)
  /-- It has read events for a connection. -/
  | capturing (connection : Connection) (events : List PersonEvent)
      (connections : List Connection)
  /-- The first of the events is in the journal, and the cursor is still before it. -/
  | queued (connection : Connection) (event : PersonEvent) (events : List PersonEvent)
      (connections : List Connection)
  | pulling (connection : Connection) (rows : List Delivery) (limit : ℕ) (result : List Pulled)
  deriving DecidableEq, Repr

structure System where
  events : EventStore
  store : IntegrationStore
  known : List Camera
  clock : ℚ
  task : Task

/-- `connections` of `capture_person_events`. -/
def IntegrationStore.capturable (store : IntegrationStore) : List Connection :=
  store.connections.filter fun row => row.kind = .neural && row.enabled

/-- The observation of a pulled row, with its request. -/
def pulledOf (site : Site) (id : ConnectionId) (row : Delivery) : Pulled where
  request := labRequest site row.observation.observationId (partitionOf site id)
  observation := row.observation
  sequence := row.sequence
  attempt := row.attempt + 1
  replay := row.sent

namespace System

variable (site : Site) (system : System)

def knows (camera : Camera) : Bool := system.known.contains camera

/-- `MAX_PENDING` deliveries wait for a connection. -/
def full (id : ConnectionId) : Bool :=
  maxPending ≤ (system.store.deliveries.filter fun row => row.pending id).length

def wanted (connection : Connection) (camera : Camera) : Bool :=
  connection.grants.contains camera && system.knows camera

/-- A row of `pull` is passed over: its lease is not over, or its camera is not for the
connection. -/
def withheld (connection : Connection) (row : Delivery) : Bool :=
  system.clock < system.store.leases (connection.id, row.sequence) ||
    !system.wanted connection row.observation.sourceId

/-- The next statement of `capture_person_events` for a connection, with an event to come. -/
def captureEvent (connection : Connection) (event : PersonEvent) (events : List PersonEvent)
    (connections : List Connection) (skipped : ℕ) : System :=
  if system.wanted connection event.cameraId then
    if system.full connection.id then
      { system with
        store := system.store.mapRow connection.id fun row => { row with status := .capacity }
        task := .choosing connections }
    else
      match system.store.insertDelivery connection.id (recordedPersonObservation site event)
          skipped with
      | none => { system with task := .idle }
      | some inserted => { system with
          store := inserted.2
          task := .queued connection event events connections }
  else
    { system with
      store := system.store.moveCursor connection.id event.id
      task := .capturing connection events connections }

/-- The next row of `pull`; time passes before the lease is set. -/
def pullRow (connection : Connection) (row : Delivery) (rows : List Delivery) (limit : ℕ)
    (result : List Pulled) (elapsed : ℚ) : System :=
  if system.withheld connection row then
    { system with task := .pulling connection rows limit result }
  else
    let clock := system.clock + max 0 elapsed
    let result := result ++ [pulledOf site connection.id row]
    { system with
      store := system.store.lease connection.id row clock
      clock := clock
      task := if result.length = limit then .idle else .pulling connection rows limit result }

/-- The task goes on to its next commit. -/
def advance (skipped : ℕ) (elapsed : ℚ) : System :=
  match system.task with
  | .idle => system
  | .choosing [] => { system with task := .idle }
  | .choosing (connection :: connections) => { system with
      task := .capturing connection (eventsAfter connection.sourceCursor 50 system.events)
        connections }
  | .capturing _ [] connections => { system with task := .choosing connections }
  | .capturing connection (event :: events) connections =>
      system.captureEvent site connection event events connections skipped
  | .queued connection event events connections => { system with
      store := system.store.moveCursor connection.id event.id
      task := .capturing connection events connections }
  | .pulling _ [] _ _ => { system with task := .idle }
  | .pulling connection (row :: rows) limit result =>
      system.pullRow site connection row rows limit result elapsed

/-- `pull`, up to its first row. -/
def beginPull (id : ConnectionId) (token : String) (limit : ℕ) : System :=
  if limit < 1 || 20 < limit then system
  else
    match system.store.machineRow site id token .neural system.clock with
    | .error _ => system
    | .ok connection => { system with
        task := .pulling connection (system.store.pullable id) limit [] }

end System

inductive Event
  | configure (camera : Camera) (enabled : Bool) (confidence : ℚ)
  | record (frame : PersonFrame) (skipped : ℕ)
  | cameras (known : List Camera)
  | wait (elapsed : ℚ)
  | create (id : ConnectionId) (kind : Kind) (token : String) (enabled : Bool)
      (cameras : List Camera)
  | update (id : ConnectionId) (changes : IntegrationStore.ConnectionChanges)
  | delete (id : ConnectionId)
  | handshake (id : ConnectionId) (token : String) (versions : List String)
  | retry (id : ConnectionId)
  | ingest (id : ConnectionId) (token : String)
      (mapped : Except IntegrationError NormalizedEvent) (skipped : ℕ)
  | respond (id : ConnectionId) (token : String)
      (payload : Option IntegrationStore.ResponsePayload)
  | capture
  | pull (id : ConnectionId) (token : String) (limit : ℕ)
  | step (skipped : ℕ) (elapsed : ℚ)
  | fail
  /-- The process ends, and a new one opens the database. -/
  | crash

/-- A request of one transaction: what it does to the store. -/
def IntegrationStore.request (site : Site) (known : Camera → Bool) (clock : ℚ)
    (store : IntegrationStore) : Event → IntegrationStore
  | .create id kind token enabled cameras => (store.create site id kind token enabled cameras).2
  | .update id changes => (store.update site id changes).2
  | .delete id => (store.delete id).2
  | .handshake id token versions => (store.handshake site id token versions clock).2
  | .retry id => (store.retry id).2
  | .ingest id token mapped skipped => (store.ingest site id token mapped known skipped clock).2
  | .respond id token payload => (store.respond site id token payload known clock).2
  | _ => store

def System.step (site : Site) (system : System) : Event → System
  | .configure camera enabled confidence => { system with
      events := (PersonEvents.configure camera enabled confidence system.events).2 }
  | .record frame skipped => { system with
      events := (PersonEvents.record frame skipped system.events).2 }
  | .cameras known => { system with known := known }
  | .wait elapsed => { system with clock := system.clock + max 0 elapsed }
  | .step skipped elapsed => system.advance site skipped elapsed
  | .fail => { system with task := .idle }
  | .crash => { system with store := system.store.restarted, task := .idle }
  | event =>
      match system.task with
      | .idle =>
          match event with
          | .capture => { system with task := .choosing system.store.capturable }
          | .pull id token limit => system.beginPull site id token limit
          | _ => { system with
              store := system.store.request site system.knows system.clock event }
      | _ => system

end K5Vision.Operator.Integrations
