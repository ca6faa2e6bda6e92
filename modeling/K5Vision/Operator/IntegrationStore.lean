import K5Vision.Operator.PersonEvents
import Mathlib.Logic.Function.Basic

/-!
# The integration store

`OperatorIntegrationStore` of `operator_integrations.py`: connections with their camera grants, a
journal of deliveries with leases and responses, and an inbox of received events.  Leases and
handshakes are in memory, the rest is in a database.

An operation of one transaction is one step.  `capture_person_events` and `pull` commit after
each statement, so they are tasks that go on step by step, under the store's lock; the process
can end between any two steps.
-/

namespace K5Vision.Operator.Integrations

open PersonEvents Library

def maxConnections : ℕ := 16
def maxPending : ℕ := 1000
def maxRetained : ℕ := 10000
def maxAttempts : ℕ := 8

def handshakeSeconds : ℚ := 60

/-- The text of a connection's identifier. -/
abbrev ConnectionId := String

inductive Kind
  | neural
  | analytics
  deriving DecidableEq, Repr

/-- `_STATUSES`. -/
inductive Status
  | disabled
  | awaitingProvider
  | ready
  | incompatible
  | unavailable
  | capacity
  | sourceClockAhead
  deriving DecidableEq, Repr

inductive IntegrationError
  | invalidRequest
  | unauthorized
  | notFound
  | capacity
  | cameraScopeRequired
  | handshakeRequired
  | cameraForbidden
  | incompatible
  | invalidEvent
  | timeInconsistent
  | sourceClockAhead
  | eventConflict
  | invalidResponse
  | correlationMismatch
  | responseConflict
  | unavailable
  deriving DecidableEq, Repr

/-! ## Documents -/

/-- An observation of a person event, as it is sent. -/
structure Observation where
  observationId : String
  sourceId : Camera
  observedAt : String
  confidence : ℚ
  personCount : ℕ
  evidenceRef : String
  deriving DecidableEq, Repr

/-- A request of the published contract, version 2. -/
structure LabRequest where
  contractVersion : String
  requestId : String
  partition : String
  recordId : String
  timeoutMs : ℕ
  deriving DecidableEq, Repr

/-- A response; `confidence` is the text of the number. -/
structure LabResponse where
  contractVersion : String
  requestId : String
  partition : String
  recordId : String
  status : String
  reasonCode : String
  operation : Option String
  confidence : Option String
  authorized : Bool
  deriving DecidableEq, Repr

/-- A received event; `body` is the text of its other fields. -/
structure NormalizedEvent where
  eventId : String
  sourceId : Camera
  observedAt : String
  ingestedAt : String
  processedAt : String
  body : String
  deriving DecidableEq, Repr

structure Site where
  siteId : String
  sha256 : String → String
  /-- `_confidence`, of the text of a number. -/
  isConfidence : String → Bool

/-- A character of `[A-Za-z0-9]`. -/
def isPlainChar (c : Char) : Bool := c.isAlpha || c.isDigit

def isTokenChar (c : Char) : Bool := isPlainChar c || c = '_' || c = '-'

def isToken (text : String) : Bool :=
  32 ≤ text.length && text.length ≤ 128 && text.toList.all isTokenChar

def isLabToken (text : String) : Bool :=
  1 ≤ text.length && text.length ≤ 64 && text.toList.head?.any isPlainChar &&
    text.toList.all isTokenChar

variable (site : Site)

def tokenDigest (token : String) : Option String :=
  if isToken token then some (site.sha256 token) else none

/-- The observation id of `recorded_person_observation`. -/
def observationIdOf (camera : Camera) (id : ℕ) : String :=
  site.sha256 (site.siteId ++ ":" ++ camera ++ ":" ++ toString id)

def recordedPersonObservation (event : PersonEvent) : Observation where
  observationId := observationIdOf site event.cameraId event.id
  sourceId := event.cameraId
  observedAt := event.occurredAt
  confidence := event.confidence
  personCount := event.personCount
  evidenceRef := "k5-recording:" ++ event.cameraId ++ ":" ++ event.occurredAt

def partitionOf (connection : ConnectionId) : String :=
  site.sha256 (site.siteId ++ ":" ++ connection)

def labRequest (observationId partition : String) : LabRequest where
  contractVersion := "2"
  requestId := site.sha256 (partition ++ ":" ++ observationId)
  partition := partition
  recordId := observationId
  timeoutMs := 3000

/-- The texts that `status` can be. -/
def labStatuses : List String :=
  ["abstain", "error", "incompatible", "recommendation", "unavailable"]

def labResponse (request : LabRequest) (response : LabResponse) :
    Except IntegrationError LabResponse :=
  if response.authorized then .error .invalidResponse
  else if response.contractVersion ≠ request.contractVersion ||
      response.requestId ≠ request.requestId || response.partition ≠ request.partition ||
      response.recordId ≠ request.recordId then .error .correlationMismatch
  else if !isLabToken response.reasonCode then .error .invalidResponse
  else if !labStatuses.contains response.status then .error .invalidResponse
  else if response.status = "recommendation" then
    if !response.operation.any isLabToken then .error .invalidResponse
    else if !response.confidence.any site.isConfidence then .error .invalidEvent
    else .ok response
  else if response.operation.isSome || response.confidence.isSome then .error .invalidResponse
  else .ok response

/-- `negotiate_k5_lab`, and the one version of analytics. -/
def negotiate (kind : Kind) (versions : List String) : Except IntegrationError Unit :=
  match kind with
  | .analytics => if versions = ["0.1"] then .ok () else .error .incompatible
  | .neural =>
      if versions.isEmpty || 8 < versions.length || !decide versions.Nodup then
        .error .incompatible
      else if !versions.all isLabToken then .error .invalidResponse
      else if versions.contains "2" then .ok ()
      else .error .incompatible

/-! ## The tables -/

structure Connection where
  id : ConnectionId
  kind : Kind
  tokenHash : String
  enabled : Bool
  grants : List Camera
  generation : ℕ
  status : Status
  sourceCursor : ℕ
  deriving DecidableEq, Repr

structure Delivery where
  sequence : ℕ
  connectionId : ConnectionId
  observation : Observation
  attempt : ℕ
  response : Option LabResponse
  sent : Bool
  deriving DecidableEq, Repr

structure ReceivedEvent where
  sequence : ℕ
  connectionId : ConnectionId
  payload : NormalizedEvent
  deriving DecidableEq, Repr

/-- A row that is not answered yet. -/
def Delivery.pending (delivery : Delivery) (id : ConnectionId) : Bool :=
  delivery.connectionId = id && delivery.response.isNone

/-- The fields of an event that a repeat has to agree in. -/
def NormalizedEvent.compared (event : NormalizedEvent) : String × Camera × String × String :=
  (event.eventId, event.sourceId, event.observedAt, event.body)

structure ShownEvent where
  sequence : ℕ
  payload : NormalizedEvent
  playbackAt : String
  deriving DecidableEq, Repr

def ReceivedEvent.shown (row : ReceivedEvent) : ShownEvent :=
  ⟨row.sequence, row.payload, row.payload.observedAt⟩

def retained {ρ : Type} (rows : List ρ) : List ρ := rows.drop (rows.length - maxRetained)

/-- The database, and the memory of the process. -/
structure IntegrationStore where
  connections : List Connection
  deliveries : List Delivery
  deliverySequence : ℕ
  received : List ReceivedEvent
  receivedSequence : ℕ
  handshakes : ConnectionId → ℚ
  leases : ConnectionId × ℕ → ℚ

/-- What a new process finds: the database. -/
def IntegrationStore.restarted (store : IntegrationStore) : IntegrationStore :=
  { store with handshakes := fun _ => 0, leases := fun _ => 0 }

namespace IntegrationStore

variable (store : IntegrationStore)

def row? (id : ConnectionId) : Option Connection :=
  store.connections.find? fun row => row.id = id

def mapRow (id : ConnectionId) (change : Connection → Connection) : IntegrationStore :=
  { store with connections := store.connections.map fun row =>
    if row.id = id then change row else row }

/-- `_handshakes.pop`, and the leases of a connection taken away. -/
def forget (id : ConnectionId) : IntegrationStore :=
  { store with
    handshakes := Function.update store.handshakes id 0
    leases := fun key => if key.1 = id then 0 else store.leases key }

def authenticate (id : ConnectionId) (token : String) (kind : Option Kind) :
    Except IntegrationError Connection :=
  match tokenDigest site token, store.row? id with
  | some digest, some row =>
      if !row.enabled || row.tokenHash ≠ digest || kind.any (fun kind => row.kind ≠ kind) then
        .error .unauthorized
      else .ok row
  | _, _ => .error .unauthorized

def machineRow (id : ConnectionId) (token : String) (kind : Kind) (clock : ℚ) :
    Except IntegrationError Connection :=
  match store.authenticate site id token (some kind) with
  | .error error => .error error
  | .ok row => if store.handshakes id ≤ clock then .error .handshakeRequired else .ok row

/-! ## Connections -/

def grantsAdmitted (cameras : List Camera) : Bool := cameras.length ≤ 64 && cameras.Nodup

/-- `create`, with a fresh identifier. -/
def create (id : ConnectionId) (kind : Kind) (token : String) (enabled : Bool)
    (cameras : List Camera) : Except IntegrationError Unit × IntegrationStore :=
  if !grantsAdmitted cameras then (.error .invalidRequest, store)
  else if enabled && cameras.isEmpty then (.error .cameraScopeRequired, store)
  else
    match tokenDigest site token with
    | none => (.error .invalidRequest, store)
    | some digest =>
        if maxConnections ≤ store.connections.length then (.error .capacity, store)
        else if (store.row? id).isSome then (.error .unavailable, store)
        else (.ok (), { store with connections := store.connections ++
          [⟨id, kind, digest, enabled, cameras, 1, .awaitingProvider, 0⟩] })

/-- The changes of `update`; `shown` is a name or an origin. -/
structure ConnectionChanges where
  token : Option String
  enabled : Option Bool
  cameras : Option (List Camera)
  shown : Bool
  deriving DecidableEq, Repr

def update (id : ConnectionId) (changes : ConnectionChanges) :
    Except IntegrationError Unit × IntegrationStore :=
  if changes.token.isNone && changes.enabled.isNone && changes.cameras.isNone && !changes.shown ||
      changes.token.any (fun token => (tokenDigest site token).isNone) ||
      !changes.cameras.all grantsAdmitted then (.error .invalidRequest, store)
  else
    match store.row? id with
    | none => (.error .notFound, store)
    | some row =>
        let grants := changes.cameras.getD row.grants
        if changes.enabled.getD row.enabled && grants.isEmpty then
          (.error .cameraScopeRequired, store)
        else
          let changed := store.mapRow id fun row => { row with
            tokenHash := (changes.token.bind (tokenDigest site)).getD row.tokenHash
            enabled := changes.enabled.getD row.enabled
            grants := grants
            generation := row.generation + 1
            status := .awaitingProvider }
          let deliveries := changed.deliveries.filter fun delivery =>
            !(delivery.pending id && !grants.contains delivery.observation.sourceId)
          (.ok (), { changed with deliveries := deliveries }.forget id)

def delete (id : ConnectionId) : Except IntegrationError Unit × IntegrationStore :=
  match store.row? id with
  | none => (.error .notFound, store)
  | some _ => (.ok (), { store with
      connections := store.connections.filter fun row => row.id ≠ id
      deliveries := store.deliveries.filter fun row => row.connectionId ≠ id
      received := store.received.filter fun row => row.connectionId ≠ id }.forget id)

def handshake (id : ConnectionId) (token : String) (versions : List String) (clock : ℚ) :
    Except IntegrationError Unit × IntegrationStore :=
  match store.authenticate site id token none with
  | .error error => (.error error, store)
  | .ok row =>
      match negotiate row.kind versions with
      | .ok () => (.ok (), { store.mapRow id fun row => { row with
            status := if row.status = .sourceClockAhead then row.status else .ready } with
          handshakes := Function.update store.handshakes id (clock + handshakeSeconds) })
      | .error error =>
          (.error error, { store.mapRow id fun row => { row with status := .incompatible } with
            handshakes := Function.update store.handshakes id 0 })

def retry (id : ConnectionId) : Except IntegrationError Unit × IntegrationStore :=
  match store.row? id with
  | none => (.error .notFound, store)
  | some _ =>
      let changed := store.mapRow id fun row => { row with status := .awaitingProvider }
      let deliveries := changed.deliveries.map fun delivery =>
        if delivery.pending id then { delivery with attempt := 0 } else delivery
      (.ok (), { changed with deliveries := deliveries }.forget id)

/-! ## Received events -/

/-- `ingest` of a mapped event. -/
def ingest (id : ConnectionId) (token : String) (mapped : Except IntegrationError NormalizedEvent)
    (known : Camera → Bool) (skipped : ℕ) (clock : ℚ) :
    Except IntegrationError Bool × IntegrationStore :=
  match store.machineRow site id token .analytics clock with
  | .error error => (.error error, store)
  | .ok row =>
      match mapped with
      | .error error =>
          (.error error, if error = .sourceClockAhead then
            store.mapRow id fun row => { row with status := .sourceClockAhead } else store)
      | .ok event =>
          if !row.grants.contains event.sourceId || !known event.sourceId then
            (.error .cameraForbidden, store)
          else
            match store.received.find? fun received =>
                received.connectionId = id && received.payload.eventId = event.eventId with
            | some existing =>
                if existing.payload.compared ≠ event.compared then (.error .eventConflict, store)
                else (.ok true, store)
            | none =>
                let sequence := store.receivedSequence + 1 + skipped
                if 2 ^ 63 ≤ sequence then (.error .unavailable, store)
                else (.ok false, { store.mapRow id fun row => { row with status := .ready } with
                  received := retained (store.received ++ [⟨sequence, id, event⟩])
                  receivedSequence := sequence })

/-- `events`: without a cursor, the pages begin below the largest number of 64 bits. -/
def events (camera : Camera) (limit : ℕ) (before : Option ℕ) :
    Except IntegrationError (Page ShownEvent) :=
  if limit < 1 || 100 < limit || before.any (fun cursor => cursor < 1) then .error .invalidRequest
  else if before.any (fun cursor => 2 ^ 63 ≤ cursor) then .error .unavailable
  else .ok ((pageOf ReceivedEvent.sequence store.received
    (fun row => row.payload.sourceId = camera) limit
    (some (before.getD (2 ^ 63 - 1)))).map ReceivedEvent.shown)

/-! ## Deliveries -/

/-- `INSERT OR IGNORE`, with the new sequence; a sequence is at most of 64 bits. -/
def insertDelivery (id : ConnectionId) (observation : Observation) (skipped : ℕ) :
    Option (Bool × IntegrationStore) :=
  let sequence := store.deliverySequence + 1 + skipped
  if 2 ^ 63 ≤ sequence then none
  else if store.deliveries.any fun row =>
      row.connectionId = id && row.observation.observationId = observation.observationId then
    some (false, { store with deliverySequence := store.deliverySequence + skipped })
  else some (true, { store with
    deliveries := store.deliveries ++ [⟨sequence, id, observation, 0, none, false⟩]
    deliverySequence := sequence })

/-- `UPDATE connections SET source_cursor`. -/
def moveCursor (id : ConnectionId) (event : ℕ) : IntegrationStore :=
  store.mapRow id fun row => { row with sourceCursor := event }

/-- The rows of `pull`. -/
def pullable (id : ConnectionId) : List Delivery :=
  (store.deliveries.filter fun row => row.pending id && row.attempt < maxAttempts).take 100

def leaseSeconds (attempt : ℕ) : ℚ := min 60 (2 ^ attempt)

/-- A row of `pull` that is handed out: the attempt is counted, and the lease set. -/
def lease (id : ConnectionId) (delivery : Delivery) (clock : ℚ) : IntegrationStore :=
  { store with
    deliveries := store.deliveries.map fun row =>
      if row.sequence = delivery.sequence then
        { row with attempt := delivery.attempt + 1, sent := true } else row
    leases := Function.update store.leases (id, delivery.sequence)
      (clock + leaseSeconds (delivery.attempt + 1)) }

/-- The payload of `respond`; a response has no other fields, a request may. -/
structure ResponsePayload where
  request : LabRequest
  exact : Bool
  response : Except IntegrationError LabResponse

/-- The end of `respond`: answered rows are retained among the newest ones. -/
def retainDeliveries (rows : List Delivery) : List Delivery :=
  rows.filter fun row => row.response.isNone || (retained rows).any fun kept =>
    kept.sequence = row.sequence

/-- The checks of `respond`: the row that is answered, and the text of the response.  A payload
that is no pair of a request and a response is `none`. -/
def answer (id : ConnectionId) (token : String) (payload : Option ResponsePayload)
    (known : Camera → Bool) (clock : ℚ) : Except IntegrationError (Delivery × LabResponse) :=
  match store.machineRow site id token .neural clock, payload with
  | .error error, _ => .error error
  | .ok _, none => .error .invalidResponse
  | .ok connection, some payload =>
      match store.deliveries.find? fun row =>
          row.connectionId = id && row.observation.observationId = payload.request.recordId with
      | none => .error .correlationMismatch
      | some row =>
          if row.attempt < 1 then .error .correlationMismatch
          else if !connection.grants.contains row.observation.sourceId ||
              !known row.observation.sourceId then .error .cameraForbidden
          else if !payload.exact || payload.request ≠
              labRequest site row.observation.observationId (partitionOf site id) then
            .error .correlationMismatch
          else
            match payload.response.bind (labResponse site payload.request) with
            | .error error => .error error
            | .ok body =>
                if row.response.any fun recorded => recorded ≠ body then .error .responseConflict
                else .ok (row, body)

/-- The transaction of `respond`. -/
def recordResponse (id : ConnectionId) (row : Delivery) (body : LabResponse) : IntegrationStore :=
  let answered := store.mapRow id fun row => { row with status := .ready }
  { answered with
    deliveries := retainDeliveries (answered.deliveries.map fun other =>
      if other.sequence = row.sequence then { other with response := some body } else other)
    leases := Function.update answered.leases (id, row.sequence) 0 }

/-- `respond`: whether the response is a duplicate. -/
def respond (id : ConnectionId) (token : String) (payload : Option ResponsePayload)
    (known : Camera → Bool) (clock : ℚ) : Except IntegrationError Bool × IntegrationStore :=
  match store.answer site id token payload known clock with
  | .error error => (.error error, store)
  | .ok (row, body) => (.ok row.response.isSome, store.recordResponse id row body)

end IntegrationStore

end K5Vision.Operator.Integrations
