import K5Vision.Library.Pages
import Mathlib.Data.String.Basic

/-!
# The audit store

`OperatorAuditStore` of `operator_audit.py`: rows chained by digests behind a retention anchor.
A record checks the newest row, appends one and cuts the chain at its old end; a page of events
checks every row that it fetches.

The digest is a parameter, and so are the formats of identifiers, times and details.
-/

namespace K5Vision.Operator.Audit

open Library

/-! ## Events -/

def maxAuditRows : ℕ := 100000

def maxExportRows : ℕ := 10000

def actions : List String :=
  ["auth.login", "auth.logout", "auth.activate", "auth.mfa", "auth.sso", "camera.enroll",
    "camera.remove", "camera.reconnect", "camera.discover", "camera.probe",
    "recording.configure", "export.prepare", "export.completed", "export.download",
    "export.failed", "analytics.configure", "storage.configure", "time.configure",
    "time.resync", "time.camera.configure", "time.camera.sync", "integration.configure",
    "integration.test", "integration.connect", "integration.disconnect", "integration.create",
    "integration.update", "integration.delete", "integration.handshake",
    "integration.response", "integration.event", "security.configure", "security.access",
    "security.mfa.configure", "security.sso.configure", "security.mfa_enabled",
    "security.mfa_disabled", "security.mfa_recovery_replaced", "security.mfa_authenticated",
    "security.sso_configured", "security.sso_linked", "security.sso_unlinked",
    "security.sso_authenticated", "user.create", "user.configure", "user.camera_access",
    "user.reset_password", "role.configure", "role.remove", "audit.export", "system.change"]

def outcomes : List String := ["started", "success", "denied", "failure", "interrupted"]

def targetKinds : List String :=
  ["camera", "user", "export", "storage", "time", "integration", "security", "role", "session",
    "system", "site"]

def changeFields : List String :=
  ["display_name", "role", "enabled", "camera_access", "password", "mfa", "sso", "permissions",
    "name", "quota_bytes", "retention_seconds", "minimum_free_bytes", "recording_directory",
    "pending_recording_directory", "confidence_threshold", "ntp_sources", "ntp_enabled",
    "time_zone", "utc", "provider", "endpoint", "credentials", "capabilities", "configuration",
    "recording_enabled"]

/-- An event; `details` is its JSON text. -/
structure AuditEvent where
  id : ℕ
  occurredAt : String
  runId : String
  elapsedMs : ℕ
  requestId : String
  actorId : Option String
  action : String
  outcome : String
  targetKind : Option String
  targetId : Option String
  statusCode : Option ℕ
  changes : List String
  details : String
  deriving DecidableEq, Repr

structure Formats (δ : Type) where
  zero : δ
  digest : δ → AuditEvent → δ
  /-- `_identifier`: the canonical text, if it is one. -/
  identifier : String → Option String
  /-- `_utc` of an instant in microseconds. -/
  utc : ℤ → String
  /-- The texts that `_utc` gives back as they are. -/
  isUtc : String → Bool
  /-- The details that `_details` gives back as they are. -/
  isDetails : String → Bool

variable {δ : Type} [DecidableEq δ] (formats : Formats δ)

def validateEvent (event : AuditEvent) : Bool :=
  1 ≤ event.id && event.id < 2 ^ 63 && actions.contains event.action &&
    outcomes.contains event.outcome && event.targetKind.all targetKinds.contains &&
    event.elapsedMs < 2 ^ 63 && event.statusCode.all (fun code => 100 ≤ code && code ≤ 599) &&
    event.changes.length ≤ changeFields.length && event.changes.all changeFields.contains &&
    event.changes.Nodup &&
    event.actorId.all (fun id => formats.identifier id = some id) &&
    event.targetId.all (fun id => formats.identifier id = some id) &&
    formats.identifier event.runId = some event.runId &&
    formats.identifier event.requestId = some event.requestId &&
    formats.isUtc event.occurredAt && formats.isDetails event.details

/-! ## The store -/

structure AuditRow (δ : Type) where
  event : AuditEvent
  previousDigest : δ
  digest : δ

def AuditRow.id (row : AuditRow δ) : ℕ := row.event.id

/-- The two tables, and `_failed`. -/
structure AuditStore (δ : Type) where
  anchorId : ℕ
  anchorDigest : δ
  lastId : ℕ
  lastDigest : δ
  rows : List (AuditRow δ)
  failed : Bool

inductive AuditError
  | metadata
  | limit
  | cursor
  | filter
  | range
  | identifier
  | unavailable
  deriving DecidableEq, Repr

/-- `_state`. -/
def stateAdmitted (store : AuditStore δ) : Bool :=
  store.anchorId ≤ store.lastId && store.lastId < 2 ^ 63 &&
    store.lastId - store.anchorId ≤ maxAuditRows &&
    (store.lastId = 0 || store.lastId ≠ store.anchorId) &&
    (store.anchorId ≠ 0 || store.anchorDigest = formats.zero) &&
    (store.lastId ≠ 0 || store.lastDigest = formats.zero)

/-- One turn of `_verify_chain`. -/
def AuditRow.follows (previous : δ) (last : ℕ) (row : AuditRow δ) : Bool :=
  validateEvent formats row.event && row.id = last + 1 && row.previousDigest = previous &&
    row.digest = formats.digest previous row.event

/-- The chain from a digest and an id on, with its own end. -/
def chainFrom (previous : δ) (last : ℕ) : List (AuditRow δ) → Option (ℕ × δ)
  | [] => some (last, previous)
  | row :: rest =>
      if row.follows formats previous last then chainFrom row.digest row.id rest else none

/-- `_verify_chain`, when a store is opened. -/
def verifyChain (store : AuditStore δ) : Bool :=
  stateAdmitted formats store && store.rows.length ≤ maxAuditRows &&
    chainFrom formats store.anchorDigest store.anchorId store.rows =
      some (store.lastId, store.lastDigest)

def rowOf (rows : List (AuditRow δ)) (id : ℕ) : Option (AuditRow δ) :=
  rows.find? fun row => row.id = id

/-- The newest row is the one that the state tells of. -/
def tailAdmitted (store : AuditStore δ) : Bool :=
  store.lastId = 0 ||
    match rowOf store.rows store.lastId with
    | none => false
    | some tail => validateEvent formats tail.event && tail.digest = store.lastDigest &&
        tail.digest = formats.digest tail.previousDigest tail.event

/-- The end of `record`: the rows before the cutoff are deleted. -/
def prune (store : AuditStore δ) : Option (AuditStore δ) :=
  let cutoff := store.lastId - maxAuditRows
  if store.anchorId < cutoff then
    (rowOf store.rows cutoff).map fun anchor => { store with
      anchorId := cutoff
      anchorDigest := anchor.digest
      rows := store.rows.filter fun row => cutoff < row.id }
  else some store

/-- `write` in `record`. -/
def append (event : AuditEvent) (store : AuditStore δ) : Option (AuditStore δ) :=
  if !stateAdmitted formats store || !tailAdmitted formats store then none
  else
    let event := { event with id := store.lastId + 1 }
    let digest := formats.digest store.lastDigest event
    -- the id is bound to a 64-bit column, and is the primary key
    if 2 ^ 63 ≤ event.id || (rowOf store.rows event.id).isSome then none
    else prune { store with
      lastId := event.id
      lastDigest := digest
      rows := store.rows ++ [⟨event, store.lastDigest, digest⟩] }

/-- `record`, with a database that can fail; the event has the id 1 until it is appended. -/
def record (event : AuditEvent) (fault : Bool) (store : AuditStore δ) :
    Except AuditError ℕ × AuditStore δ :=
  if !validateEvent formats { event with id := 1 } then (.error .metadata, store)
  else if store.failed || fault then (.error .unavailable, { store with failed := true })
  else
    match append formats event store with
    | none => (.error .unavailable, { store with failed := true })
    | some appended => (.ok appended.lastId, appended)

/-! ## Pages of events -/

/-- The arguments of `events` that select rows. -/
structure AuditFilter where
  action : Option String
  outcome : Option String
  actorId : Option String
  targetId : Option String
  start : Option ℤ
  finish : Option ℤ
  deriving DecidableEq, Repr

def selects (wanted : Option String) (value : Option String) : Bool :=
  wanted.all fun text => value = some text

/-- The `WHERE` clauses but the cursor's. -/
def AuditFilter.matching (filter : AuditFilter) (row : AuditRow δ) : Bool :=
  selects filter.action (some row.event.action) &&
    selects filter.outcome (some row.event.outcome) &&
    selects (filter.actorId.bind formats.identifier) row.event.actorId &&
    selects (filter.targetId.bind formats.identifier) row.event.targetId &&
    filter.start.all (fun start => formats.utc start ≤ row.event.occurredAt) &&
    filter.finish.all (fun finish => row.event.occurredAt < formats.utc finish)

def AuditFilter.refused (filter : AuditFilter) : Option AuditError :=
  if !filter.action.all actions.contains || !filter.outcome.all outcomes.contains then
    some .filter
  else if filter.actorId.any (fun id => formats.identifier id = none) ||
      filter.targetId.any (fun id => formats.identifier id = none) then some .identifier
  else
    match filter.start, filter.finish with
    | none, none => none
    | some start, some finish => if finish ≤ start then some .range else none
    | _, _ => some .range

/-- A fetched row is intact, and chained to the row before it. -/
def rowIntact (store : AuditStore δ) (row : AuditRow δ) : Bool :=
  validateEvent formats row.event && row.digest = formats.digest row.previousDigest row.event &&
    if row.id = store.anchorId + 1 then row.previousDigest = store.anchorDigest
    else (rowOf store.rows (row.id - 1)).any fun prior => row.previousDigest = prior.digest

structure AuditPage where
  page : Page AuditEvent
  firstRetainedId : Option ℕ
  lastId : ℕ
  totalRows : ℕ
  loggingAvailable : Bool
  deriving DecidableEq, Repr

def readPage (filter : AuditFilter) (limit : ℕ) (before : Option ℕ) (store : AuditStore δ) :
    Option AuditPage :=
  if !stateAdmitted formats store || store.rows.length ≠ store.lastId - store.anchorId then none
  else
    let fetched := (found AuditRow.id store.rows (filter.matching formats) before).take (limit + 1)
    if fetched.all (rowIntact formats store) then some
      { page := (pageOf AuditRow.id store.rows (filter.matching formats) limit before).map
          AuditRow.event
        firstRetainedId := if store.lastId = 0 then none else some (store.anchorId + 1)
        lastId := store.lastId
        totalRows := store.lastId - store.anchorId
        loggingAvailable := !store.failed }
    else none

def events (filter : AuditFilter) (limit : ℕ) (before : Option ℕ) («export» : Bool)
    (store : AuditStore δ) : Except AuditError AuditPage × AuditStore δ :=
  if limit < 1 || (if «export» then maxExportRows else 100) < limit then (.error .limit, store)
  else if before.any (fun cursor => cursor < 1 || 2 ^ 63 ≤ cursor) then (.error .cursor, store)
  else
    match filter.refused formats with
    | some error => (.error error, store)
    | none =>
        match readPage formats filter limit before store with
        | none => (.error .unavailable, { store with failed := true })
        | some page => (.ok page, store)

end K5Vision.Operator.Audit
