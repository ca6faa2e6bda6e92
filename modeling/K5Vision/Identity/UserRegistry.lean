import K5Vision.Identity.Users
import Mathlib.Data.List.Sort

/-!
# The user registry

`services/user_registry.py`: the operations of one `UserRegistry` on the
identity database and on the monotonic deadlines it keeps in memory.

A mutating operation is one immediate transaction.  Its body works on the
database of the transaction; when the body raises, or the commit fails, the
database is what it was before, but what the body did to the deadlines in memory
stays.  Where storage can fail is a parameter of the call, `Fault`, as are the
values drawn at random and the readings of the two clocks.
-/

namespace K5Vision.Identity

open Library

/-! ## What surrounds a call -/

inductive RegistryError
  | value (message : String)
  | overflow
  | capacity (message : String)
  | conflict (message : String)
  | lastAdministrator (message : String)
  | storage (message : String)
  /-- An `sqlite3.Error`, before the operation reports it. -/
  | sqlite
  deriving DecidableEq, Repr

/-- How an operation reports an `sqlite3.Error`. -/
def RegistryError.reported (message : String) : RegistryError → RegistryError
  | .sqlite => .storage message
  | error => error

/-- The storage failure a call meets: none, one before anything happened, one in
the `UPDATE` of `_bootstrap_eligible`, or one behind it up to the commit. -/
inductive Fault
  | none
  | begin
  | check
  | commit
  deriving DecidableEq, Repr

/-- The random values and the clock readings of a call. -/
structure CallEnvironment where
  fault : Fault
  newUserId : Uuid
  temporary : String
  salt : Salt
  /-- `datetime.now(UTC)` on entry. -/
  now : Instant
  /-- `datetime.now(UTC)` of a credential status. -/
  statusNow : Instant
  /-- `datetime.now(UTC)` of the audit rows. -/
  auditNow : ℕ → Instant
  /-- The readings of `monotonic()`, in their order. -/
  reconstructTick : Reading
  checkTick : Reading
  issueTick : Reading

abbrev DeriveCredential := String → Salt → Verifier

def maxUserCapacity : ℕ := 100000

def minBootstrapTtlSeconds : ℤ := 60

def maxBootstrapTtlSeconds : ℤ := 86400

/-- `UserRegistry`, as its constructor admits it. -/
structure Registry where
  siteId : String
  capacity : ℕ
  siteId_valid : isSiteId siteId = true
  capacity_mem : 1 ≤ capacity ∧ capacity ≤ maxUserCapacity

abbrev Deadlines := Uuid → Option (Verifier × ℚ)

/-- The database and the deadlines in the memory of one registry. -/
structure Process where
  db : Database
  deadlines : Deadlines

/-- An immediate transaction: its body, and what happens in memory behind the
commit. -/
def transaction {α : Type} (fault : Fault) (message : String)
    (body : Process → Except RegistryError α × Process)
    (afterCommit : α → Deadlines → Deadlines) (process : Process) :
    Except RegistryError α × Process :=
  if fault = .begin then (.error (.storage message), process)
  else
    match body process with
    | (.error error, after) => (.error (error.reported message), { after with db := process.db })
    | (.ok value, after) =>
        if fault = .commit then (.error (.storage message), { after with db := process.db })
        else (.ok value, { after with deadlines := afterCommit value after.deadlines })

/-- A body that works on the database alone. -/
def onDatabase {α : Type} (body : Database → Except RegistryError (α × Database))
    (process : Process) : Except RegistryError α × Process :=
  match body process.db with
  | .error error => (.error error, process)
  | .ok (value, db) => (.ok value, { process with db := db })

def validateActor (actor : String) : Except RegistryError String :=
  let normalized := strip actor
  if isActor normalized then .ok normalized
  else .error (.value "actor must be a bounded ASCII identifier")

def validateUsername (username : String) : Except RegistryError String :=
  let normalized := strip username
  if isUsername normalized then .ok normalized
  else .error (.value "username must be a bounded ASCII identifier")

namespace Registry

variable (registry : Registry) (env : CallEnvironment)

/-! ## Reading -/

def get (db : Database) (userId : Uuid) : Option UserAccount :=
  (db.users.find? (registry.siteId, userId)).map fun row => ⟨row, userId⟩

def userNamed (db : Database) (username : String) : Option UserAccount :=
  (db.users.rows.find? fun row =>
    row.1.1 == registry.siteId && sameNocase row.2.username.1 username).map
      fun row => ⟨row.2, row.1.2⟩

def userCount (db : Database) : ℕ := db.users.rows.countP fun row => row.1.1 == registry.siteId

/-- A row of `users` that is an enabled administrator with a password that does
not expire. -/
def isPasswordAdministrator (db : Database) (row : (String × Uuid) × UserCreate) : Bool :=
  row.2.role == .administrator && row.2.enabled &&
    match db.credentials.find? row.1 with
    | none => false
    | some credential =>
        credential.kind == .password && credential.scheme == credentialScheme &&
          credential.expiresAt.isNone

/-- `_other_administrator`, which `update` asks with a `COUNT(*)`. -/
def otherAdministrator (db : Database) (userId : Uuid) : Bool :=
  db.users.rows.any fun row =>
    row.1.1 == registry.siteId && row.1.2 != userId && isPasswordAdministrator db row

def list (db : Database) (offset limit : ℕ) : List UserAccount :=
  (((db.users.rows.filter fun row => row.1.1 == registry.siteId).drop offset).take limit).map
    fun row => ⟨row.2, row.1.2⟩

/-! ## Accounts -/

def appendAudit (db : Database) (userId : Uuid) (action : AuditAction) (actor : String)
    (changedFields : List AuditField) : Database :=
  let eventId := db.audit.length + 1
  { db with audit := db.audit ++
      [⟨eventId, registry.siteId, userId, action, actor, changedFields, env.auditNow eventId⟩] }

def insertUser (request : UserCreate) (actor : String) (db : Database) :
    Except RegistryError (UserAccount × Database) :=
  if (registry.userNamed db request.username.1).isSome then
    .error (.conflict "username already exists")
  else if registry.capacity ≤ registry.userCount db then
    .error (.capacity "user registry capacity reached")
  else
    match db.users.insert? (registry.siteId, env.newUserId) request with
    | none => .error .sqlite
    | some users =>
        .ok (⟨request, env.newUserId⟩,
          registry.appendAudit env { db with users := users } env.newUserId .created actor
            [.username, .displayName, .role, .enabled])

def insertCredentials (userId : Uuid) (row : CredentialRow) (db : Database) :
    Except RegistryError Database :=
  match db.credentials.insert? (registry.siteId, userId) row with
  | none => .error .sqlite
  | some credentials => .ok { db with credentials := credentials }

def create (request : UserCreate) (actor : String) (process : Process) :
    Except RegistryError UserAccount × Process :=
  match validateActor actor with
  | .error error => (.error error, process)
  | .ok actor =>
      transaction env.fault "user registry update failed"
        (onDatabase (registry.insertUser env request actor)) (fun _ deadlines => deadlines) process

def passwordRow (salt : Salt) (verifier : Verifier) : CredentialRow :=
  ⟨credentialScheme, .password, salt, verifier, none, none, none⟩

def bootstrapAdministratorBody (request : UserCreate) (verifier : Verifier) (db : Database) :
    Except RegistryError (UserAccount × Database) :=
  let actor := "local-admin-setup"
  if !db.users.rows.isEmpty || !db.credentials.rows.isEmpty || !db.audit.isEmpty then
    .error (.conflict "local administrator setup is closed")
  else
    match registry.insertUser env request actor db with
    | .error error => .error error
    | .ok (user, db) =>
        match registry.insertCredentials user.id (passwordRow env.salt verifier) db with
        | .error error => .error error
        | .ok db =>
            .ok (user, registry.appendAudit env db user.id .passwordInitialized actor
              [.credentialState])

def bootstrapAdministrator (derive : DeriveCredential) (request : UserCreate) (password : String)
    (process : Process) : Except RegistryError UserAccount × Process :=
  if request.role ≠ .administrator || !request.enabled then
    (.error (.value "local setup requires an enabled administrator"), process)
  else if password.length < 12 || 256 < password.length then
    (.error (.value "password must be between 12 and 256 characters"), process)
  else
    transaction env.fault "local administrator setup failed"
      (onDatabase (registry.bootstrapAdministratorBody env request (derive password env.salt)))
      (fun _ deadlines => deadlines) process

/-! ## Camera access -/

/-- The `access` argument: `camera_ids` with `none` for what is not a UUID. -/
structure CameraAccessRequest where
  mode : String
  cameraIds : List (Option Uuid)

def AccessMode.parse (mode : String) : Option AccessMode :=
  if mode == AccessMode.all.value then some .all
  else if mode == AccessMode.selected.value then some .selected
  else none

def sortByStr (cameras : List Uuid) : List Uuid := cameras.insertionSort fun a b => a.str ≤ b.str

def cameraAccessValue (role : UserRole) (access : CameraAccessRequest) :
    Except RegistryError CameraAccess :=
  match AccessMode.parse access.mode with
  | none => .error (.value "camera access selection is invalid")
  | some mode =>
      let cameras := access.cameraIds.reduceOption
      if 64 < access.cameraIds.length then
        .error (.value "camera access selection exceeds capacity")
      else if access.cameraIds.any Option.isNone then
        .error (.value "camera access selection is invalid")
      else if !decide cameras.Nodup || (mode == .all && !cameras.isEmpty) then
        .error (.value "camera access selection is invalid")
      else if role == .administrator && mode != .all then
        .error (.value "administrators require access to all cameras")
      else .ok ⟨mode, sortByStr cameras⟩

/-- An access as an `access` argument. -/
def CameraAccessRequest.of (access : CameraAccess) : CameraAccessRequest :=
  ⟨access.mode.value, access.cameraIds.map some⟩

def allCameras : CameraAccess := ⟨.all, []⟩

def readCameraAccess (user : UserAccount) (db : Database) : Except RegistryError CameraAccess :=
  match db.cameraAccess.find? (registry.siteId, user.id) with
  | none => .ok allCameras
  | some row =>
      if user.role = .administrator then .ok allCameras
      else
        match cameraAccessValue user.role (.of row) with
        | .error _ => .error (.storage "user camera access contains invalid state")
        | .ok access => .ok access

def writeCameraAccess (user : UserAccount) (access : CameraAccessRequest) (actor : String)
    (db : Database) : Except RegistryError (CameraAccess × Database) :=
  match cameraAccessValue user.role access with
  | .error error => .error error
  | .ok admitted =>
      match registry.readCameraAccess user db with
      | .error error => .error error
      | .ok previous =>
          let db := { db with
            cameraAccess := db.cameraAccess.upsert (registry.siteId, user.id) admitted }
          .ok (admitted,
            if admitted ≠ previous then
              registry.appendAudit env db user.id .cameraAccessUpdated actor [.cameraAccess]
            else db)

/-- A camera access written along with another change of its account. -/
def writeRequestedAccess (user : UserAccount) (access : Option CameraAccessRequest)
    (actor : String) (db : Database) : Except RegistryError Database :=
  match access with
  | none => .ok db
  | some access =>
      match registry.writeCameraAccess env user access actor db with
      | .error error => .error error
      | .ok (_, db) => .ok db

def setCameraAccessBody (userId : Uuid) (access : CameraAccessRequest) (actor : String)
    (db : Database) : Except RegistryError (Option CameraAccess × Database) :=
  match registry.get db userId with
  | none => .ok (none, db)
  | some user =>
      match registry.writeCameraAccess env user access actor db with
      | .error error => .error error
      | .ok (admitted, db) => .ok (some admitted, db)

def setCameraAccess (userId : Uuid) (access : CameraAccessRequest) (actor : String)
    (process : Process) : Except RegistryError (Option CameraAccess) × Process :=
  match validateActor actor with
  | .error error => (.error error, process)
  | .ok actor =>
      transaction env.fault "user camera access update failed"
        (onDatabase (registry.setCameraAccessBody env userId access actor))
        (fun _ deadlines => deadlines) process

/-! ## Bootstrap credentials -/

/-- A one-time credential as it is handed out. -/
structure BootstrapIssue where
  account : UserAccount
  temporary : String
  expiresAt : Instant
  deriving DecidableEq

def bootstrapRow (verifier : Verifier) (expires : Instant) : CredentialRow :=
  ⟨credentialScheme, .bootstrap, env.salt, verifier, some expires, some env.now, some env.now⟩

/-- `self._bootstrap_deadlines[user_id] = (verifier, monotonic() + ttl_seconds)`. -/
def startDeadline (userId : Uuid) (verifier : Verifier) (ttlSeconds : ℤ) (deadlines : Deadlines) :
    Deadlines :=
  Function.update deadlines userId (some (verifier, floatAdd env.issueTick.seconds ttlSeconds))

def createWithBootstrapBody (request : UserCreate) (actor : String) (verifier : Verifier)
    (expires : Instant) (access : Option CameraAccessRequest) (db : Database) :
    Except RegistryError (BootstrapIssue × Database) :=
  match registry.insertUser env request actor db with
  | .error error => .error error
  | .ok (user, db) =>
      match registry.writeRequestedAccess env user access actor db with
      | .error error => .error error
      | .ok db =>
          match registry.insertCredentials user.id (bootstrapRow env verifier expires) db with
          | .error error => .error error
          | .ok db =>
              .ok (⟨user, env.temporary, expires⟩,
                registry.appendAudit env db user.id .bootstrapIssued actor [.credentialState])

def createWithBootstrap (derive : DeriveCredential) (request : UserCreate) (actor : String)
    (ttlSeconds : ℤ) (access : Option CameraAccessRequest) (process : Process) :
    Except RegistryError BootstrapIssue × Process :=
  match validateActor actor with
  | .error error => (.error error, process)
  | .ok actor =>
      if ttlSeconds < minBootstrapTtlSeconds || maxBootstrapTtlSeconds < ttlSeconds then
        (.error (.value "ttl_seconds must be between 60 and 86400"), process)
      else
        let verifier := derive env.temporary env.salt
        match env.now.addSeconds ttlSeconds with
        | none => (.error .overflow, process)
        | some expires =>
            transaction env.fault "user registry update failed"
              (onDatabase
                (registry.createWithBootstrapBody env request actor verifier expires access))
              (fun issue => startDeadline env issue.account.id verifier ttlSeconds) process

/-- The deadline `_bootstrap_eligible` goes by, and whether it is reconstructed
from the wall clock. -/
def eligibilityDeadline (now expiry : Instant) (row : CredentialRow)
    (known : Option (Verifier × ℚ)) : ℚ × Bool :=
  match known with
  | some (verifier, deadline) =>
      if verifier = row.verifier then (deadline, false) else reconstructed
  | none => reconstructed
where
  /-- `monotonic() + max(0, remaining)`. -/
  reconstructed : ℚ × Bool :=
    let lifetime := match row.issuedAt with
      | none => (maxBootstrapTtlSeconds : ℚ)
      | some issued => expiry.secondsSince issued
    let remaining := min (min (expiry.secondsSince now) lifetime) maxBootstrapTtlSeconds
    (floatAdd env.reconstructTick.seconds (max 0 remaining), true)

/-- `issued`, or the later time of the last check. -/
def checkedAt (row : CredentialRow) : Option Instant := row.lastCheckedAt <|> row.issuedAt

def isExpired (now expiry : Instant) (row : CredentialRow) (known : Option (Verifier × ℚ)) : Bool :=
  let (deadline, reconstruct) := eligibilityDeadline env now expiry row known
  deadline ≤ env.checkTick.seconds ||
    (reconstruct && (expiry.1 ≤ now.1 || (checkedAt row).any fun checked => now.1 < checked.1))

/-- An `UPDATE` of `_bootstrap_eligible`, which names the verifier it has read. -/
def updateBootstrap (userId : Uuid) (verifier : Verifier) (f : CredentialRow → CredentialRow)
    (db : Database) : Database :=
  { db with credentials := db.credentials.modify (registry.siteId, userId) fun row =>
      if row.kind = .bootstrap ∧ row.verifier = verifier then f row else row }

def bootstrapEligible (updateFails : Bool) (now : Instant) (userId : Uuid) (row : CredentialRow)
    (process : Process) : Except RegistryError Bool × Process :=
  match row.expiresAt with
  | none => (.error (.storage "user credential registry contains invalid state"), process)
  | some expiry =>
      let known := process.deadlines userId
      let (deadline, reconstruct) := eligibilityDeadline env now expiry row known
      let deadlines :=
        if reconstruct then
          Function.update process.deadlines userId (some (row.verifier, deadline))
        else process.deadlines
      if updateFails then (.error .sqlite, { process with deadlines := deadlines })
      else if isExpired env now expiry row known then
        (.ok false,
          { db := registry.updateBootstrap userId row.verifier
              (fun row => { row with kind := .expiredBootstrap }) process.db
            deadlines := Function.update deadlines userId none })
      else
        let checked := match checkedAt row with
          | none => now
          | some checked => now.later checked
        (.ok true,
          { db := registry.updateBootstrap userId row.verifier
              (fun row => { row with lastCheckedAt := some checked }) process.db
            deadlines := deadlines })

inductive CredentialStatus
  | uninitialized
  | active
  | expired
  | pending
  deriving DecidableEq, Repr

/-- What `credential_status` makes of the row it has read. -/
def statusOfRow (updateFails : Bool) (userId : Uuid) (row : Option CredentialRow)
    (process : Process) : Except RegistryError CredentialStatus × Process :=
  match row with
  | none => (.ok .uninitialized, process)
  | some row =>
      if row.scheme ≠ credentialScheme then
        (.error (.storage "user credential registry contains invalid state"), process)
      else if row.kind = .password ∧ row.expiresAt = none then (.ok .active, process)
      else
        match row.kind with
        | .expiredBootstrap => (.ok .expired, process)
        | .bootstrap =>
            match registry.bootstrapEligible env updateFails env.statusNow userId row process with
            | (.error error, after) =>
                (.error (error.reported "user credential state is unavailable"), after)
            | (.ok eligible, after) => (.ok (if eligible then .pending else .expired), after)
        | .password =>
            (.error (.storage "user credential registry contains invalid state"), process)

/-- `credential_status` whose `SELECT` has read `seen`. -/
def credentialStatusOf (updateFails : Bool) (seen : Database) (userId : Uuid) (process : Process) :
    Except RegistryError (Option CredentialStatus) × Process :=
  match seen.users.find? (registry.siteId, userId) with
  | none => (.ok none, process)
  | some _ =>
      match registry.statusOfRow env updateFails userId
          (seen.credentials.find? (registry.siteId, userId)) process with
      | (.error error, after) => (.error error, after)
      | (.ok status, after) => (.ok (some status), after)

/-- `credential_status`.  Outside a transaction its `SELECT` and its `UPDATE` are
two statements, so `seen` can be an earlier state of the database. -/
def credentialStatus (seen : Database) (userId : Uuid) (process : Process) :
    Except RegistryError (Option CredentialStatus) × Process :=
  if env.fault = .begin then
    (.error (.storage "user credential state is unavailable"), process)
  else registry.credentialStatusOf env (env.fault ≠ .none) seen userId process

/-- The check of `reset_bootstrap` that another administrator remains. -/
def resetGuard (user : UserAccount) (process : Process) : Except RegistryError Unit × Process :=
  if user.enabled && user.role == .administrator then
    match registry.credentialStatusOf env (env.fault = .check) process.db user.id process with
    | (.error error, after) => (.error error, after)
    | (.ok status, after) =>
        if status = some .active && !registry.otherAdministrator after.db user.id then
          (.error (.lastAdministrator
            "Activate another enabled administrator before resetting this administrator"), after)
        else (.ok (), after)
  else (.ok (), process)

def resetBootstrapBody (userId : Uuid) (actor : String) (verifier : Verifier) (expires : Instant)
    (process : Process) : Except RegistryError (Option BootstrapIssue) × Process :=
  match registry.get process.db userId with
  | none => (.ok none, process)
  | some user =>
      match registry.resetGuard env user process with
      | (.error error, after) => (.error error, after)
      | (.ok (), after) =>
          let db := { after.db with
            credentials := after.db.credentials.upsert (registry.siteId, user.id)
              (bootstrapRow env verifier expires) }
          let db := registry.appendAudit env db user.id .passwordReset actor [.credentialState]
          (.ok (some ⟨user, env.temporary, expires⟩), { after with db := db })

def resetBootstrap (derive : DeriveCredential) (userId : Uuid) (actor : String) (ttlSeconds : ℤ)
    (process : Process) : Except RegistryError (Option BootstrapIssue) × Process :=
  match validateActor actor with
  | .error error => (.error error, process)
  | .ok actor =>
      if ttlSeconds < minBootstrapTtlSeconds || maxBootstrapTtlSeconds < ttlSeconds then
        (.error (.value "bootstrap credential lifetime is invalid"), process)
      else
        let verifier := derive env.temporary env.salt
        match env.now.addSeconds ttlSeconds with
        | none => (.error .overflow, process)
        | some expires =>
            transaction env.fault "password reset failed"
              (registry.resetBootstrapBody env userId actor verifier expires)
              (fun issue deadlines => match issue with
                | none => deadlines
                | some issue => startDeadline env issue.account.id verifier ttlSeconds deadlines)
              process

/-- The eligibility `activate_bootstrap_password` computes for the row it has
read. -/
def activationEligible (user : UserAccount) (row : CredentialRow) (process : Process) :
    Except RegistryError Bool × Process :=
  if row.scheme = credentialScheme ∧ row.kind = .bootstrap ∧ user.enabled then
    registry.bootstrapEligible env (env.fault = .check) env.now user.id row process
  else (.ok false, process)

def activateBody (derive : DeriveCredential) (username temporary newPassword actor : String)
    (process : Process) : Except RegistryError (Option UserAccount) × Process :=
  match registry.userNamed process.db username with
  | none => (.ok none, process)
  | some user =>
      match process.db.credentials.find? (registry.siteId, user.id) with
      | none => (.ok none, process)
      | some row =>
          match registry.activationEligible env user row process with
          | (.error error, after) => (.error error, after)
          | (.ok eligible, after) =>
              if !eligible || derive temporary row.salt ≠ row.verifier then (.ok none, after)
              else
                let db := { after.db with
                  credentials := after.db.credentials.modify (registry.siteId, user.id)
                    fun _ => passwordRow env.salt (derive newPassword env.salt) }
                let db := registry.appendAudit env db user.id .bootstrapConsumed actor
                  [.credentialState]
                (.ok (some user), { after with db := db })

def activateBootstrapPassword (derive : DeriveCredential)
    (username temporary newPassword actor : String) (process : Process) :
    Except RegistryError (Option UserAccount) × Process :=
  match validateUsername username with
  | .error error => (.error error, process)
  | .ok username =>
      match validateActor actor with
      | .error error => (.error error, process)
      | .ok actor =>
          if newPassword.length < 12 || 256 < newPassword.length then
            (.error (.value "new_password must be between 12 and 256 characters"), process)
          else if newPassword = temporary then
            (.error (.value "new_password must differ from the bootstrap credential"), process)
          else
            transaction env.fault "user registry update failed"
              (registry.activateBody env derive username temporary newPassword actor)
              (fun user deadlines => match user with
                | none => deadlines
                | some user => Function.update deadlines user.id none)
              process

/-! ## Updates -/

def patched (current : UserCreate) (patch : UserPatch) : UserCreate :=
  { current with
    displayName := patch.displayName.getD current.displayName
    role := patch.role.getD current.role
    enabled := patch.enabled.getD current.enabled }

/-- The fields in which two states of an account differ, in the order of `update`. -/
def changedFields (current updated : UserCreate) : List AuditField :=
  (if updated.displayName ≠ current.displayName then [.displayName] else []) ++
    (if updated.role ≠ current.role then [.role] else []) ++
    if updated.enabled ≠ current.enabled then [.enabled] else []

/-- The authority check of `update`. -/
def removesAdministrator (current updated : UserCreate) : Bool :=
  current.enabled && current.role == .administrator &&
    (!updated.enabled || updated.role != .administrator)

def updateAccess (current updated : UserCreate) (access : Option CameraAccessRequest) :
    Option CameraAccessRequest :=
  match access with
  | some access => some access
  | none =>
      if updated.role = .administrator ∧ current.role ≠ .administrator then some (.of allCameras)
      else none

/-- The account an update writes, with its audit; an update without a change
writes neither. -/
def writeAccount (userId : Uuid) (current updated : UserCreate) (actor : String) (db : Database) :
    Database :=
  let changed := changedFields current updated
  if changed = [] then db
  else
    registry.appendAudit env
      { db with users := db.users.modify (registry.siteId, userId) fun _ => updated }
      userId .updated actor changed

/-- The validation of the `camera_access` argument of `update`. -/
def checkAccess (role : UserRole) : Option CameraAccessRequest → Except RegistryError Unit
  | none => .ok ()
  | some access => (cameraAccessValue role access).map fun _ => ()

def updateBody (userId : Uuid) (patch : UserPatch) (actor : String)
    (access : Option CameraAccessRequest) (db : Database) :
    Except RegistryError (Option UserAccount × Database) :=
  match db.users.find? (registry.siteId, userId) with
  | none => .ok (none, db)
  | some current =>
      let updated := patched current patch
      match checkAccess updated.role access with
      | .error error => .error error
      | .ok () =>
          if removesAdministrator current updated && !registry.otherAdministrator db userId then
            .error (.lastAdministrator
              "Activate another enabled administrator before removing this administrator")
          else
            match registry.writeRequestedAccess env ⟨updated, userId⟩
                (updateAccess current updated access) actor
                (registry.writeAccount env userId current updated actor db) with
            | .error error => .error error
            | .ok db => .ok (some ⟨updated, userId⟩, db)

def update (userId : Uuid) (patch : UserPatch) (actor : String)
    (access : Option CameraAccessRequest) (process : Process) :
    Except RegistryError (Option UserAccount) × Process :=
  match validateActor actor with
  | .error error => (.error error, process)
  | .ok actor =>
      transaction env.fault "user registry update failed"
        (onDatabase (registry.updateBody env userId patch actor access))
        (fun _ deadlines => deadlines) process

end Registry

/-! ## One step -/

inductive Operation
  | create (request : UserCreate) (actor : String)
  | bootstrapAdministrator (request : UserCreate) (password : String)
  | createWithBootstrap (request : UserCreate) (actor : String) (ttlSeconds : ℤ)
      (access : Option Registry.CameraAccessRequest)
  | setCameraAccess (userId : Uuid) (access : Registry.CameraAccessRequest) (actor : String)
  | resetBootstrap (userId : Uuid) (actor : String) (ttlSeconds : ℤ)
  | credentialStatus (userId : Uuid)
  | activateBootstrapPassword (username temporary newPassword actor : String)
  | update (userId : Uuid) (patch : UserPatch) (actor : String)
      (access : Option Registry.CameraAccessRequest)

/-- What an operation returns; `nothing` is `None`. -/
inductive Reply
  | nothing
  | account (account : UserAccount)
  | issue (issue : Registry.BootstrapIssue)
  | access (access : CameraAccess)
  | status (status : Registry.CredentialStatus)
  deriving DecidableEq

/-- The reply of an operation that can return `None`. -/
def Reply.ofOption {α : Type} (reply : α → Reply) : Option α → Reply
  | none => .nothing
  | some a => reply a

def replied {α : Type} (reply : α → Reply) (result : Except RegistryError α × Process) :
    Except RegistryError Reply × Process := (result.1.map reply, result.2)

/-- One operation.  `seen` is what the `SELECT` of a credential status reads. -/
def Registry.perform (registry : Registry) (derive : DeriveCredential) (env : CallEnvironment)
    (seen : Database) (operation : Operation) (process : Process) :
    Except RegistryError Reply × Process :=
  match operation with
  | .create request actor => replied .account (registry.create env request actor process)
  | .bootstrapAdministrator request password =>
      replied .account (registry.bootstrapAdministrator env derive request password process)
  | .createWithBootstrap request actor ttlSeconds access =>
      replied .issue
        (registry.createWithBootstrap env derive request actor ttlSeconds access process)
  | .setCameraAccess userId access actor =>
      replied (.ofOption .access) (registry.setCameraAccess env userId access actor process)
  | .resetBootstrap userId actor ttlSeconds =>
      replied (.ofOption .issue)
        (registry.resetBootstrap env derive userId actor ttlSeconds process)
  | .credentialStatus userId =>
      replied (.ofOption .status) (registry.credentialStatus env seen userId process)
  | .activateBootstrapPassword username temporary newPassword actor =>
      replied (.ofOption .account)
        (registry.activateBootstrapPassword env derive username temporary newPassword actor
          process)
  | .update userId patch actor access =>
      replied (.ofOption .account) (registry.update env userId patch actor access process)

end K5Vision.Identity
