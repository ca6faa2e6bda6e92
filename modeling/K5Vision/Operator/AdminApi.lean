import K5Vision.Operator.RolePolicy

/-!
# The administration routes

The mutating routes of `operator_admin_api.py` and `operator_role_policy_api.py`.
They run one at a time, under the `mutations` lock, each for the account of a
session: the account is authenticated again, its permission for the route and its
authority over what the request grants are checked, and then the registry and
the policy are called.

A request is done here when its work on the database and the policy is; the
response is built from reads, and sessions are revoked, behind that.
-/

namespace K5Vision.Operator

open Library Identity

/-! ## Requests -/

/-- `_CreateUser`. -/
structure CreateUserPayload where
  user : UserCreate
  cameraAccess : Option CameraAccess

/-- `_UpdateUser`. -/
structure UpdateUserPayload where
  displayName : Option DisplayName
  role : Option UserRole
  enabled : Option Bool
  cameraAccess : Option CameraAccess

/-- The `UserPatch` of the fields a payload gives. -/
def UpdateUserPayload.patch (payload : UpdateUserPayload) : Option UserPatch :=
  if h : payload.displayName.isSome ∨ payload.role.isSome ∨ payload.enabled.isSome then
    some ⟨payload.displayName, payload.role, payload.enabled, h⟩
  else none

/-- The mutating requests. -/
inductive AdminRequest
  | createUser (payload : CreateUserPayload)
  | updateUser (userId : Uuid) (payload : UpdateUserPayload)
  | setCameraAccess (userId : Uuid) (payload : CameraAccess)
  | resetPassword (userId : Uuid)
  | createRole (payload : RolePolicy.RolePayload)
  | updateRole (roleId : Uuid) (payload : RolePolicy.RolePayload) (expectedRevision : ℕ)
  | deleteRole (roleId : Uuid) (expectedRevision : ℕ)
  | assignRole (userId : Uuid) (roleProfileId : Option Uuid) (expectedRevision : Option ℕ)

/-! ## Errors -/

def registryError : ApiError → HttpError
  | .http error => error
  | .policy .lastAdministrator => ⟨409, PolicyErrorCode.lastAdministrator.text⟩
  | .policy .profileBound => ⟨409, PolicyErrorCode.profileBound.text⟩
  | .policy _ => ⟨503, "roles_unavailable"⟩
  | .registry (.lastAdministrator _) => ⟨409, "admin_last_administrator"⟩
  | .registry (.capacity _) => ⟨409, "admin_capacity"⟩
  | .registry (.conflict _) => ⟨409, "admin_username_exists"⟩
  | .registry (.value _) => ⟨422, "admin_invalid_request"⟩
  | .registry (.storage _) => ⟨503, "admin_unavailable"⟩
  | .registry .sqlite => ⟨503, "admin_unavailable"⟩
  | .invalid => ⟨422, "admin_invalid_request"⟩
  | .registry .overflow => ⟨500, "Internal Server Error"⟩
  | .os => ⟨500, "Internal Server Error"⟩

def roleFailure : ApiError → HttpError
  | .http error => error
  | .policy .unavailable => ⟨503, "roles_unavailable"⟩
  | .policy .notFound => ⟨404, PolicyErrorCode.notFound.text⟩
  | .policy .userNotFound => ⟨404, PolicyErrorCode.userNotFound.text⟩
  | .policy code => ⟨409, code.text⟩
  | .registry (.lastAdministrator _) => ⟨409, "roles_last_administrator"⟩
  | .registry (.value _) => ⟨422, "roles_invalid_request"⟩
  | .invalid => ⟨422, "roles_invalid_request"⟩
  | .registry .overflow => ⟨500, "Internal Server Error"⟩
  | .os => ⟨500, "Internal Server Error"⟩
  | .registry _ => ⟨503, "roles_unavailable"⟩

namespace RolePolicy

variable (policy : RolePolicy) (env : RequestEnvironment)

/-! ## Authority -/

def unauthorized : ApiError := .http ⟨401, "Unauthorized"⟩

def effectivePermissions (account : UserAccount) : Route (Finset Permission) := do
  let contents ← (policy.read env).translate fun _ => .http ⟨503, "roles_unavailable"⟩
  pure (contents.permissions account)

def requirePermission (account : UserAccount) (permission : Permission) : Route Unit := do
  let permissions ← policy.effectivePermissions env account
  Handler.require (decide (permission ∈ permissions))
    (.http ⟨403, "Insufficient operator permission"⟩)

def requireGrant (actor : UserAccount) (permissions : Finset Permission) : Route Unit := do
  let held ← policy.effectivePermissions env actor
  Handler.require (decide (permissions ⊆ held))
    (.http ⟨403, "Insufficient authority for requested account or role"⟩)

/-- `authenticate`, for a request that needs a permission. -/
def authenticate (principal : UserAccount) (permission : Permission) : Route UserAccount := do
  let current ← Handler.read fun state =>
    match policy.registry.get state.process.db principal.id with
    | none => .error unauthorized
    | some current => .ok current
  let status ← (policy.credentialStatus env current.id).translate fun _ =>
    .http ⟨503, "Operator identity unavailable"⟩
  Handler.require (current.enabled && current.role == principal.role && status == some .active)
    unauthorized
  policy.requirePermission env current permission
  pure current

def mutationAdmin (principal : UserAccount) : Route UserAccount := do
  Handler.require (!env.rateLimited) (.http ⟨429, "admin_rate_limit"⟩)
  let current ← policy.authenticate env principal .usersManage
  Handler.require (current.id == principal.id && current.role == .administrator)
    (.http ⟨403, "Insufficient user administration permission"⟩)
  pure current

def roleActor (principal : UserAccount) : Route UserAccount := do
  let current ← policy.authenticate env principal .rolesManage
  policy.requirePermission env current .rolesManage
  pure current

/-! ## Account routes -/

def target (userId : Uuid) : Route UserAccount :=
  Handler.read fun state =>
    match policy.registry.get state.process.db userId with
    | none => .error (.http ⟨404, "admin_user_not_found"⟩)
    | some account => .ok account

/-- `policy` of the account routes: an access to cameras that are known. -/
def cameraPolicy (value : Option CameraAccess) (role : UserRole) : Route CameraAccess :=
  Handler.read fun _ =>
    let access := value.getD ⟨if role = .administrator then .all else .selected, []⟩
    if role = .administrator ∧ access.mode ≠ .all then
      .error (.http ⟨422, "admin_invalid_request"⟩)
    else if !access.cameraIds.isEmpty && !env.devicesReadable then
      .error (.http ⟨503, "admin_unavailable"⟩)
    else if access.cameraIds.all env.cameraKnown then .ok access
    else .error (.http ⟨422, "admin_invalid_request"⟩)

/-- `users.get_camera_access` for an account. -/
def getCameraAccess (account : UserAccount) : Route CameraAccess :=
  Handler.read fun state =>
    (policy.registry.readCameraAccess account state.process.db).mapError .registry

/-- What a registry that answers `None` means to the account routes. -/
def requireFound {α : Type} (result : Option α) : Route Unit :=
  Handler.require result.isSome (.http ⟨404, "admin_user_not_found"⟩)

def defaultBootstrapTtlSeconds : ℤ := 900

variable (derive : DeriveCredential)

def createUser (principal : UserAccount) (payload : CreateUserPayload) : Route Unit := do
  let actor ← policy.mutationAdmin env principal
  policy.requireGrant env actor (basePermissions payload.user.role)
  let access ← cameraPolicy env payload.cameraAccess payload.user.role
  let _ ← callRegistry (policy.registry.createWithBootstrap env.call derive payload.user
    actor.username.1 defaultBootstrapTtlSeconds (some (.of access)))
  pure ()

def requestedAccess (account : UserAccount) (payload : UpdateUserPayload) :
    Route (Option CameraAccess) :=
  match payload.cameraAccess with
  | none => pure none
  | some access => do
      let admitted ← cameraPolicy env (some access) (payload.role.getD account.role)
      pure (some admitted)

/-- The grant a new role needs. -/
def requireRoleGrant (actor : UserAccount) (role : Option UserRole) : Route Unit :=
  match role with
  | none => pure ()
  | some role => policy.requireGrant env actor (basePermissions role)

def changedAccount (account : UserAccount) (payload : UpdateUserPayload) : UserAccount :=
  match payload.patch with
  | none => account
  | some patch => ⟨Registry.patched account.toUserCreate patch, account.id⟩

def writeUpdate (actor : UserAccount) (userId : Uuid) (payload : UpdateUserPayload)
    (access : Option CameraAccess) : Route Unit :=
  match payload.patch, access with
  | some patch, access => do
      let result ← callRegistry (policy.registry.update env.call userId patch actor.username.1
        (access.map .of))
      requireFound result
  | none, some access => do
      let _ ← callRegistry (policy.registry.setCameraAccess env.call userId (.of access)
        actor.username.1)
      pure ()
  | none, none => pure ()

def updateUser (principal : UserAccount) (userId : Uuid) (payload : UpdateUserPayload) :
    Route Unit := do
  let actor ← policy.mutationAdmin env principal
  let account ← policy.target userId
  let held ← policy.effectivePermissions env account
  policy.requireGrant env actor held
  policy.requireRoleGrant env actor payload.role
  let access ← requestedAccess env account payload
  let _ ← policy.getCameraAccess account
  policy.guardAccountChange env (changedAccount account payload) payload.role.isSome
  policy.writeUpdate env actor userId payload access

def setCameraAccess (principal : UserAccount) (userId : Uuid) (payload : CameraAccess) :
    Route Unit := do
  let actor ← policy.mutationAdmin env principal
  let account ← policy.target userId
  let held ← policy.effectivePermissions env account
  policy.requireGrant env actor held
  let access ← cameraPolicy env (some payload) account.role
  let _ ← policy.getCameraAccess account
  let _ ← callRegistry (policy.registry.setCameraAccess env.call userId (.of access)
    actor.username.1)
  pure ()

def resetPassword (principal : UserAccount) (userId : Uuid) : Route Unit := do
  let actor ← policy.mutationAdmin env principal
  let account ← policy.target userId
  let held ← policy.effectivePermissions env account
  policy.requireGrant env actor held
  let guarded ← policy.target userId
  policy.guardCredentialReset env guarded.id
  let result ← callRegistry (policy.registry.resetBootstrap env.call derive userId
    actor.username.1 defaultBootstrapTtlSeconds)
  requireFound result

/-! ## Role routes -/

def snapshotRole (roleId : Uuid) : Route (Option RoleProfile) := do
  let contents ← policy.read env
  pure (contents.profiles.find? roleId)

def existingRole (roleId : Uuid) : Route RoleProfile := do
  let previous ← policy.snapshotRole env roleId
  Handler.read fun _ =>
    match previous with
    | none => .error (.policy .notFound)
    | some previous => .ok previous

def createRole (principal : UserAccount) (payload : RolePayload) : Route Unit := do
  let current ← policy.roleActor env principal
  policy.requireGrant env current payload.permissions.toFinset
  let _ ← policy.upsert env payload none none
  pure ()

def updateRole (principal : UserAccount) (roleId : Uuid) (payload : RolePayload)
    (expectedRevision : ℕ) : Route Unit := do
  let current ← policy.roleActor env principal
  let previous ← policy.existingRole env roleId
  policy.requireGrant env current previous.permissions.toFinset
  policy.requireGrant env current payload.permissions.toFinset
  let _ ← policy.upsert env payload (some roleId) (some expectedRevision)
  pure ()

def deleteRole (principal : UserAccount) (roleId : Uuid) (expectedRevision : ℕ) : Route Unit := do
  let current ← policy.roleActor env principal
  let previous ← policy.existingRole env roleId
  policy.requireGrant env current previous.permissions.toFinset
  policy.delete env roleId expectedRevision

/-- The profile an assignment names, if it names one. -/
def assignedRole (roleProfileId : Option Uuid) : Route (Option RoleProfile) :=
  match roleProfileId with
  | none => do
      let _ ← policy.read env
      pure none
  | some roleId => do
      let profile ← policy.existingRole env roleId
      pure (some profile)

def assignedPermissions (target : UserAccount) : Option RoleProfile → Finset Permission
  | none => basePermissions target.role
  | some profile => profile.permissions.toFinset

/-- The second write of an assignment, on the account. -/
def alignRole (actor : UserAccount) (userId : Uuid) (replacement : UserAccount) : Route Unit := do
  let account ← policy.getUser userId
  if account.role ≠ replacement.role then do
    let _ ← callRegistry (policy.registry.update env.call userId
      ⟨none, some replacement.role, none, .inr (.inl rfl)⟩ actor.username.1 none)
    pure ()
  else pure ()

def assignRole (principal : UserAccount) (userId : Uuid) (roleProfileId : Option Uuid)
    (expectedRevision : Option ℕ) : Route Unit := do
  let current ← policy.roleActor env principal
  let target ← policy.getUser userId
  let held ← policy.effectivePermissions env target
  policy.requireGrant env current held
  let profile ← policy.assignedRole env roleProfileId
  policy.requireGrant env current (assignedPermissions target profile)
  let replacement ← policy.assign env userId roleProfileId expectedRevision
  policy.alignRole env current userId replacement

/-! ## Any request -/

/-- `require_admin`, the dependency of every route, as far as it looks at the
session. -/
def requireAdmin (principal : UserAccount) : Handler ProductState HttpError Unit :=
  Handler.require (principal.role == .administrator)
    ⟨403, "Insufficient camera administration permission"⟩

def handle (principal : UserAccount) (request : AdminRequest) :
    Handler ProductState HttpError Unit := do
  requireAdmin principal
  match request with
  | .createUser payload => (policy.createUser env derive principal payload).translate registryError
  | .updateUser userId payload =>
      (policy.updateUser env principal userId payload).translate registryError
  | .setCameraAccess userId payload =>
      (policy.setCameraAccess env principal userId payload).translate registryError
  | .resetPassword userId =>
      (policy.resetPassword env derive principal userId).translate registryError
  | .createRole payload => (policy.createRole env principal payload).translate roleFailure
  | .updateRole roleId payload expectedRevision =>
      (policy.updateRole env principal roleId payload expectedRevision).translate roleFailure
  | .deleteRole roleId expectedRevision =>
      (policy.deleteRole env principal roleId expectedRevision).translate roleFailure
  | .assignRole userId roleProfileId expectedRevision =>
      (policy.assignRole env principal userId roleProfileId expectedRevision).translate roleFailure

end RolePolicy

end K5Vision.Operator
