import K5Vision.Identity.UserRegistry
import K5Vision.Library.Handler
import Mathlib.Data.Finset.Lattice.Lemmas

/-!
# The operator role policy

`operator_role_policy.py`: role profiles that narrow what an account may do, the
users bound to them, and the mutations of this policy.  The policy is a file of
its own beside the identity database, read and validated at every use and
replaced as a whole.

A mutation of the policy asks, before it writes, whether a full administrator
remains, `_guard`.  The guard pages through the accounts and asks the registry
for credential states, so it works on the database as well.
-/

namespace K5Vision.Operator

open Library Identity

/-! ## Permissions -/

inductive Permission
  | camerasViewLive
  | camerasPlayback
  | camerasExport
  | camerasManage
  | recordingManage
  | analyticsManage
  | usersManage
  | rolesManage
  | storageManage
  | timeManage
  | integrationsManage
  | auditRead
  deriving DecidableEq, Repr

def Permission.value : Permission → String
  | .camerasViewLive => "cameras.view_live"
  | .camerasPlayback => "cameras.playback"
  | .camerasExport => "cameras.export"
  | .camerasManage => "cameras.manage"
  | .recordingManage => "recording.manage"
  | .analyticsManage => "analytics.manage"
  | .usersManage => "users.manage"
  | .rolesManage => "roles.manage"
  | .storageManage => "storage.manage"
  | .timeManage => "time.manage"
  | .integrationsManage => "integrations.manage"
  | .auditRead => "audit.read"

/-- `PERMISSIONS`. -/
def allPermissions : Finset Permission :=
  {.camerasViewLive, .camerasPlayback, .camerasExport, .camerasManage, .recordingManage,
    .analyticsManage, .usersManage, .rolesManage, .storageManage, .timeManage,
    .integrationsManage, .auditRead}

def basePermissions : UserRole → Finset Permission
  | .viewer => {.camerasViewLive, .camerasPlayback}
  | .operator => {.camerasViewLive, .camerasPlayback, .camerasExport}
  | .administrator => allPermissions

/-! ## The state of the policy -/

structure RoleProfile where
  id : Uuid
  name : String
  description : String
  baseRole : UserRole
  permissions : List Permission
  deriving DecidableEq

/-- The contents of `role-profiles.json`. -/
structure PolicyState where
  revision : ℕ
  profiles : Table Uuid RoleProfile
  bindings : Table Uuid Uuid
  deriving DecidableEq

def maxProfiles : ℕ := 128

def maxBindings : ℕ := 100000

def PolicyState.permissions (state : PolicyState) (account : UserAccount) : Finset Permission :=
  match (state.bindings.find? account.id).bind state.profiles.find? with
  | none => basePermissions account.role
  | some profile => basePermissions account.role ∩ profile.permissions.toFinset

def PolicyState.fullAdministrator (state : PolicyState) (account : UserAccount) : Bool :=
  account.enabled && account.role == .administrator &&
    decide (allPermissions ⊆ state.permissions account)

/-- `sorted(permissions)`. -/
def sortPermissions (permissions : List Permission) : List Permission :=
  permissions.insertionSort fun a b => a.value ≤ b.value

/-- `_profile`; `none` is its `ValueError`. -/
def RoleProfile.admitted (profile : RoleProfile) : Option RoleProfile :=
  let name := strip profile.name
  if name.length < 1 || 64 < name.length || 256 < profile.description.length ||
      (profile.name.toList ++ profile.description.toList).any fun c => c.toNat < 32 then none
  else if !decide profile.permissions.Nodup ||
      !decide (profile.permissions.toFinset ⊆ basePermissions profile.baseRole) then none
  else some { profile with name := name, permissions := sortPermissions profile.permissions }

inductive PolicyErrorCode
  | unavailable
  | lastAdministrator
  | profileBound
  | revisionConflict
  | capacity
  | baseImmutable
  | nameExists
  | userNotFound
  | notFound
  | inUse
  deriving DecidableEq, Repr

def PolicyErrorCode.text : PolicyErrorCode → String
  | .unavailable => "roles_unavailable"
  | .lastAdministrator => "roles_last_administrator"
  | .profileBound => "roles_profile_bound"
  | .revisionConflict => "roles_revision_conflict"
  | .capacity => "roles_capacity"
  | .baseImmutable => "roles_base_immutable"
  | .nameExists => "roles_name_exists"
  | .userNotFound => "roles_user_not_found"
  | .notFound => "roles_not_found"
  | .inUse => "roles_in_use"

structure HttpError where
  status : ℕ
  detail : String
  deriving DecidableEq, Repr

inductive ApiError
  | http (error : HttpError)
  | policy (code : PolicyErrorCode)
  | registry (error : RegistryError)
  | invalid
  | os
  deriving DecidableEq, Repr

/-- The identity database with the memory of its registry, and the policy. -/
structure ProductState where
  process : Process
  policy : PolicyState

inductive WriteOutcome
  | written
  | lost
  | replacedThenFailed
  deriving DecidableEq, Repr

/-- What surrounds a request: the calls of the registry it makes, the files, the
cameras that are known. -/
structure RequestEnvironment where
  /-- The mutation of the registry. -/
  call : CallEnvironment
  /-- The credential status of an account. -/
  status : Uuid → CallEnvironment
  newRoleId : Uuid
  policyReadable : Bool
  policyWrite : WriteOutcome
  rateLimited : Bool
  devicesReadable : Bool
  cameraKnown : Uuid → Bool

/-- The role policy with the registry it works on. -/
structure RolePolicy where
  registry : Registry
  casefold : String → String
  /-- Whether a state takes no more than `_MAX_BYTES` as JSON. -/
  fits : PolicyState → Bool

abbrev Route (α : Type) := Handler ProductState ApiError α

namespace RolePolicy

variable (policy : RolePolicy) (env : RequestEnvironment)

/-- The checks of `_read` on the contents. -/
def isValid (state : PolicyState) : Bool :=
  1 ≤ state.revision && state.revision < 2 ^ 63 &&
    state.profiles.rows.length ≤ maxProfiles && state.bindings.rows.length ≤ maxBindings &&
    (state.profiles.rows.all fun row => row.2.admitted.any fun profile => profile.id == row.1) &&
    decide (state.profiles.rows.map fun row => policy.casefold row.2.name).Nodup &&
    state.bindings.rows.all fun row => (state.profiles.find? row.2).isSome

def read : Route PolicyState :=
  Handler.read fun state =>
    if env.policyReadable && policy.isValid state.policy then .ok state.policy
    else .error (.policy .unavailable)

def write (contents : PolicyState) : Route Unit :=
  Handler.of fun state =>
    if !policy.fits contents then (.error (.policy .capacity), state)
    else
      match env.policyWrite with
      | .written => (.ok (), { state with policy := contents })
      | .lost => (.error .os, state)
      | .replacedThenFailed => (.error .os, { state with policy := contents })

def callRegistry {α : Type} (call : Process → Except RegistryError α × Process) : Route α :=
  Handler.of fun state =>
    let (result, process) := call state.process
    (result.mapError .registry, { state with process := process })

def credentialStatus (userId : Uuid) : Route (Option Registry.CredentialStatus) :=
  callRegistry fun process =>
    policy.registry.credentialStatus (env.status userId) process.db userId process

/-! ## The guard -/

/-- The account `_guard` judges in the place of a row. -/
def replaced (replacement : Option UserAccount) (account : UserAccount) : UserAccount :=
  match replacement with
  | some other => if other.id = account.id then other else account
  | none => account

/-- One page of `_guard`: whether it has found a full administrator. -/
def guardRows (contents : PolicyState) (replacement : Option UserAccount) (excluded : Option Uuid) :
    List UserAccount → Route Bool
  | [] => pure false
  | row :: rest =>
      let account := replaced replacement row
      if excluded ≠ some row.id && contents.fullAdministrator account then do
        let status ← policy.credentialStatus env account.id
        if status = some .active then pure true
        else guardRows contents replacement excluded rest
      else guardRows contents replacement excluded rest

/-- The loop of `_guard` over the pages from an offset on. -/
def guardPages (contents : PolicyState) (replacement : Option UserAccount)
    (excluded : Option Uuid) : ℕ → ℕ → Route Unit
  | 0, _ => Handler.require false (.policy .lastAdministrator)
  | pages + 1, offset => do
      let rows ← Handler.read fun state => .ok (policy.registry.list state.process.db offset 100)
      let found ← policy.guardRows env contents replacement excluded rows
      if found then pure ()
      else if rows.length < 100 then Handler.require false (.policy .lastAdministrator)
      else guardPages contents replacement excluded pages (offset + 100)

def guard (contents : PolicyState) (replacement : Option UserAccount) (excluded : Option Uuid) :
    Route Unit :=
  policy.guardPages env contents replacement excluded 1000 0

/-- `guard_account_change`, for the account a request leaves and whether the
request names a role. -/
def guardAccountChange (changed : UserAccount) (namesRole : Bool) : Route Unit := do
  let contents ← policy.read env
  Handler.require (!((contents.bindings.find? changed.id).isSome && namesRole))
    (.policy .profileBound)
  policy.guard env contents (some changed) none

def guardCredentialReset (userId : Uuid) : Route Unit := do
  let contents ← policy.read env
  policy.guard env contents none (some userId)

/-! ## Mutations -/

/-- The fields of `_Role`; a permission outside `PERMISSIONS` is refused by its
validator. -/
structure RolePayload where
  name : String
  description : String
  baseRole : UserRole
  permissions : List Permission

def PolicyState.revised (contents : PolicyState) (profiles : Table Uuid RoleProfile)
    (bindings : Table Uuid Uuid) : PolicyState :=
  ⟨contents.revision + 1, profiles, bindings⟩

def requireRevision (contents : PolicyState) (expected : Option ℕ) : Route Unit :=
  Handler.require (expected.all fun revision => revision == contents.revision)
    (.policy .revisionConflict)

/-- A profile of `upsert` as `_profile` admits it. -/
def admitProfile (profile : RoleProfile) : Route RoleProfile :=
  Handler.read fun _ =>
    match profile.admitted with
    | none => .error .invalid
    | some admitted => .ok admitted

def upsert (payload : RolePayload) (roleId : Option Uuid) (expected : Option ℕ) :
    Route RoleProfile := do
  let contents ← policy.read env
  requireRevision contents expected
  let roleId := roleId.getD env.newRoleId
  Handler.require ((contents.profiles.find? roleId).isSome ||
    contents.profiles.rows.length < maxProfiles) (.policy .capacity)
  let profile ← admitProfile ⟨roleId, payload.name, payload.description, payload.baseRole,
    payload.permissions⟩
  Handler.require ((contents.profiles.find? roleId).all fun previous =>
    previous.baseRole == profile.baseRole) (.policy .baseImmutable)
  Handler.require (contents.profiles.rows.all fun row =>
    row.2.id == roleId || policy.casefold row.2.name != policy.casefold profile.name)
    (.policy .nameExists)
  let revised := PolicyState.revised contents (contents.profiles.upsert roleId profile)
    contents.bindings
  policy.guard env revised none none
  policy.write env revised
  pure profile

/-- `users.get` with the error of `assign`. -/
def getUser (userId : Uuid) : Route UserAccount :=
  Handler.read fun state =>
    match policy.registry.get state.process.db userId with
    | none => .error (.policy .userNotFound)
    | some account => .ok account

/-- The bindings and the account that `assign` leaves. -/
def assigned (contents : PolicyState) (account : UserAccount) (roleId : Option Uuid) :
    Except ApiError (Table Uuid Uuid × UserAccount) :=
  match roleId with
  | none => .ok (contents.bindings.erase account.id, account)
  | some roleId =>
      match contents.profiles.find? roleId with
      | none => .error (.policy .notFound)
      | some profile =>
          if maxBindings ≤ contents.bindings.rows.length &&
              (contents.bindings.find? account.id).isNone then
            .error (.policy .capacity)
          else
            .ok (contents.bindings.upsert account.id roleId,
              { account with role := profile.baseRole })

def assign (userId : Uuid) (roleId : Option Uuid) (expected : Option ℕ) : Route UserAccount := do
  let contents ← policy.read env
  requireRevision contents expected
  let account ← policy.getUser userId
  let (bindings, replacement) ← Handler.read fun _ => assigned contents account roleId
  let revised := PolicyState.revised contents contents.profiles bindings
  policy.guard env revised (some replacement) none
  policy.write env revised
  pure replacement

def delete (roleId : Uuid) (expected : ℕ) : Route Unit := do
  let contents ← policy.read env
  requireRevision contents (some expected)
  Handler.require (contents.bindings.rows.all fun row => row.2 != roleId) (.policy .inUse)
  Handler.require (contents.profiles.find? roleId).isSome (.policy .notFound)
  let revised := PolicyState.revised contents (contents.profiles.erase roleId) contents.bindings
  policy.guard env revised none none
  policy.write env revised

end RolePolicy

end K5Vision.Operator
