import K5Vision.Operator.AdminContracts

/-!
# A full administrator remains

Authority is split between two stores, so the invariant spans both: some enabled
administrator of the database has all permissions under the policy, and its
credential is a password.

A route that takes authority away has passed a guard, and what the guard has found
(`Guarded`) is a full administrator of the state the route is about to write.  Only
an assignment writes twice.  Between its writes the policy is new and the role of
the target is old; `hasFullAdministrator_of_settled_assignment` is about that
state.
-/

namespace K5Vision.Operator

open Library Identity

/-- An enabled administrator with all permissions and an active credential. -/
def IsFullAdministrator (registry : Registry) (state : ProductState) (userId : Uuid) : Prop :=
  ∃ account, registry.get state.process.db userId = some account ∧
    state.policy.fullAdministrator account = true ∧
    HasPassword state.process.db (registry.siteId, userId)

def HasFullAdministrator (registry : Registry) (state : ProductState) : Prop :=
  ∃ userId, IsFullAdministrator registry state userId

section Invariant

variable {policy : RolePolicy} {env : RequestEnvironment} {start state : ProductState}
  {derive : DeriveCredential} {registry : Registry}

/-! ## What keeps a full administrator -/

theorem IsFullAdministrator.of_keeps {userId : Uuid}
    (h : IsFullAdministrator registry start userId) (hpolicy : state.policy = start.policy)
    (hget : registry.get state.process.db userId = registry.get start.process.db userId)
    (hpassword : HasPassword start.process.db (registry.siteId, userId) →
      HasPassword state.process.db (registry.siteId, userId)) :
    IsFullAdministrator registry state userId := by
  obtain ⟨account, haccount, hfull, hactive⟩ := h
  refine ⟨account, hget.trans haccount, ?_, hpassword hactive⟩
  rw [hpolicy]
  exact hfull

theorem HasFullAdministrator.of_quiet (h : HasFullAdministrator registry start)
    (hquiet : Quiet start state) : HasFullAdministrator registry state := by
  obtain ⟨userId, hfull⟩ := h
  exact ⟨userId, hfull.of_keeps hquiet.policy (get_eq_of_users_eq hquiet.users userId)
    (hquiet.passwords _).mpr⟩

/-- What a guard has found is a full administrator once the guarded contents are
written. -/
theorem hasFullAdministrator_of_guarded {contents : PolicyState}
    (hguarded : Guarded registry start contents none none) (hsettled : Settled start contents state) :
    HasFullAdministrator registry state := by
  obtain ⟨account, haccount, -, hfull, hpassword⟩ := hguarded
  refine ⟨account.id, account, ?_, ?_, (hsettled.passwords _).mpr hpassword⟩
  · rw [get_eq_of_users_eq hsettled.users]
    exact haccount
  · rw [hsettled.policy]
    exact hfull

/-- Once the replacement is written as well, what the guard has found is a full
administrator. -/
theorem hasFullAdministrator_of_replacement {contents : PolicyState} {replacement : UserAccount}
    (hguarded : Guarded registry start contents (some replacement) none)
    (hpolicy : state.policy = contents)
    (hget : ∀ userId, registry.get state.process.db userId =
      if userId = replacement.id then some replacement
      else registry.get start.process.db userId)
    (hpasswords : ∀ key, HasPassword state.process.db key ↔ HasPassword start.process.db key) :
    HasFullAdministrator registry state := by
  obtain ⟨account, haccount, -, hfull, hpassword⟩ := hguarded
  refine ⟨account.id, RolePolicy.replaced (some replacement) account, ?_, ?_,
    (hpasswords _).mpr hpassword⟩
  · rw [hget, RolePolicy.replaced]
    by_cases hid : replacement.id = account.id
    · rw [if_pos hid.symm, if_pos hid]
    · rw [if_neg (Ne.symm hid), if_neg hid]
      exact haccount
  · rw [hpolicy]
    exact hfull

/-! ## Account routes -/

/-- A route that ends with a full administrator, whether it returns or raises. -/
def Keeps {α : Type} (registry : Registry) (start : ProductState) (route : Route α) : Prop :=
  Handler.Spec (Quiet start) route (fun _ => HasFullAdministrator registry)
    (HasFullAdministrator registry)

theorem Asks.keeps {α β : Type} {route : Route α} {fact : α → Prop} {next : α → Route β}
    (h : Asks start route fact) (hfull : HasFullAdministrator registry start)
    (hnext : ∀ a, fact a → Keeps registry start (next a)) :
    Keeps registry start (route >>= next) :=
  h.bind hnext fun _ hquiet => hfull.of_quiet hquiet

theorem Quiet.of_db {process : Process} (h : Quiet start state)
    (hdb : process.db = state.process.db) : Quiet start { state with process := process } :=
  ⟨h.policy, hdb ▸ h.users, fun key => hdb ▸ h.passwords key⟩

theorem keeps_createUser (hfull : HasFullAdministrator policy.registry start)
    (principal : UserAccount) (payload : CreateUserPayload) :
    Keeps policy.registry start (policy.createUser env derive principal payload) := by
  apply (asks_mutationAdmin principal).keeps hfull
  intro actor _
  apply (asks_requireGrant actor _).keeps hfull
  intro _ _
  apply (asks_cameraPolicy _ _).keeps hfull
  intro access _
  apply Handler.Spec.bind (spec_callRegistry ?_ ?_)
  · intro _
    exact Handler.Spec.pure fun _ h => h
  · intro state issue process hquiet hissue
    obtain ⟨-, hfree, hget, hpasswords⟩ := createWithBootstrap_accounts hissue
    obtain ⟨userId, hadministrator⟩ := hfull.of_quiet hquiet
    refine ⟨userId, hadministrator.of_keeps rfl ?_ (hpasswords _)⟩
    rw [hget, if_neg]
    rintro rfl
    obtain ⟨account, haccount, -⟩ := hadministrator
    rw [hfree] at haccount
    cases haccount
  · intro state error process hquiet hissue
    exact hfull.of_quiet (hquiet.of_db (by rw [Registry.createWithBootstrap_error hissue]))

theorem keeps_setCameraAccessCall (hfull : HasFullAdministrator policy.registry start)
    (userId : Uuid) (access : CameraAccess) (actor : String) :
    Keeps policy.registry start (do
      let _ ← RolePolicy.callRegistry (policy.registry.setCameraAccess env.call userId (.of access)
        actor)
      pure ()) := by
  apply Handler.Spec.bind (spec_callRegistry ?_ ?_)
  · intro _
    exact Handler.Spec.pure fun _ h => h
  · intro state result process hquiet haccess
    obtain ⟨husers, hcredentials⟩ := setCameraAccess_accounts haccess
    apply hfull.of_quiet
    refine ⟨hquiet.policy, husers.trans hquiet.users, ?_⟩
    intro key
    rw [← hquiet.passwords key]
    unfold HasPassword
    rw [hcredentials]
  · intro state error process hquiet haccess
    exact hfull.of_quiet (hquiet.of_db (by rw [Registry.setCameraAccess_error haccess]))

theorem keeps_setCameraAccess (hfull : HasFullAdministrator policy.registry start)
    (principal : UserAccount) (userId : Uuid) (payload : CameraAccess) :
    Keeps policy.registry start (policy.setCameraAccess env principal userId payload) := by
  apply (asks_mutationAdmin principal).keeps hfull
  intro actor _
  apply (asks_target userId).keeps hfull
  intro account _
  apply (asks_effectivePermissions account).keeps hfull
  intro held _
  apply (asks_requireGrant actor held).keeps hfull
  intro _ _
  apply (asks_cameraPolicy _ _).keeps hfull
  intro access _
  apply (asks_getCameraAccess account).keeps hfull
  intro _ _
  exact keeps_setCameraAccessCall hfull userId access _

theorem keeps_writeUpdate (hfull : HasFullAdministrator policy.registry start)
    {userId : Uuid} {account actor : UserAccount} {payload : UpdateUserPayload}
    {access : Option CameraAccess}
    (haccount : policy.registry.get start.process.db userId = some account)
    (hguarded : Guarded policy.registry start start.policy
      (some (RolePolicy.changedAccount account payload)) none) :
    Keeps policy.registry start (policy.writeUpdate env actor userId payload access) := by
  unfold RolePolicy.writeUpdate
  split
  · rename_i _ patch hpatch
    apply Handler.Spec.bind (spec_callRegistry ?_ ?_)
    · intro _
      exact Handler.Spec.require (fun _ _ h => h) fun _ h => h
    · intro state result process hquiet hupdate
      rcases update_accounts hupdate with ⟨-, rfl⟩ | ⟨current, hcurrent, hget, hpasswords⟩
      · exact hfull.of_quiet hquiet
      rw [get_eq_of_users_eq hquiet.users, haccount] at hcurrent
      cases hcurrent
      rw [RolePolicy.changedAccount, hpatch] at hguarded
      have hpolicy : ({ state with process := process } : ProductState).policy = start.policy :=
        hquiet.policy
      apply hasFullAdministrator_of_replacement hguarded hpolicy
      · intro other
        rw [hget, get_eq_of_users_eq hquiet.users]
      · intro key
        rw [hpasswords, hquiet.passwords]
    · intro state error process hquiet hupdate
      exact hfull.of_quiet (hquiet.of_db (by rw [Registry.update_error hupdate]))
  · exact keeps_setCameraAccessCall hfull userId _ _
  · exact Handler.Spec.pure fun _ hquiet => hfull.of_quiet hquiet

theorem keeps_updateUser (hfull : HasFullAdministrator policy.registry start)
    (principal : UserAccount) (userId : Uuid) (payload : UpdateUserPayload) :
    Keeps policy.registry start (policy.updateUser env principal userId payload) := by
  apply (asks_mutationAdmin principal).keeps hfull
  intro actor _
  apply (asks_target userId).keeps hfull
  intro account haccount
  apply (asks_effectivePermissions account).keeps hfull
  intro held _
  apply (asks_requireGrant actor held).keeps hfull
  intro _ _
  apply (asks_requireRoleGrant actor payload.role).keeps hfull
  intro _ _
  apply (asks_requestedAccess account payload).keeps hfull
  intro access _
  apply (asks_getCameraAccess account).keeps hfull
  intro _ _
  apply (asks_guardAccountChange _ _).keeps hfull
  rintro _ ⟨-, hguarded⟩
  exact keeps_writeUpdate hfull haccount hguarded

theorem keeps_resetPassword (hfull : HasFullAdministrator policy.registry start)
    (principal : UserAccount) (userId : Uuid) :
    Keeps policy.registry start (policy.resetPassword env derive principal userId) := by
  apply (asks_mutationAdmin principal).keeps hfull
  intro actor _
  apply (asks_target userId).keeps hfull
  intro account _
  apply (asks_effectivePermissions account).keeps hfull
  intro held _
  apply (asks_requireGrant actor held).keeps hfull
  intro _ _
  apply (asks_target userId).keeps hfull
  intro guarded hguardedId
  apply (asks_guardCredentialReset guarded.id).keeps hfull
  rintro _ ⟨administrator, hadministrator, hother, hpermissions, hpassword⟩
  rw [(get_eq_some hguardedId).2] at hother
  apply Handler.Spec.bind (spec_callRegistry ?_ ?_)
  · intro _
    exact Handler.Spec.require (fun _ _ h => h) fun _ h => h
  · intro state result process hquiet hreset
    obtain ⟨husers, hpasswords⟩ := resetBootstrap_accounts hreset
    refine ⟨administrator.id, administrator, ?_, ?_, ?_⟩
    · rw [get_eq_of_users_eq (husers.trans hquiet.users)]
      exact hadministrator
    · rw [hquiet.policy]
      exact hpermissions
    · apply hpasswords
      · simpa [eq_comm] using hother
      · exact (hquiet.passwords _).mpr hpassword
  · intro state error process hquiet hreset
    exact hfull.of_quiet (hquiet.of_db (Registry.db_of_resetBootstrap_error hreset))

/-! ## Role routes -/

theorem Rewrites.keeps {α : Type} {route : Route α} {revised : α → PolicyState → Prop}
    (hfull : HasFullAdministrator registry start)
    (h : Rewrites registry start route (fun _ => none) revised) : Keeps registry start route := by
  apply Handler.Spec.mono h
  · rintro a state ⟨contents, -, hguarded, hsettled⟩
    exact hasFullAdministrator_of_guarded hguarded hsettled
  · rintro state (hquiet | ⟨a, contents, -, hguarded, hsettled⟩)
    · exact hfull.of_quiet hquiet
    · exact hasFullAdministrator_of_guarded hguarded hsettled

theorem Keeps.andPure {α : Type} {route : Route α} (h : Keeps registry start route) :
    Keeps registry start (do
      let _ ← route
      pure ()) :=
  h.bind fun _ => Handler.Spec.pure fun _ hfull => hfull

theorem keeps_createRole (hfull : HasFullAdministrator policy.registry start)
    (principal : UserAccount) (payload : RolePolicy.RolePayload) :
    Keeps policy.registry start (policy.createRole env principal payload) := by
  apply (asks_roleActor principal).keeps hfull
  intro actor _
  apply (asks_requireGrant actor _).keeps hfull
  intro _ _
  exact (Rewrites.keeps hfull (rewrites_upsert payload none none)).andPure

theorem keeps_updateRole (hfull : HasFullAdministrator policy.registry start)
    (principal : UserAccount) (roleId : Uuid) (payload : RolePolicy.RolePayload)
    (expectedRevision : ℕ) :
    Keeps policy.registry start
      (policy.updateRole env principal roleId payload expectedRevision) := by
  apply (asks_roleActor principal).keeps hfull
  intro actor _
  apply (asks_existingRole roleId).keeps hfull
  intro previous _
  apply (asks_requireGrant actor _).keeps hfull
  intro _ _
  apply (asks_requireGrant actor _).keeps hfull
  intro _ _
  exact (Rewrites.keeps hfull
    (rewrites_upsert payload (some roleId) (some expectedRevision))).andPure

theorem keeps_deleteRole (hfull : HasFullAdministrator policy.registry start)
    (principal : UserAccount) (roleId : Uuid) (expectedRevision : ℕ) :
    Keeps policy.registry start (policy.deleteRole env principal roleId expectedRevision) := by
  apply (asks_roleActor principal).keeps hfull
  intro actor _
  apply (asks_existingRole roleId).keeps hfull
  intro previous _
  apply (asks_requireGrant actor _).keeps hfull
  intro _ _
  exact Rewrites.keeps hfull (rewrites_delete roleId expectedRevision)

/-! ## Assignments -/

/-- Between the two writes of an assignment: the policy is the new one, the accounts
are the old ones. -/
theorem hasFullAdministrator_of_settled_assignment
    (hfull : HasFullAdministrator registry start) {account replacement : UserAccount}
    {roleId : Option Uuid} {bindings : Table Uuid Uuid}
    (haccount : registry.get start.process.db account.id = some account)
    (hassigned : RolePolicy.assigned start.policy account roleId = .ok (bindings, replacement))
    (hguarded : Guarded registry start
      (RolePolicy.PolicyState.revised start.policy start.policy.profiles bindings)
      (some replacement) none)
    (hsettled : Settled start
      (RolePolicy.PolicyState.revised start.policy start.policy.profiles bindings) state) :
    HasFullAdministrator registry state := by
  obtain ⟨hothers, hshape⟩ := assigned_cases hassigned
  obtain ⟨userId, administrator, hget, hpermissions, hpassword⟩ := hfull
  have hid := (get_eq_some hget).2
  by_cases htarget : userId = account.id
  · -- the known full administrator is the target, so the role stays
    rw [htarget, haccount] at hget
    cases hget
    obtain ⟨found, hfound, -, hfoundFull, hfoundPassword⟩ := hguarded
    apply hasFullAdministrator_of_guarded _ hsettled
    refine ⟨found, hfound, by simp, ?_, hfoundPassword⟩
    unfold RolePolicy.replaced at hfoundFull ⊢
    dsimp only at hfoundFull ⊢
    split_ifs at hfoundFull with hsame
    · have hreplacementId : replacement.id = account.id := by
        rcases hshape with ⟨-, rfl, -⟩ | ⟨id, profile, -, -, -, rfl⟩ <;> rfl
      rw [← hsame, hreplacementId, haccount] at hfound
      cases hfound
      have hrole : account.role = replacement.role := by
        simp only [PolicyState.fullAdministrator, Bool.and_eq_true, beq_iff_eq]
          at hpermissions hfoundFull
        rw [hpermissions.1.2, hfoundFull.1.2]
      have heq : replacement = account := by
        rcases hshape with ⟨-, heq, -⟩ | ⟨id, profile, -, -, -, heq⟩
        · exact heq
        · exact eq_of_role_eq (.inr heq) hrole
      rw [← heq]
      exact hfoundFull
    · exact hfoundFull
  · refine ⟨userId, administrator, ?_, ?_, (hsettled.passwords _).mpr hpassword⟩
    · rw [get_eq_of_users_eq hsettled.users]
      exact hget
    · rw [hsettled.policy]
      have hsame : (RolePolicy.PolicyState.revised start.policy start.policy.profiles
          bindings).permissions administrator = start.policy.permissions administrator := by
        apply permissions_eq
        dsimp only [RolePolicy.PolicyState.revised]
        rw [hothers administrator.id (by rwa [hid])]
      unfold PolicyState.fullAdministrator at hpermissions ⊢
      rw [hsame]
      exact hpermissions

theorem keeps_assignRole (hfull : HasFullAdministrator policy.registry start)
    (principal : UserAccount) (userId : Uuid) (roleProfileId : Option Uuid)
    (expectedRevision : Option ℕ) :
    Keeps policy.registry start
      (policy.assignRole env principal userId roleProfileId expectedRevision) := by
  apply (asks_roleActor principal).keeps hfull
  intro actor _
  apply (asks_getUser userId).keeps hfull
  intro target _
  apply (asks_effectivePermissions target).keeps hfull
  intro held _
  apply (asks_requireGrant actor held).keeps hfull
  intro _ _
  apply (asks_assignedRole roleProfileId).keeps hfull
  intro profile _
  apply (asks_requireGrant actor _).keeps hfull
  intro _ _
  have hbetween {replacement : UserAccount} {contents : PolicyState} {state : ProductState}
      {account : UserAccount} {bindings : Table Uuid Uuid}
      (haccount : policy.registry.get start.process.db userId = some account)
      (hassigned : RolePolicy.assigned start.policy account roleProfileId =
        .ok (bindings, replacement))
      (hcontents : contents =
        RolePolicy.PolicyState.revised start.policy start.policy.profiles bindings)
      (hguarded : Guarded policy.registry start contents (some replacement) none)
      (hsettled : Settled start contents state) :
      HasFullAdministrator policy.registry state := by
    subst hcontents
    rw [← (get_eq_some haccount).2] at haccount
    exact hasFullAdministrator_of_settled_assignment hfull haccount hassigned hguarded hsettled
  apply Handler.Spec.bind ((rewrites_assign userId roleProfileId expectedRevision).mono
    (fun _ _ hpost => hpost) ?_)
  · intro replacement
    constructor
    rintro state
      ⟨contents, ⟨-, account, bindings, haccount, hassigned, hcontents⟩, hguarded, hsettled⟩
    have hid := (get_eq_some haccount).2
    obtain ⟨-, hshape⟩ := assigned_cases hassigned
    have hreplacement : ∃ role, replacement = account ∨
        replacement = { account with role := role } := by
      rcases hshape with ⟨-, heq, -⟩ | ⟨id, profile, -, -, -, heq⟩
      · exact ⟨.viewer, .inl heq⟩
      · exact ⟨profile.baseRole, .inr heq⟩
    obtain ⟨role, hreplacement⟩ := hreplacement
    have haligned : Handler.Spec (Settled start contents)
        (policy.alignRole env actor account.id replacement)
        (fun _ => HasFullAdministrator policy.registry) (HasFullAdministrator policy.registry) := by
      apply (spec_alignRole (by rwa [hid]) hreplacement).mono
      · rintro _ state (haligned | hsettled)
        · exact hasFullAdministrator_of_replacement hguarded haligned.policy haligned.get
            haligned.passwords
        · exact hbetween haccount hassigned hcontents hguarded hsettled
      · intro state hsettled
        exact hbetween haccount hassigned hcontents hguarded hsettled
    rw [hid] at haligned
    exact haligned.run state hsettled
  · rintro state (hquiet |
      ⟨replacement, contents, ⟨-, account, bindings, haccount, hassigned, hcontents⟩,
        hguarded, hsettled⟩)
    · exact hfull.of_quiet hquiet
    · exact hbetween haccount hassigned hcontents hguarded hsettled

/-! ## Any request -/

theorem keeps_handle (hfull : HasFullAdministrator policy.registry start)
    (principal : UserAccount) (request : AdminRequest) :
    Handler.Spec (Quiet start) (policy.handle env derive principal request)
      (fun _ => HasFullAdministrator policy.registry) (HasFullAdministrator policy.registry) := by
  have hadmin : Handler.Spec (Quiet start) (RolePolicy.requireAdmin principal)
      (fun _ => Quiet start) (HasFullAdministrator policy.registry) :=
    Handler.Spec.require (fun _ _ hquiet => hquiet) fun _ hquiet => hfull.of_quiet hquiet
  apply hadmin.bind
  intro _
  cases request with
  | createUser payload => exact (keeps_createUser hfull principal payload).translate
  | updateUser userId payload => exact (keeps_updateUser hfull principal userId payload).translate
  | setCameraAccess userId payload =>
      exact (keeps_setCameraAccess hfull principal userId payload).translate
  | resetPassword userId => exact (keeps_resetPassword hfull principal userId).translate
  | createRole payload => exact (keeps_createRole hfull principal payload).translate
  | updateRole roleId payload expectedRevision =>
      exact (keeps_updateRole hfull principal roleId payload expectedRevision).translate
  | deleteRole roleId expectedRevision =>
      exact (keeps_deleteRole hfull principal roleId expectedRevision).translate
  | assignRole userId roleProfileId expectedRevision =>
      exact (keeps_assignRole hfull principal userId roleProfileId expectedRevision).translate

end Invariant

/-! ## Runs -/

/-- A request with the account of its session and what surrounds it. -/
structure AdminCall where
  principal : UserAccount
  request : AdminRequest
  env : RequestEnvironment

namespace RolePolicy

variable (policy : RolePolicy) (derive : DeriveCredential)

def step (state : ProductState) (call : AdminCall) : ProductState :=
  ((policy.handle call.env derive call.principal call.request).exec state).2

def run (state : ProductState) (calls : List AdminCall) : ProductState :=
  calls.foldl (policy.step derive) state

theorem hasFullAdministrator_step {state : ProductState}
    (h : HasFullAdministrator policy.registry state) (call : AdminCall) :
    HasFullAdministrator policy.registry (policy.step derive state call) := by
  have hspec := (@keeps_handle policy call.env state derive h call.principal call.request).run
    state (Quiet.refl state)
  unfold step
  split at hspec
  · rename_i hexec
    rw [hexec]
    exact hspec
  · rename_i hexec
    rw [hexec]
    exact hspec

/-- From a state with a full administrator, every run of requests keeps one after
every step. -/
theorem full_administrator_remains (calls : List AdminCall) (state : ProductState)
    (h : HasFullAdministrator policy.registry state) :
    HasFullAdministrator policy.registry (policy.run derive state calls) := by
  induction calls generalizing state with
  | nil => exact h
  | cons call rest ih => exact ih _ (policy.hasFullAdministrator_step derive h call)

end RolePolicy

/-! ## A concrete site -/

/-- The policy of the site that the examples below run on. -/
def localPolicy : RolePolicy := ⟨localSite, String.toLower, fun _ => true⟩

def localStart : ProductState := ⟨siteSetup.2, ⟨1, .empty, .empty⟩⟩

/-- A request around which nothing fails. -/
def quietRequest (newId : Uuid) : RequestEnvironment where
  call := quietCall newId
  status := fun _ => quietCall newId
  newRoleId := newId
  policyReadable := true
  policyWrite := .written
  rateLimited := false
  devicesReadable := true
  cameraKnown := fun _ => true

def administratorAccount : UserAccount := ⟨administratorRequest, 1⟩

def auditorRole : RolePolicy.RolePayload := ⟨"Auditor", "", .administrator, [.auditRead]⟩

/-- The administrator creates a deputy and a profile, and tries to take the profile. -/
def localCalls : List AdminCall :=
  [⟨administratorAccount, .createUser ⟨deputyRequest, none⟩, quietRequest 2⟩,
    ⟨administratorAccount, .createRole auditorRole, quietRequest 3⟩,
    ⟨administratorAccount, .assignRole 1 (some 3) none, quietRequest 4⟩]

theorem full_administrator_remains_local :
    HasFullAdministrator localSite (localPolicy.run plainDerive localStart localCalls) := by
  apply localPolicy.full_administrator_remains plainDerive localCalls localStart
  refine ⟨1, administratorAccount, by decide +kernel, by decide +kernel, ?_⟩
  exact ⟨Registry.passwordRow (quietCall 1).salt
    (plainDerive "administrator-password" (quietCall 1).salt), by decide +kernel, rfl, rfl, rfl⟩

/-- The last full administrator cannot take the smaller profile. -/
example : (localPolicy.run plainDerive localStart localCalls).policy.bindings.find? 1 = none := by
  decide +kernel

end K5Vision.Operator
