import K5Vision.Operator.AdminApi
import K5Vision.Identity.LastAdministrator

/-!
# Contracts of the steps of a route

Up to its first write a route only asks: for the policy, for accounts, for
credential states.  An asked credential state can mark a bootstrap credential,
which changes no account, no password and not the policy, so everything a route
has found out still holds when it writes.  `Settled start contents` is what such
steps leave of `start`, with `contents` as the policy, and `Asks` is the contract
of a step before the first write.
-/

namespace K5Vision.Operator

open Library Identity

/-! ## Passwords -/

def HasPassword (db : Database) (key : String × Uuid) : Prop :=
  ∃ row, db.credentials.find? key = some row ∧ row.kind = .password ∧
    row.scheme = credentialScheme ∧ row.expiresAt = none

theorem HasPassword.of_eq {db db' : Database} {key : String × Uuid} (h : HasPassword db key)
    (heq : db'.credentials.find? key = db.credentials.find? key) : HasPassword db' key := by
  obtain ⟨row, hrow, hpassword⟩ := h
  exact ⟨row, heq.trans hrow, hpassword⟩

variable {userId : Uuid} {registry : Registry}

theorem hasPassword_checkEffect {db db' : Database} (h : registry.CheckEffect userId db db')
    (key : String × Uuid) : HasPassword db' key ↔ HasPassword db key := by
  rcases h.find? key with heq | ⟨row, row', -, hbootstrap, hrow, hrow', hmark⟩
  · exact ⟨fun hpassword => hpassword.of_eq heq.symm, fun hpassword => hpassword.of_eq heq⟩
  have hbefore : ¬HasPassword db key := by
    rintro ⟨found, hfound, hkind, -⟩
    rw [hrow] at hfound
    cases hfound
    rw [hbootstrap] at hkind
    cases hkind
  have hafter : ¬HasPassword db' key := by
    rintro ⟨found, hfound, hkind, -⟩
    rw [hrow'] at hfound
    cases hfound
    rcases hmark with rfl | ⟨instant, rfl⟩
    · cases hkind
    · rw [show row.kind = .password from hkind] at hbootstrap
      cases hbootstrap
  exact ⟨fun h => absurd h hafter, fun h => absurd h hbefore⟩

theorem hasPassword_of_statusOfRow {env : CallEnvironment} {updateFails : Bool}
    {row : Option CredentialRow} {process after : Process}
    (h : registry.statusOfRow env updateFails userId row process = (.ok .active, after)) :
    ∃ found, row = some found ∧ found.kind = .password ∧ found.scheme = credentialScheme ∧
      found.expiresAt = none := by
  unfold Registry.statusOfRow at h
  split at h
  · cases h
  rename_i found
  split at h
  · cases h
  rename_i hscheme
  split at h
  · rename_i hpassword
    exact ⟨found, rfl, hpassword.1, not_not.mp hscheme, hpassword.2⟩
  split at h
  · cases h
  · split at h
    · cases h
    · rename_i eligible _ _
      cases eligible <;> cases h
  · cases h

theorem hasPassword_of_credentialStatus {env : CallEnvironment} {process after : Process}
    (h : registry.credentialStatus env process.db userId process = (.ok (some .active), after)) :
    HasPassword process.db (registry.siteId, userId) := by
  rcases Registry.credentialStatus_cases h with ⟨-, hnone⟩ | ⟨status, hread, hresult⟩
  · exact absurd rfl (hnone _)
  cases status with
  | error raised => cases hresult
  | ok status =>
      cases hresult
      obtain ⟨row, hrow, hpassword⟩ := hasPassword_of_statusOfRow hread
      exact ⟨row, hrow, hpassword⟩

/-! ## What asking leaves -/

/-- The accounts and the passwords are those of `start`, and the policy is
`contents`. -/
structure Settled (start : ProductState) (contents : PolicyState) (state : ProductState) :
    Prop where
  policy : state.policy = contents
  users : state.process.db.users = start.process.db.users
  passwords : ∀ key, HasPassword state.process.db key ↔ HasPassword start.process.db key

/-- Nothing but marks of bootstrap credentials has changed. -/
def Quiet (start : ProductState) : ProductState → Prop := Settled start start.policy

theorem Quiet.refl (start : ProductState) : Quiet start start := ⟨rfl, rfl, fun _ => Iff.rfl⟩

/-- A step that only asks: what it returns is a fact of the start. -/
def Asks {α : Type} (start : ProductState) (route : Route α) (fact : α → Prop) : Prop :=
  Handler.Spec (Quiet start) route (fun a state => Quiet start state ∧ fact a) (Quiet start)

section Asks

variable {α β : Type} {start : ProductState} {route : Route α} {fact : α → Prop}

theorem Asks.bind {next : α → Route β} {post : β → ProductState → Prop}
    {failed : ProductState → Prop} (h : Asks start route fact)
    (hnext : ∀ a, fact a → Handler.Spec (Quiet start) (next a) post failed)
    (hfailed : ∀ state, Quiet start state → failed state) :
    Handler.Spec (Quiet start) (route >>= next) post failed := by
  apply Handler.Spec.bind (h.mono (fun _ _ hpost => hpost) hfailed)
  intro a
  constructor
  rintro state ⟨hquiet, ha⟩
  exact (hnext a ha).run state hquiet

theorem Asks.andThen {next : α → Route β} {goal : β → Prop} (h : Asks start route fact)
    (hnext : ∀ a, fact a → Asks start (next a) goal) : Asks start (route >>= next) goal :=
  h.bind hnext fun _ hquiet => hquiet

theorem Asks.imp {goal : α → Prop} (h : Asks start route fact) (himp : ∀ a, fact a → goal a) :
    Asks start route goal :=
  h.mono (fun a _ hpost => ⟨hpost.1, himp a hpost.2⟩) fun _ hquiet => hquiet

theorem asks_pure {a : α} (h : fact a) : Asks start (pure a) fact :=
  Handler.Spec.pure fun _ hquiet => ⟨hquiet, h⟩

theorem asks_require {condition : Bool} {error : ApiError} :
    Asks start (Handler.require condition error) fun _ => condition = true :=
  Handler.Spec.require (fun hcondition _ hquiet => ⟨hquiet, hcondition⟩) fun _ hquiet => hquiet

theorem asks_read {f : ProductState → Except ApiError α}
    (h : ∀ state a, Quiet start state → f state = .ok a → fact a) :
    Asks start (Handler.read f) fact :=
  Handler.Spec.read (fun state a hquiet hf => ⟨hquiet, h state a hquiet hf⟩) fun _ hquiet => hquiet

theorem Asks.translate {f : ApiError → ApiError} (h : Asks start route fact) :
    Asks start (route.translate f) fact :=
  Handler.Spec.translate h

end Asks

/-! ## The steps -/

/-- The effective permissions of an account, none if there is no such account. -/
def effectiveOf (registry : Registry) (state : ProductState) (userId : Uuid) : Finset Permission :=
  match registry.get state.process.db userId with
  | none => ∅
  | some account => state.policy.permissions account

/-- The permissions of an account depend on its own profile only. -/
theorem permissions_eq {contents contents' : PolicyState} {account : UserAccount}
    (h : (contents'.bindings.find? account.id).bind contents'.profiles.find? =
      (contents.bindings.find? account.id).bind contents.profiles.find?) :
    contents'.permissions account = contents.permissions account := by
  unfold PolicyState.permissions
  rw [h]

/-- What a passed guard has found: an account that, judged as `replacement` if it is
that one, is a full administrator with a password. -/
def Guarded (registry : Registry) (start : ProductState) (contents : PolicyState)
    (replacement : Option UserAccount) (excluded : Option Uuid) : Prop :=
  ∃ account, registry.get start.process.db account.id = some account ∧
    excluded ≠ some account.id ∧
    contents.fullAdministrator (RolePolicy.replaced replacement account) = true ∧
    HasPassword start.process.db (registry.siteId, account.id)

section Steps

variable {policy : RolePolicy} {env : RequestEnvironment} {start : ProductState}
  {derive : DeriveCredential} {registry : Registry}

variable {db : Database}

theorem get_eq_of_users_eq {registry : Registry} {db' : Database} (h : db'.users = db.users)
    (userId : Uuid) : registry.get db' userId = registry.get db userId := by
  unfold Registry.get
  rw [h]

variable {account : UserAccount}

theorem get_of_mem_list {registry : Registry} {offset limit : ℕ}
    (h : account ∈ registry.list db offset limit) : registry.get db account.id = some account := by
  unfold Registry.list at h
  obtain ⟨row, hrow, rfl⟩ := List.mem_map.mp h
  have hfiltered := List.mem_of_mem_drop (List.mem_of_mem_take hrow)
  obtain ⟨hmem, hsite⟩ := List.mem_filter.mp hfiltered
  have hfind := Table.mem_rows.mp hmem
  rw [show row.1 = (registry.siteId, row.1.2) from Prod.ext (by simpa using hsite) rfl] at hfind
  rw [Registry.get, hfind]
  rfl

theorem asks_policy_read : Asks start (policy.read env)
      fun contents => contents = start.policy ∧ policy.isValid start.policy = true := by
  apply asks_read
  intro state contents hquiet hread
  split_ifs at hread with hvalid
  cases hread
  rw [hquiet.policy] at hvalid ⊢
  exact ⟨rfl, by simpa using (Bool.and_eq_true_iff.mp hvalid).2⟩

variable {α : Type}

theorem exec_callRegistry (call : Process → Except RegistryError α × Process)
    (state : ProductState) :
    (RolePolicy.callRegistry call).exec state =
      ((call state.process).1.mapError .registry,
        { state with process := (call state.process).2 }) := rfl

theorem asks_credentialStatus (userId : Uuid) :
    Asks start (policy.credentialStatus env userId) fun status =>
      status = some .active → HasPassword start.process.db (policy.registry.siteId, userId) := by
  constructor
  intro state hquiet
  unfold RolePolicy.credentialStatus
  rw [exec_callRegistry]
  rcases hstatus : policy.registry.credentialStatus (env.status userId) state.process.db userId
    state.process with ⟨result, process⟩
  have hcheck := Registry.checkEffect_credentialStatus policy.registry (env.status userId)
    state.process.db userId state.process
  rw [hstatus] at hcheck
  have hafter : Quiet start { state with process := process } :=
    ⟨hquiet.policy, hcheck.users_eq.trans hquiet.users, fun key =>
      (hasPassword_checkEffect hcheck key).trans (hquiet.passwords key)⟩
  cases result with
  | error error => exact hafter
  | ok status =>
      refine ⟨hafter, ?_⟩
      rintro rfl
      exact (hquiet.passwords _).mp (hasPassword_of_credentialStatus hstatus)

theorem replaced_id (replacement : Option UserAccount) (account : UserAccount) :
    (RolePolicy.replaced replacement account).id = account.id := by
  unfold RolePolicy.replaced
  split
  · split
    · assumption
    · rfl
  · rfl

variable {excluded : Option Uuid} {replacement : Option UserAccount} {contents : PolicyState}

theorem asks_guardRows (rows : List UserAccount)
    (hrows : ∀ row ∈ rows, policy.registry.get start.process.db row.id = some row) :
    Asks start (policy.guardRows env contents replacement excluded rows) fun found =>
      found = true → Guarded policy.registry start contents replacement excluded := by
  induction rows with
  | nil => exact asks_pure (by simp)
  | cons row rest ih =>
      have hrest := ih fun other hother => hrows other (List.mem_cons_of_mem _ hother)
      unfold RolePolicy.guardRows
      dsimp only
      split_ifs with hcandidate
      · simp only [ne_eq, Bool.and_eq_true, decide_eq_true_eq] at hcandidate
        apply (asks_credentialStatus _).andThen
        intro status hstatus
        split_ifs with hactive
        · apply asks_pure
          intro _
          have hpassword := hstatus hactive
          rw [replaced_id] at hpassword
          exact ⟨row, hrows row List.mem_cons_self, hcandidate.1, hcandidate.2, hpassword⟩
        · exact hrest
      · exact hrest

theorem asks_guardPages (pages offset : ℕ) :
    Asks start (policy.guardPages env contents replacement excluded pages offset) fun _ =>
      Guarded policy.registry start contents replacement excluded := by
  induction pages generalizing offset with
  | zero =>
      apply asks_require.imp
      intro _ hfalse
      cases hfalse
  | succ pages ih =>
      unfold RolePolicy.guardPages
      have hlist : Asks start
          (Handler.read fun state => .ok (policy.registry.list state.process.db offset 100) :
            Route (List UserAccount))
          fun rows => ∀ row ∈ rows, policy.registry.get start.process.db row.id = some row := by
        apply asks_read
        intro state rows hquiet hread row hrow
        cases hread
        rw [← get_eq_of_users_eq hquiet.users]
        exact get_of_mem_list hrow
      apply hlist.andThen
      intro rows hrows
      apply (asks_guardRows rows hrows).andThen
      intro found hfound
      split_ifs with hyes hlast
      · exact asks_pure (hfound hyes)
      · apply asks_require.imp
        intro _ hfalse
        cases hfalse
      · exact ih _

theorem asks_guard : Asks start (policy.guard env contents replacement excluded) fun _ =>
      Guarded policy.registry start contents replacement excluded :=
  asks_guardPages _ _

theorem asks_effectivePermissions (account : UserAccount) :
    Asks start (policy.effectivePermissions env account) fun permissions =>
      permissions = start.policy.permissions account := by
  apply asks_policy_read.translate.andThen
  rintro contents ⟨rfl, -⟩
  exact asks_pure rfl

theorem asks_requirePermission (account : UserAccount) (permission : Permission) :
    Asks start (policy.requirePermission env account permission) fun _ =>
      permission ∈ start.policy.permissions account := by
  apply (asks_effectivePermissions account).andThen
  rintro permissions rfl
  exact asks_require.imp fun _ h => by simpa using h

/-- What a request may grant, the actor holds. -/
theorem asks_requireGrant (actor : UserAccount) (permissions : Finset Permission) :
    Asks start (policy.requireGrant env actor permissions) fun _ =>
      permissions ⊆ start.policy.permissions actor := by
  apply (asks_effectivePermissions actor).andThen
  rintro held rfl
  exact asks_require.imp fun _ h => by simpa using h

theorem asks_authenticate (principal : UserAccount) (permission : Permission) :
    Asks start (policy.authenticate env principal permission) fun current =>
      policy.registry.get start.process.db principal.id = some current ∧
        current.enabled = true := by
  have hget : Asks start
      (Handler.read fun state =>
        match policy.registry.get state.process.db principal.id with
        | none => .error RolePolicy.unauthorized
        | some current => .ok current : Route UserAccount)
      fun current => policy.registry.get start.process.db principal.id = some current := by
    apply asks_read
    intro state current hquiet hread
    rw [get_eq_of_users_eq hquiet.users] at hread
    split at hread
    · cases hread
    · rename_i hfound
      cases hread
      exact hfound
  apply hget.andThen
  intro current hcurrent
  apply (asks_credentialStatus current.id).translate.andThen
  intro status _
  apply asks_require.andThen
  intro _ hactive
  simp only [Bool.and_eq_true] at hactive
  apply (asks_requirePermission current permission).andThen
  intro _ _
  exact asks_pure ⟨hcurrent, hactive.1.1⟩

theorem asks_mutationAdmin (principal : UserAccount) :
    Asks start (policy.mutationAdmin env principal) fun current =>
      policy.registry.get start.process.db principal.id = some current ∧
        current.enabled = true := by
  apply asks_require.andThen
  intro _ _
  apply (asks_authenticate principal .usersManage).andThen
  intro current hcurrent
  apply asks_require.andThen
  intro _ _
  exact asks_pure hcurrent

theorem asks_roleActor (principal : UserAccount) :
    Asks start (policy.roleActor env principal) fun current =>
      policy.registry.get start.process.db principal.id = some current ∧
        current.enabled = true := by
  apply (asks_authenticate principal .rolesManage).andThen
  intro current hcurrent
  apply (asks_requirePermission current .rolesManage).andThen
  intro _ _
  exact asks_pure hcurrent

theorem asks_target (userId : Uuid) : Asks start (policy.target userId) fun account =>
      policy.registry.get start.process.db userId = some account := by
  apply asks_read
  intro state account hquiet hread
  rw [get_eq_of_users_eq hquiet.users] at hread
  split at hread
  · cases hread
  · rename_i hfound
    cases hread
    exact hfound

theorem asks_getUser (userId : Uuid) : Asks start (policy.getUser userId) fun account =>
      policy.registry.get start.process.db userId = some account := by
  apply asks_read
  intro state account hquiet hread
  rw [get_eq_of_users_eq hquiet.users] at hread
  split at hread
  · cases hread
  · rename_i hfound
    cases hread
    exact hfound

theorem asks_cameraPolicy (value : Option CameraAccess) (role : UserRole) :
    Asks start (RolePolicy.cameraPolicy env value role) fun _ => True :=
  asks_read fun _ _ _ _ => trivial

theorem asks_getCameraAccess (account : UserAccount) :
    Asks start (policy.getCameraAccess account) fun _ => True :=
  asks_read fun _ _ _ _ => trivial

theorem asks_requestedAccess (account : UserAccount) (payload : UpdateUserPayload) :
    Asks start (RolePolicy.requestedAccess env account payload) fun _ => True := by
  unfold RolePolicy.requestedAccess
  split
  · exact asks_pure trivial
  · apply (asks_cameraPolicy _ _).andThen
    intro _ _
    exact asks_pure trivial

theorem asks_requireRoleGrant (actor : UserAccount) (role : Option UserRole) :
    Asks start (policy.requireRoleGrant env actor role) fun _ =>
      ∀ granted, role = some granted →
        basePermissions granted ⊆ start.policy.permissions actor := by
  unfold RolePolicy.requireRoleGrant
  split
  · exact asks_pure (by simp)
  rename_i role
  apply (asks_requireGrant actor (basePermissions role)).imp
  rintro _ hgrant granted hrole
  cases hrole
  exact hgrant

theorem asks_guardAccountChange (changed : UserAccount) (namesRole : Bool) :
    Asks start (policy.guardAccountChange env changed namesRole) fun _ =>
      (namesRole = true → start.policy.bindings.find? changed.id = none) ∧
        Guarded policy.registry start start.policy (some changed) none := by
  apply asks_policy_read.andThen
  rintro contents ⟨rfl, -⟩
  apply asks_require.andThen
  intro _ hbound
  apply asks_guard.imp
  intro _ hguarded
  refine ⟨?_, hguarded⟩
  rintro rfl
  simpa using hbound

theorem asks_guardCredentialReset (userId : Uuid) :
    Asks start (policy.guardCredentialReset env userId) fun _ =>
      Guarded policy.registry start start.policy none (some userId) := by
  apply asks_policy_read.andThen
  rintro contents ⟨rfl, -⟩
  exact asks_guard

theorem asks_existingRole (roleId : Uuid) :
    Asks start (policy.existingRole env roleId) fun profile =>
      start.policy.profiles.find? roleId = some profile := by
  have hsnapshot : Asks start (policy.snapshotRole env roleId) fun previous =>
      previous = start.policy.profiles.find? roleId := by
    apply asks_policy_read.andThen
    rintro contents ⟨rfl, -⟩
    exact asks_pure rfl
  apply hsnapshot.andThen
  rintro previous rfl
  apply asks_read
  intro state profile _ hread
  split at hread
  · cases hread
  · rename_i hfound
    cases hread
    exact hfound

theorem asks_assignedRole (roleProfileId : Option Uuid) :
    Asks start (policy.assignedRole env roleProfileId) fun profile =>
      profile = roleProfileId.bind start.policy.profiles.find? ∧
        (roleProfileId.isSome = true → profile.isSome = true) := by
  unfold RolePolicy.assignedRole
  split
  · apply asks_policy_read.andThen
    intro _ _
    exact asks_pure ⟨rfl, by simp⟩
  rename_i roleId
  apply (asks_existingRole roleId).andThen
  intro profile hprofile
  exact asks_pure ⟨hprofile.symm, by simp⟩

/-! ## Writing the policy -/

theorem spec_write (contents : PolicyState) : Handler.Spec (Quiet start) (policy.write env contents)
      (fun _ => Settled start contents)
      (fun state => Quiet start state ∨ Settled start contents state) := by
  constructor
  intro state hquiet
  unfold RolePolicy.write
  rw [Handler.exec_of]
  have hwritten : Settled start contents { state with policy := contents } :=
    ⟨rfl, hquiet.users, hquiet.passwords⟩
  by_cases hfits : policy.fits contents = true
  · rw [if_neg (by simp [hfits])]
    cases env.policyWrite with
    | written => exact hwritten
    | lost => exact .inl hquiet
    | replacedThenFailed => exact .inr hwritten
  · rw [if_pos (by simp [hfits])]
    exact .inl hquiet

/-- The contract of a mutation of the policy that has been guarded. -/
def Rewrites (registry : Registry) {α : Type} (start : ProductState) (route : Route α)
    (replacement : α → Option UserAccount) (revised : α → PolicyState → Prop) : Prop :=
  Handler.Spec (Quiet start) route
    (fun a state => ∃ contents, revised a contents ∧
      Guarded registry start contents (replacement a) none ∧ Settled start contents state)
    (fun state => Quiet start state ∨ ∃ a contents, revised a contents ∧
      Guarded registry start contents (replacement a) none ∧ Settled start contents state)

theorem rewrites_of_guard (replacement : α → Option UserAccount)
    (revised : α → PolicyState → Prop) {a : α} (hrevised : revised a contents) :
    Rewrites policy.registry start
      (policy.guard env contents (replacement a) none >>= fun _ =>
        policy.write env contents >>= fun _ => pure a) replacement revised := by
  apply asks_guard.bind
  · intro _ hguarded
    apply Handler.Spec.bind ((spec_write contents).mono (fun _ _ hpost => hpost) ?_)
    · intro _
      apply Handler.Spec.pure
      intro state hsettled
      exact ⟨contents, hrevised, hguarded, hsettled⟩
    · rintro state (hquiet | hsettled)
      · exact .inl hquiet
      · exact .inr ⟨a, contents, hrevised, hguarded, hsettled⟩
  · intro state hquiet
    exact .inl hquiet

theorem asks_requireRevision {expected : Option ℕ} :
    Asks start (RolePolicy.requireRevision contents expected) fun _ => True :=
  asks_require.imp fun _ _ => trivial

/-- The profile that a mutation admits. -/
def AdmittedProfile (roleId : Uuid) (payload : RolePolicy.RolePayload) (profile : RoleProfile) :
    Prop :=
  (RoleProfile.mk roleId payload.name payload.description payload.baseRole
    payload.permissions).admitted = some profile

theorem asks_admitProfile (profile : RoleProfile) :
    Asks start (RolePolicy.admitProfile profile) fun admitted => profile.admitted = some admitted := by
  apply asks_read
  intro state admitted _ hread
  split at hread
  · cases hread
  · rename_i hprofile
    cases hread
    exact hprofile

theorem rewrites_upsert (payload : RolePolicy.RolePayload) (roleId : Option Uuid)
    (expected : Option ℕ) :
    Rewrites policy.registry start (policy.upsert env payload roleId expected) (fun _ => none)
      fun profile contents => AdmittedProfile (roleId.getD env.newRoleId) payload profile ∧
        contents = RolePolicy.PolicyState.revised start.policy
          (start.policy.profiles.upsert (roleId.getD env.newRoleId) profile)
          start.policy.bindings := by
  unfold RolePolicy.upsert
  apply asks_policy_read.bind _ fun _ hquiet => .inl hquiet
  rintro contents ⟨rfl, -⟩
  dsimp only
  apply asks_requireRevision.bind _ fun _ hquiet => .inl hquiet
  intro _ _
  apply asks_require.bind _ fun _ hquiet => .inl hquiet
  intro _ _
  apply (asks_admitProfile _).bind _ fun _ hquiet => .inl hquiet
  intro profile hprofile
  apply asks_require.bind _ fun _ hquiet => .inl hquiet
  intro _ _
  apply asks_require.bind _ fun _ hquiet => .inl hquiet
  intro _ _
  exact rewrites_of_guard (fun _ => none)
    (fun profile contents => AdmittedProfile (roleId.getD env.newRoleId) payload profile ∧
      contents = RolePolicy.PolicyState.revised start.policy
        (start.policy.profiles.upsert (roleId.getD env.newRoleId) profile) start.policy.bindings)
    ⟨hprofile, rfl⟩

theorem rewrites_assign (userId : Uuid) (roleId : Option Uuid) (expected : Option ℕ) :
    Rewrites policy.registry start (policy.assign env userId roleId expected) some
      fun replacement contents => policy.isValid start.policy = true ∧ ∃ account bindings,
        policy.registry.get start.process.db userId = some account ∧
        RolePolicy.assigned start.policy account roleId = .ok (bindings, replacement) ∧
        contents = RolePolicy.PolicyState.revised start.policy start.policy.profiles
          bindings := by
  unfold RolePolicy.assign
  apply asks_policy_read.bind _ fun _ hquiet => .inl hquiet
  rintro contents ⟨rfl, hvalid⟩
  apply asks_requireRevision.bind _ fun _ hquiet => .inl hquiet
  intro _ _
  apply (asks_getUser userId).bind _ fun _ hquiet => .inl hquiet
  intro account haccount
  have hassigned : Asks start
      (Handler.read fun _ => RolePolicy.assigned start.policy account roleId)
      fun result => RolePolicy.assigned start.policy account roleId = .ok result := by
    apply asks_read
    intro _ result _ hread
    exact hread
  apply hassigned.bind _ fun _ hquiet => .inl hquiet
  rintro ⟨bindings, replacement⟩ hresult
  exact rewrites_of_guard some
    (fun replacement contents => policy.isValid start.policy = true ∧ ∃ account bindings,
      policy.registry.get start.process.db userId = some account ∧
      RolePolicy.assigned start.policy account roleId = .ok (bindings, replacement) ∧
      contents = RolePolicy.PolicyState.revised start.policy start.policy.profiles bindings)
    ⟨hvalid, account, bindings, haccount, hresult, rfl⟩

theorem rewrites_delete (roleId : Uuid) (expected : ℕ) :
    Rewrites policy.registry start (policy.delete env roleId expected) (fun _ => none)
      fun _ contents => (∀ row ∈ start.policy.bindings.rows, row.2 ≠ roleId) ∧
        contents = RolePolicy.PolicyState.revised start.policy
          (start.policy.profiles.erase roleId) start.policy.bindings := by
  unfold RolePolicy.delete
  apply asks_policy_read.bind _ fun _ hquiet => .inl hquiet
  rintro contents ⟨rfl, -⟩
  apply asks_requireRevision.bind _ fun _ hquiet => .inl hquiet
  intro _ _
  apply asks_require.bind _ fun _ hquiet => .inl hquiet
  intro _ hunused
  apply asks_require.bind _ fun _ hquiet => .inl hquiet
  intro _ _
  rw [List.all_eq_true] at hunused
  dsimp only
  rw [← bind_pure (policy.write env _)]
  exact rewrites_of_guard (fun _ => none)
    (fun _ contents => (∀ row ∈ start.policy.bindings.rows, row.2 ≠ roleId) ∧
      contents = RolePolicy.PolicyState.revised start.policy
        (start.policy.profiles.erase roleId) start.policy.bindings)
    (a := ()) ⟨fun row hrow => by simpa using hunused row hrow, rfl⟩

/-! ## Calls of the registry -/

theorem spec_callRegistry {call : Process → Except RegistryError α × Process}
    {pre failed : ProductState → Prop} {post : α → ProductState → Prop}
    (hok : ∀ state a process, pre state → call state.process = (.ok a, process) →
      post a { state with process := process })
    (herror : ∀ state error process, pre state → call state.process = (.error error, process) →
      failed { state with process := process }) :
    Handler.Spec pre (RolePolicy.callRegistry call) post failed := by
  constructor
  intro state hpre
  rw [exec_callRegistry]
  rcases hcall : call state.process with ⟨result, process⟩
  cases result with
  | ok a => exact hok state a process hpre hcall
  | error error => exact herror state error process hpre hcall

variable {userId : Uuid}

theorem get_of_userCreate {user : UserCreate}
    (h : db.users.find? (registry.siteId, userId) = some user) :
    registry.get db userId = some ⟨user, userId⟩ := by
  rw [Registry.get, h]
  rfl

variable {process after : Process} {actor : String} {call : CallEnvironment}

theorem createWithBootstrap_accounts {request : UserCreate} {ttlSeconds : ℤ}
    {access : Option Registry.CameraAccessRequest} {issue : Registry.BootstrapIssue}
    (h : registry.createWithBootstrap call derive request actor ttlSeconds access process =
      (.ok issue, after)) :
    issue.account.toUserCreate = request ∧
      registry.get process.db issue.account.id = none ∧
      (∀ userId, registry.get after.db userId =
        if userId = issue.account.id then some issue.account
        else registry.get process.db userId) ∧
      ∀ key, HasPassword process.db key → HasPassword after.db key := by
  obtain ⟨-, actor, inserted, accessed, credentials, hinsert, haccess, hcredentials, rfl⟩ :=
    Registry.createWithBootstrap_ok h
  obtain ⟨haccount, -, users, husers, rfl⟩ := Registry.insertUser_ok hinsert
  obtain ⟨husersEq, hcredentialsEq, -⟩ := Registry.writeRequestedAccess_ok haccess
  obtain ⟨hfree, -, hfind⟩ := Table.insert?_eq_some husers
  rw [haccount]
  refine ⟨rfl, ?_, ?_, ?_⟩
  · rw [Registry.get, hfree]
    rfl
  · intro userId
    have hrow : accessed.users.find? (registry.siteId, userId) =
        if userId = call.newUserId then some request
        else process.db.users.find? (registry.siteId, userId) := by
      rw [husersEq]
      simpa using hfind (registry.siteId, userId)
    change registry.get accessed userId = _
    rw [Registry.get, hrow]
    by_cases hid : userId = call.newUserId
    · rw [if_pos hid, if_pos hid, hid]
      rfl
    · rw [if_neg hid, if_neg hid]
      rfl
  · rintro key ⟨row, hrow, hpassword⟩
    refine ⟨row, ?_, hpassword⟩
    have hbefore : accessed.credentials.find? key = some row := by
      rw [hcredentialsEq]
      exact hrow
    exact (find?_insert?_of_find? hcredentials hbefore).trans hbefore

theorem update_accounts {patch : UserPatch} {access : Option Registry.CameraAccessRequest}
    {result : Option UserAccount}
    (h : registry.update call userId patch actor access process = (.ok result, after)) :
    (result = none ∧ after = process) ∨ ∃ current,
      registry.get process.db userId = some ⟨current, userId⟩ ∧
      (∀ other, registry.get after.db other =
        if other = userId then some ⟨Registry.patched current patch, userId⟩
        else registry.get process.db other) ∧
      ∀ key, HasPassword after.db key ↔ HasPassword process.db key := by
  rcases Registry.update_ok h with
    ⟨rfl, rfl⟩ | ⟨actor, current, written, hcurrent, -, hwritten, -, rfl⟩
  · exact .inl ⟨rfl, rfl⟩
  obtain ⟨husers, hcredentials, -⟩ := Registry.writeRequestedAccess_ok hwritten
  refine .inr ⟨current, get_of_userCreate hcurrent, ?_, ?_⟩
  · intro other
    have hrow : written.users.find? (registry.siteId, other) =
        if other = userId then some (Registry.patched current patch)
        else process.db.users.find? (registry.siteId, other) := by
      rw [husers, Registry.find?_users_writeAccount hcurrent]
      simp
    change registry.get written other = _
    rw [Registry.get, hrow]
    by_cases hid : other = userId
    · rw [if_pos hid, if_pos hid, hid]
      rfl
    · rw [if_neg hid, if_neg hid]
      rfl
  · intro key
    rw [Registry.credentials_writeAccount] at hcredentials
    unfold HasPassword
    rw [hcredentials]

theorem setCameraAccess_accounts {access : Registry.CameraAccessRequest}
    {result : Option CameraAccess}
    (h : registry.setCameraAccess call userId access actor process = (.ok result, after)) :
    after.db.users = process.db.users ∧ after.db.credentials = process.db.credentials := by
  rcases Registry.setCameraAccess_ok h with ⟨-, rfl⟩ | ⟨actor, user, db, -, hwrite, -, rfl⟩
  · exact ⟨rfl, rfl⟩
  · obtain ⟨husers, hcredentials, -⟩ := Registry.writeRequestedAccess_ok hwrite
    exact ⟨husers, hcredentials⟩

theorem resetBootstrap_accounts {ttlSeconds : ℤ} {result : Option Registry.BootstrapIssue}
    (h : registry.resetBootstrap call derive userId actor ttlSeconds process =
      (.ok result, after)) :
    after.db.users = process.db.users ∧
      ∀ key, key ≠ (registry.siteId, userId) → HasPassword process.db key →
        HasPassword after.db key := by
  rcases Registry.resetBootstrap_ok h with
    ⟨-, rfl⟩ | ⟨-, actor, user, expires, checked, hget, hguard, -, rfl⟩
  · exact ⟨rfl, fun _ _ hpassword => hpassword⟩
  have hcheck := Registry.checkEffect_resetGuard registry call user process
  rw [hguard] at hcheck
  refine ⟨hcheck.users_eq, ?_⟩
  intro key hne hpassword
  rw [← (get_eq_some hget).2] at hne
  apply ((hasPassword_checkEffect hcheck key).mpr hpassword).of_eq
  exact (Table.find?_upsert _ _ _ _).trans (if_neg hne)

theorem assigned_cases {replacement : UserAccount} {roleId : Option Uuid}
    {bindings : Table Uuid Uuid}
    (h : RolePolicy.assigned contents account roleId = .ok (bindings, replacement)) :
    (∀ userId, userId ≠ account.id → bindings.find? userId = contents.bindings.find? userId) ∧
      ((roleId = none ∧ replacement = account ∧ bindings.find? account.id = none) ∨
        ∃ id profile, roleId = some id ∧ contents.profiles.find? id = some profile ∧
          bindings.find? account.id = some id ∧
          replacement = { account with role := profile.baseRole }) := by
  unfold RolePolicy.assigned at h
  split at h
  · cases h
    refine ⟨?_, .inl ⟨rfl, rfl, ?_⟩⟩
    · intro userId hne
      rw [Table.find?_erase, if_neg hne]
    · rw [Table.find?_erase, if_pos rfl]
  rename_i id
  split at h
  · cases h
  rename_i profile hprofile
  split at h
  · cases h
  cases h
  refine ⟨?_, .inr ⟨id, profile, rfl, hprofile, ?_, rfl⟩⟩
  · intro userId hne
    rw [Table.find?_upsert, if_neg hne]
  · rw [Table.find?_upsert, if_pos rfl]

theorem eq_of_role_eq {replacement : UserAccount} {role : UserRole}
    (h : replacement = account ∨ replacement = { account with role := role })
    (hrole : account.role = replacement.role) : replacement = account := by
  rcases h with rfl | rfl
  · rfl
  · rw [show role = account.role from hrole.symm]

/-- What a whole assignment leaves: the accounts of the start but for the replacement. -/
structure Aligned (registry : Registry) (start : ProductState) (contents : PolicyState)
    (replacement : UserAccount) (state : ProductState) : Prop where
  policy : state.policy = contents
  get : ∀ userId, registry.get state.process.db userId =
    if userId = replacement.id then some replacement else registry.get start.process.db userId
  passwords : ∀ key, HasPassword state.process.db key ↔ HasPassword start.process.db key

/-- The second write of an assignment gives the target its role, or fails and writes
nothing. -/
theorem spec_alignRole {replacement actor : UserAccount} {role : UserRole}
    (haccount : policy.registry.get start.process.db account.id = some account)
    (hreplacement : replacement = account ∨ replacement = { account with role := role }) :
    Handler.Spec (Settled start contents) (policy.alignRole env actor account.id replacement)
      (fun _ state => Aligned policy.registry start contents replacement state ∨
        Settled start contents state) (Settled start contents) := by
  have hid : replacement.id = account.id := by
    rcases hreplacement with rfl | rfl <;> rfl
  have hget : Handler.Spec (Settled start contents) (policy.getUser account.id)
      (fun found state => Settled start contents state ∧ found = account)
      (Settled start contents) := by
    apply Handler.Spec.read
    · intro state found hsettled hread
      rw [get_eq_of_users_eq hsettled.users, haccount] at hread
      cases hread
      exact ⟨hsettled, rfl⟩
    · intro state hsettled
      exact hsettled
  apply hget.bind
  intro found
  by_cases hfound : found = account
  · subst hfound
    refine Handler.Spec.imp ?_ fun _ h => h.1
    split_ifs with hrole
    · refine Handler.Spec.bind (spec_callRegistry ?_ ?_) fun _ => Handler.Spec.pure fun _ h => h
      · intro state result process hsettled hupdate
        rcases update_accounts hupdate with ⟨-, rfl⟩ | ⟨current, hcurrent, hget, hpasswords⟩
        · exact .inr hsettled
        rw [get_eq_of_users_eq hsettled.users, haccount] at hcurrent
        refine .inl ⟨hsettled.policy, ?_, ?_⟩
        · intro other
          rw [hget, get_eq_of_users_eq hsettled.users, hid]
          have huser := congrArg UserAccount.toUserCreate (Option.some.inj hcurrent)
          dsimp only at huser
          subst huser
          rcases hreplacement with rfl | rfl
          · exact absurd rfl hrole
          · rfl
        · intro key
          rw [hpasswords, hsettled.passwords]
      · intro state error process hsettled hupdate
        rw [Registry.update_error hupdate]
        exact hsettled
    · exact Handler.Spec.pure fun _ hsettled => .inr hsettled
  · constructor
    rintro state ⟨-, heq⟩
    exact absurd heq hfound

end Steps

end K5Vision.Operator
