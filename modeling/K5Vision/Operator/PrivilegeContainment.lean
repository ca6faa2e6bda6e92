import K5Vision.Operator.FullAdministrator

/-!
# No privilege escalation

Behind a successful request every account holds what it held before, or nothing
that the acting administrator does not hold: `Contained`.  A route compares what it
hands out with the effective permissions of the actor, and never with a role, so
each proof carries the grant it has passed to the one account, or the one profile,
that the request writes.

An assignment writes the policy before the role of the target.  A profile admits
permissions of its base role only, so the permissions between the two writes are
never more than those behind them.
-/

namespace K5Vision.Operator

open Library Identity

/-- The effective permissions of an account that is enabled. -/
def authorityOf (registry : Registry) (state : ProductState) (userId : Uuid) : Finset Permission :=
  match registry.get state.process.db userId with
  | none => ∅
  | some account => if account.enabled then state.policy.permissions account else ∅

/-- The account and its permissions are what they were. -/
def Unchanged (registry : Registry) (start state : ProductState) (userId : Uuid) : Prop :=
  registry.get state.process.db userId = registry.get start.process.db userId ∧
    ∀ account, registry.get start.process.db userId = some account →
      state.policy.permissions account = start.policy.permissions account

/-- An account holds what it held, or nothing beyond `granted`. -/
def Contained (registry : Registry) (start : ProductState) (granted : Finset Permission)
    (state : ProductState) (userId : Uuid) : Prop :=
  Unchanged registry start state userId ∨ effectiveOf registry state userId ⊆ granted

section Containment

variable {policy : RolePolicy} {env : RequestEnvironment} {start state : ProductState}
  {derive : DeriveCredential} {registry : Registry} {granted : Finset Permission}
  {userId : Uuid}

variable {account : UserAccount}

theorem effectiveOf_of_get (h : registry.get state.process.db userId = some account) :
    effectiveOf registry state userId = state.policy.permissions account := by
  unfold effectiveOf
  rw [h]

theorem authorityOf_of_get (h : registry.get state.process.db userId = some account) :
    authorityOf registry state userId =
      if account.enabled then state.policy.permissions account else ∅ := by
  unfold authorityOf
  rw [h]

theorem authorityOf_subset_effectiveOf (registry : Registry) (state : ProductState)
    (userId : Uuid) : authorityOf registry state userId ⊆ effectiveOf registry state userId := by
  cases hget : registry.get state.process.db userId with
  | none => simp [authorityOf, hget]
  | some account =>
      rw [authorityOf_of_get hget, effectiveOf_of_get hget]
      split_ifs <;> simp

theorem Unchanged.effectiveOf_eq (h : Unchanged registry start state userId) :
    effectiveOf registry state userId = effectiveOf registry start userId := by
  cases hget : registry.get start.process.db userId with
  | none => simp [effectiveOf, h.1, hget]
  | some account =>
      rw [effectiveOf_of_get (h.1.trans hget), effectiveOf_of_get hget, h.2 account hget]

theorem Unchanged.authorityOf_eq (h : Unchanged registry start state userId) :
    authorityOf registry state userId = authorityOf registry start userId := by
  cases hget : registry.get start.process.db userId with
  | none => simp [authorityOf, h.1, hget]
  | some account =>
      rw [authorityOf_of_get (h.1.trans hget), authorityOf_of_get hget, h.2 account hget]

theorem Contained.effectiveOf_subset (h : Contained registry start granted state userId) :
    effectiveOf registry state userId ⊆ granted ∪ effectiveOf registry start userId := by
  rcases h with hunchanged | hgranted
  · rw [hunchanged.effectiveOf_eq]
    exact Finset.subset_union_right
  · exact hgranted.trans Finset.subset_union_left

theorem Contained.authorityOf_subset (h : Contained registry start granted state userId) :
    authorityOf registry state userId ⊆ granted ∪ authorityOf registry start userId := by
  rcases h with hunchanged | hgranted
  · rw [hunchanged.authorityOf_eq]
    exact Finset.subset_union_right
  · exact ((authorityOf_subset_effectiveOf _ _ _).trans hgranted).trans Finset.subset_union_left

theorem Unchanged.of_policy_eq (hpolicy : state.policy = start.policy)
    (hget : registry.get state.process.db userId = registry.get start.process.db userId) :
    Unchanged registry start state userId :=
  ⟨hget, fun account _ => by rw [hpolicy]⟩

theorem Quiet.unchanged (h : Quiet start state) (registry : Registry) (userId : Uuid) :
    Unchanged registry start state userId :=
  .of_policy_eq h.policy (get_eq_of_users_eq h.users userId)

theorem permissions_subset_base (contents : PolicyState) (account : UserAccount) :
    contents.permissions account ⊆ basePermissions account.role := by
  unfold PolicyState.permissions
  split
  · exact Finset.Subset.refl _
  · exact Finset.inter_subset_left

variable {profile : RoleProfile} {contents : PolicyState}

theorem permissions_of_profile
    (h : (contents.bindings.find? account.id).bind contents.profiles.find? = some profile) :
    contents.permissions account =
      basePermissions account.role ∩ profile.permissions.toFinset := by
  unfold PolicyState.permissions
  rw [h]

theorem permissions_of_unbound (h : contents.bindings.find? account.id = none) :
    contents.permissions account = basePermissions account.role := by
  unfold PolicyState.permissions
  rw [h]
  rfl

/-! ## Routes -/

/-- A route after which every account is contained in what the actor held. -/
def Contains {α : Type} (registry : Registry) (start : ProductState) (granted : Finset Permission)
    (route : Route α) : Prop :=
  Handler.Spec (Quiet start) route
    (fun _ state => ∀ userId, Contained registry start granted state userId) fun _ => True

variable {α β : Type}

theorem Asks.contains {route : Route α} {fact : α → Prop} {next : α → Route β}
    (h : Asks start route fact) (hnext : ∀ a, fact a → Contains registry start granted (next a)) :
    Contains registry start granted (route >>= next) :=
  h.bind hnext fun _ _ => trivial

theorem contains_callRegistry {call : Process → Except RegistryError α × Process}
    {next : α → Route β}
    (hok : ∀ state a process, Quiet start state → call state.process = (.ok a, process) →
      ∀ userId, Contained registry start granted { state with process := process } userId)
    (hnext : ∀ a (after : ProductState → Prop),
      Handler.Spec after (next a) (fun _ => after) fun _ => True) :
    Contains registry start granted (RolePolicy.callRegistry call >>= next) :=
  Handler.Spec.bind
    (spec_callRegistry hok fun _ _ _ _ _ => trivial) fun a => hnext a _

theorem spec_unit (after : ProductState → Prop) :
    Handler.Spec after (pure () : Route Unit) (fun _ => after) fun _ => True :=
  Handler.Spec.pure fun _ h => h

theorem spec_requireFound (result : Option α) (after : ProductState → Prop) :
    Handler.Spec after (RolePolicy.requireFound result) (fun _ => after) fun _ => True :=
  Handler.Spec.require (fun _ _ h => h) fun _ _ => trivial

theorem contains_createUser {actor : UserAccount} {payload : CreateUserPayload}
    {access : CameraAccess}
    (hgrant : basePermissions payload.user.role ⊆ granted) :
    Contains policy.registry start granted (do
      let _ ← RolePolicy.callRegistry (policy.registry.createWithBootstrap env.call derive
        payload.user actor.username.1 RolePolicy.defaultBootstrapTtlSeconds (some (.of access)))
      pure ()) := by
  apply contains_callRegistry _ fun _ => spec_unit
  intro state issue process hquiet hissue userId
  obtain ⟨haccount, -, hget, -⟩ := createWithBootstrap_accounts hissue
  by_cases hid : userId = issue.account.id
  · right
    rw [effectiveOf_of_get (show policy.registry.get process.db userId = some issue.account by
      rw [hget, if_pos hid])]
    apply (permissions_subset_base _ _).trans
    rw [haccount]
    exact hgrant
  · left
    apply Unchanged.of_policy_eq
    · exact hquiet.policy
    · rw [hget, if_neg hid, get_eq_of_users_eq hquiet.users]

theorem contains_setCameraAccess {actor : String} {access : CameraAccess} (target : Uuid) :
    Contains policy.registry start granted (do
      let _ ← RolePolicy.callRegistry (policy.registry.setCameraAccess env.call target (.of access)
        actor)
      pure ()) := by
  apply contains_callRegistry _ fun _ => spec_unit
  intro state result process hquiet haccess userId
  left
  apply Unchanged.of_policy_eq
  · exact hquiet.policy
  · exact get_eq_of_users_eq ((setCameraAccess_accounts haccess).1.trans hquiet.users) userId

/-- An update leaves its target with what it held, or with a role that the actor may
hand out. -/
theorem contains_writeUpdate {target : Uuid} {actor : UserAccount} {payload : UpdateUserPayload}
    {access : Option CameraAccess}
    (haccount : policy.registry.get start.process.db target = some account)
    (hheld : start.policy.permissions account ⊆ granted)
    (hrole : ∀ role, payload.role = some role → basePermissions role ⊆ granted) :
    Contains policy.registry start granted
      (policy.writeUpdate env actor target payload access) := by
  unfold RolePolicy.writeUpdate
  split
  · rename_i _ patch hpatch
    apply contains_callRegistry _ spec_requireFound
    intro state result process hquiet hupdate userId
    rcases update_accounts hupdate with ⟨-, rfl⟩ | ⟨current, hcurrent, hget, -⟩
    · exact .inl (hquiet.unchanged _ userId)
    by_cases hid : userId = target
    · right
      rw [get_eq_of_users_eq hquiet.users, haccount] at hcurrent
      cases hcurrent
      rw [effectiveOf_of_get (show policy.registry.get process.db userId =
        some ⟨Registry.patched current patch, target⟩ by rw [hget, if_pos hid])]
      have hpatchRole : patch.role = payload.role := by
        unfold UpdateUserPayload.patch at hpatch
        split_ifs at hpatch
        cases hpatch
        rfl
      cases hnamed : payload.role with
      | none =>
          -- the role stays, and with it the permissions
          have hsame : state.policy.permissions ⟨Registry.patched current patch, target⟩ =
              start.policy.permissions ⟨current, target⟩ := by
            rw [hquiet.policy]
            unfold PolicyState.permissions Registry.patched
            rw [hpatchRole, hnamed]
            rfl
          rw [hsame]
          exact hheld
      | some role =>
          apply (permissions_subset_base _ _).trans
          unfold Registry.patched
          rw [hpatchRole, hnamed]
          exact hrole role hnamed
    · left
      apply Unchanged.of_policy_eq
      · exact hquiet.policy
      · rw [hget, if_neg hid, get_eq_of_users_eq hquiet.users]
  · exact contains_setCameraAccess target
  · exact Handler.Spec.pure fun _ hquiet userId => .inl (hquiet.unchanged _ userId)

theorem contains_resetPassword {target : Uuid} {actor : String} :
    Contains policy.registry start granted (do
      let result ← RolePolicy.callRegistry (policy.registry.resetBootstrap env.call derive target
        actor RolePolicy.defaultBootstrapTtlSeconds)
      RolePolicy.requireFound result) := by
  apply contains_callRegistry _ spec_requireFound
  intro state result process hquiet hreset userId
  left
  apply Unchanged.of_policy_eq
  · exact hquiet.policy
  · exact get_eq_of_users_eq ((resetBootstrap_accounts hreset).1.trans hquiet.users) userId

/-! ## Role routes -/

/-- Behind a change of the profiles, an account is bound to a profile that is what it
was, or has nothing beyond what the actor holds. -/
theorem contained_of_settled (hsettled : Settled start contents state)
    (hcontents : ∀ account, registry.get start.process.db userId = some account →
      contents.permissions account = start.policy.permissions account ∨
        contents.permissions account ⊆ granted) :
    Contained registry start granted state userId := by
  have hget := @get_eq_of_users_eq _ registry _ hsettled.users userId
  cases haccount : registry.get start.process.db userId with
  | none => exact .inl ⟨hget, fun account h => by rw [haccount] at h; cases h⟩
  | some account =>
      rcases hcontents account haccount with hsame | hgranted
      · refine .inl ⟨hget, ?_⟩
        intro found hfound
        rw [haccount] at hfound
        cases hfound
        rw [hsettled.policy]
        exact hsame
      · right
        rw [effectiveOf_of_get (hget.trans haccount), hsettled.policy]
        exact hgranted

/-- The profile `_profile` admits has the permissions asked for, and they are
permissions of its base role. -/
theorem admitted_permissions {admitted : RoleProfile} (h : profile.admitted = some admitted) :
    admitted.permissions.toFinset = profile.permissions.toFinset ∧
      admitted.baseRole = profile.baseRole ∧ admitted.id = profile.id ∧
      profile.permissions.toFinset ⊆ basePermissions profile.baseRole := by
  unfold RoleProfile.admitted at h
  dsimp only at h
  split_ifs at h with _ hpermissions
  cases h
  simp only [Bool.or_eq_true, Bool.not_eq_true', decide_eq_false_iff_not, not_or, not_not]
    at hpermissions
  refine ⟨?_, rfl, rfl, hpermissions.2⟩
  ext permission
  simp [sortPermissions]

variable {roleId : Option Uuid}

theorem contains_upsert {payload : RolePolicy.RolePayload} {expected : Option ℕ}
    (hgrant : payload.permissions.toFinset ⊆ granted) :
    Contains policy.registry start granted (do
      let _ ← policy.upsert env payload roleId expected
      pure ()) := by
  refine Handler.Spec.bind ?_ fun _ => spec_unit _
  apply (rewrites_upsert payload roleId expected).mono _ fun _ _ => trivial
  rintro profile state ⟨contents, ⟨hadmitted, rfl⟩, -, hsettled⟩ userId
  apply contained_of_settled hsettled
  intro account _
  -- the accounts bound to the written profile, and all others
  by_cases hbound : start.policy.bindings.find? account.id = some (roleId.getD env.newRoleId)
  · right
    have hprofile : ((RolePolicy.PolicyState.revised start.policy
        (start.policy.profiles.upsert (roleId.getD env.newRoleId) profile)
        start.policy.bindings).bindings.find? account.id).bind
          (RolePolicy.PolicyState.revised start.policy
            (start.policy.profiles.upsert (roleId.getD env.newRoleId) profile)
            start.policy.bindings).profiles.find? = some profile := by
      dsimp only [RolePolicy.PolicyState.revised]
      rw [hbound, Option.bind_some, Table.find?_upsert, if_pos rfl]
    rw [permissions_of_profile hprofile, (admitted_permissions hadmitted).1]
    exact Finset.inter_subset_right.trans hgrant
  · left
    apply permissions_eq
    dsimp only [RolePolicy.PolicyState.revised]
    cases hbinding : start.policy.bindings.find? account.id with
    | none => rfl
    | some other =>
        rw [Option.bind_some, Option.bind_some, Table.find?_upsert, if_neg]
        rintro rfl
        exact hbound hbinding

theorem contains_delete {roleId : Uuid} {expected : ℕ} :
    Contains policy.registry start granted (policy.delete env roleId expected) := by
  apply (rewrites_delete roleId expected).mono _ fun _ _ => trivial
  rintro _ state ⟨contents, ⟨hunused, rfl⟩, -, hsettled⟩ userId
  apply contained_of_settled hsettled
  intro account _
  left
  apply permissions_eq
  dsimp only [RolePolicy.PolicyState.revised]
  cases hbinding : start.policy.bindings.find? account.id with
  | none => rfl
  | some other =>
      have hother := hunused _ (Table.mem_rows.mpr hbinding)
      rw [Option.bind_some, Option.bind_some, Table.find?_erase, if_neg hother]

/-! ## Assignments -/

/-- The contents an assignment writes, and the account it makes of its target. -/
def Assignment (policy : RolePolicy) (start : ProductState) (userId : Uuid)
    (roleId : Option Uuid) (replacement : UserAccount) (contents : PolicyState) : Prop :=
  policy.isValid start.policy = true ∧ ∃ account bindings,
    policy.registry.get start.process.db userId = some account ∧
    RolePolicy.assigned start.policy account roleId = .ok (bindings, replacement) ∧
    contents = RolePolicy.PolicyState.revised start.policy start.policy.profiles bindings

variable {replacement : UserAccount}

/-- What the target of an assignment is bound to decides its permissions, whatever its
role is. -/
theorem Assignment.permissions (h : Assignment policy start userId roleId replacement contents)
    (haccount : policy.registry.get start.process.db userId = some account) (role : UserRole) :
    contents.permissions { account with role := role } =
      match roleId.bind start.policy.profiles.find? with
      | none => basePermissions role
      | some profile => basePermissions role ∩ profile.permissions.toFinset := by
  obtain ⟨-, found, bindings, hfound, hassigned, rfl⟩ := h
  rw [haccount] at hfound
  cases hfound
  obtain ⟨-, ⟨rfl, -, hbinding⟩ | ⟨id, profile, rfl, hprofile, hbinding, -⟩⟩ :=
    assigned_cases hassigned
  · exact permissions_of_unbound hbinding
  rw [Option.bind_some, hprofile]
  apply permissions_of_profile
  dsimp only [RolePolicy.PolicyState.revised]
  rw [hbinding, Option.bind_some, hprofile]

theorem Assignment.permissions_other
    (h : Assignment policy start userId roleId replacement contents)
    (hother : account.id ≠ userId) :
    contents.permissions account = start.policy.permissions account := by
  obtain ⟨-, target, bindings, htarget, hassigned, rfl⟩ := h
  rw [← (get_eq_some htarget).2] at hother
  apply permissions_eq
  dsimp only [RolePolicy.PolicyState.revised]
  rw [(assigned_cases hassigned).1 account.id hother]

theorem profile_subset_base (hvalid : policy.isValid start.policy = true) {id : Uuid}
    (hprofile : start.policy.profiles.find? id = some profile) :
    profile.permissions.toFinset ⊆ basePermissions profile.baseRole := by
  simp only [RolePolicy.isValid, Bool.and_eq_true, List.all_eq_true] at hvalid
  have hrow := hvalid.1.1.2 _ (Table.mem_rows.mpr hprofile)
  cases hadmitted : profile.admitted with
  | none => simp [hadmitted] at hrow
  | some admitted => exact (admitted_permissions hadmitted).2.2.2

/-- The permissions of the target behind the second write. -/
theorem Assignment.permissions_replacement
    (h : Assignment policy start userId roleId replacement contents)
    (haccount : policy.registry.get start.process.db userId = some account) :
    contents.permissions replacement =
      RolePolicy.assignedPermissions account (roleId.bind start.policy.profiles.find?) := by
  have hpermissions := h.permissions haccount
  obtain ⟨hvalid, found, bindings, hfound, hassigned, -⟩ := h
  rw [haccount] at hfound
  cases hfound
  obtain ⟨-, ⟨rfl, rfl, -⟩ | ⟨id, profile, rfl, hprofile, -, rfl⟩⟩ := assigned_cases hassigned
  · exact hpermissions replacement.role
  · rw [hpermissions profile.baseRole, Option.bind_some, hprofile]
    exact Finset.inter_eq_right.mpr (profile_subset_base hvalid hprofile)

/-- Between the writes, the target holds no more than behind them. -/
theorem Assignment.permissions_between
    (h : Assignment policy start userId roleId replacement contents)
    (haccount : policy.registry.get start.process.db userId = some account) :
    contents.permissions account ⊆
      RolePolicy.assignedPermissions account (roleId.bind start.policy.profiles.find?) := by
  rw [show account = { account with role := account.role } from rfl, h.permissions haccount]
  cases roleId.bind start.policy.profiles.find? with
  | none => exact Finset.Subset.refl _
  | some profile => exact Finset.inter_subset_right

/-- The grants an assignment has passed. -/
def MayAssign (policy : RolePolicy) (start : ProductState) (principal : UserAccount)
    (userId : Uuid) (roleId : Option Uuid) : Prop :=
  ∃ actor account, policy.registry.get start.process.db principal.id = some actor ∧
    actor.enabled = true ∧ policy.registry.get start.process.db userId = some account ∧
    RolePolicy.assignedPermissions account (roleId.bind start.policy.profiles.find?) ⊆
      start.policy.permissions actor

theorem spec_assignRole (principal : UserAccount) (userId : Uuid) (roleProfileId : Option Uuid)
    (expectedRevision : Option ℕ) :
    Handler.Spec (Quiet start)
      (policy.assignRole env principal userId roleProfileId expectedRevision)
      (fun _ state => MayAssign policy start principal userId roleProfileId ∧
        ∃ replacement contents, Assignment policy start userId roleProfileId replacement contents ∧
          (Aligned policy.registry start contents replacement state ∨
            Settled start contents state))
      (fun state => Quiet start state ∨ ∃ replacement contents,
        Assignment policy start userId roleProfileId replacement contents ∧
          Settled start contents state) := by
  apply (asks_roleActor principal).bind _ fun _ hquiet => .inl hquiet
  rintro actor ⟨hactor, henabled⟩
  apply (asks_getUser userId).bind _ fun _ hquiet => .inl hquiet
  intro target htarget
  apply (asks_effectivePermissions target).bind _ fun _ hquiet => .inl hquiet
  intro held _
  apply (asks_requireGrant actor held).bind _ fun _ hquiet => .inl hquiet
  intro _ _
  apply (asks_assignedRole roleProfileId).bind _ fun _ hquiet => .inl hquiet
  rintro profile ⟨rfl, -⟩
  apply (asks_requireGrant actor _).bind _ fun _ hquiet => .inl hquiet
  intro _ hgrant
  have hmay : MayAssign policy start principal userId roleProfileId :=
    ⟨actor, target, hactor, henabled, htarget, hgrant⟩
  apply Handler.Spec.bind ((rewrites_assign userId roleProfileId expectedRevision).mono
    (fun _ _ hpost => hpost) ?_)
  · intro replacement
    constructor
    rintro state ⟨contents, hassignment, -, hsettled⟩
    obtain ⟨-, account, bindings, haccount, hassigned, -⟩ := id hassignment
    have hid := (get_eq_some haccount).2
    have hreplacement : ∃ role, replacement = account ∨
        replacement = { account with role := role } := by
      obtain ⟨-, ⟨-, heq, -⟩ | ⟨id, profile, -, -, -, heq⟩⟩ := assigned_cases hassigned
      · exact ⟨.viewer, .inl heq⟩
      · exact ⟨profile.baseRole, .inr heq⟩
    obtain ⟨role, hreplacement⟩ := hreplacement
    have haligned := (@spec_alignRole policy env start account contents replacement actor role
      (by rwa [hid]) hreplacement)
    rw [hid] at haligned
    refine (haligned.mono ?_ ?_).run state hsettled
    · intro _ state hend
      exact ⟨hmay, replacement, contents, hassignment, hend⟩
    · intro state hend
      exact .inr ⟨replacement, contents, hassignment, hend⟩
  · rintro state (hquiet | ⟨replacement, contents, hassignment, -, hsettled⟩)
    · exact .inl hquiet
    · exact .inr ⟨replacement, contents, hassignment, hsettled⟩

/-- The target of an assignment holds what was granted, all others what they held. -/
theorem contained_of_assignment {target : UserAccount}
    (hassignment : Assignment policy start userId roleId replacement contents)
    (haccount : policy.registry.get start.process.db userId = some target)
    (hgrant : RolePolicy.assignedPermissions target (roleId.bind start.policy.profiles.find?) ⊆
      granted) (hend : Aligned policy.registry start contents replacement state ∨
      Settled start contents state) (other : Uuid) :
    Contained policy.registry start granted state other := by
  rcases hend with haligned | hsettled
  · have hreplacementId : replacement.id = userId := by
      obtain ⟨-, account, bindings, hfound, hassigned, -⟩ := id hassignment
      rw [← (get_eq_some hfound).2]
      obtain ⟨-, ⟨-, rfl, -⟩ | ⟨id, profile, -, -, -, rfl⟩⟩ := assigned_cases hassigned <;> rfl
    by_cases hother : other = replacement.id
    · right
      rw [effectiveOf_of_get (show policy.registry.get state.process.db other = some replacement by
        rw [haligned.get, if_pos hother]), haligned.policy,
        hassignment.permissions_replacement haccount]
      exact hgrant
    left
    have hget := haligned.get other
    rw [if_neg hother] at hget
    refine ⟨hget, ?_⟩
    intro account hfound
    rw [haligned.policy]
    apply hassignment.permissions_other
    rw [(get_eq_some hfound).2, ← hreplacementId]
    exact hother
  · apply contained_of_settled hsettled
    intro account hfound
    by_cases hother : other = userId
    · right
      rw [hother, haccount] at hfound
      cases hfound
      exact (hassignment.permissions_between haccount).trans hgrant
    · left
      apply hassignment.permissions_other
      rw [(get_eq_some hfound).2]
      exact hother

/-! ## Any request -/

/-- Every account is contained in what the acting administrator held. -/
def NoEscalation (registry : Registry) (start : ProductState) (principal : UserAccount)
    (state : ProductState) : Prop :=
  ∃ actor, registry.get start.process.db principal.id = some actor ∧ actor.enabled = true ∧
    ∀ userId, Contained registry start (start.policy.permissions actor) state userId

theorem noEscalation_of_actor {principal : UserAccount} {route : Route UserAccount}
    {next : UserAccount → Route β} (hroute : Asks start route fun actor =>
      registry.get start.process.db principal.id = some actor ∧ actor.enabled = true)
    (hnext : ∀ actor, Contains registry start (start.policy.permissions actor) (next actor)) :
    Handler.Spec (Quiet start) (route >>= next)
      (fun _ => NoEscalation registry start principal) fun _ => True := by
  apply hroute.bind _ fun _ _ => trivial
  rintro actor ⟨hactor, henabled⟩
  exact (hnext actor).mono (fun _ _ hend => ⟨actor, hactor, henabled, hend⟩) fun _ _ => trivial

theorem noEscalation_handle (principal : UserAccount) (request : AdminRequest) :
    Handler.Spec (Quiet start) (policy.handle env derive principal request)
      (fun _ => NoEscalation policy.registry start principal) fun _ => True := by
  have hadmin : Handler.Spec (Quiet start) (RolePolicy.requireAdmin principal)
      (fun _ => Quiet start) fun _ => True :=
    Handler.Spec.require (fun _ _ hquiet => hquiet) fun _ _ => trivial
  apply hadmin.bind
  intro _
  cases request with
  | createUser payload =>
      apply Handler.Spec.translate
      apply noEscalation_of_actor (asks_mutationAdmin principal)
      intro actor
      apply (asks_requireGrant actor _).contains
      intro _ hgrant
      apply (asks_cameraPolicy _ _).contains
      intro access _
      exact contains_createUser hgrant
  | updateUser userId payload =>
      apply Handler.Spec.translate
      apply noEscalation_of_actor (asks_mutationAdmin principal)
      intro actor
      apply (asks_target userId).contains
      intro account haccount
      apply (asks_effectivePermissions account).contains
      rintro held rfl
      apply (asks_requireGrant actor _).contains
      intro _ hheld
      apply (asks_requireRoleGrant actor payload.role).contains
      intro _ hrole
      apply (asks_requestedAccess account payload).contains
      intro access _
      apply (asks_getCameraAccess account).contains
      intro _ _
      apply (asks_guardAccountChange _ _).contains
      intro _ _
      exact contains_writeUpdate haccount hheld hrole
  | setCameraAccess userId payload =>
      apply Handler.Spec.translate
      apply noEscalation_of_actor (asks_mutationAdmin principal)
      intro actor
      apply (asks_target userId).contains
      intro account _
      apply (asks_effectivePermissions account).contains
      intro held _
      apply (asks_requireGrant actor held).contains
      intro _ _
      apply (asks_cameraPolicy _ _).contains
      intro access _
      apply (asks_getCameraAccess account).contains
      intro _ _
      exact contains_setCameraAccess userId
  | resetPassword userId =>
      apply Handler.Spec.translate
      apply noEscalation_of_actor (asks_mutationAdmin principal)
      intro actor
      apply (asks_target userId).contains
      intro account _
      apply (asks_effectivePermissions account).contains
      intro held _
      apply (asks_requireGrant actor held).contains
      intro _ _
      apply (asks_target userId).contains
      intro guarded _
      apply (asks_guardCredentialReset guarded.id).contains
      intro _ _
      exact contains_resetPassword
  | createRole payload =>
      apply Handler.Spec.translate
      apply noEscalation_of_actor (asks_roleActor principal)
      intro actor
      apply (asks_requireGrant actor _).contains
      intro _ hgrant
      exact contains_upsert hgrant
  | updateRole roleId payload expectedRevision =>
      apply Handler.Spec.translate
      apply noEscalation_of_actor (asks_roleActor principal)
      intro actor
      apply (asks_existingRole roleId).contains
      intro previous _
      apply (asks_requireGrant actor _).contains
      intro _ _
      apply (asks_requireGrant actor _).contains
      intro _ hgrant
      exact contains_upsert hgrant
  | deleteRole roleId expectedRevision =>
      apply Handler.Spec.translate
      apply noEscalation_of_actor (asks_roleActor principal)
      intro actor
      apply (asks_existingRole roleId).contains
      intro previous _
      apply (asks_requireGrant actor _).contains
      intro _ _
      exact contains_delete
  | assignRole userId roleProfileId expectedRevision =>
      apply Handler.Spec.translate
      apply (spec_assignRole principal userId roleProfileId expectedRevision).mono _
        fun _ _ => trivial
      rintro _ state ⟨⟨actor, account, hactor, henabled, haccount, hgrant⟩,
        replacement, contents, hassignment, hend⟩
      exact ⟨actor, hactor, henabled, contained_of_assignment hassignment haccount hgrant hend⟩

/-! ## Interrupted assignments -/

/-- A state in which an assignment can stop: behind its policy write, or behind an
error. -/
def Interrupted (policy : RolePolicy) (start : ProductState) (userId : Uuid)
    (roleId : Option Uuid) (between : ProductState) : Prop :=
  (∃ env expected, ((policy.assign env userId roleId expected).exec start).2 = between) ∨
    ∃ env principal expected error,
      (policy.assignRole env principal userId roleId expected).exec start = (.error error, between)

/-- A state that the whole assignment leaves. -/
def Completed (policy : RolePolicy) (start : ProductState) (userId : Uuid)
    (roleId : Option Uuid) (completed : ProductState) : Prop :=
  ∃ env principal expected,
    (policy.assignRole env principal userId roleId expected).exec start = (.ok (), completed)

theorem Interrupted.cases {between : ProductState}
    (h : Interrupted policy start userId roleId between) :
    Quiet start between ∨ ∃ replacement contents,
      Assignment policy start userId roleId replacement contents ∧
        Settled start contents between := by
  rcases h with ⟨env, expected, rfl⟩ | ⟨env, principal, expected, error, hexec⟩
  · have hspec := (@rewrites_assign policy env start userId roleId expected).run start
      (Quiet.refl start)
    rcases hexec : (policy.assign env userId roleId expected).exec start with ⟨outcome, after⟩
    rw [hexec] at hspec
    cases outcome with
    | ok replacement =>
        obtain ⟨contents, hassignment, -, hsettled⟩ := hspec
        exact .inr ⟨replacement, contents, hassignment, hsettled⟩
    | error error =>
        rcases hspec with hquiet | ⟨replacement, contents, hassignment, -, hsettled⟩
        · exact .inl hquiet
        · exact .inr ⟨replacement, contents, hassignment, hsettled⟩
  · exact (spec_assignRole principal userId roleId expected).of_error (Quiet.refl start) hexec

theorem interrupted_subset {between completed : ProductState}
    (hbetween : Interrupted policy start userId roleId between)
    (hcompleted : Completed policy start userId roleId completed) :
    effectiveOf policy.registry between userId ⊆ effectiveOf policy.registry completed userId ∨
      effectiveOf policy.registry between userId ⊆ effectiveOf policy.registry start userId := by
  rcases hbetween.cases with hquiet | ⟨replacement, contents, hassignment, hsettled⟩
  · right
    rw [(hquiet.unchanged policy.registry userId).effectiveOf_eq]
  left
  obtain ⟨env, principal, expected, hexec⟩ := hcompleted
  obtain ⟨-, replacement', contents', hassignment', hend⟩ :=
    (spec_assignRole principal userId roleId expected).of_ok (Quiet.refl start) hexec
  obtain ⟨-, account, bindings, haccount, hassigned, -⟩ := id hassignment'
  have hget := (@get_eq_of_users_eq _ policy.registry _ hsettled.users userId).trans
    haccount
  rw [effectiveOf_of_get hget, hsettled.policy]
  rcases hend with haligned | hsettled'
  · have hreplacementId : replacement'.id = userId := by
      rw [← (get_eq_some haccount).2]
      obtain ⟨-, ⟨-, rfl, -⟩ | ⟨id, profile, -, -, -, rfl⟩⟩ := assigned_cases hassigned <;> rfl
    rw [effectiveOf_of_get (show policy.registry.get completed.process.db userId =
      some replacement' by rw [haligned.get, if_pos hreplacementId.symm]), haligned.policy,
      hassignment'.permissions_replacement haccount]
    exact hassignment.permissions_between haccount
  · have hget' := (@get_eq_of_users_eq _ policy.registry _ hsettled'.users userId).trans
      haccount
    rw [effectiveOf_of_get hget', hsettled'.policy,
      show account = { account with role := account.role } from rfl,
      hassignment.permissions haccount, hassignment'.permissions haccount]

end Containment

/-- A successful request gives no account more than the acting administrator holds and
the account held before, counting disabled accounts or not, and an interrupted
assignment leaves its target with no more than the completed one, or with what it
held. -/
theorem no_privilege_escalation (policy : RolePolicy) (derive : DeriveCredential)
    (start : ProductState) :
    (∀ env principal request after,
      (policy.handle env derive principal request).exec start = (.ok (), after) →
      ∀ userId,
        effectiveOf policy.registry after userId ⊆
            effectiveOf policy.registry start principal.id ∪
              effectiveOf policy.registry start userId ∧
          authorityOf policy.registry after userId ⊆
            authorityOf policy.registry start principal.id ∪
              authorityOf policy.registry start userId) ∧
      ∀ userId roleId between completed, Interrupted policy start userId roleId between →
        Completed policy start userId roleId completed →
        effectiveOf policy.registry between userId ⊆
            effectiveOf policy.registry completed userId ∨
          effectiveOf policy.registry between userId ⊆
            effectiveOf policy.registry start userId := by
  constructor
  · intro env principal request after hexec userId
    obtain ⟨actor, hactor, henabled, hcontained⟩ :=
      (noEscalation_handle principal request).of_ok (Quiet.refl start) hexec
    have heffective := effectiveOf_of_get hactor
    have hauthority := authorityOf_of_get hactor
    rw [if_pos henabled] at hauthority
    rw [heffective, hauthority]
    exact ⟨(hcontained userId).effectiveOf_subset, (hcontained userId).authorityOf_subset⟩
  · intro userId roleId between completed hbetween hcompleted
    exact interrupted_subset hbetween hcompleted

def localPrepared : ProductState := localPolicy.run plainDerive localStart (localCalls.take 2)

/-- The deputy takes the profile: the request as a whole, and stopped between its writes. -/
theorem no_privilege_escalation_local :
    let request := AdminRequest.assignRole 2 (some 3) none
    let after := ((localPolicy.handle (quietRequest 4) plainDerive administratorAccount
      request).exec localPrepared).2
    let between := ((localPolicy.assign (quietRequest 4) 2 (some 3) none).exec localPrepared).2
    let completed := ((localPolicy.assignRole (quietRequest 4) administratorAccount 2 (some 3)
      none).exec localPrepared).2
    effectiveOf localSite after 2 ⊆
        effectiveOf localSite localPrepared 1 ∪ effectiveOf localSite localPrepared 2 ∧
      (effectiveOf localSite between 2 ⊆ effectiveOf localSite completed 2 ∨
        effectiveOf localSite between 2 ⊆ effectiveOf localSite localPrepared 2) := by
  intro request after between completed
  have hcontained := no_privilege_escalation localPolicy plainDerive localPrepared
  refine ⟨(hcontained.1 (quietRequest 4) administratorAccount request after
    (Prod.ext (by decide +kernel) rfl) 2).1, hcontained.2 2 (some 3) between completed ?_ ?_⟩
  · exact .inl ⟨quietRequest 4, none, rfl⟩
  · exact ⟨quietRequest 4, administratorAccount, none, Prod.ext (by decide +kernel) rfl⟩

end K5Vision.Operator
