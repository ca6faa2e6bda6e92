import K5Vision.Identity.RegistryEffects

/-!
# The last administrator

Any number of registries work on one database, each with deadlines of its own.
Once `bootstrap_administrator` has set a site up, the site keeps an enabled
administrator with a password that does not expire, whatever the registries do
and in whatever order.

The invariant is `HasAdministrator`.  Most operations leave the row pair of every
administrator alone (`IsAdministrator.of_find?_eq`); the ones that can take an
administrator away are a reset and an update, and both have asked for another
one first, in the same transaction.
-/

namespace K5Vision.Identity

open Library Registry

/-- The account with this key is an enabled administrator with a password of the
known scheme that does not expire. -/
def IsAdministrator (db : Database) (key : String × Uuid) : Prop :=
  ∃ user row, db.users.find? key = some user ∧ db.credentials.find? key = some row ∧
    user.role = .administrator ∧ user.enabled = true ∧
    row.kind = .password ∧ row.scheme = credentialScheme ∧ row.expiresAt = none

def HasAdministrator (siteId : String) (db : Database) : Prop :=
  ∃ userId, IsAdministrator db (siteId, userId)

section Step

variable {registry : Registry} {derive : DeriveCredential} {env : CallEnvironment}
  {siteId : String} {db db' : Database} {key : String × Uuid} {process after : Process}

/-! ## What keeps an administrator -/

theorem IsAdministrator.of_find?_eq (h : IsAdministrator db key)
    (husers : db'.users.find? key = db.users.find? key)
    (hcredentials : db'.credentials.find? key = db.credentials.find? key) :
    IsAdministrator db' key := by
  obtain ⟨user, row, huser, hrow, hrest⟩ := h
  exact ⟨user, row, husers.trans huser, hcredentials.trans hrow, hrest⟩

theorem find?_insert?_of_find? {α : Type} {table inserted : Table (String × Uuid) α}
    {other : String × Uuid} {a b : α} (hinsert : table.insert? other a = some inserted)
    (hkey : table.find? key = some b) : inserted.find? key = table.find? key := by
  obtain ⟨hnone, -, hfind⟩ := Table.insert?_eq_some hinsert
  rw [hfind, if_neg]
  intro heq
  rw [heq, hnone] at hkey
  cases hkey

variable {userId : Uuid}

/-- The eligibility check writes bootstrap credentials only. -/
theorem IsAdministrator.of_checkEffect (h : IsAdministrator db key)
    (hcheck : CheckEffect registry userId db db') : IsAdministrator db' key := by
  rcases hcheck.find? key with heq | ⟨row, row', -, hbootstrap, hrow, -⟩
  · apply h.of_find?_eq _ heq
    rw [hcheck.users_eq]
  obtain ⟨-, found, -, hfound, -, -, hpassword, -⟩ := h
  rw [hrow] at hfound
  cases hfound
  rw [hbootstrap] at hpassword
  cases hpassword

variable {actor : String} {request : UserCreate}

theorem IsAdministrator.of_insertUser {account : UserAccount} (h : IsAdministrator db key)
    (hinsert : registry.insertUser env request actor db = .ok (account, db')) :
    IsAdministrator db' key := by
  obtain ⟨-, -, users, husers, rfl⟩ := insertUser_ok hinsert
  obtain ⟨user, -, huser, -⟩ := id h
  exact h.of_find?_eq (find?_insert?_of_find? husers huser) rfl

theorem isPasswordAdministrator_iff {user : UserCreate} (huser : db.users.find? key = some user) :
    isPasswordAdministrator db (key, user) = true ↔ IsAdministrator db key := by
  unfold isPasswordAdministrator IsAdministrator
  cases hrow : db.credentials.find? key with
  | none => simp
  | some row => simp [huser, and_assoc]

theorem otherAdministrator_iff : registry.otherAdministrator db userId = true ↔
      ∃ other, other ≠ userId ∧ IsAdministrator db (registry.siteId, other) := by
  unfold otherAdministrator
  rw [List.any_eq_true]
  constructor
  · rintro ⟨⟨⟨site, other⟩, user⟩, hmem, hrow⟩
    simp only [Bool.and_eq_true, beq_iff_eq, bne_iff_ne] at hrow
    obtain ⟨⟨rfl, hne⟩, hadministrator⟩ := hrow
    exact ⟨other, hne, (isPasswordAdministrator_iff (Table.mem_rows.mp hmem)).mp hadministrator⟩
  · rintro ⟨other, hne, hadministrator⟩
    obtain ⟨user, -, huser, -⟩ := id hadministrator
    refine ⟨((registry.siteId, other), user), Table.mem_rows.mpr huser, ?_⟩
    simp [hne, (isPasswordAdministrator_iff huser).mpr hadministrator]

theorem get_eq_some {user : UserAccount} (h : registry.get db userId = some user) :
    db.users.find? (registry.siteId, userId) = some user.toUserCreate ∧ user.id = userId := by
  unfold Registry.get at h
  obtain ⟨row, hrow, rfl⟩ := Option.map_eq_some_iff.mp h
  exact ⟨hrow, rfl⟩

theorem otherAdministrator_of_resetGuard {user : UserAccount}
    (huser : process.db.users.find? (registry.siteId, user.id) = some user.toUserCreate)
    (hadministrator : IsAdministrator process.db (registry.siteId, user.id))
    (h : registry.resetGuard env user process = (.ok (), after)) :
    registry.otherAdministrator after.db user.id = true := by
  obtain ⟨found, row, hfound, hrow, hrole, henabled, hkind, hscheme, hexpires⟩ := hadministrator
  rw [huser] at hfound
  cases hfound
  have hstatus : registry.credentialStatusOf env (env.fault = .check) process.db user.id process =
      (.ok (some .active), process) := by
    simp [credentialStatusOf, statusOfRow, huser, hrow, hkind, hscheme, hexpires]
  unfold resetGuard at h
  rw [hstatus] at h
  cases hother : registry.otherAdministrator process.db user.id with
  | true => simp_all
  | false => simp_all

/-! ## The steps -/

theorem hasAdministrator_createWithBootstrap {ttlSeconds : ℤ}
    {access : Option CameraAccessRequest} {issue : BootstrapIssue}
    (h : HasAdministrator siteId process.db)
    (hissue : registry.createWithBootstrap env derive request actor ttlSeconds access process =
      (.ok issue, after)) : HasAdministrator siteId after.db := by
  obtain ⟨userId, hadministrator⟩ := h
  obtain ⟨-, actor, inserted, accessed, credentials, hinsert, haccess, hcredentials, rfl⟩ :=
    createWithBootstrap_ok hissue
  obtain ⟨husers, hrows, -⟩ := writeRequestedAccess_ok haccess
  have hinserted := hadministrator.of_insertUser hinsert
  obtain ⟨-, row, -, hrow, -⟩ := id hinserted
  refine ⟨userId, hinserted.of_find?_eq (by rw [← husers]; rfl) ?_⟩
  rw [← hrows] at hrow ⊢
  exact find?_insert?_of_find? hcredentials hrow

theorem hasAdministrator_resetBootstrap {ttlSeconds : ℤ} {result : Option BootstrapIssue}
    (h : HasAdministrator siteId process.db)
    (hreset : registry.resetBootstrap env derive userId actor ttlSeconds process =
      (.ok result, after)) : HasAdministrator siteId after.db := by
  rcases resetBootstrap_ok hreset with
    ⟨-, rfl⟩ | ⟨-, actor, user, expires, checked, hget, hguard, -, rfl⟩
  · exact h
  have hcheck := checkEffect_resetGuard registry env user process
  rw [hguard] at hcheck
  obtain ⟨huser, hid⟩ := get_eq_some hget
  rw [← hid] at huser
  -- the reset replaces the credential of one key, and every other key keeps its own
  have hkeep {other : String × Uuid} (hne : other ≠ (registry.siteId, user.id))
      (hother : IsAdministrator checked.db other) :
      IsAdministrator (registry.appendAudit env { checked.db with
        credentials := checked.db.credentials.upsert (registry.siteId, user.id)
          (bootstrapRow env (derive env.temporary env.salt) expires) }
        user.id .passwordReset actor [.credentialState]) other := by
    refine hother.of_find?_eq ?_ ?_
    · rfl
    · exact (Table.find?_upsert _ _ _ _).trans (if_neg hne)
  obtain ⟨target, hadministrator⟩ := h
  by_cases htarget : (siteId, target) = (registry.siteId, user.id)
  · rw [htarget] at hadministrator
    have hsite : siteId = registry.siteId := congrArg Prod.fst htarget
    subst hsite
    obtain ⟨other, hne, hother⟩ := otherAdministrator_iff.mp
      (otherAdministrator_of_resetGuard huser hadministrator hguard)
    exact ⟨other, hkeep (by simpa using hne) hother⟩
  · exact ⟨target, hkeep htarget (hadministrator.of_checkEffect hcheck)⟩

theorem hasAdministrator_activateBootstrapPassword {username temporary newPassword : String}
    {result : Option UserAccount} (h : HasAdministrator siteId process.db)
    (hactivate : registry.activateBootstrapPassword env derive username temporary newPassword actor
      process = (.ok result, after)) : HasAdministrator siteId after.db := by
  rcases activateBootstrapPassword_ok hactivate with
    ⟨-, rfl⟩ | ⟨actor, user, row, eligible, checked, -, -, heligible, hend⟩
  · exact h
  have hcheck := checkEffect_activationEligible registry env user row process
  rw [heligible] at hcheck
  obtain ⟨target, hadministrator⟩ := h
  have hchecked := hadministrator.of_checkEffect hcheck
  rcases hend with ⟨-, rfl⟩ | ⟨-, -, -, rfl⟩
  · exact ⟨target, hchecked⟩
  refine ⟨target, ?_⟩
  by_cases htarget : (siteId, target) = (registry.siteId, user.id)
  · -- an administrator who activates holds a password again
    obtain ⟨found, row, hfound, hrow, hrole, henabled, -⟩ := hchecked
    refine ⟨found, passwordRow env.salt (derive newPassword env.salt), hfound, ?_, hrole,
      henabled, rfl, rfl, rfl⟩
    dsimp only [credentials_appendAudit]
    rw [htarget, Table.find?_modify_self, ← htarget, hrow]
    rfl
  · exact hchecked.of_find?_eq rfl (Table.find?_modify_of_ne _ htarget _)

theorem hasAdministrator_update {patch : UserPatch} {access : Option CameraAccessRequest}
    {result : Option UserAccount} (h : HasAdministrator siteId process.db)
    (hupdate : registry.update env userId patch actor access process = (.ok result, after)) :
    HasAdministrator siteId after.db := by
  rcases update_ok hupdate with
    ⟨-, rfl⟩ | ⟨actor, current, written, hcurrent, hguard, hwritten, -, rfl⟩
  · exact h
  obtain ⟨husers, hcredentials, -⟩ := writeRequestedAccess_ok hwritten
  rw [credentials_writeAccount] at hcredentials
  have hfind (other : String × Uuid) : written.users.find? other =
      if other = (registry.siteId, userId) then some (patched current patch)
      else process.db.users.find? other := by
    rw [husers, find?_users_writeAccount hcurrent]
  have hkeep {other : String × Uuid} (hne : other ≠ (registry.siteId, userId))
      (hother : IsAdministrator process.db other) : IsAdministrator written other :=
    hother.of_find?_eq (by rw [hfind, if_neg hne]) (by rw [hcredentials])
  obtain ⟨target, hadministrator⟩ := h
  by_cases htarget : (siteId, target) = (registry.siteId, userId)
  · have hsite : siteId = registry.siteId := congrArg Prod.fst htarget
    subst hsite
    cases hremoves : removesAdministrator current (patched current patch) with
    | true =>
        obtain ⟨other, hne, hother⟩ := otherAdministrator_iff.mp (hguard hremoves)
        exact ⟨other, hkeep (by simpa using hne) hother⟩
    | false =>
        obtain ⟨found, row, hfound, hrow, hrole, henabled, hpassword⟩ := hadministrator
        rw [htarget, hcurrent] at hfound
        cases hfound
        have hstays : (patched current patch).role = .administrator ∧
            (patched current patch).enabled = true := by
          simp only [removesAdministrator, henabled, hrole, Bool.true_and, beq_self_eq_true,
            Bool.or_eq_false_iff, Bool.not_eq_false', bne_eq_false_iff_eq] at hremoves
          exact ⟨hremoves.2, hremoves.1⟩
        refine ⟨target, patched current patch, row, ?_, ?_, hstays.1, hstays.2, hpassword⟩
        · rw [hfind, if_pos htarget]
        · rw [hcredentials]
          exact hrow
  · exact ⟨target, hkeep htarget hadministrator⟩

/-- No operation takes the last administrator of a site away. -/
theorem hasAdministrator_perform {seen : Database} {operation : Operation}
    (h : HasAdministrator siteId process.db) :
    HasAdministrator siteId (registry.perform derive env seen operation process).2.db := by
  generalize hperform : registry.perform derive env seen operation process = outcome
  obtain ⟨result, after⟩ := outcome
  cases result with
  | error error =>
      dsimp only
      rw [db_of_perform_error hperform]
      exact h
  | ok reply =>
      cases operation with
      | create request actor =>
          obtain ⟨account, hcreate, -⟩ := replied_ok hperform
          obtain ⟨actor, db, hinsert, rfl⟩ := create_ok hcreate
          obtain ⟨userId, hadministrator⟩ := h
          exact ⟨userId, hadministrator.of_insertUser hinsert⟩
      | bootstrapAdministrator request password =>
          -- the setup is closed once there is an account
          obtain ⟨account, hsetup, -⟩ := replied_ok hperform
          obtain ⟨-, -, db, hbody, -⟩ := bootstrapAdministrator_ok hsetup
          obtain ⟨userId, user, -, huser, -⟩ := h
          have hmem := Table.mem_rows.mpr huser
          rw [(bootstrapAdministratorBody_ok hbody).1] at hmem
          cases hmem
      | createWithBootstrap request actor ttlSeconds access =>
          obtain ⟨issue, hissue, -⟩ := replied_ok hperform
          exact hasAdministrator_createWithBootstrap h hissue
      | setCameraAccess userId access actor =>
          obtain ⟨admitted, haccess, -⟩ := replied_ok hperform
          rcases setCameraAccess_ok haccess with ⟨-, rfl⟩ | ⟨actor, user, db, -, hwrite, -, rfl⟩
          · exact h
          · obtain ⟨husers, hcredentials, -⟩ := writeRequestedAccess_ok hwrite
            obtain ⟨target, hadministrator⟩ := h
            exact ⟨target, hadministrator.of_find?_eq (by rw [husers]) (by rw [hcredentials])⟩
      | resetBootstrap userId actor ttlSeconds =>
          obtain ⟨issue, hreset, -⟩ := replied_ok hperform
          exact hasAdministrator_resetBootstrap h hreset
      | credentialStatus userId =>
          obtain ⟨status, hstatus, -⟩ := replied_ok hperform
          have hcheck := checkEffect_credentialStatus registry env seen userId process
          rw [hstatus] at hcheck
          obtain ⟨target, hadministrator⟩ := h
          exact ⟨target, hadministrator.of_checkEffect hcheck⟩
      | activateBootstrapPassword username temporary newPassword actor =>
          obtain ⟨account, hactivate, -⟩ := replied_ok hperform
          exact hasAdministrator_activateBootstrapPassword h hactivate
      | update userId patch actor access =>
          obtain ⟨account, hupdate, -⟩ := replied_ok hperform
          exact hasAdministrator_update h hupdate

theorem hasAdministrator_bootstrapAdministrator {password : String} {account : UserAccount}
    (h : registry.bootstrapAdministrator env derive request password process =
      (.ok account, after)) : HasAdministrator registry.siteId after.db := by
  obtain ⟨hrole, henabled, db, hbody, rfl⟩ := bootstrapAdministrator_ok h
  obtain ⟨-, -, -, inserted, credentials, hinsert, hcredentials, rfl⟩ :=
    bootstrapAdministratorBody_ok hbody
  obtain ⟨rfl, -, users, husers, rfl⟩ := insertUser_ok hinsert
  refine ⟨env.newUserId, request, passwordRow env.salt (derive password env.salt), ?_, ?_, hrole,
    henabled, rfl, rfl, rfl⟩
  · exact ((Table.insert?_eq_some husers).2.2 _).trans (if_pos rfl)
  · exact ((Table.insert?_eq_some hcredentials).2.2 _).trans (if_pos rfl)

end Step

/-! ## Several registries on one database -/

/-- The database, and the deadlines in the memory of each registry. -/
structure System (ι : Type*) where
  db : Database
  deadlines : ι → Deadlines

structure RegistryCall (ι : Type*) where
  caller : ι
  env : CallEnvironment
  seen : Database
  operation : Operation

section System

variable {ι : Type*} [DecidableEq ι] (derive : DeriveCredential) (registries : ι → Registry)

def System.reply (system : System ι) (call : RegistryCall ι) : Except RegistryError Reply :=
  ((registries call.caller).perform derive call.env call.seen call.operation
    ⟨system.db, system.deadlines call.caller⟩).1

def System.step (system : System ι) (call : RegistryCall ι) : System ι :=
  let after := ((registries call.caller).perform derive call.env call.seen call.operation
    ⟨system.db, system.deadlines call.caller⟩).2
  ⟨after.db, Function.update system.deadlines call.caller after.deadlines⟩

def System.run (system : System ι) (calls : List (RegistryCall ι)) : System ι :=
  calls.foldl (System.step derive registries) system

theorem System.hasAdministrator_run {siteId : String} (calls : List (RegistryCall ι))
    (system : System ι) (h : HasAdministrator siteId system.db) :
    HasAdministrator siteId (system.run derive registries calls).db := by
  induction calls generalizing system with
  | nil => exact h
  | cons call rest ih =>
      apply ih
      exact hasAdministrator_perform h

/-- What a refused call may leave: nothing when it raises, and when it returns
`None` at most the mark of an eligibility check in an activation. -/
def RefusalLeaves (system : System ι) (call : RegistryCall ι) : Prop :=
  (∀ error, system.reply derive registries call = .error error →
      (system.step derive registries call).db = system.db) ∧
    (system.reply derive registries call = .ok .nothing →
      (system.step derive registries call).db = system.db ∨
        ∃ username temporary newPassword actor user,
          call.operation = .activateBootstrapPassword username temporary newPassword actor ∧
          (registries call.caller).userNamed system.db (strip username) = some user ∧
          CheckEffect (registries call.caller) user.id system.db
            (system.step derive registries call).db)

theorem refusalLeaves (system : System ι) (call : RegistryCall ι) :
    RefusalLeaves derive registries system call := by
  unfold RefusalLeaves System.reply System.step
  generalize hperform : (registries call.caller).perform derive call.env call.seen call.operation
    ⟨system.db, system.deadlines call.caller⟩ = outcome
  obtain ⟨result, after⟩ := outcome
  refine ⟨?_, ?_⟩
  · rintro error rfl
    exact db_of_perform_error hperform
  rintro rfl
  cases hoperation : call.operation with
  | create request actor =>
      rw [hoperation] at hperform
      obtain ⟨account, -, hreply⟩ := replied_ok hperform
      cases hreply
  | bootstrapAdministrator request password =>
      rw [hoperation] at hperform
      obtain ⟨account, -, hreply⟩ := replied_ok hperform
      cases hreply
  | createWithBootstrap request actor ttlSeconds access =>
      rw [hoperation] at hperform
      obtain ⟨issue, -, hreply⟩ := replied_ok hperform
      cases hreply
  | setCameraAccess userId access actor =>
      rw [hoperation] at hperform
      obtain ⟨admitted, haccess, hreply⟩ := replied_ok hperform
      rcases setCameraAccess_ok haccess with ⟨-, rfl⟩ | ⟨_, _, _, _, _, hsome, _⟩
      · exact .inl rfl
      · cases admitted with
        | none => exact absurd rfl hsome
        | some admitted => cases hreply
  | resetBootstrap userId actor ttlSeconds =>
      rw [hoperation] at hperform
      obtain ⟨issue, hreset, hreply⟩ := replied_ok hperform
      rcases resetBootstrap_ok hreset with ⟨-, rfl⟩ | ⟨_, _, _, _, _, _, _, rfl, _⟩
      · exact .inl rfl
      · cases hreply
  | credentialStatus userId =>
      rw [hoperation] at hperform
      obtain ⟨status, hstatus, hreply⟩ := replied_ok hperform
      cases status with
      | some status => cases hreply
      | none =>
          unfold credentialStatus credentialStatusOf at hstatus
          split at hstatus
          · cases hstatus
          split at hstatus
          · cases hstatus
            exact .inl rfl
          · split at hstatus <;> cases hstatus
  | activateBootstrapPassword username temporary newPassword actor =>
      rw [hoperation] at hperform
      obtain ⟨account, hactivate, hreply⟩ := replied_ok hperform
      rcases activateBootstrapPassword_ok hactivate with
        ⟨-, rfl⟩ | ⟨_, user, row, eligible, checked, huser, _, heligible, hend⟩
      · exact .inl rfl
      rcases hend with ⟨-, rfl⟩ | ⟨rfl, -⟩
      · have hcheck := checkEffect_activationEligible (registries call.caller) call.env
          user row ⟨system.db, system.deadlines call.caller⟩
        rw [heligible] at hcheck
        exact .inr ⟨username, temporary, newPassword, actor, user, rfl, huser, hcheck⟩
      · cases hreply
  | update userId patch actor access =>
      rw [hoperation] at hperform
      obtain ⟨account, hupdate, hreply⟩ := replied_ok hperform
      rcases update_ok hupdate with ⟨-, rfl⟩ | ⟨_, _, _, _, _, _, rfl, _⟩
      · exact .inl rfl
      · cases hreply

/-- From a successful `bootstrap_administrator` on, its site keeps an
administrator in every run of every number of registries, and every refused call
leaves the tables alone, up to the mark of an eligibility check. -/
theorem administrator_remains {first : ι} {env : CallEnvironment} {request : UserCreate}
    {password : String} {before after : Process} {account : UserAccount}
    (hsetup : (registries first).bootstrapAdministrator env derive request password before =
      (.ok account, after))
    (deadlines : ι → Deadlines) (calls : List (RegistryCall ι)) :
    let system := System.run derive registries ⟨after.db, deadlines⟩ calls
    HasAdministrator (registries first).siteId system.db ∧
      ∀ call, RefusalLeaves derive registries system call := by
  intro system
  exact ⟨System.hasAdministrator_run derive registries calls _
    (hasAdministrator_bootstrapAdministrator hsetup), refusalLeaves derive registries system⟩

end System

/-! ## A concrete site -/

def localSite : Registry := ⟨"default", 1024, by decide, by decide⟩

def plainDerive : DeriveCredential := fun secret _ =>
  ⟨((secret.toList.map fun c : Char => UInt8.ofNat c.toNat) ++ List.replicate scryptDklen 0).take
    scryptDklen, by simp [scryptDklen]⟩

def secondsReading (seconds : ℕ) (h : toFloat seconds = seconds) : Reading := ⟨seconds, h⟩

def secondsInstant (seconds : ℕ) (h : seconds < 86400) : Instant :=
  ⟨seconds * 1000000, by unfold K5Vision.Media.datetimeRange; omega⟩

/-- A call at one wall clock and one monotonic reading. -/
def callAt (fault : Fault) (newUserId : Uuid) (wall : Instant) (tick : Reading) :
    CallEnvironment where
  fault := fault
  newUserId := newUserId
  temporary := "temporary-credential"
  salt := ⟨List.replicate saltBytes 0, rfl⟩
  now := wall
  statusNow := wall
  auditNow := fun _ => wall
  reconstructTick := tick
  checkTick := tick
  issueTick := tick

def quietCall (newUserId : Uuid) : CallEnvironment :=
  callAt .none newUserId (secondsInstant 1 (by decide)) (secondsReading 1 (by decide +kernel))

def administratorRequest : UserCreate :=
  ⟨⟨"admin", by decide⟩, ⟨"Administrator", by decide⟩, .administrator, true⟩

def deputyRequest : UserCreate :=
  ⟨⟨"deputy", by decide⟩, ⟨"Deputy", by decide⟩, .administrator, true⟩

/-- `bootstrap_administrator` on an empty database. -/
def siteSetup : Except RegistryError UserAccount × Process :=
  localSite.bootstrapAdministrator (quietCall 1) plainDerive administratorRequest
    "administrator-password" ⟨.empty, fun _ => none⟩

theorem siteSetup_eq : siteSetup = (.ok ⟨administratorRequest, 1⟩, siteSetup.2) :=
  Prod.ext (by decide +kernel) rfl

/-- Two registries: a deputy is issued a credential by one and activates at the
other, the first administrator is demoted, and the deputy cannot be reset. -/
def handover : List (RegistryCall Bool) :=
  [⟨false, quietCall 2, .empty, .createWithBootstrap deputyRequest "admin" 900 none⟩,
    ⟨true, quietCall 3, .empty,
      .activateBootstrapPassword "deputy" "temporary-credential" "deputy-password" "deputy"⟩,
    ⟨false, quietCall 4, .empty, .update 1 ⟨none, some .viewer, none, by simp⟩ "deputy" none⟩,
    ⟨true, quietCall 5, .empty, .resetBootstrap 2 "deputy" 900⟩]

theorem administrator_remains_handover :
    let system := System.run plainDerive (fun _ : Bool => localSite)
      ⟨siteSetup.2.db, fun _ _ => none⟩ handover
    HasAdministrator "default" system.db ∧
      ∀ call, RefusalLeaves plainDerive (fun _ : Bool => localSite) system call :=
  @administrator_remains Bool _ plainDerive (fun _ => localSite) false (quietCall 1)
    administratorRequest "administrator-password" ⟨.empty, fun _ => none⟩ siteSetup.2 _ siteSetup_eq
    (fun _ _ => none) handover

/-- A refused call can write: an activation with a wrong credential is answered
by `None`, and its eligibility check is committed. -/
theorem refused_activation_writes :
    let issued := System.run plainDerive (fun _ : Unit => localSite)
      ⟨siteSetup.2.db, fun _ _ => none⟩
      [⟨(), quietCall 2, .empty, .createWithBootstrap deputyRequest "admin" 900 none⟩]
    let call : RegistryCall Unit :=
      ⟨(), callAt .none 3 (secondsInstant 2 (by decide)) (secondsReading 2 (by decide +kernel)),
        .empty, .activateBootstrapPassword "deputy" "another-credential" "deputy-password" "deputy"⟩
    issued.reply plainDerive (fun _ => localSite) call = .ok .nothing ∧
      (issued.step plainDerive (fun _ => localSite) call).db ≠ issued.db := by
  decide +kernel

end K5Vision.Identity
