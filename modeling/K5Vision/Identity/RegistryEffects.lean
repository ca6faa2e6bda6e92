import K5Vision.Identity.UserRegistry

/-!
# What an operation of the registry does

Every operation is taken apart once, here.  A refused transaction leaves the
database alone; a committed one has run its body, and for each body there is a
lemma naming the checks that passed and the tables it leaves.  The eligibility
check is the one piece that writes in a transaction which then returns `None`,
and the one piece that changes the deadlines before a commit; what it can do to
the database is `CheckEffect`, and the `_cases` lemmas say when it runs.
-/

namespace K5Vision.Identity

open Library

/-! ## Transactions -/

section Transaction

variable {α : Type} {fault : Fault} {message : String}
  {body : Process → Except RegistryError α × Process} {afterCommit : α → Deadlines → Deadlines}
  {process after : Process}

theorem transaction_error {error : RegistryError}
    (h : transaction fault message body afterCommit process = (.error error, after)) :
    after = process ∨ ∃ result done, body process = (result, done) ∧
      after = { done with db := process.db } ∧
      ((∃ raised, result = .error raised) ∨ fault = .commit) := by
  unfold transaction at h
  split at h
  · cases h
    exact .inl rfl
  split at h
  · rename_i raised done hbody
    cases h
    exact .inr ⟨_, done, hbody, rfl, .inl ⟨raised, rfl⟩⟩
  · rename_i value done hbody
    split at h
    · rename_i hcommit
      cases h
      exact .inr ⟨_, done, hbody, rfl, .inr hcommit⟩
    · cases h

theorem transaction_ok {value : α}
    (h : transaction fault message body afterCommit process = (.ok value, after)) :
    fault ≠ .commit ∧ ∃ done, body process = (.ok value, done) ∧
      after = { done with deadlines := afterCommit value done.deadlines } := by
  unfold transaction at h
  split at h
  · cases h
  split at h
  · cases h
  · rename_i returned done hbody
    split at h
    · cases h
    · rename_i hcommit
      cases h
      exact ⟨hcommit, done, hbody, rfl⟩

variable {onDb : Database → Except RegistryError (α × Database)}

theorem transaction_onDatabase_ok {value : α}
    (h : transaction fault message (onDatabase onDb) afterCommit process = (.ok value, after)) :
    ∃ db, onDb process.db = .ok (value, db) ∧
      after = ⟨db, afterCommit value process.deadlines⟩ := by
  obtain ⟨-, done, hbody, rfl⟩ := transaction_ok h
  unfold onDatabase at hbody
  split at hbody
  · cases hbody
  · rename_i returned db hdb
    cases hbody
    exact ⟨db, hdb, rfl⟩

/-- A body that works on the database alone leaves nothing behind when its
transaction raises. -/
theorem transaction_onDatabase_error {error : RegistryError}
    (h : transaction fault message (onDatabase onDb) afterCommit process = (.error error, after)) :
    after = process := by
  rcases transaction_error h with rfl | ⟨result, done, hbody, rfl, -⟩
  · rfl
  · unfold onDatabase at hbody
    split at hbody <;> (cases hbody; rfl)

end Transaction

namespace Registry

variable {registry : Registry} {env : CallEnvironment}

/-! ## The audit touches no other table -/

@[simp] theorem users_appendAudit (db : Database) (userId : Uuid) (action : AuditAction)
    (actor : String) (fields : List AuditField) :
    (registry.appendAudit env db userId action actor fields).users = db.users := rfl

@[simp] theorem credentials_appendAudit (db : Database) (userId : Uuid) (action : AuditAction)
    (actor : String) (fields : List AuditField) :
    (registry.appendAudit env db userId action actor fields).credentials = db.credentials := rfl

@[simp] theorem cameraAccess_appendAudit (db : Database) (userId : Uuid) (action : AuditAction)
    (actor : String) (fields : List AuditField) :
    (registry.appendAudit env db userId action actor fields).cameraAccess = db.cameraAccess := rfl

/-! ## Accounts -/

variable {account : UserAccount} {db db' : Database} {actor : String} {request : UserCreate}

theorem insertUser_ok (h : registry.insertUser env request actor db = .ok (account, db')) :
    account = ⟨request, env.newUserId⟩ ∧ registry.userCount db < registry.capacity ∧
      ∃ users, db.users.insert? (registry.siteId, env.newUserId) request = some users ∧
        db' = registry.appendAudit env { db with users := users } env.newUserId .created actor
          [.username, .displayName, .role, .enabled] := by
  unfold insertUser at h
  split at h
  · cases h
  split at h
  · cases h
  · rename_i hcapacity
    split at h
    · cases h
    · rename_i users husers
      cases h
      exact ⟨rfl, by omega, users, husers, rfl⟩

variable {userId : Uuid}

theorem insertCredentials_ok {row : CredentialRow}
    (h : registry.insertCredentials userId row db = .ok db') :
    ∃ credentials, db.credentials.insert? (registry.siteId, userId) row = some credentials ∧
      db' = { db with credentials := credentials } := by
  unfold insertCredentials at h
  split at h
  · cases h
  · rename_i credentials hcredentials
    cases h
    exact ⟨credentials, hcredentials, rfl⟩

variable {process after : Process}

theorem create_ok (h : registry.create env request actor process = (.ok account, after)) :
    ∃ actor db, registry.insertUser env request actor process.db = .ok (account, db) ∧
      after = ⟨db, process.deadlines⟩ := by
  unfold create at h
  split at h
  · cases h
  · rename_i actor' _
    obtain ⟨db, hbody, rfl⟩ := transaction_onDatabase_ok h
    exact ⟨actor', db, hbody, rfl⟩

variable {error : RegistryError}

theorem create_error (h : registry.create env request actor process = (.error error, after)) :
    after = process := by
  unfold create at h
  split at h
  · cases h
    rfl
  · exact transaction_onDatabase_error h

/-- What `bootstrap_administrator` leaves: the administrator, the password, two
audit rows, and nothing else. -/
theorem bootstrapAdministratorBody_ok {verifier : Verifier}
    (h : registry.bootstrapAdministratorBody env request verifier db = .ok (account, db')) :
    db.users.rows = [] ∧ db.credentials.rows = [] ∧ db.audit = [] ∧
      ∃ inserted credentials,
        registry.insertUser env request "local-admin-setup" db = .ok (account, inserted) ∧
        inserted.credentials.insert? (registry.siteId, account.id)
            (passwordRow env.salt verifier) = some credentials ∧
          db' = registry.appendAudit env { inserted with credentials := credentials } account.id
            .passwordInitialized "local-admin-setup" [.credentialState] := by
  unfold bootstrapAdministratorBody at h
  dsimp only at h
  split at h
  · cases h
  rename_i hempty
  simp only [Bool.or_eq_true, Bool.not_eq_true', List.isEmpty_eq_false_iff, not_or, not_not]
    at hempty
  split at h
  · cases h
  rename_i user inserted hinsert
  split at h
  · cases h
  rename_i written hwritten
  cases h
  obtain ⟨credentials, hcredentials, rfl⟩ := insertCredentials_ok hwritten
  exact ⟨hempty.1.1, hempty.1.2, hempty.2, inserted, credentials, hinsert, hcredentials, rfl⟩

variable {derive : DeriveCredential}

theorem bootstrapAdministrator_ok {password : String}
    (h : registry.bootstrapAdministrator env derive request password process =
      (.ok account, after)) :
    request.role = .administrator ∧ request.enabled = true ∧
      ∃ db, registry.bootstrapAdministratorBody env request (derive password env.salt) process.db =
          .ok (account, db) ∧ after = ⟨db, process.deadlines⟩ := by
  unfold bootstrapAdministrator at h
  split at h
  · cases h
  rename_i hrequest
  split at h
  · cases h
  obtain ⟨db, hbody, rfl⟩ := transaction_onDatabase_ok h
  simp only [ne_eq, Bool.or_eq_true, decide_eq_true_eq, Bool.not_eq_true', not_or, not_not,
    Bool.not_eq_false] at hrequest
  exact ⟨hrequest.1, hrequest.2, db, hbody, rfl⟩

theorem bootstrapAdministrator_error {password : String}
    (h : registry.bootstrapAdministrator env derive request password process =
      (.error error, after)) : after = process := by
  unfold bootstrapAdministrator at h
  split at h
  · cases h
    rfl
  split at h
  · cases h
    rfl
  · exact transaction_onDatabase_error h

/-! ## Camera access -/

variable {access : CameraAccessRequest}

theorem writeCameraAccess_ok {user : UserAccount} {admitted : CameraAccess}
    (h : registry.writeCameraAccess env user access actor db = .ok (admitted, db')) :
    cameraAccessValue user.role access = .ok admitted ∧
      db'.users = db.users ∧ db'.credentials = db.credentials ∧
      db'.cameraAccess = db.cameraAccess.upsert (registry.siteId, user.id) admitted ∧
      (db'.audit = db.audit ∨ ∃ row : AuditRow, row.siteId = registry.siteId ∧
        row.action = .cameraAccessUpdated ∧ db'.audit = db.audit ++ [row]) := by
  unfold writeCameraAccess at h
  split at h
  · cases h
  rename_i value hvalue
  split at h
  · cases h
  dsimp only at h
  cases h
  refine ⟨hvalue, ?_, ?_, ?_, ?_⟩
  · split <;> rfl
  · split <;> rfl
  · split <;> rfl
  · split
    · exact .inr ⟨_, rfl, rfl, rfl⟩
    · exact .inl rfl

theorem writeRequestedAccess_ok {user : UserAccount} {access : Option CameraAccessRequest}
    (h : registry.writeRequestedAccess env user access actor db = .ok db') :
    db'.users = db.users ∧ db'.credentials = db.credentials ∧
      (db'.cameraAccess = db.cameraAccess ∧ access = none ∨
        ∃ request admitted, access = some request ∧
          cameraAccessValue user.role request = .ok admitted ∧
          db'.cameraAccess = db.cameraAccess.upsert (registry.siteId, user.id) admitted) ∧
      (db'.audit = db.audit ∨ ∃ row : AuditRow, row.siteId = registry.siteId ∧
        row.action = .cameraAccessUpdated ∧ db'.audit = db.audit ++ [row]) := by
  unfold writeRequestedAccess at h
  split at h
  · cases h
    exact ⟨rfl, rfl, .inl ⟨rfl, rfl⟩, .inl rfl⟩
  rename_i request
  split at h
  · cases h
  rename_i admitted written hwrite
  cases h
  obtain ⟨hvalue, husers, hcredentials, haccess, haudit⟩ := writeCameraAccess_ok hwrite
  exact ⟨husers, hcredentials, .inr ⟨request, admitted, rfl, hvalue, haccess⟩, haudit⟩

theorem setCameraAccess_ok {result : Option CameraAccess}
    (h : registry.setCameraAccess env userId access actor process = (.ok result, after)) :
    (result = none ∧ after = process) ∨
      ∃ actor user db, registry.get process.db userId = some user ∧
        registry.writeRequestedAccess env user (some access) actor process.db = .ok db ∧
        result ≠ none ∧ after = ⟨db, process.deadlines⟩ := by
  unfold setCameraAccess at h
  split at h
  · cases h
  rename_i actor' _
  obtain ⟨db, hbody, rfl⟩ := transaction_onDatabase_ok h
  unfold setCameraAccessBody at hbody
  split at hbody
  · cases hbody
    exact .inl ⟨rfl, rfl⟩
  rename_i user huser
  split at hbody
  · cases hbody
  rename_i admitted written hwrite
  cases hbody
  refine .inr ⟨actor', user, db, huser, ?_, by simp, rfl⟩
  rw [writeRequestedAccess, hwrite]

theorem setCameraAccess_error
    (h : registry.setCameraAccess env userId access actor process = (.error error, after)) :
    after = process := by
  unfold setCameraAccess at h
  split at h
  · cases h
    rfl
  · exact transaction_onDatabase_error h

/-! ## Issuing a bootstrap credential -/

/-- What `create_with_bootstrap` leaves: the account, its access if one was
given, and its credential. -/
theorem createWithBootstrap_ok {ttlSeconds : ℤ} {access : Option CameraAccessRequest}
    {issue : BootstrapIssue}
    (h : registry.createWithBootstrap env derive request actor ttlSeconds access process =
      (.ok issue, after)) :
    minBootstrapTtlSeconds ≤ ttlSeconds ∧
      ∃ actor inserted accessed credentials,
        registry.insertUser env request actor process.db = .ok (issue.account, inserted) ∧
        registry.writeRequestedAccess env issue.account access actor inserted = .ok accessed ∧
        accessed.credentials.insert? (registry.siteId, issue.account.id)
          (bootstrapRow env (derive env.temporary env.salt) issue.expiresAt) = some credentials ∧
        after = ⟨registry.appendAudit env { accessed with credentials := credentials }
            issue.account.id .bootstrapIssued actor [.credentialState],
          startDeadline env issue.account.id (derive env.temporary env.salt) ttlSeconds
            process.deadlines⟩ := by
  unfold createWithBootstrap at h
  split at h
  · cases h
  rename_i actor' _
  split at h
  · cases h
  rename_i httl
  dsimp only at h
  split at h
  · cases h
  rename_i expires _
  obtain ⟨db, hbody, rfl⟩ := transaction_onDatabase_ok h
  unfold createWithBootstrapBody at hbody
  split at hbody
  · cases hbody
  rename_i user inserted hinsert
  split at hbody
  · cases hbody
  rename_i accessed haccess
  split at hbody
  · cases hbody
  rename_i written hwritten
  cases hbody
  obtain ⟨credentials, hcredentials, rfl⟩ := insertCredentials_ok hwritten
  simp only [Bool.or_eq_true, decide_eq_true_eq, not_or, not_lt] at httl
  exact ⟨httl.1, actor', inserted, accessed, credentials, hinsert, haccess, hcredentials, rfl⟩

theorem createWithBootstrap_error {ttlSeconds : ℤ} {access : Option CameraAccessRequest}
    (h : registry.createWithBootstrap env derive request actor ttlSeconds access process =
      (.error error, after)) : after = process := by
  unfold createWithBootstrap at h
  split at h
  · cases h
    rfl
  split at h
  · cases h
    rfl
  · dsimp only at h
    split at h
    · cases h
      rfl
    · exact transaction_onDatabase_error h

/-! ## The eligibility check -/

inductive CheckEffect (registry : Registry) (userId : Uuid) (db : Database) : Database → Prop
  | unchanged : CheckEffect registry userId db db
  | expired (verifier : Verifier) :
      CheckEffect registry userId db (registry.updateBootstrap userId verifier
        (fun row => { row with kind := .expiredBootstrap }) db)
  | checked (verifier : Verifier) (instant : Instant) :
      CheckEffect registry userId db (registry.updateBootstrap userId verifier
        (fun row => { row with lastCheckedAt := some instant }) db)

namespace CheckEffect

variable {userId : Uuid} {db db' : Database}

theorem users_eq (h : CheckEffect registry userId db db') : db'.users = db.users := by
  cases h <;> rfl

end CheckEffect

variable {db : Database} {userId : Uuid}

theorem find?_updateBootstrap {verifier : Verifier} {f : CredentialRow → CredentialRow}
    {key : String × Uuid} :
    (registry.updateBootstrap userId verifier f db).credentials.find? key =
      (db.credentials.find? key).map fun row =>
        if key = (registry.siteId, userId) ∧ row.kind = .bootstrap ∧ row.verifier = verifier
        then f row else row := by
  unfold updateBootstrap
  by_cases hkey : key = (registry.siteId, userId)
  · subst hkey
    rw [Table.find?_modify_self]
    simp
  · rw [Table.find?_modify_of_ne _ hkey]
    simp [hkey]

/-- A checked credential is what it was, or a bootstrap credential of this user
with another mark. -/
theorem CheckEffect.find? {db' : Database} (h : CheckEffect registry userId db db')
    (key : String × Uuid) :
    db'.credentials.find? key = db.credentials.find? key ∨
      ∃ row row' : CredentialRow, key = (registry.siteId, userId) ∧ row.kind = .bootstrap ∧
        db.credentials.find? key = some row ∧ db'.credentials.find? key = some row' ∧
        (row' = { row with kind := .expiredBootstrap } ∨
          ∃ instant, row' = { row with lastCheckedAt := some instant }) := by
  have hupdate (verifier : Verifier) (f : CredentialRow → CredentialRow)
      (hf : ∀ row, f row = { row with kind := .expiredBootstrap } ∨
        ∃ instant, f row = { row with lastCheckedAt := some instant }) :
      (registry.updateBootstrap userId verifier f db).credentials.find? key =
          db.credentials.find? key ∨
        ∃ row row' : CredentialRow, key = (registry.siteId, userId) ∧ row.kind = .bootstrap ∧
          db.credentials.find? key = some row ∧
          (registry.updateBootstrap userId verifier f db).credentials.find? key = some row' ∧
          (row' = { row with kind := .expiredBootstrap } ∨
            ∃ instant, row' = { row with lastCheckedAt := some instant }) := by
    rw [find?_updateBootstrap]
    cases hfind : db.credentials.find? key with
    | none => exact .inl rfl
    | some row =>
        by_cases hrow : key = (registry.siteId, userId) ∧ row.kind = .bootstrap ∧
            row.verifier = verifier
        · refine .inr ⟨row, f row, hrow.1, hrow.2.1, rfl, ?_, hf row⟩
          simp [hrow]
        · refine .inl ?_
          simp only [Option.map_some, if_neg hrow]
  cases h with
  | unchanged => exact .inl rfl
  | expired verifier => exact hupdate verifier _ fun row => .inl rfl
  | checked verifier instant => exact hupdate verifier _ fun row => .inr ⟨instant, rfl⟩

/-- The deadlines in memory once a deadline has been reconstructed, if it was. -/
def reconstructedDeadlines (env : CallEnvironment) (now expiry : Instant) (userId : Uuid)
    (row : CredentialRow) (deadlines : Deadlines) : Deadlines :=
  if (eligibilityDeadline env now expiry row (deadlines userId)).2 then
    Function.update deadlines userId
      (some (row.verifier, (eligibilityDeadline env now expiry row (deadlines userId)).1))
  else deadlines

variable {process after : Process} {updateFails : Bool}

theorem bootstrapEligible_cases {now : Instant} {row : CredentialRow}
    {result : Except RegistryError Bool}
    (h : registry.bootstrapEligible env updateFails now userId row process = (result, after)) :
    (∃ error, result = .error error ∧ after.db = process.db ∧
        (after.deadlines = process.deadlines ∨ ∃ expiry, after.deadlines =
          reconstructedDeadlines env now expiry userId row process.deadlines)) ∨
      ∃ expiry, row.expiresAt = some expiry ∧
        ((result = .ok false ∧
            isExpired env now expiry row (process.deadlines userId) = true ∧
            after = ⟨registry.updateBootstrap userId row.verifier
                (fun row => { row with kind := .expiredBootstrap }) process.db,
              Function.update
                (reconstructedDeadlines env now expiry userId row process.deadlines)
                userId none⟩) ∨
          ∃ instant, result = .ok true ∧
            isExpired env now expiry row (process.deadlines userId) = false ∧
            after = ⟨registry.updateBootstrap userId row.verifier
                (fun row => { row with lastCheckedAt := some instant }) process.db,
              reconstructedDeadlines env now expiry userId row process.deadlines⟩) := by
  unfold bootstrapEligible at h
  split at h
  · cases h
    exact .inl ⟨_, rfl, rfl, .inl rfl⟩
  rename_i expiry hexpiry
  dsimp only at h
  split at h
  · cases h
    exact .inl ⟨_, rfl, rfl, .inr ⟨expiry, rfl⟩⟩
  split at h
  · rename_i hexpired
    cases h
    exact .inr ⟨expiry, hexpiry, .inl ⟨rfl, hexpired, rfl⟩⟩
  · rename_i hexpired
    cases h
    exact .inr ⟨expiry, hexpiry, .inr ⟨_, rfl, by simpa using hexpired, rfl⟩⟩

theorem checkEffect_bootstrapEligible (registry : Registry) (env : CallEnvironment)
    (updateFails : Bool) (now : Instant) (userId : Uuid)
    (row : CredentialRow) (process : Process) :
    CheckEffect registry userId process.db
      (registry.bootstrapEligible env updateFails now userId row process).2.db := by
  generalize hcheck : registry.bootstrapEligible env updateFails now userId row process = outcome
  obtain ⟨result, after⟩ := outcome
  rcases bootstrapEligible_cases hcheck with
    ⟨error, -, hdb, -⟩ | ⟨expiry, -, ⟨-, -, rfl⟩ | ⟨instant, -, -, rfl⟩⟩
  · dsimp only
    rw [hdb]
    exact .unchanged
  · exact .expired _
  · exact .checked _ _

/-! ## The credential status -/

theorem checkEffect_statusOfRow (registry : Registry) (env : CallEnvironment)
    (updateFails : Bool) (userId : Uuid) (row : Option CredentialRow)
    (process : Process) :
    CheckEffect registry userId process.db
      (registry.statusOfRow env updateFails userId row process).2.db := by
  unfold statusOfRow
  split
  · exact .unchanged
  rename_i row
  split
  · exact .unchanged
  split
  · exact .unchanged
  · split
    · exact .unchanged
    · have hcheck := checkEffect_bootstrapEligible registry env
        updateFails env.statusNow userId row process
      split <;> (rename_i heq; rw [heq] at hcheck; exact hcheck)
    · exact .unchanged

theorem checkEffect_credentialStatusOf (registry : Registry) (env : CallEnvironment)
    (updateFails : Bool) (seen : Database) (userId : Uuid)
    (process : Process) :
    CheckEffect registry userId process.db
      (registry.credentialStatusOf env updateFails seen userId process).2.db := by
  unfold credentialStatusOf
  split
  · exact .unchanged
  · have hcheck := checkEffect_statusOfRow registry env updateFails userId
      (seen.credentials.find? (registry.siteId, userId)) process
    split <;> (rename_i heq; rw [heq] at hcheck; exact hcheck)

theorem checkEffect_credentialStatus (registry : Registry) (env : CallEnvironment)
    (seen : Database) (userId : Uuid) (process : Process) :
    CheckEffect registry userId process.db
      (registry.credentialStatus env seen userId process).2.db := by
  unfold credentialStatus
  split
  · exact .unchanged
  · exact checkEffect_credentialStatusOf _ _ _ seen userId process

theorem statusOfRow_cases {row : Option CredentialRow}
    {result : Except RegistryError CredentialStatus}
    (h : registry.statusOfRow env updateFails userId row process = (result, after)) :
    (after = process ∧ result ≠ .ok .pending ∧
        (result = .ok .expired → ∀ found, row = some found → found.kind ≠ .bootstrap)) ∨
      ∃ found check, row = some found ∧ found.scheme = credentialScheme ∧
        found.kind = .bootstrap ∧
        registry.bootstrapEligible env updateFails env.statusNow userId found process =
          (check, after) ∧
        ((∃ error raised, check = .error error ∧ result = .error raised) ∨
          ∃ eligible, check = .ok eligible ∧
            result = .ok (if eligible then .pending else .expired)) := by
  unfold statusOfRow at h
  split at h
  · cases h
    exact .inl ⟨rfl, by simp, by simp⟩
  rename_i found
  split at h
  · cases h
    exact .inl ⟨rfl, by simp, by simp⟩
  rename_i hscheme
  split at h
  · cases h
    exact .inl ⟨rfl, by simp, by simp⟩
  split at h
  · rename_i hkind
    cases h
    refine .inl ⟨rfl, by simp, ?_⟩
    rintro - other hother
    cases hother
    rw [hkind]
    decide
  · rename_i hkind
    split at h
    · rename_i error checked hcheck
      cases h
      exact .inr ⟨found, _, rfl, not_not.mp hscheme, hkind, hcheck, .inl ⟨_, _, rfl, rfl⟩⟩
    · rename_i eligible checked hcheck
      cases h
      exact .inr ⟨found, _, rfl, not_not.mp hscheme, hkind, hcheck, .inr ⟨_, rfl, rfl⟩⟩
  · cases h
    exact .inl ⟨rfl, by simp, by simp⟩

theorem credentialStatus_cases {seen : Database}
    {result : Except RegistryError (Option CredentialStatus)}
    (h : registry.credentialStatus env seen userId process = (result, after)) :
    (after = process ∧ (∀ status, result ≠ .ok (some status))) ∨
      ∃ status, registry.statusOfRow env (env.fault ≠ .none) userId
          (seen.credentials.find? (registry.siteId, userId)) process = (status, after) ∧
        result = status.map some := by
  unfold credentialStatus credentialStatusOf at h
  split at h
  · cases h
    exact .inl ⟨rfl, by simp⟩
  split at h
  · cases h
    exact .inl ⟨rfl, by simp⟩
  · split at h
    · rename_i error checked hstatus
      cases h
      exact .inr ⟨_, hstatus, rfl⟩
    · rename_i status checked hstatus
      cases h
      exact .inr ⟨_, hstatus, rfl⟩

variable {error : RegistryError}

theorem db_of_statusOfRow_error {row : Option CredentialRow}
    (h : registry.statusOfRow env updateFails userId row process = (.error error, after)) :
    after.db = process.db := by
  rcases statusOfRow_cases h with ⟨rfl, -⟩ | ⟨found, check, -, -, -, hcheck, hend⟩
  · rfl
  rcases bootstrapEligible_cases hcheck with
    ⟨_, -, hdb, -⟩ | ⟨_, -, ⟨rfl, -⟩ | ⟨_, rfl, -⟩⟩
  · exact hdb
  · rcases hend with ⟨_, _, hcheck, -⟩ | ⟨_, -, hresult⟩
    · cases hcheck
    · cases hresult
  · rcases hend with ⟨_, _, hcheck, -⟩ | ⟨_, -, hresult⟩
    · cases hcheck
    · cases hresult

theorem db_of_credentialStatus_error {seen : Database}
    (h : registry.credentialStatus env seen userId process = (.error error, after)) :
    after.db = process.db := by
  rcases credentialStatus_cases h with ⟨rfl, -⟩ | ⟨status, hstatus, hresult⟩
  · rfl
  · cases status with
    | error raised => exact db_of_statusOfRow_error hstatus
    | ok status => cases hresult

/-! ## Resetting and activating -/

theorem checkEffect_resetGuard (registry : Registry) (env : CallEnvironment)
    (user : UserAccount) (process : Process) :
    CheckEffect registry user.id process.db (registry.resetGuard env user process).2.db := by
  unfold resetGuard
  split
  · have hcheck := checkEffect_credentialStatusOf registry env
      (env.fault = .check) process.db user.id process
    split
    · rename_i heq
      rw [heq] at hcheck
      exact hcheck
    · rename_i heq
      rw [heq] at hcheck
      split <;> exact hcheck
  · exact .unchanged

theorem resetGuard_cases {user : UserAccount} {result : Except RegistryError Unit}
    (h : registry.resetGuard env user process = (result, after)) :
    after = process ∨ user.enabled = true ∧ user.role = .administrator ∧ ∃ row check,
      process.db.credentials.find? (registry.siteId, user.id) = some row ∧
      row.scheme = credentialScheme ∧ row.kind = .bootstrap ∧
      registry.bootstrapEligible env (env.fault = .check) env.statusNow user.id row process =
        (check, after) ∧
      ((∃ error raised, check = .error error ∧ result = .error raised) ∨
        ∃ eligible, check = .ok eligible ∧ result = .ok ()) := by
  unfold resetGuard credentialStatusOf at h
  split at h
  · rename_i hadministrator
    simp only [Bool.and_eq_true, beq_iff_eq] at hadministrator
    split at h
    · rename_i error checked hstatus
      cases h
      split at hstatus
      · cases hstatus
      split at hstatus
      · rename_i raised checked hrow
        cases hstatus
        rcases statusOfRow_cases hrow with
          ⟨rfl, -⟩ | ⟨row, check, hfound, hscheme, hkind, hcheck, hend⟩
        · exact .inl rfl
        rcases hend with ⟨failure, _, hfailed, -⟩ | ⟨_, -, hresult⟩
        · exact .inr ⟨hadministrator.1, hadministrator.2, row, check, hfound, hscheme, hkind,
            hcheck, .inl ⟨failure, _, hfailed, rfl⟩⟩
        · cases hresult
      · cases hstatus
    · rename_i status checked hstatus
      have hafter : after = checked := by
        split at h <;> (cases h; rfl)
      subst hafter
      split at hstatus
      · cases hstatus
        exact .inl rfl
      split at hstatus
      · cases hstatus
      rename_i read checked hrow
      cases hstatus
      rcases statusOfRow_cases hrow with
        ⟨rfl, -⟩ | ⟨row, check, hfound, hscheme, hkind, hcheck, hend⟩
      · exact .inl rfl
      rcases hend with ⟨_, _, -, hresult⟩ | ⟨eligible, heligible, hresult⟩
      · cases hresult
      · have hactive : read ≠ .active := by
          cases hresult
          cases eligible <;> decide
        rw [if_neg (by simp [hactive])] at h
        cases h
        exact .inr ⟨hadministrator.1, hadministrator.2, row, check, hfound, hscheme, hkind,
          hcheck, .inr ⟨eligible, heligible, rfl⟩⟩
  · cases h
    exact .inl rfl

variable {ttlSeconds : ℤ} {actor : String} {derive : DeriveCredential}

theorem resetBootstrap_ok {result : Option BootstrapIssue}
    (h : registry.resetBootstrap env derive userId actor ttlSeconds process = (.ok result, after)) :
    (result = none ∧ after = process) ∨
      minBootstrapTtlSeconds ≤ ttlSeconds ∧ ∃ actor user expires checked,
        registry.get process.db userId = some user ∧
        registry.resetGuard env user process = (.ok (), checked) ∧
        result = some ⟨user, env.temporary, expires⟩ ∧
        after = ⟨registry.appendAudit env { checked.db with
              credentials := checked.db.credentials.upsert (registry.siteId, user.id)
                (bootstrapRow env (derive env.temporary env.salt) expires) }
            user.id .passwordReset actor [.credentialState],
          startDeadline env user.id (derive env.temporary env.salt) ttlSeconds
            checked.deadlines⟩ := by
  unfold resetBootstrap at h
  split at h
  · cases h
  rename_i actor' _
  split at h
  · cases h
  rename_i httl
  dsimp only at h
  split at h
  · cases h
  rename_i expires _
  obtain ⟨-, done, hbody, rfl⟩ := transaction_ok h
  unfold resetBootstrapBody at hbody
  split at hbody
  · cases hbody
    exact .inl ⟨rfl, rfl⟩
  rename_i user huser
  split at hbody
  · cases hbody
  rename_i checked hguard
  cases hbody
  simp only [Bool.or_eq_true, decide_eq_true_eq, not_or, not_lt] at httl
  exact .inr ⟨httl.1, actor', user, expires, checked, huser, hguard, rfl, rfl⟩

/-- The argument checks of `reset_bootstrap`. -/
def admitsReset (env : CallEnvironment) (actor : String) (ttlSeconds : ℤ) : Bool :=
  isActor (strip actor) && minBootstrapTtlSeconds ≤ ttlSeconds &&
    ttlSeconds ≤ maxBootstrapTtlSeconds && (env.now.addSeconds ttlSeconds).isSome

theorem resetBootstrap_error
    (h : registry.resetBootstrap env derive userId actor ttlSeconds process =
      (.error error, after)) :
    after = process ∨ admitsReset env actor ttlSeconds = true ∧ ∃ user guard checked,
      registry.get process.db userId = some user ∧
      registry.resetGuard env user process = (guard, checked) ∧
      after = ⟨process.db, checked.deadlines⟩ ∧
      ((∃ raised, guard = .error raised) ∨ env.fault = .commit) := by
  unfold resetBootstrap at h
  split at h
  · cases h
    exact .inl rfl
  rename_i actor' hactor
  unfold validateActor at hactor
  dsimp only at hactor
  split_ifs at hactor with hisActor
  split at h
  · cases h
    exact .inl rfl
  rename_i httl
  dsimp only at h
  split at h
  · cases h
    exact .inl rfl
  rename_i expires hexpires
  rcases transaction_error h with rfl | ⟨result, done, hbody, rfl, hend⟩
  · exact .inl rfl
  have hadmits : admitsReset env actor ttlSeconds = true := by
    simp only [Bool.or_eq_true, decide_eq_true_eq, not_or, not_lt] at httl
    simp [admitsReset, hisActor, httl, hexpires]
  unfold resetBootstrapBody at hbody
  split at hbody
  · cases hbody
    exact .inl rfl
  rename_i user huser
  split at hbody
  · rename_i raised checked hguard
    cases hbody
    exact .inr ⟨hadmits, user, _, done, huser, hguard, rfl, .inl ⟨raised, rfl⟩⟩
  rename_i checked hguard
  cases hbody
  refine .inr ⟨hadmits, user, _, checked, huser, hguard, rfl, .inr ?_⟩
  rcases hend with ⟨raised, hraised⟩ | hcommit
  · cases hraised
  · exact hcommit

theorem db_of_resetBootstrap_error
    (h : registry.resetBootstrap env derive userId actor ttlSeconds process =
      (.error error, after)) : after.db = process.db := by
  rcases resetBootstrap_error h with rfl | ⟨-, _, _, _, -, -, rfl, -⟩
  · rfl
  · rfl

theorem checkEffect_activationEligible (registry : Registry) (env : CallEnvironment)
    (user : UserAccount) (row : CredentialRow)
    (process : Process) :
    CheckEffect registry user.id process.db
      (registry.activationEligible env user row process).2.db := by
  unfold activationEligible
  split
  · exact checkEffect_bootstrapEligible _ _ _ _ _ _ _
  · exact .unchanged

theorem activationEligible_cases {user : UserAccount} {row : CredentialRow}
    {check : Except RegistryError Bool}
    (h : registry.activationEligible env user row process = (check, after)) :
    (check = .ok false ∧ after = process) ∨
      row.scheme = credentialScheme ∧ row.kind = .bootstrap ∧ user.enabled = true ∧
        registry.bootstrapEligible env (env.fault = .check) env.now user.id row process =
          (check, after) := by
  unfold activationEligible at h
  split at h
  · rename_i hrow
    exact .inr ⟨hrow.1, hrow.2.1, hrow.2.2, h⟩
  · cases h
    exact .inl ⟨rfl, rfl⟩

variable {username temporary newPassword : String}

/-- An activation that returns `None` has done no more than the eligibility
check; one that returns an account has replaced the credential of that account
by a password. -/
theorem activateBootstrapPassword_ok {result : Option UserAccount}
    (h : registry.activateBootstrapPassword env derive username temporary newPassword actor
      process = (.ok result, after)) :
    (result = none ∧ after = process) ∨
      ∃ actor user row eligible checked,
        registry.userNamed process.db (strip username) = some user ∧
        process.db.credentials.find? (registry.siteId, user.id) = some row ∧
        registry.activationEligible env user row process = (.ok eligible, checked) ∧
        ((result = none ∧ after = checked) ∨
          (result = some user ∧ eligible = true ∧ derive temporary row.salt = row.verifier ∧
            after = ⟨registry.appendAudit env { checked.db with
                  credentials := checked.db.credentials.modify (registry.siteId, user.id)
                    fun _ => passwordRow env.salt (derive newPassword env.salt) }
                user.id .bootstrapConsumed actor [.credentialState],
              Function.update checked.deadlines user.id none⟩)) := by
  unfold activateBootstrapPassword at h
  split at h
  · cases h
  rename_i normalized hnormalized
  unfold validateUsername at hnormalized
  dsimp only at hnormalized
  split_ifs at hnormalized
  cases hnormalized
  split at h
  · cases h
  rename_i actor' _
  split at h
  · cases h
  split at h
  · cases h
  obtain ⟨-, done, hbody, rfl⟩ := transaction_ok h
  unfold activateBody at hbody
  split at hbody
  · cases hbody
    exact .inl ⟨rfl, rfl⟩
  rename_i user huser
  split at hbody
  · cases hbody
    exact .inl ⟨rfl, rfl⟩
  rename_i row hrow
  split at hbody
  · cases hbody
  rename_i eligible checked hcheck
  refine .inr ⟨actor', user, row, eligible, checked, huser, hrow, hcheck, ?_⟩
  split at hbody
  · cases hbody
    exact .inl ⟨rfl, rfl⟩
  rename_i hpassed
  cases hbody
  simp only [Bool.or_eq_true, Bool.not_eq_true', decide_eq_true_eq, ne_eq, not_or,
    Bool.not_eq_false, not_not] at hpassed
  exact .inr ⟨rfl, hpassed.1, hpassed.2, rfl⟩

/-- The argument checks of `activate_bootstrap_password`. -/
def admitsActivation (username temporary newPassword actor : String) : Bool :=
  isUsername (strip username) && isActor (strip actor) && 12 ≤ newPassword.length &&
    newPassword.length ≤ 256 && newPassword != temporary

/-- An activation that raises has changed the deadlines by its eligibility check
at most. -/
theorem activateBootstrapPassword_error
    (h : registry.activateBootstrapPassword env derive username temporary newPassword actor
      process = (.error error, after)) :
    after = process ∨ admitsActivation username temporary newPassword actor = true ∧
      ∃ user row check checked,
        registry.userNamed process.db (strip username) = some user ∧
        process.db.credentials.find? (registry.siteId, user.id) = some row ∧
        registry.activationEligible env user row process = (check, checked) ∧
        after = ⟨process.db, checked.deadlines⟩ ∧
        ((∃ raised, check = .error raised) ∨ env.fault = .commit) := by
  unfold activateBootstrapPassword at h
  split at h
  · cases h
    exact .inl rfl
  rename_i normalized hnormalized
  unfold validateUsername at hnormalized
  dsimp only at hnormalized
  split_ifs at hnormalized with hisUsername
  cases hnormalized
  split at h
  · cases h
    exact .inl rfl
  rename_i actor' hactor
  unfold validateActor at hactor
  dsimp only at hactor
  split_ifs at hactor with hisActor
  split at h
  · cases h
    exact .inl rfl
  rename_i hlength
  split at h
  · cases h
    exact .inl rfl
  rename_i hdiffers
  rcases transaction_error h with rfl | ⟨result, done, hbody, rfl, hend⟩
  · exact .inl rfl
  have hadmits : admitsActivation username temporary newPassword actor = true := by
    simp only [Bool.or_eq_true, decide_eq_true_eq, not_or, not_lt] at hlength
    simp [admitsActivation, hisUsername, hisActor, hlength, hdiffers]
  unfold activateBody at hbody
  split at hbody
  · cases hbody
    exact .inl rfl
  rename_i user huser
  split at hbody
  · cases hbody
    exact .inl rfl
  rename_i row hrow
  split at hbody
  · rename_i raised checked hcheck
    cases hbody
    exact .inr ⟨hadmits, user, row, _, done, huser, hrow, hcheck, rfl, .inl ⟨raised, rfl⟩⟩
  rename_i eligible checked hcheck
  have hcommit : env.fault = .commit := by
    rcases hend with ⟨raised, rfl⟩ | hcommit
    · split at hbody <;> cases hbody
    · exact hcommit
  refine .inr ⟨hadmits, user, row, _, checked, huser, hrow, hcheck, ?_, .inr hcommit⟩
  split at hbody <;> (cases hbody; rfl)

theorem db_of_activateBootstrapPassword_error
    (h : registry.activateBootstrapPassword env derive username temporary newPassword actor
      process = (.error error, after)) : after.db = process.db := by
  rcases activateBootstrapPassword_error h with rfl | ⟨-, _, _, _, _, -, -, -, rfl, -⟩
  · rfl
  · rfl

/-! ## Updating an account -/

variable {patch : UserPatch}

@[simp] theorem credentials_writeAccount (userId : Uuid) (current updated : UserCreate)
    (actor : String) (db : Database) :
    (registry.writeAccount env userId current updated actor db).credentials = db.credentials := by
  unfold writeAccount
  dsimp only
  split <;> rfl

@[simp] theorem cameraAccess_writeAccount (userId : Uuid) (current updated : UserCreate)
    (actor : String) (db : Database) :
    (registry.writeAccount env userId current updated actor db).cameraAccess = db.cameraAccess := by
  unfold writeAccount
  dsimp only
  split <;> rfl

theorem eq_of_changedFields_eq_nil {current : UserCreate}
    (h : changedFields current (patched current patch) = []) :
    patched current patch = current := by
  unfold changedFields at h
  simp only [List.append_eq_nil_iff, ite_eq_right_iff, List.cons_ne_nil, imp_false, not_not] at h
  obtain ⟨⟨hname, hrole⟩, henabled⟩ := h
  unfold patched at hname hrole henabled ⊢
  cases current
  simp_all

theorem find?_users_writeAccount {current : UserCreate}
    (hcurrent : db.users.find? (registry.siteId, userId) = some current) (key : String × Uuid) :
    (registry.writeAccount env userId current (patched current patch) actor db).users.find? key =
      if key = (registry.siteId, userId) then some (patched current patch)
      else db.users.find? key := by
  unfold writeAccount
  dsimp only
  split
  · rename_i hchanged
    rw [eq_of_changedFields_eq_nil hchanged]
    split
    · rename_i hkey
      rw [hkey, hcurrent]
    · rfl
  · rw [users_appendAudit]
    split
    · rename_i hkey
      rw [hkey, Table.find?_modify_self, hcurrent]
      rfl
    · rename_i hkey
      exact Table.find?_modify_of_ne _ hkey _

theorem update_ok {access : Option CameraAccessRequest} {result : Option UserAccount}
    (h : registry.update env userId patch actor access process = (.ok result, after)) :
    (result = none ∧ after = process) ∨
      ∃ actor current written,
        process.db.users.find? (registry.siteId, userId) = some current ∧
        (removesAdministrator current (patched current patch) = true →
          registry.otherAdministrator process.db userId = true) ∧
        registry.writeRequestedAccess env ⟨patched current patch, userId⟩
          (updateAccess current (patched current patch) access) actor
          (registry.writeAccount env userId current (patched current patch) actor process.db) =
            .ok written ∧
        result = some ⟨patched current patch, userId⟩ ∧
        after = ⟨written, process.deadlines⟩ := by
  unfold update at h
  split at h
  · cases h
  rename_i actor' _
  obtain ⟨db, hbody, rfl⟩ := transaction_onDatabase_ok h
  unfold updateBody at hbody
  split at hbody
  · cases hbody
    exact .inl ⟨rfl, rfl⟩
  rename_i current hcurrent
  dsimp only at hbody
  split at hbody
  · cases hbody
  split at hbody
  · cases hbody
  rename_i hguard
  split at hbody
  · cases hbody
  rename_i written hwritten
  cases hbody
  refine .inr ⟨actor', current, db, hcurrent, ?_, hwritten, rfl, rfl⟩
  intro hremoves
  simpa [hremoves] using hguard

theorem update_error {access : Option CameraAccessRequest}
    (h : registry.update env userId patch actor access process = (.error error, after)) :
    after = process := by
  unfold update at h
  split at h
  · cases h
    rfl
  · exact transaction_onDatabase_error h

end Registry

/-! ## Any operation -/

section Perform

variable {registry : Registry} {derive : DeriveCredential} {env : CallEnvironment}
  {seen : Database} {operation : Operation} {process after : Process}

theorem replied_ok {α : Type} {reply : α → Reply} {result : Except RegistryError α × Process}
    {returned : Reply} (h : replied reply result = (.ok returned, after)) :
    ∃ a, result = (.ok a, after) ∧ returned = reply a := by
  obtain ⟨outcome, process⟩ := result
  cases outcome with
  | error error => cases h
  | ok a =>
      cases h
      exact ⟨a, rfl, rfl⟩

theorem replied_error {α : Type} {reply : α → Reply} {result : Except RegistryError α × Process}
    {error : RegistryError} (h : replied reply result = (.error error, after)) :
    result = (.error error, after) := by
  obtain ⟨outcome, process⟩ := result
  cases outcome with
  | error raised =>
      cases h
      rfl
  | ok a => cases h

theorem db_of_perform_error {error : RegistryError}
    (h : registry.perform derive env seen operation process = (.error error, after)) :
    after.db = process.db := by
  cases operation with
  | create request actor => rw [Registry.create_error (replied_error h)]
  | bootstrapAdministrator request password =>
      rw [Registry.bootstrapAdministrator_error (replied_error h)]
  | createWithBootstrap request actor ttlSeconds access =>
      rw [Registry.createWithBootstrap_error (replied_error h)]
  | setCameraAccess userId access actor =>
      rw [Registry.setCameraAccess_error (replied_error h)]
  | resetBootstrap userId actor ttlSeconds =>
      exact Registry.db_of_resetBootstrap_error (replied_error h)
  | credentialStatus userId => exact Registry.db_of_credentialStatus_error (replied_error h)
  | activateBootstrapPassword username temporary newPassword actor =>
      exact Registry.db_of_activateBootstrapPassword_error (replied_error h)
  | update userId patch actor access => rw [Registry.update_error (replied_error h)]

end Perform

end K5Vision.Identity
