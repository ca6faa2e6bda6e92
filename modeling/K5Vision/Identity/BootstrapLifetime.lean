import K5Vision.Identity.LastAdministrator
import Mathlib.Data.List.Induction

/-!
# The lifetime of a bootstrap secret

One registry process, watched over a whole run: for every user the newest secret
handed out, when it was issued on the monotonic clock, and whether an activation
has consumed it or an answer has refused it as expired.  A secret is live as long
as none of that happened and its lifetime has not passed.

The deadline of a pending credential is kept twice, in the row and in memory, and
the one in memory counts while its verifier is the one of the row.  The invariant
`Tracked` says that this is the case for every secret of the run: a row that is
still pending is the newest secret's, unused, with its deadline in memory.  The
wall clock does not occur in it.

One thing breaks it.  The eligibility check drops the deadline from memory when
it marks a credential as expired, before the commit; when that commit fails, the
row is pending again, and the next check computes a deadline from the wall clock.
`LosesExpiry` is this case, and a run without it keeps every secret to its
lifetime.
-/

namespace K5Vision.Identity

open Library Registry
open Function (update update_of_ne update_self)

/-! ## Watching a process -/

/-- A secret handed out in the run, and what has become of it. -/
structure Secret where
  temporary : String
  salt : Salt
  issuedAt : Reading
  ttlSeconds : ℤ
  consumed : Bool
  refused : Bool

namespace Secret

def verifier (derive : DeriveCredential) (secret : Secret) : Verifier :=
  derive secret.temporary secret.salt

def deadline (secret : Secret) : ℚ := floatAdd secret.issuedAt.seconds secret.ttlSeconds

/-- Neither used nor refused, and issued less than its lifetime ago. -/
def IsLive (secret : Secret) (now : Reading) : Prop :=
  secret.consumed = false ∧ secret.refused = false ∧
    now.seconds - secret.issuedAt.seconds < secret.ttlSeconds

def issuedBy (env : CallEnvironment) (ttlSeconds : ℤ) : Secret :=
  ⟨env.temporary, env.salt, env.issueTick, ttlSeconds, false, false⟩

end Secret

abbrev Secrets := Uuid → Option Secret

/-- A process and the secrets it has handed out. -/
structure Watched where
  process : Process
  newest : Secrets

structure LifetimeCall where
  env : CallEnvironment
  operation : Operation

def mark (userId : Uuid) (f : Secret → Secret) (newest : Secrets) : Secrets :=
  update newest userId ((newest userId).map f)

/-- Whether the credential of the user with this name is marked as expired. -/
def foundExpired (registry : Registry) (db : Database) (username : String) : Option Uuid :=
  match registry.userNamed db (strip username) with
  | none => none
  | some user =>
      match db.credentials.find? (registry.siteId, user.id) with
      | some row => if row.kind = .expiredBootstrap then some user.id else none
      | none => none

/-- What an answer says about the secrets: a creation and a reset hand one out,
an activation consumes one or refuses it, a status can refuse it. -/
def observe (registry : Registry) (call : LifetimeCall) (reply : Except RegistryError Reply)
    (db : Database) (newest : Secrets) : Secrets :=
  match call.operation, reply with
  | .createWithBootstrap _ _ ttlSeconds _, .ok (.issue issue) =>
      update newest issue.account.id (some (.issuedBy call.env ttlSeconds))
  | .resetBootstrap _ _ ttlSeconds, .ok (.issue issue) =>
      update newest issue.account.id (some (.issuedBy call.env ttlSeconds))
  | .activateBootstrapPassword _ _ _ _, .ok (.account account) =>
      mark account.id (fun secret => { secret with consumed := true }) newest
  | .activateBootstrapPassword username _ _ _, .ok .nothing =>
      match foundExpired registry db username with
      | none => newest
      | some userId => mark userId (fun secret => { secret with refused := true }) newest
  | .credentialStatus userId, .ok (.status .expired) =>
      mark userId (fun secret => { secret with refused := true }) newest
  | _, _ => newest

namespace Watched

variable (derive : DeriveCredential) (registry : Registry)

def perform (state : Watched) (call : LifetimeCall) : Except RegistryError Reply × Process :=
  registry.perform derive call.env state.process.db call.operation state.process

def step (state : Watched) (call : LifetimeCall) : Watched :=
  let (reply, after) := state.perform derive registry call
  ⟨after, observe registry call reply after.db state.newest⟩

def run (state : Watched) (calls : List LifetimeCall) : Watched :=
  calls.foldl (step derive registry) state

/-- What the answer of a call may be.  An activation that succeeds was given the
newest secret of an enabled user, and that secret is live; so is the newest
secret of a user whose credential is answered to be pending. -/
def Permitted (state : Watched) (call : LifetimeCall) : Prop :=
  (∀ username temporary newPassword actor account secret,
      call.operation = .activateBootstrapPassword username temporary newPassword actor →
      (state.perform derive registry call).1 = .ok (.account account) →
      state.newest account.id = some secret →
        derive temporary secret.salt = secret.verifier derive ∧
        secret.IsLive call.env.checkTick ∧
        registry.get state.process.db account.id = some account ∧ account.enabled = true) ∧
    ∀ userId secret, call.operation = .credentialStatus userId →
      (state.perform derive registry call).1 = .ok (.status .pending) →
      state.newest userId = some secret → secret.IsLive call.env.checkTick

end Watched

/-! ## The commit that must not fail -/

/-- The eligibility check would find the pending credential of this user expired. -/
def pendingExpired (registry : Registry) (env : CallEnvironment) (now : Instant)
    (process : Process) (userId : Uuid) : Bool :=
  match process.db.credentials.find? (registry.siteId, userId) with
  | none => false
  | some row =>
      row.scheme == credentialScheme && row.kind == .bootstrap &&
        row.expiresAt.any fun expiry => isExpired env now expiry row (process.deadlines userId)

/-- A call that finds a pending credential expired and fails to commit it. -/
def LosesExpiry (registry : Registry) (process : Process) (call : LifetimeCall) : Prop :=
  call.env.fault = .commit ∧
    match call.operation with
    | .resetBootstrap userId actor ttlSeconds =>
        admitsReset call.env actor ttlSeconds = true ∧
          ∃ user, registry.get process.db userId = some user ∧
            user.enabled = true ∧ user.role = .administrator ∧
            pendingExpired registry call.env call.env.statusNow process user.id = true
    | .activateBootstrapPassword username temporary newPassword actor =>
        admitsActivation username temporary newPassword actor = true ∧
          ∃ user, registry.userNamed process.db (strip username) = some user ∧
            user.enabled = true ∧
            pendingExpired registry call.env call.env.now process user.id = true
    | _ => False

/-- A run in which no expiry gets lost. -/
def KeepsExpiry (derive : DeriveCredential) (registry : Registry) (start : Watched)
    (calls : List LifetimeCall) : Prop :=
  ∀ before call rest, calls = before ++ call :: rest →
    ¬LosesExpiry registry (start.run derive registry before).process call

/-! ## The invariant -/

/-- A credential of this user that is still pending is the secret's, and its
deadline is in memory. -/
def Tracked (derive : DeriveCredential) (registry : Registry) (process : Process) (userId : Uuid)
    (secret : Secret) : Prop :=
  ∀ row, process.db.credentials.find? (registry.siteId, userId) = some row →
    row.kind = .bootstrap →
      row.verifier = secret.verifier derive ∧ row.salt = secret.salt ∧
      secret.consumed = false ∧ secret.refused = false ∧
      process.deadlines userId = some (secret.verifier derive, secret.deadline)

section Invariant

variable {derive : DeriveCredential} {registry : Registry} {env : CallEnvironment}
  {process after : Process} {userId other : Uuid} {secret : Secret}

theorem Tracked.of_eq (h : Tracked derive registry process userId secret)
    (hrow : after.db.credentials.find? (registry.siteId, userId) =
      process.db.credentials.find? (registry.siteId, userId))
    (hdeadline : after.deadlines userId = process.deadlines userId) :
    Tracked derive registry after userId secret := by
  intro row hfind hkind
  rw [hrow] at hfind
  rw [hdeadline]
  exact h row hfind hkind

theorem tracked_of_kind_ne
    (h : ∀ row, process.db.credentials.find? (registry.siteId, userId) = some row →
      row.kind ≠ .bootstrap) : Tracked derive registry process userId secret := by
  intro row hfind hkind
  exact absurd hkind (h row hfind)

variable {deadlines : Deadlines} {ttlSeconds : ℤ}

theorem tracked_issuedBy {expires : Instant}
    (hrow : after.db.credentials.find? (registry.siteId, userId) =
      some (bootstrapRow env (derive env.temporary env.salt) expires))
    (hdeadlines : after.deadlines =
      startDeadline env userId (derive env.temporary env.salt) ttlSeconds deadlines) :
    Tracked derive registry after userId (.issuedBy env ttlSeconds) := by
  intro row hfind _
  rw [hrow] at hfind
  cases hfind
  refine ⟨rfl, rfl, rfl, rfl, ?_⟩
  rw [hdeadlines]
  exact update_self _ _ _

/-! ## The eligibility check under the invariant -/

variable {row : CredentialRow} {now expiry : Instant}

theorem eligibilityDeadline_known {deadline : ℚ} :
    eligibilityDeadline env now expiry row (some (row.verifier, deadline)) = (deadline, false) := by
  simp [eligibilityDeadline]

theorem reconstructedDeadlines_known {deadline : ℚ}
    (h : deadlines userId = some (row.verifier, deadline)) :
    reconstructedDeadlines env now expiry userId row deadlines = deadlines := by
  unfold reconstructedDeadlines
  rw [h, eligibilityDeadline_known]
  rfl

theorem reconstructedDeadlines_of_ne (h : other ≠ userId) :
    reconstructedDeadlines env now expiry userId row deadlines other = deadlines other := by
  unfold reconstructedDeadlines
  split
  · exact update_of_ne h _ _
  · rfl

variable {updateFails : Bool}

/-- An eligibility check that is not committed and has not found the credential
expired leaves the deadline of a tracked secret alone. -/
theorem deadlines_bootstrapEligible {result : Except RegistryError Bool}
    (h : Tracked derive registry process other secret)
    (hrow : process.db.credentials.find? (registry.siteId, userId) = some row)
    (hkind : row.kind = .bootstrap)
    (hcheck : registry.bootstrapEligible env updateFails now userId row process = (result, after))
    (hresult : result ≠ .ok false) : after.deadlines other = process.deadlines other := by
  have hkeep (expiry : Instant) :
      reconstructedDeadlines env now expiry userId row process.deadlines other =
        process.deadlines other := by
    by_cases hother : other = userId
    · subst hother
      obtain ⟨hverifier, -, -, -, hdeadline⟩ := h row hrow hkind
      rw [← hverifier] at hdeadline
      rw [reconstructedDeadlines_known hdeadline]
    · exact reconstructedDeadlines_of_ne hother
  rcases bootstrapEligible_cases hcheck with
    ⟨error, -, -, hsame | ⟨expiry, hafter⟩⟩ | ⟨expiry, -, ⟨hfalse, -⟩ | ⟨instant, -, -, rfl⟩⟩
  · rw [hsame]
  · rw [hafter]
    exact hkeep expiry
  · exact absurd hfalse hresult
  · exact hkeep expiry

theorem Tracked.bootstrapEligible {result : Except RegistryError Bool}
    (h : Tracked derive registry process other secret)
    (hrow : process.db.credentials.find? (registry.siteId, userId) = some row)
    (hkind : row.kind = .bootstrap)
    (hcheck : registry.bootstrapEligible env updateFails now userId row process = (result, after)) :
    Tracked derive registry after other secret := by
  have hdeadlines := deadlines_bootstrapEligible h hrow hkind hcheck
  rcases bootstrapEligible_cases hcheck with
    ⟨error, rfl, hdb, -⟩ | ⟨expiry, -, ⟨rfl, -, rfl⟩ | ⟨instant, rfl, -, rfl⟩⟩
  · exact h.of_eq (by rw [hdb]) (hdeadlines (by simp))
  · by_cases hother : other = userId
    · -- the row is marked as expired
      subst hother
      apply tracked_of_kind_ne
      intro marked hmarked
      rw [find?_updateBootstrap, hrow, Option.map_some, if_pos ⟨rfl, hkind, rfl⟩] at hmarked
      cases hmarked
      simp
    · refine h.of_eq ?_ ?_
      · rw [find?_updateBootstrap]
        simp [hother]
      · exact (update_of_ne hother _ _).trans (reconstructedDeadlines_of_ne hother)
  · by_cases hother : other = userId
    · subst hother
      intro checked hchecked _
      rw [find?_updateBootstrap, hrow, Option.map_some, if_pos ⟨rfl, hkind, rfl⟩] at hchecked
      cases hchecked
      rw [hdeadlines (by simp)]
      exact h row hrow hkind
    · refine h.of_eq ?_ (hdeadlines (by simp))
      rw [find?_updateBootstrap]
      simp [hother]

theorem Tracked.isLive (h : Tracked derive registry process userId secret)
    (hrow : process.db.credentials.find? (registry.siteId, userId) = some row)
    (hkind : row.kind = .bootstrap)
    (hcheck : registry.bootstrapEligible env updateFails now userId row process =
      (.ok true, after)) : secret.IsLive env.checkTick := by
  obtain ⟨hverifier, -, hconsumed, hrefused, hdeadline⟩ := h row hrow hkind
  refine ⟨hconsumed, hrefused, ?_⟩
  rcases bootstrapEligible_cases hcheck with
    ⟨error, hresult, -⟩ | ⟨expiry, -, ⟨hresult, -⟩ | ⟨instant, -, hexpired, -⟩⟩
  · cases hresult
  · cases hresult
  rw [hdeadline, ← hverifier] at hexpired
  unfold isExpired at hexpired
  rw [eligibilityDeadline_known] at hexpired
  have hbefore : ¬secret.deadline ≤ env.checkTick.seconds := by simpa using hexpired
  by_contra hpassed
  apply hbefore
  apply floatAdd_le_of_add_le
  linarith

/-- A check that finds a tracked credential expired is one that `LosesExpiry`
looks for. -/
theorem pendingExpired_of_bootstrapEligible
    (hrow : process.db.credentials.find? (registry.siteId, userId) = some row)
    (hscheme : row.scheme = credentialScheme) (hkind : row.kind = .bootstrap)
    (hcheck : registry.bootstrapEligible env updateFails now userId row process =
      (.ok false, after)) : pendingExpired registry env now process userId = true := by
  rcases bootstrapEligible_cases hcheck with
    ⟨error, hresult, -⟩ | ⟨expiry, hexpiry, ⟨-, hexpired, -⟩ | ⟨instant, hresult, -⟩⟩
  · cases hresult
  · simp [pendingExpired, hrow, hscheme, hkind, hexpiry, hexpired]
  · cases hresult

/-! ## What a call does to a tracked secret -/

theorem Tracked.of_error {operation : Operation} {error : RegistryError}
    (h : Tracked derive registry process other secret)
    (hkeeps : ¬LosesExpiry registry process ⟨env, operation⟩)
    (hperform : registry.perform derive env process.db operation process = (.error error, after)) :
    Tracked derive registry after other secret := by
  cases operation with
  | create request actor =>
      rw [create_error (replied_error hperform)]
      exact h
  | bootstrapAdministrator request password =>
      rw [bootstrapAdministrator_error (replied_error hperform)]
      exact h
  | createWithBootstrap request actor ttlSeconds access =>
      rw [createWithBootstrap_error (replied_error hperform)]
      exact h
  | setCameraAccess userId access actor =>
      rw [setCameraAccess_error (replied_error hperform)]
      exact h
  | resetBootstrap userId actor ttlSeconds =>
      rcases resetBootstrap_error (replied_error hperform) with
        rfl | ⟨hadmits, user, guard, checked, huser, hguard, rfl, hend⟩
      · exact h
      rcases resetGuard_cases hguard with
        rfl | ⟨henabled, hrole, row, check, hrow, hscheme, hkind, hcheck, hresult⟩
      · exact h
      refine h.of_eq rfl (show checked.deadlines other = process.deadlines other from ?_)
      apply deadlines_bootstrapEligible h hrow hkind hcheck
      rintro rfl
      -- the guard has passed, so it was the commit that failed
      rcases hresult with ⟨_, _, hcheck, -⟩ | ⟨_, -, rfl⟩
      · cases hcheck
      rcases hend with ⟨_, hguard⟩ | hcommit
      · cases hguard
      · exact hkeeps ⟨hcommit, hadmits, user, huser, henabled, hrole,
          pendingExpired_of_bootstrapEligible hrow hscheme hkind hcheck⟩
  | credentialStatus userId =>
      rcases credentialStatus_cases (replied_error hperform) with
        ⟨rfl, -⟩ | ⟨status, hstatus, -⟩
      · exact h
      rcases statusOfRow_cases hstatus with
        ⟨rfl, -⟩ | ⟨row, check, hrow, -, hkind, hcheck, -⟩
      · exact h
      · exact h.bootstrapEligible hrow hkind hcheck
  | activateBootstrapPassword username temporary newPassword actor =>
      rcases activateBootstrapPassword_error (replied_error hperform) with
        rfl | ⟨hadmits, user, row, check, checked, huser, hrow, heligible, rfl, hend⟩
      · exact h
      rcases activationEligible_cases heligible with
        ⟨-, rfl⟩ | ⟨hscheme, hkind, henabled, hcheck⟩
      · exact h
      · refine h.of_eq rfl (show checked.deadlines other = process.deadlines other from ?_)
        apply deadlines_bootstrapEligible h hrow hkind hcheck
        rintro rfl
        rcases hend with ⟨_, hraised⟩ | hcommit
        · cases hraised
        · exact hkeeps ⟨hcommit, hadmits, user, huser, henabled,
            pendingExpired_of_bootstrapEligible hrow hscheme hkind hcheck⟩
  | update userId patch actor access =>
      rw [update_error (replied_error hperform)]
      exact h

theorem Tracked.activationEligible {user : UserAccount} {check : Except RegistryError Bool}
    (h : Tracked derive registry process other secret)
    (hrow : process.db.credentials.find? (registry.siteId, user.id) = some row)
    (hcheck : registry.activationEligible env user row process = (check, after)) :
    Tracked derive registry after other secret := by
  rcases activationEligible_cases hcheck with ⟨-, rfl⟩ | ⟨-, hkind, -, hcheck⟩
  · exact h
  · exact h.bootstrapEligible hrow hkind hcheck

theorem Tracked.resetGuard {user : UserAccount} {guard : Except RegistryError Unit}
    (h : Tracked derive registry process other secret)
    (hguard : registry.resetGuard env user process = (guard, after)) :
    Tracked derive registry after other secret := by
  rcases resetGuard_cases hguard with rfl | ⟨-, -, row, check, hrow, -, hkind, hcheck, -⟩
  · exact h
  · exact h.bootstrapEligible hrow hkind hcheck

theorem Tracked.credentialStatus {result : Except RegistryError (Option CredentialStatus)}
    (h : Tracked derive registry process other secret)
    (hstatus : registry.credentialStatus env process.db userId process = (result, after)) :
    Tracked derive registry after other secret := by
  rcases credentialStatus_cases hstatus with ⟨rfl, -⟩ | ⟨status, hrow, -⟩
  · exact h
  · rcases statusOfRow_cases hrow with ⟨rfl, -⟩ | ⟨row, check, hrow, -, hkind, hcheck, -⟩
    · exact h
    · exact h.bootstrapEligible hrow hkind hcheck

variable {request : UserCreate}

theorem tracked_bootstrapAdministrator {password : String} {account : UserAccount}
    (hsetup : registry.bootstrapAdministrator env derive request password process =
      (.ok account, after)) : Tracked derive registry after other secret := by
  obtain ⟨-, -, db, hbody, rfl⟩ := bootstrapAdministrator_ok hsetup
  obtain ⟨-, hempty, -, inserted, credentials, hinsert, hcredentials, rfl⟩ :=
    bootstrapAdministratorBody_ok hbody
  obtain ⟨-, -, users, -, rfl⟩ := insertUser_ok hinsert
  apply tracked_of_kind_ne
  intro row hrow
  have hfind := (Table.insert?_eq_some hcredentials).2.2 (registry.siteId, other)
  dsimp only [credentials_appendAudit] at hrow hfind
  rw [hfind] at hrow
  split at hrow
  · cases hrow
    simp [passwordRow]
  · rw [Table.find?, hempty] at hrow
    cases hrow

variable {issue : BootstrapIssue} {actor : String}

theorem Tracked.createWithBootstrap {access : Option CameraAccessRequest}
    (h : Tracked derive registry process other secret) (hother : other ≠ issue.account.id)
    (hissue : registry.createWithBootstrap env derive request actor ttlSeconds access process =
      (.ok issue, after)) : Tracked derive registry after other secret := by
  obtain ⟨-, actor, inserted, accessed, credentials, hinsert, haccess, hcredentials, rfl⟩ :=
    createWithBootstrap_ok hissue
  obtain ⟨-, -, users, -, rfl⟩ := insertUser_ok hinsert
  obtain ⟨-, hrows, -⟩ := writeRequestedAccess_ok haccess
  refine h.of_eq ?_ (update_of_ne hother _ _)
  refine ((Table.insert?_eq_some hcredentials).2.2 _).trans ?_
  rw [if_neg (by simpa using hother), hrows]
  rfl

theorem tracked_of_createWithBootstrap {access : Option CameraAccessRequest}
    (hissue : registry.createWithBootstrap env derive request actor ttlSeconds access process =
      (.ok issue, after)) :
    Tracked derive registry after issue.account.id (.issuedBy env ttlSeconds) := by
  obtain ⟨-, actor, inserted, accessed, credentials, -, -, hcredentials, rfl⟩ :=
    createWithBootstrap_ok hissue
  have hfind := (Table.insert?_eq_some hcredentials).2.2 (registry.siteId, issue.account.id)
  rw [if_pos rfl] at hfind
  exact tracked_issuedBy hfind rfl

theorem Tracked.resetBootstrap {result : Option BootstrapIssue}
    (h : Tracked derive registry process other secret)
    (hother : ∀ issue, result = some issue → other ≠ issue.account.id)
    (hreset : registry.resetBootstrap env derive userId actor ttlSeconds process =
      (.ok result, after)) : Tracked derive registry after other secret := by
  rcases resetBootstrap_ok hreset with
    ⟨-, rfl⟩ | ⟨-, actor, user, expires, checked, -, hguard, rfl, rfl⟩
  · exact h
  · have hne : other ≠ user.id := hother _ rfl
    refine (h.resetGuard hguard).of_eq ?_ (update_of_ne hne _ _)
    exact (Table.find?_upsert _ _ _ _).trans (if_neg (by simpa using hne))

theorem tracked_of_resetBootstrap
    (hreset : registry.resetBootstrap env derive userId actor ttlSeconds process =
      (.ok (some issue), after)) :
    Tracked derive registry after issue.account.id (.issuedBy env ttlSeconds) := by
  rcases resetBootstrap_ok hreset with
    ⟨hnone, -⟩ | ⟨-, actor, user, expires, checked, -, -, hissue, rfl⟩
  · cases hnone
  cases hissue
  have hfind := Table.find?_upsert checked.db.credentials (registry.siteId, user.id)
    (bootstrapRow env (derive env.temporary env.salt) expires) (registry.siteId, user.id)
  rw [if_pos rfl] at hfind
  exact tracked_issuedBy hfind rfl

/-- An activated account is not tracked any more; every other one is as before. -/
theorem Tracked.activateBootstrapPassword {username temporary newPassword : String}
    {account : UserAccount}
    (hactivate : registry.activateBootstrapPassword env derive username temporary newPassword actor
      process = (.ok (some account), after))
    (h : other ≠ account.id → Tracked derive registry process other secret) :
    Tracked derive registry after other secret := by
  rcases activateBootstrapPassword_ok hactivate with
    ⟨hnone, -⟩ | ⟨actor, user, row, eligible, checked, -, hrow, heligible, hend⟩
  · cases hnone
  rcases hend with ⟨hnone, -⟩ | ⟨haccount, -, -, rfl⟩
  · cases hnone
  cases haccount
  by_cases hother : other = account.id
  · subst hother
    apply tracked_of_kind_ne
    intro found hfound
    dsimp only [credentials_appendAudit] at hfound
    rw [Table.find?_modify_self] at hfound
    obtain ⟨_, -, rfl⟩ := Option.map_eq_some_iff.mp hfound
    simp [passwordRow]
  · refine ((h hother).activationEligible hrow heligible).of_eq ?_
      (update_of_ne hother _ _)
    exact Table.find?_modify_of_ne _ (by simpa using hother) _

theorem kind_ne_of_credentialStatus
    (hstatus : registry.credentialStatus env process.db userId process =
      (.ok (some .expired), after)) (row : CredentialRow)
    (hrow : after.db.credentials.find? (registry.siteId, userId) = some row) :
    row.kind ≠ .bootstrap := by
  rcases credentialStatus_cases hstatus with ⟨-, hnone⟩ | ⟨status, hread, hresult⟩
  · exact absurd rfl (hnone _)
  cases status with
  | error raised => cases hresult
  | ok status =>
      cases hresult
      rcases statusOfRow_cases hread with
        ⟨rfl, -, hexpired⟩ | ⟨found, check, hfound, -, hkind, hcheck, hend⟩
      · exact hexpired rfl row hrow
      rcases hend with ⟨_, _, -, hraised⟩ | ⟨eligible, rfl, hanswer⟩
      · cases hraised
      cases eligible with
      | true => cases hanswer
      | false =>
          rcases bootstrapEligible_cases hcheck with
            ⟨_, hraised, -⟩ | ⟨expiry, -, ⟨-, -, rfl⟩ | ⟨_, htrue, -⟩⟩
          · cases hraised
          · rw [find?_updateBootstrap, hfound, Option.map_some,
              if_pos ⟨rfl, hkind, rfl⟩] at hrow
            cases hrow
            simp
          · cases htrue

end Invariant

/-! ## Runs -/

/-- Every newest secret is tracked. -/
def Watched.Invariant (derive : DeriveCredential) (registry : Registry) (state : Watched) : Prop :=
  ∀ userId secret, state.newest userId = some secret →
    Tracked derive registry state.process userId secret

section Run

variable {derive : DeriveCredential} {registry : Registry} {state : Watched} {call : LifetimeCall}

theorem mark_eq_some {userId other : Uuid} {f : Secret → Secret} {newest : Secrets}
    {secret : Secret} (h : mark userId f newest other = some secret) :
    (other = userId ∧ ∃ marked, newest userId = some marked ∧ secret = f marked) ∨
      other ≠ userId ∧ newest other = some secret := by
  unfold mark at h
  by_cases hother : other = userId
  · subst hother
    rw [update_self] at h
    obtain ⟨marked, hmarked, rfl⟩ := Option.map_eq_some_iff.mp h
    exact .inl ⟨rfl, marked, hmarked, rfl⟩
  · rw [update_of_ne hother] at h
    exact .inr ⟨hother, h⟩

theorem observe_error {error : RegistryError} (db : Database) (newest : Secrets) :
    observe registry call (.error error) db newest = newest := by
  unfold observe
  cases call.operation <;> rfl

theorem kind_of_foundExpired {db : Database} {username : String} {userId : Uuid}
    (h : foundExpired registry db username = some userId) (row : CredentialRow)
    (hrow : db.credentials.find? (registry.siteId, userId) = some row) : row.kind ≠ .bootstrap := by
  unfold foundExpired at h
  split at h
  · cases h
  split at h
  · rename_i found hfound
    split_ifs at h with hkind
    cases h
    rw [hfound] at hrow
    cases hrow
    rw [hkind]
    decide
  · cases h

theorem invariant_step (h : state.Invariant derive registry)
    (hkeeps : ¬LosesExpiry registry state.process call) :
    (state.step derive registry call).Invariant derive registry := by
  obtain ⟨env, operation⟩ := call
  unfold Watched.step Watched.perform
  generalize hperform : registry.perform derive env state.process.db operation state.process =
    outcome
  obtain ⟨reply, after⟩ := outcome
  intro userId secret hsecret
  dsimp only at hsecret ⊢
  cases reply with
  | error error =>
      rw [observe_error] at hsecret
      exact (h userId secret hsecret).of_error hkeeps hperform
  | ok reply =>
      cases operation with
      | create request actor =>
          obtain ⟨account, hcreate, rfl⟩ := replied_ok hperform
          obtain ⟨actor, db, hinsert, rfl⟩ := create_ok hcreate
          obtain ⟨-, -, users, -, rfl⟩ := insertUser_ok hinsert
          exact (h userId secret hsecret).of_eq rfl rfl
      | bootstrapAdministrator request password =>
          obtain ⟨account, hsetup, rfl⟩ := replied_ok hperform
          exact tracked_bootstrapAdministrator hsetup
      | createWithBootstrap request actor ttlSeconds access =>
          obtain ⟨issue, hissue, rfl⟩ := replied_ok hperform
          dsimp only [observe] at hsecret
          by_cases hother : userId = issue.account.id
          · subst hother
            rw [update_self] at hsecret
            cases hsecret
            exact tracked_of_createWithBootstrap hissue
          · rw [update_of_ne hother] at hsecret
            exact (h userId secret hsecret).createWithBootstrap hother hissue
      | setCameraAccess target access actor =>
          obtain ⟨admitted, haccess, rfl⟩ := replied_ok hperform
          have hsame : secret ∈ state.newest userId := by cases admitted <;> exact hsecret
          rcases setCameraAccess_ok haccess with
            ⟨-, rfl⟩ | ⟨actor, user, db, -, hwrite, -, rfl⟩
          · exact h userId secret hsame
          · obtain ⟨-, hcredentials, -⟩ := writeRequestedAccess_ok hwrite
            exact (h userId secret hsame).of_eq (by rw [hcredentials]) rfl
      | resetBootstrap target actor ttlSeconds =>
          obtain ⟨issue, hreset, rfl⟩ := replied_ok hperform
          cases issue with
          | none => exact (h userId secret hsecret).resetBootstrap (by simp) hreset
          | some issue =>
              dsimp only [observe, Reply.ofOption] at hsecret
              by_cases hother : userId = issue.account.id
              · subst hother
                rw [update_self] at hsecret
                cases hsecret
                exact tracked_of_resetBootstrap hreset
              · rw [update_of_ne hother] at hsecret
                refine (h userId secret hsecret).resetBootstrap ?_ hreset
                rintro other hissue
                cases hissue
                exact hother
      | credentialStatus target =>
          obtain ⟨status, hstatus, rfl⟩ := replied_ok hperform
          have hcommon (found : Secret) (hfound : state.newest userId = some found) :
              Tracked derive registry after userId found :=
            (h userId found hfound).credentialStatus hstatus
          cases status with
          | none => exact hcommon secret hsecret
          | some status =>
              cases status with
              | expired =>
                  rcases mark_eq_some hsecret with ⟨rfl, -⟩ | ⟨-, hsame⟩
                  · exact tracked_of_kind_ne (kind_ne_of_credentialStatus hstatus)
                  · exact hcommon secret hsame
              | uninitialized => exact hcommon secret hsecret
              | active => exact hcommon secret hsecret
              | pending => exact hcommon secret hsecret
      | activateBootstrapPassword username temporary newPassword actor =>
          obtain ⟨account, hactivate, rfl⟩ := replied_ok hperform
          cases account with
          | some account =>
              apply Tracked.activateBootstrapPassword hactivate
              intro hother
              rcases mark_eq_some hsecret with ⟨hself, -⟩ | ⟨-, hsame⟩
              · exact absurd hself hother
              · exact h userId secret hsame
          | none =>
              have hcommon (found : Secret) (hfound : state.newest userId = some found) :
                  Tracked derive registry after userId found := by
                rcases activateBootstrapPassword_ok hactivate with
                  ⟨-, rfl⟩ | ⟨actor, user, row, eligible, checked, -, hrow, heligible, hend⟩
                · exact h userId found hfound
                · rcases hend with ⟨-, rfl⟩ | ⟨hsome, -⟩
                  · exact (h userId found hfound).activationEligible hrow heligible
                  · cases hsome
              dsimp only [observe, Reply.ofOption] at hsecret
              cases hexpired : foundExpired registry after.db username with
              | none =>
                  rw [hexpired] at hsecret
                  exact hcommon secret hsecret
              | some target =>
                  rw [hexpired] at hsecret
                  rcases mark_eq_some hsecret with ⟨rfl, -⟩ | ⟨-, hsame⟩
                  · exact tracked_of_kind_ne (kind_of_foundExpired hexpired)
                  · exact hcommon secret hsame
      | update target patch actor access =>
          obtain ⟨account, hupdate, rfl⟩ := replied_ok hperform
          have hsame : secret ∈ state.newest userId := by cases account <;> exact hsecret
          rcases update_ok hupdate with
            ⟨-, rfl⟩ | ⟨actor, current, written, -, -, hwritten, -, rfl⟩
          · exact h userId secret hsame
          · obtain ⟨-, hcredentials, -⟩ := writeRequestedAccess_ok hwritten
            rw [credentials_writeAccount] at hcredentials
            exact (h userId secret hsame).of_eq (by rw [hcredentials]) rfl

theorem invariant_run {start : Watched} (hstart : start.Invariant derive registry)
    (calls : List LifetimeCall) (hkeeps : KeepsExpiry derive registry start calls) :
    (start.run derive registry calls).Invariant derive registry := by
  induction calls using List.reverseRecOn with
  | nil => exact hstart
  | append_singleton before call ih =>
      have hbefore : KeepsExpiry derive registry start before := by
        intro first other rest heq
        apply hkeeps first other (rest ++ [call])
        rw [heq, List.append_assoc, List.cons_append]
      unfold Watched.run
      rw [List.foldl_append]
      exact invariant_step (ih hbefore) (hkeeps before call [] rfl)

theorem get_of_userNamed {db : Database} {username : String} {user : UserAccount}
    (h : registry.userNamed db username = some user) : registry.get db user.id = some user := by
  unfold userNamed at h
  obtain ⟨row, hrow, rfl⟩ := Option.map_eq_some_iff.mp h
  have hsite := List.find?_some hrow
  simp only [Bool.and_eq_true, beq_iff_eq] at hsite
  have hfind := Table.mem_rows.mp (List.mem_of_find?_eq_some hrow)
  rw [show row.1 = (registry.siteId, row.1.2) from Prod.ext hsite.1 rfl] at hfind
  rw [Registry.get, hfind]
  rfl

theorem permitted_of_invariant (h : state.Invariant derive registry) :
    state.Permitted derive registry call := by
  obtain ⟨env, operation⟩ := call
  refine ⟨?_, ?_⟩
  · rintro username temporary newPassword actor account secret rfl hreply hsecret
    generalize hperform : state.perform derive registry
      ⟨env, .activateBootstrapPassword username temporary newPassword actor⟩ = outcome at hreply
    obtain ⟨reply, after⟩ := outcome
    cases hreply
    obtain ⟨result, hactivate, hreply⟩ := replied_ok hperform
    cases result with
    | none => cases hreply
    | some activated =>
        cases hreply
        rcases activateBootstrapPassword_ok hactivate with
          ⟨hnone, -⟩ | ⟨actor, user, row, eligible, checked, huser, hrow, heligible, hend⟩
        · cases hnone
        rcases hend with ⟨hnone, -⟩ | ⟨hsome, rfl, hderive, -⟩
        · cases hnone
        cases hsome
        have htracked := h account.id secret hsecret
        rcases activationEligible_cases heligible with
          ⟨hfalse, -⟩ | ⟨-, hkind, henabled, hcheck⟩
        · cases hfalse
        obtain ⟨hverifier, hsalt, -⟩ := htracked row hrow hkind
        refine ⟨?_, htracked.isLive hrow hkind hcheck, get_of_userNamed huser, henabled⟩
        rw [← hsalt, ← hverifier]
        exact hderive
  · rintro userId secret rfl hreply hsecret
    generalize hperform : state.perform derive registry ⟨env, .credentialStatus userId⟩ = outcome
      at hreply
    obtain ⟨reply, after⟩ := outcome
    cases hreply
    obtain ⟨result, hstatus, hreply⟩ := replied_ok hperform
    cases result with
    | none => cases hreply
    | some status =>
        cases hreply
        rcases credentialStatus_cases hstatus with ⟨-, hnone⟩ | ⟨read, hread, hresult⟩
        · exact absurd rfl (hnone _)
        cases read with
        | error raised => cases hresult
        | ok read =>
            cases hresult
            rcases statusOfRow_cases hread with
              ⟨-, hpending, -⟩ | ⟨row, check, hrow, -, hkind, hcheck, hend⟩
            · exact absurd rfl hpending
            rcases hend with ⟨_, _, -, hraised⟩ | ⟨eligible, rfl, hanswer⟩
            · cases hraised
            · cases eligible with
              | false => cases hanswer
              | true => exact (h userId secret hsecret).isLive hrow hkind hcheck

/-- In every run that loses no expiry, from any database and whatever the clocks
show, every answer is permitted: a secret activates its account while it is the
newest of an enabled user, at most once, within its lifetime, and never after it
was refused as expired. -/
theorem bootstrap_secret_lifetime (derive : DeriveCredential) (registry : Registry)
    (start : Process) (calls : List LifetimeCall)
    (hkeeps : KeepsExpiry derive registry ⟨start, fun _ => none⟩ calls) (call : LifetimeCall) :
    (Watched.run derive registry ⟨start, fun _ => none⟩ calls).Permitted derive registry call := by
  apply permitted_of_invariant
  apply invariant_run _ calls hkeeps
  intro userId secret hsecret
  cases hsecret

/-- Only a commit that fails can lose an expiry. -/
theorem keepsExpiry_of_fault_ne {start : Watched} {calls : List LifetimeCall}
    (h : ∀ call ∈ calls, call.env.fault ≠ .commit) : KeepsExpiry derive registry start calls := by
  rintro before call rest rfl ⟨hfault, -⟩
  exact h call (by simp) hfault

end Run

/-! ## The deputy's secret -/

/-- A call with its fault, its wall clock and its monotonic clock in seconds. -/
def deputyCall (fault : Fault) (wall tick : ℕ) (hwall : wall < 86400) (htick : toFloat tick = tick)
    (operation : Operation) : LifetimeCall :=
  ⟨callAt fault 2 (secondsInstant wall hwall) (secondsReading tick htick), operation⟩

def deputyActivation : Operation :=
  .activateBootstrapPassword "deputy" "temporary-credential" "deputy-password" "deputy"

def deputyIssue : LifetimeCall :=
  deputyCall .none 1000 0 (by decide) (by decide +kernel)
    (.createWithBootstrap deputyRequest "admin" 60 none)

theorem bootstrap_secret_lifetime_deputy :
    (Watched.run plainDerive localSite ⟨siteSetup.2, fun _ => none⟩ [deputyIssue]).Permitted
      plainDerive localSite
      (deputyCall .none 500 59 (by decide) (by decide +kernel) deputyActivation) :=
  bootstrap_secret_lifetime plainDerive localSite siteSetup.2 [deputyIssue]
    (keepsExpiry_of_fault_ne (by simp [deputyIssue, deputyCall, callAt])) _

/-- Two activations behind the minute: the first finds the secret expired and
fails to commit, the second is let in, because the wall clock was set back. -/
theorem expired_secret_activates : ¬(Watched.run plainDerive localSite ⟨siteSetup.2, fun _ => none⟩
        [deputyIssue, deputyCall .commit 1010 100 (by decide) (by decide +kernel)
          deputyActivation]).Permitted plainDerive localSite
      (deputyCall .none 1020 200 (by decide) (by decide +kernel) deputyActivation) := by
  intro h
  have hissued : ((Watched.run plainDerive localSite ⟨siteSetup.2, fun _ => none⟩
      [deputyIssue, deputyCall .commit 1010 100 (by decide) (by decide +kernel)
        deputyActivation]).newest 2).map (fun secret =>
          (secret.ttlSeconds, secret.issuedAt.seconds)) = some (60, 0) := by
    decide +kernel
  obtain ⟨secret, hsecret, hpair⟩ := Option.map_eq_some_iff.mp hissued
  obtain ⟨httl, hstart⟩ := Prod.mk.inj hpair
  obtain ⟨-, ⟨-, -, helapsed⟩, -⟩ := h.1 _ _ _ _ ⟨deputyRequest, 2⟩ secret rfl
    (by decide +kernel) hsecret
  rw [httl, hstart] at helapsed
  norm_num [deputyCall, callAt, secondsReading] at helapsed

end K5Vision.Identity
