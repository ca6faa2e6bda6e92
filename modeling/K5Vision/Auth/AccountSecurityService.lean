import K5Vision.Auth.AccountSecurityStore
import K5Vision.Auth.SessionSafety
import K5Vision.Library.Stamps

/-!
# Invalidation of pending authentications

What `AccountSecurityService` of `operator_identity_security.py` keeps in memory, and
how it decides that an authentication is still current: the user was not invalidated,
and the registry still vouches for the account and its credential.

`_revision` and `_epochs` are the stamps of the users; `primary_started` hands out
the counter.
-/

namespace K5Vision.Auth

open Library Identity

def lifetime : ℤ := 300

def capacity : ℕ := 1024

/-- `resolve_session` of the registry, `none` also when the registry cannot be read. -/
def currentAccount (sha256 : List UInt8 → Sha256) (registry : Registry)
    (environment : AuthorityEnvironment) (account : UserAccount) (credentialVersion : Sha256) :
    Option UserAccount :=
  if environment.readable then
    resolveSession sha256 registry environment.db account (some credentialVersion)
  else none

def activeSessionSnapshot (sha256 : List UInt8 → Sha256) (registry : Registry)
    (environment : AuthorityEnvironment) (userId : Uuid) : Option (UserAccount × Sha256) :=
  if environment.readable then
    match registry.get environment.db userId,
        environment.db.credentials.find? (registry.siteId, userId) with
    | some current, some row =>
        if !current.enabled || row.scheme ≠ credentialScheme || row.kind ≠ .password ||
            row.expiresAt.isSome then none
        else some (current, sha256 (row.salt.1 ++ row.verifier.1))
    | _, _ => none
  else none

/-- `primary_current`: the account, unless the user was invalidated behind the start of
the authentication; `none` stands for the exceptions. -/
def primaryCurrent (sha256 : List UInt8 → Sha256) (registry : Registry) (stamps : Stamps Uuid)
    (environment : AuthorityEnvironment) (account : UserAccount) (credentialVersion : Sha256)
    (startedEpoch : ℕ) : Option UserAccount :=
  if startedEpoch < stamps.last account.id then none
  else currentAccount sha256 registry environment account credentialVersion

variable {sha256 : List UInt8 → Sha256} {registry : Registry} {environment : AuthorityEnvironment}
  {account current : UserAccount} {credentialVersion : Sha256}

theorem currentAccount_eq_some
    (h : currentAccount sha256 registry environment account credentialVersion = some current) :
    registry.get environment.db account.id = some current ∧ current.enabled = true := by
  unfold currentAccount at h
  by_cases hreadable : environment.readable
  · rw [if_pos hreadable] at h
    obtain ⟨hget, henabled, -⟩ := resolveSession_eq_some h
    exact ⟨hget, henabled⟩
  · rw [if_neg hreadable] at h
    cases h

theorem primaryCurrent_eq_some {stamps : Stamps Uuid} {startedEpoch : ℕ}
    (h : primaryCurrent sha256 registry stamps environment account credentialVersion startedEpoch =
      some current) :
    stamps.last account.id ≤ startedEpoch ∧
      currentAccount sha256 registry environment account credentialVersion = some current := by
  unfold primaryCurrent at h
  by_cases hlast : startedEpoch < stamps.last account.id
  · rw [if_pos hlast] at h
    cases h
  · rw [if_neg hlast] at h
    exact ⟨Nat.le_of_not_lt hlast, h⟩

end K5Vision.Auth
