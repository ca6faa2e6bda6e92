import K5Vision.Identity.UserRegistry
import K5Vision.Library.Machine

/-!
# Human sessions

`auth_sessions.py`: one opaque session per user, held in two dictionaries under one
lock.  `resolve` takes the lock twice, and between the two it reads the authority of
the account from the registry; everything else can happen in between.  So a
resolution is three events here, and the store is a machine over the events of any
number of requests.
-/

namespace K5Vision.Auth

open Library Identity
open Function (update)

abbrev Sha256 := { bytes : List UInt8 // bytes.length = 32 }

def paddedHash (bytes : List UInt8) : Sha256 :=
  ⟨(bytes ++ List.replicate 32 0).take 32, by simp⟩

/-- A `_SessionRecord`.  Records are compared with `is`, so each has an identity. -/
structure SessionRecord where
  account : UserAccount
  expiresAt : Instant
  deadline : ℚ
  credentialVersion : Option Sha256
  identity : ℕ
  deriving DecidableEq

/-- A `resolve` between its locked phases. -/
structure Resolution where
  digest : Sha256
  record : SessionRecord
  /-- What the authority read has returned, once it has. -/
  authority : Option (Option UserAccount)

/-- The state of `UserSessionManager`, with the resolutions on their way, and the
records it has made. -/
structure SessionStore (ι : Type) where
  sessions : Sha256 → Option SessionRecord
  userTokens : Uuid → Option Sha256
  resolutions : ι → Option Resolution
  made : List (Sha256 × SessionRecord)

/-- `UserSessionManager`, over the environments `ρ` an authority read can meet. -/
structure SessionManager (ρ : Type) where
  ttlSeconds : ℤ
  resolveAccount : Option (ρ → UserAccount → Option Sha256 → Option UserAccount)
  sha256 : List UInt8 → Sha256

inductive SessionEvent (ι ρ : Type)
  | issue (account : UserAccount) (credentialVersion : Option Sha256) (token : String)
      (now : Reading) (expiresAt : Instant)
  /-- The first locked phase of `resolve`. -/
  | enter (call : ι) (token : String) (now : Reading)
  | read (call : ι) (environment : ρ)
  /-- The second locked phase of `resolve`. -/
  | leave (call : ι) (now : Reading)
  | cancel (call : ι)
  | revoke (token : String)
  | revokeUser (userId : Uuid)

def tokenIsValid (token : String) : Bool :=
  32 ≤ token.length && token.length ≤ 128 &&
    token.toList.all fun c => c.isAlphanum || c == '_' || c == '-'

namespace SessionManager

variable {ι ρ : Type} [DecidableEq ι] (manager : SessionManager ρ)

def digest (token : String) : Sha256 :=
  manager.sha256 (token.toList.map fun c => UInt8.ofNat c.toNat)

/-- `self._sessions.pop(digest, None)`, with the entry of its user if it is that of the
digest. -/
def drop (store : SessionStore ι) (digest : Sha256) (userId : Uuid) : SessionStore ι :=
  { store with
    sessions := update store.sessions digest none
    userTokens :=
      if store.userTokens userId = some digest then update store.userTokens userId none
      else store.userTokens }

def issue (store : SessionStore ι) (account : UserAccount) (credentialVersion : Option Sha256)
    (token : String) (now : Reading) (expiresAt : Instant) : SessionStore ι :=
  let digest := manager.digest token
  let record : SessionRecord :=
    ⟨account, expiresAt, floatAdd now.seconds manager.ttlSeconds, credentialVersion,
      store.made.length⟩
  let sessions := match store.userTokens account.id with
    | none => store.sessions
    | some previous => update store.sessions previous none
  { store with
    sessions := update sessions digest (some record)
    userTokens := update store.userTokens account.id (some digest)
    made := store.made ++ [(digest, record)] }

/-- The first locked phase of `resolve`, and what `resolve` returns if it ends there. -/
def enter (store : SessionStore ι) (call : ι) (token : String) (now : Reading) :
    SessionStore ι × Option (Option UserAccount) :=
  if !tokenIsValid token then (store, some none)
  else
    let digest := manager.digest token
    match store.sessions digest with
    | none => (store, some none)
    | some record =>
        if record.deadline ≤ now.seconds then (drop store digest record.account.id, some none)
        else if manager.resolveAccount.isNone then (store, some (some record.account))
        else
          ({ store with
              resolutions := update store.resolutions call
                (some ⟨digest, record, none⟩) }, none)

def read (store : SessionStore ι) (call : ι) (environment : ρ) : SessionStore ι :=
  match store.resolutions call, manager.resolveAccount with
  | some resolution, some resolveAccount =>
      { store with
        resolutions := update store.resolutions call (some { resolution with
          authority := some (resolveAccount environment resolution.record.account
            resolution.record.credentialVersion) }) }
  | _, _ => store

/-- The second locked phase of `resolve`, behind the read, and what it returns. -/
def leave (store : SessionStore ι) (call : ι) (now : Reading) :
    SessionStore ι × Option (Option UserAccount) :=
  match store.resolutions call with
  | some ⟨digest, record, some current⟩ =>
      let done := { store with resolutions := update store.resolutions call none }
      if (store.sessions digest).map (·.identity) ≠ some record.identity then (done, some none)
      else if record.deadline ≤ now.seconds || current.isNone then
        (drop done digest record.account.id, some none)
      else (done, some current)
  | _ => (store, none)

def revoke (store : SessionStore ι) (token : String) : SessionStore ι × Bool :=
  if !tokenIsValid token then (store, false)
  else
    match store.sessions (manager.digest token) with
    | none => (store, false)
    | some record => (drop store (manager.digest token) record.account.id, true)

def revokeUser (store : SessionStore ι) (userId : Uuid) : SessionStore ι :=
  { store with
    sessions := match store.userTokens userId with
      | none => store.sessions
      | some digest => update store.sessions digest none
    userTokens := update store.userTokens userId none }

def step (store : SessionStore ι) : SessionEvent ι ρ → SessionStore ι
  | .issue account credentialVersion token now expiresAt =>
      manager.issue store account credentialVersion token now expiresAt
  | .enter call token now => (manager.enter store call token now).1
  | .read call environment => manager.read store call environment
  | .leave call now => (leave store call now).1
  | .cancel call => { store with resolutions := update store.resolutions call none }
  | .revoke token => (manager.revoke store token).1
  | .revokeUser userId => revokeUser store userId

/-- The digest and the account that an event resolves a token to. -/
def resolved (store : SessionStore ι) : SessionEvent ι ρ → Option (Sha256 × UserAccount)
  | .enter call token now =>
      ((manager.enter store call token now).2.bind fun account => account).map
        fun account => (manager.digest token, account)
  | .leave call now =>
      (store.resolutions call).bind fun resolution =>
        ((leave store call now).2.bind fun account => account).map
          fun account => (resolution.digest, account)
  | _ => none

/-- The store over any requests.  `secrets.token_urlsafe(32)` draws no token whose
digest has been used. -/
def machine : Machine (SessionStore ι) (SessionEvent ι ρ) where
  step := manager.step
  admissible store
    | .issue _ _ token _ _ => manager.digest token ∉ store.made.map Prod.fst
    | _ => True

end SessionManager

def SessionStore.empty {ι : Type} : SessionStore ι :=
  ⟨fun _ => none, fun _ => none, fun _ => none, []⟩

/-! ## The product's manager -/

def resolveSession (sha256 : List UInt8 → Sha256) (registry : Registry) (db : Database)
    (account : UserAccount) (credentialVersion : Option Sha256) : Option UserAccount :=
  match credentialVersion with
  | none => none
  | some version =>
      match registry.get db account.id, db.credentials.find? (registry.siteId, account.id) with
      | some current, some row =>
          if !current.enabled || row.scheme ≠ credentialScheme || row.kind ≠ .password ||
              row.expiresAt.isSome then none
          else if current.role ≠ account.role then none
          else if sha256 (row.salt.1 ++ row.verifier.1) = version then some current
          else none
      | _, _ => none

/-- What an authority read of the product meets: the database, and whether the registry
can be read. -/
structure AuthorityEnvironment where
  db : Database
  readable : Bool

/-- `session_manager` of `user_admin_api.py`, with `current_account`. -/
def productSessions (sha256 : List UInt8 → Sha256) (registry : Registry) (ttlSeconds : ℤ) :
    SessionManager AuthorityEnvironment where
  ttlSeconds := ttlSeconds
  resolveAccount := some fun environment account credentialVersion =>
    if environment.readable then
      resolveSession sha256 registry environment.db account credentialVersion
    else none
  sha256 := sha256

end K5Vision.Auth
