import K5Vision.Auth.OidcService
import K5Vision.Auth.FactorReplay

/-!
# Authentications

From the first step of a sign-in to the session it is answered with: the login of
`user_admin_api.py`, the second factor of `operator_identity_security_api.py` and the
completion of a single sign-on of `operator_oidc_api.py`, over the sessions, the
stamps and the challenges of `AccountSecurityService` and the rows of second factors.

A request is a call that goes from phase to phase, one event for what it does between
two points where another request or thread can run.  The last checks of a login run on
a worker thread, and its answer follows on the event loop (`validate`, `status`,
`finish`); the two others check and answer at once (`finish`).
-/

namespace K5Vision.Auth

open Library Identity

structure Challenge where
  account : UserAccount
  credentialVersion : Sha256
  deadline : ℚ
  generation : String
  epoch : ℕ
  /-- The completion behind `authority_check`, for a single sign-on. -/
  authority : Option Completion
  /-- The stamp counter at the start of the authentication. -/
  began : ℕ

/-- The ways to a session. -/
inductive Entrance
  | login
  | factor
  | signOn
  deriving DecidableEq

structure Proof where
  entrance : Entrance
  account : UserAccount
  credentialVersion : Sha256
  epoch : ℕ
  authority : Option Completion
  /-- The stamp counter at the start of the authentication. -/
  began : ℕ
  factor : Option Acceptance

inductive AuthCall
  | begun (startedEpoch : ℕ)
  | verified (startedEpoch : ℕ) (account : UserAccount) (credentialVersion : Sha256)
  | proved (proof : Proof)
  | issued (proof : Proof) (token : String)
  | resolved (proof : Proof) (token : String) (current : Option UserAccount)
  | validated (proof : Proof) (token : String) (current : Option UserAccount) (checkedAt : ℕ)
  | checked (proof : Proof) (token : String) (current : Option UserAccount) (checkedAt : ℕ)
      (generation : Option String)
  | rejected (token : String)

/-- An answer with a session. -/
structure Grant where
  proof : Proof
  token : String
  /-- How many invalidations there had been at the last check. -/
  checkedAt : ℕ
  generation : Option String

/-- The parts of the product that take part, with the history of the invalidations, the
oldest first, and of the answers, the newest first. -/
structure AuthState (ι : Type) where
  sessions : SessionStore ι
  stamps : Stamps Uuid
  challenges : List (Sha256 × Challenge)
  mfa : MfaRows
  calls : ι → Option AuthCall
  invalidations : List Uuid
  grants : List Grant

/-- What a check of an account meets: the registry, the rows of the provider and of the
links, and whether the rows of second factors can be read. -/
structure CheckEnvironment extends AuthorityEnvironment where
  provider : Option Provider
  links : List Link
  statusReadable : Bool

structure AuthService where
  sha256 : List UInt8 → Sha256
  registry : Registry
  ttlSeconds : ℤ
  store : AccountSecurityStore

inductive AuthEvent (ι : Type)
  /-- `primary_started`, on a worker thread. -/
  | begin (call : ι)
  /-- `verify_password_snapshot`, on a worker thread, and what it returns. -/
  | verify (call : ι) (verified : Option (UserAccount × Sha256))
  /-- `password_authenticated`, on a worker thread. -/
  | primary (call : ι) (token : String) (elapsed now : Reading) (environment : CheckEnvironment)
  /-- `oidc.complete`, with the completion it takes, and `password_authenticated`. -/
  | signOn (call : ι) (completion : Completion) (token : String) (elapsed now : Reading)
      (environment : CheckEnvironment)
  /-- `complete_challenge`; whether the budget of attempts allows it is given. -/
  | factor (call : ι) (token code : String) (now : Reading) (budget : Bool)
      (before : CheckEnvironment) (fault : StoreFault) (counter : ℤ) (behind : CheckEnvironment)
  | issue (call : ι) (token : String) (now : Reading) (expiresAt : Instant)
  | resolveEnter (call : ι) (now : Reading)
  | resolveRead (call : ι) (environment : AuthorityEnvironment)
  | resolveLeave (call : ι) (now : Reading)
  /-- `validate_primary_proof` of a login, on a worker thread. -/
  | validate (call : ι) (environment : CheckEnvironment)
  /-- The read of the factors behind it. -/
  | status (call : ι) (readable : Bool)
  /-- The end of a request on the event loop, with the last checks unless it is a login. -/
  | finish (call : ι) (environment : CheckEnvironment)
  | cancel (call : ι)
  /-- A step of another request's `resolve`. -/
  | session (event : SessionEvent ι AuthorityEnvironment)
  | revoke (token : String)
  | revokeUser (userId : Uuid)
  /-- A change of the second factors by another request. -/
  | mfa (call : FactorCall)

namespace AuthState

variable {ι : Type}

/-- The product that has just started, over the second factors it finds. -/
def started (mfa : MfaRows) : AuthState ι :=
  ⟨.empty, .start, [], mfa, fun _ => none, [], []⟩

def invalidateUser (state : AuthState ι) (userId : Uuid) : AuthState ι :=
  { state with
    stamps := state.stamps.touch userId
    challenges := state.challenges.filter fun entry => entry.2.account.id ≠ userId
    invalidations := state.invalidations ++ [userId] }

/-- `revoke_user` and its listener. -/
def revokeUser (state : AuthState ι) (userId : Uuid) : AuthState ι :=
  { state with sessions := SessionManager.revokeUser state.sessions userId }.invalidateUser userId

variable [DecidableEq ι]

def proceed (state : AuthState ι) (call : ι) (next : Option AuthCall) : AuthState ι :=
  { state with calls := Function.update state.calls call next }

end AuthState

namespace AuthService

variable (service : AuthService) {ι : Type}

def manager : SessionManager AuthorityEnvironment :=
  productSessions service.sha256 service.registry service.ttlSeconds

/-- `_current`: the account, unless the user was invalidated, the authority behind a
single sign-on has changed, or the registry does not vouch for it. -/
def current (stamps : Stamps Uuid) (environment : CheckEnvironment) (account : UserAccount)
    (credentialVersion : Sha256) (epoch : ℕ) (authority : Option Completion) :
    Option UserAccount :=
  if epoch ≠ stamps.last account.id then none
  else if authority.any fun completion =>
      (OidcService.primaryCurrent ⟨service.sha256, service.registry⟩ environment.provider
        environment.links stamps environment.toAuthorityEnvironment completion).isNone then none
  else
    currentAccount service.sha256 service.registry environment.toAuthorityEnvironment account
      credentialVersion

/-- `revoke` and its listener. -/
def revoke (state : AuthState ι) (token : String) : AuthState ι :=
  if !tokenIsValid token then state
  else
    match state.sessions.sessions (service.manager.digest token) with
    | none => state
    | some record =>
        { state with
          sessions := SessionManager.drop state.sessions (service.manager.digest token)
            record.account.id }.invalidateUser record.account.id

variable [DecidableEq ι]

/-- `password_authenticated`: the call has its proof, or the challenge is out, or it is
refused. -/
def passwordAuthenticated (state : AuthState ι) (call : ι) (entrance : Entrance)
    (account : UserAccount) (credentialVersion : Sha256) (authority : Option Completion)
    (startedEpoch : Option ℕ) (began : ℕ) (token : String) (elapsed now : Reading)
    (environment : CheckEnvironment) : AuthState ι :=
  let ended := state.proceed call none
  let epoch := state.stamps.last account.id
  if startedEpoch.any fun startedEpoch =>
      (primaryCurrent service.sha256 service.registry state.stamps
        environment.toAuthorityEnvironment account credentialVersion startedEpoch).isNone then ended
  else if (service.current state.stamps environment account credentialVersion epoch
      authority).isNone then ended
  else if !environment.statusReadable then ended
  else
    match state.mfa account.id with
    | none =>
        state.proceed call
          (some (.proved ⟨entrance, account, credentialVersion, epoch, authority, began, none⟩))
    | some row =>
        let kept := state.challenges.filter fun entry =>
          now.seconds < entry.2.deadline && entry.2.account.id ≠ account.id
        if capacity ≤ kept.length then { ended with challenges := kept }
        else
          { ended with
            challenges := (service.manager.digest token,
              ⟨account, credentialVersion, floatAdd elapsed.seconds lifetime, row.generation,
                epoch, authority, began⟩) :: kept }

def completeChallenge (state : AuthState ι) (call : ι) (token code : String) (now : Reading)
    (budget : Bool) (before : CheckEnvironment) (fault : StoreFault) (counter : ℤ)
    (behind : CheckEnvironment) : AuthState ι :=
  let pruned := { state.proceed call none with
    challenges := state.challenges.filter fun entry => now.seconds < entry.2.deadline }
  let key := service.manager.digest token
  match pruned.challenges.find? (·.1 = key) with
  | none => pruned
  | some (_, pending) =>
      let stillCurrent environment := (service.current pruned.stamps environment pending.account
        pending.credentialVersion pending.epoch pending.authority).isSome
      if !budget || !stillCurrent before then pruned
      else
        let answer := service.store.consume fault counter pruned.mfa pending.account.id code
          (some pending.generation)
        let consumed := { pruned with mfa := answer.2 }
        if answer.1 ≠ some true then consumed
        else
          let popped := { consumed with
            challenges := consumed.challenges.filter (·.1 ≠ key) }
          if !stillCurrent behind then popped
          else
            popped.proceed call (some (.proved
              ⟨.factor, pending.account, pending.credentialVersion, pending.epoch,
                pending.authority, pending.began,
                service.store.consumed fault counter pruned.mfa pending.account.id code
                  (some pending.generation)⟩))

def validate (state : AuthState ι) (call : ι) (environment : CheckEnvironment) : AuthState ι :=
  match state.calls call with
  | some (.resolved proof token current) =>
      if proof.entrance ≠ .login then state
      else if (service.current state.stamps environment proof.account proof.credentialVersion
          proof.epoch none).isNone then state.proceed call (some (.rejected token))
      else
        state.proceed call (some (.validated proof token current state.invalidations.length))
  | _ => state

def status (state : AuthState ι) (call : ι) (readable : Bool) : AuthState ι :=
  match state.calls call with
  | some (.validated proof token current checkedAt) =>
      state.proceed call (some
        (if readable then
          .checked proof token current checkedAt
            ((state.mfa proof.account.id).map (·.generation))
        else .rejected token))
  | _ => state

def finish (state : AuthState ι) (call : ι) (environment : CheckEnvironment) : AuthState ι :=
  let ended := state.proceed call none
  match state.calls call with
  | some (.rejected token) => service.revoke ended token
  | some (.checked proof token current checkedAt generation) =>
      -- a second factor was enabled while the session was issued
      if generation.isSome then service.revoke ended token
      else if current.isNone then ended
      else { ended with grants := ⟨proof, token, checkedAt, generation⟩ :: ended.grants }
  | some (.resolved proof token current) =>
      let generation := (state.mfa proof.account.id).map (·.generation)
      let factorCurrent := generation == proof.factor.map (·.generation)
      if proof.entrance = .login then state
      else if (service.current state.stamps environment proof.account proof.credentialVersion
          proof.epoch proof.authority).isNone || !environment.statusReadable || !factorCurrent ||
          current.isNone then service.revoke ended token
      else
        { ended with
          grants := ⟨proof, token, state.invalidations.length, generation⟩ :: ended.grants }
  | _ => state

def step (state : AuthState ι) : AuthEvent ι → AuthState ι
  | .begin call => state.proceed call (some (.begun state.stamps.revision))
  | .verify call verified =>
      match state.calls call with
      | some (.begun startedEpoch) =>
          state.proceed call (verified.map fun found => .verified startedEpoch found.1 found.2)
      | _ => state
  | .primary call token elapsed now environment =>
      match state.calls call with
      | some (.verified startedEpoch account credentialVersion) =>
          service.passwordAuthenticated state call .login account credentialVersion none
            (some startedEpoch) startedEpoch token elapsed now environment
      | _ => state
  | .signOn call completion token elapsed now environment =>
      match OidcService.primaryCurrent ⟨service.sha256, service.registry⟩ environment.provider
          environment.links state.stamps environment.toAuthorityEnvironment completion with
      | none => state.proceed call none
      | some account =>
          service.passwordAuthenticated state call .signOn account completion.credentialVersion
            (some completion) none completion.authorityEpoch token elapsed now environment
  | .factor call token code now budget before fault counter behind =>
      service.completeChallenge state call token code now budget before fault counter behind
  | .issue call token now expiresAt =>
      match state.calls call with
      | some (.proved proof) =>
          { state with
            sessions := service.manager.issue state.sessions proof.account
              (some proof.credentialVersion) token now expiresAt }.proceed call
                (some (.issued proof token))
      | _ => state
  | .resolveEnter call now =>
      match state.calls call with
      | some (.issued proof token) =>
          let entered := service.manager.enter state.sessions call token now
          let next := { state with sessions := entered.1 }
          match entered.2 with
          | none => next
          | some current => next.proceed call (some (.resolved proof token current))
      | _ => state
  | .resolveRead call environment =>
      { state with sessions := service.manager.read state.sessions call environment }
  | .resolveLeave call now =>
      match state.calls call with
      | some (.issued proof token) =>
          let left := SessionManager.leave state.sessions call now
          let next := { state with sessions := left.1 }
          match left.2 with
          | none => next
          | some current => next.proceed call (some (.resolved proof token current))
      | _ => state
  | .validate call environment => service.validate state call environment
  | .status call readable => status state call readable
  | .finish call environment => service.finish state call environment
  | .cancel call => state.proceed call none
  | .session event =>
      match event with
      | .issue .. | .revoke .. | .revokeUser .. => state
      | event => { state with sessions := service.manager.step state.sessions event }
  | .revoke token => service.revoke state token
  | .revokeUser userId => state.revokeUser userId
  | .mfa call => { state with mfa := service.store.apply state.mfa call }

/-- The authentications over any events.  `secrets.token_urlsafe(32)` draws no session
token whose digest has been used. -/
def machine : Machine (AuthState ι) (AuthEvent ι) where
  step := service.step
  admissible state
    | .issue _ token _ _ => service.manager.digest token ∉ state.sessions.made.map Prod.fst
    | _ => True

end AuthService

end K5Vision.Auth
