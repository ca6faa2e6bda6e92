import K5Vision.Auth.AccountSecurityService
import K5Vision.Library.Tickets

/-!
# Single sign-on

`OIDCService` of `operator_oidc.py`.  `start` and `callback` run on worker threads, so
each is split where it takes a lock, reads a database or calls the identity provider;
everything else can happen in between.  `complete` runs on the event loop, where
providers and links are edited and users invalidated too, and is one event.

What the identity provider answers, and whether its token verifies, is up to the
environment: `Claims` are those of a token that was accepted.
-/

namespace K5Vision.Auth

open Library Identity

structure Provider where
  enabled : Bool
  issuer : String
  clientId : String
  clientSecret : String
  groupsClaim : String
  revision : String
  deriving DecidableEq

structure Link where
  id : Uuid
  issuer : String
  subject : String
  userId : Uuid
  requiredGroup : Option String
  revision : String
  deriving DecidableEq

/-- A `_Flow`. -/
structure Flow where
  revision : String
  state : String
  nonce : String
  verifier : String
  redirectUri : String
  browserDigest : Sha256
  deadline : ℚ
  authorityEpoch : ℕ

/-- A `_Completion`. -/
structure Completion where
  account : UserAccount
  credentialVersion : Sha256
  linkId : Uuid
  linkRevision : String
  providerRevision : String
  browserDigest : Sha256
  deadline : ℚ
  authorityEpoch : ℕ

/-- The claims of a verified token.  A claim that is not a list of strings has no groups. -/
structure Claims where
  sub : String
  groups : String → Option (List String)

structure Exchange where
  flow : Flow
  browserDigest : Sha256
  takenAt : ℚ
  config : Provider

/-- A `start` or a `callback` on its way. -/
inductive OidcCall
  | starting (redirectUri : String) (browserDigest : Sha256) (authorityEpoch : ℕ)
  | configured (redirectUri : String) (browserDigest : Sha256) (authorityEpoch : ℕ)
      (config : Provider)
  | taken (flow : Flow) (browserDigest : Sha256) (code : String) (takenAt : ℚ)
  | exchanging (exchange : Exchange)
  | linked (exchange : Exchange) (link : Link)
  | snapshot (exchange : Exchange) (link : Link) (account : UserAccount)
      (credentialVersion : Sha256)
  | current (exchange : Exchange) (link : Link) (account : UserAccount)
      (credentialVersion : Sha256) (checkedAt : ℕ)

/-- A state that was accepted: the code `callback` gave for it. -/
structure IssuedCode where
  localCode : String
  exchange : Exchange
  link : Link
  completion : Completion
  /-- How many invalidations there had been when the callback checked the account. -/
  checkedAt : ℕ

/-- The service, the rows it reads, and the history of the invalidations and of the
codes, the oldest invalidation and the newest code first. -/
structure OidcState (ι : Type) where
  closed : Bool
  provider : Option Provider
  links : List Link
  stamps : Stamps Uuid
  flows : Tickets String Flow
  completions : Tickets String Completion
  calls : ι → Option OidcCall
  invalidations : List Uuid
  codes : List IssuedCode

structure OidcService where
  sha256 : List UInt8 → Sha256
  registry : Registry

def maxPending : ℕ := 256

inductive OidcEvent (ι : Type)
  | startBegin (call : ι) (redirectUri browserToken : String)
  | startConfig (call : ι) (metadata : Bool)
  | startInsert (call : ι) (state nonce verifier : String) (elapsed now : Reading)
  | callbackTake (call : ι) (state code browserToken : String) (now : Reading)
  | callbackConfig (call : ι)
  | callbackLink (call : ι) (claims : Option Claims)
  | callbackUser (call : ι) (environment : AuthorityEnvironment)
  | callbackCurrent (call : ι) (environment : AuthorityEnvironment)
  | callbackInsert (call : ι) (localCode : String) (elapsed now : Reading)
  | complete (code browserToken : String) (now : Reading) (environment : AuthorityEnvironment)
  | configure (provider : Provider)
  | link (link : Link)
  | unlink (id : Uuid)
  | invalidateUser (userId : Uuid)
  | close

namespace OidcState

variable {ι : Type}

def opened (provider : Option Provider) (links : List Link) : OidcState ι :=
  ⟨false, provider, links, .start, .empty, .empty, fun _ => none, [], []⟩

def prune (state : OidcState ι) (now : Reading) : OidcState ι :=
  { state with
    flows := state.flows.keep fun flow => now.seconds < flow.deadline
    completions := state.completions.keep fun completion => now.seconds < completion.deadline }

/-- `link`, for a row whose identifier and revision were drawn. -/
def link (state : OidcState ι) (row : Link) : OidcState ι :=
  if state.provider.isNone || 1024 ≤ state.links.length ||
      state.links.any (fun other => other.id == row.id ||
        (other.issuer == row.issuer && other.subject == row.subject)) then state
  else { state with links := state.links ++ [row] }

def invalidateUser (state : OidcState ι) (userId : Uuid) : OidcState ι :=
  { state with
    stamps := state.stamps.touch userId
    invalidations := state.invalidations ++ [userId] }

variable [DecidableEq ι]

def proceed (state : OidcState ι) (call : ι) (next : Option OidcCall) : OidcState ι :=
  { state with calls := Function.update state.calls call next }

end OidcState

namespace OidcService

variable (service : OidcService) {ι : Type}

def tokenDigest (token : String) : Sha256 := service.sha256 token.toUTF8.toList

/-- `_primary_current`: the provider and the link are those of the completion, and the
account was not invalidated. -/
def primaryCurrent (provider : Option Provider) (links : List Link) (stamps : Stamps Uuid)
    (environment : AuthorityEnvironment) (pending : Completion) : Option UserAccount :=
  match provider with
  | none => none
  | some config =>
      if !config.enabled || config.revision ≠ pending.providerRevision then none
      else
        match links.filter fun link =>
            link.id = pending.linkId && link.revision = pending.linkRevision with
        | [link] =>
            if link.userId ≠ pending.account.id then none
            else
              Auth.primaryCurrent service.sha256 service.registry stamps environment
                pending.account pending.credentialVersion pending.authorityEpoch
        | _ => none

/-- The link of the claims, if there is just one and the claims are in its group. -/
def claimedLink (links : List Link) (config : Provider) (claims : Claims) : Option Link :=
  match links.filter fun link => link.issuer = config.issuer && link.subject = claims.sub with
  | [link] =>
      match link.requiredGroup with
      | none => some link
      | some group =>
          match claims.groups config.groupsClaim with
          | none => none
          | some groups =>
              if 128 < groups.length || groups.any (fun name => 128 < name.length) ||
                  !groups.contains group then none
              else some link
  | _ => none

/-- `complete`: the account and the version of its credential. -/
def complete (state : OidcState ι) (code browserToken : String) (now : Reading)
    (environment : AuthorityEnvironment) :
    Option (UserAccount × Sha256) × OidcState ι :=
  if state.closed then (none, state)
  else
    let pruned := state.prune now
    match pruned.completions.find? code with
    | none => (none, pruned)
    | some pending =>
        let popped := { pruned with completions := pruned.completions.take code }
        if pending.browserDigest ≠ service.tokenDigest browserToken then (none, popped)
        else
          match service.primaryCurrent popped.provider popped.links popped.stamps environment
              pending with
          | none => (none, popped)
          | some current => (some (current, pending.credentialVersion), popped)

variable [DecidableEq ι]

/-- The check of the provider in `start`, and whether the redirect address and the metadata
of the provider are accepted. -/
def startConfig (state : OidcState ι) (call : ι) (metadata : Bool) : OidcState ι :=
  match state.calls call with
  | some (.starting redirectUri browserDigest authorityEpoch) =>
      match state.provider with
      | none => state.proceed call none
      | some config =>
          if !config.enabled || !metadata then state.proceed call none
          else
            state.proceed call
              (some (.configured redirectUri browserDigest authorityEpoch config))
  | _ => state

def startInsert (state : OidcState ι) (call : ι) (stateValue nonce verifier : String)
    (elapsed now : Reading) : OidcState ι :=
  match state.calls call with
  | some (.configured redirectUri browserDigest authorityEpoch config) =>
      let ended := state.proceed call none
      if ended.closed then ended
      else
        let pruned := ended.prune now
        if maxPending ≤ pruned.flows.live.length then pruned
        else
          { pruned with
            flows := pruned.flows.issue stateValue
              ⟨config.revision, stateValue, nonce, verifier, redirectUri, browserDigest,
                floatAdd elapsed.seconds 300, authorityEpoch⟩ }
  | _ => state

def callbackTake (state : OidcState ι) (call : ι) (stateValue code browserToken : String)
    (now : Reading) : OidcState ι :=
  if state.closed then state
  else
    let pruned := state.prune now
    match pruned.flows.find? stateValue with
    | none => pruned.proceed call none
    | some flow =>
        { pruned with flows := pruned.flows.take stateValue }.proceed call
          (some (.taken flow (service.tokenDigest browserToken) code now.seconds))

def callbackConfig (state : OidcState ι) (call : ι) : OidcState ι :=
  match state.calls call with
  | some (.taken flow browserDigest code takenAt) =>
      if flow.browserDigest ≠ browserDigest || code.length < 1 || 4096 < code.length then
        state.proceed call none
      else
        match state.provider with
        | none => state.proceed call none
        | some config =>
            if !config.enabled || config.revision ≠ flow.revision then state.proceed call none
            else
              state.proceed call (some (.exchanging ⟨flow, browserDigest, takenAt, config⟩))
  | _ => state

/-- What `callback` does of the claims. -/
def callbackLink (state : OidcState ι) (call : ι) (claims : Option Claims) : OidcState ι :=
  match state.calls call with
  | some (.exchanging exchange) =>
      state.proceed call
        ((claims.bind (claimedLink state.links exchange.config)).map (.linked exchange))
  | _ => state

def callbackUser (state : OidcState ι) (call : ι) (environment : AuthorityEnvironment) :
    OidcState ι :=
  match state.calls call with
  | some (.linked exchange link) =>
      state.proceed call
        ((activeSessionSnapshot service.sha256 service.registry environment link.userId).map
          fun verified => .snapshot exchange link verified.1 verified.2)
  | _ => state

/-- The check of the account against the start of the flow. -/
def callbackCurrent (state : OidcState ι) (call : ι) (environment : AuthorityEnvironment) :
    OidcState ι :=
  match state.calls call with
  | some (.snapshot exchange link account credentialVersion) =>
      state.proceed call
        ((Auth.primaryCurrent service.sha256 service.registry state.stamps environment account
            credentialVersion exchange.flow.authorityEpoch).map
          fun _ => .current exchange link account credentialVersion state.invalidations.length)
  | _ => state

def callbackInsert (state : OidcState ι) (call : ι) (localCode : String) (elapsed now : Reading) :
    OidcState ι :=
  match state.calls call with
  | some (.current exchange link account credentialVersion checkedAt) =>
      let ended := state.proceed call none
      if ended.closed then ended
      else
        let pruned := ended.prune now
        if maxPending ≤ pruned.completions.live.length then pruned
        else
          let completion : Completion :=
            ⟨account, credentialVersion, link.id, link.revision, exchange.config.revision,
              exchange.flow.browserDigest, floatAdd elapsed.seconds 60,
              exchange.flow.authorityEpoch⟩
          { pruned with
            completions := pruned.completions.issue localCode completion
            codes := ⟨localCode, exchange, link, completion, checkedAt⟩ :: pruned.codes }
  | _ => state

def step (state : OidcState ι) : OidcEvent ι → OidcState ι
  | .startBegin call redirectUri browserToken =>
      if state.closed then state
      else
        state.proceed call
          (some (.starting redirectUri (service.tokenDigest browserToken) state.stamps.revision))
  | .startConfig call metadata => startConfig state call metadata
  | .startInsert call stateValue nonce verifier elapsed now =>
      startInsert state call stateValue nonce verifier elapsed now
  | .callbackTake call stateValue code browserToken now =>
      service.callbackTake state call stateValue code browserToken now
  | .callbackConfig call => callbackConfig state call
  | .callbackLink call claims => callbackLink state call claims
  | .callbackUser call environment => service.callbackUser state call environment
  | .callbackCurrent call environment => service.callbackCurrent state call environment
  | .callbackInsert call localCode elapsed now => callbackInsert state call localCode elapsed now
  | .complete code browserToken now environment =>
      (service.complete state code browserToken now environment).2
  | .configure provider => { state with provider := some provider }
  | .link row => state.link row
  | .unlink id => { state with links := state.links.filter (·.id ≠ id) }
  | .invalidateUser userId => state.invalidateUser userId
  | .close =>
      { state with
        closed := true
        flows := state.flows.keep fun _ => false
        completions := state.completions.keep fun _ => false }

/-- The service over any events.  `secrets.token_urlsafe(32)` draws no state and no code
twice. -/
def machine : Machine (OidcState ι) (OidcEvent ι) where
  step := service.step
  admissible state
    | .startInsert _ stateValue _ _ _ _ => stateValue ∉ state.flows.issued.map Prod.fst
    | .callbackInsert _ localCode _ _ => localCode ∉ state.completions.issued.map Prod.fst
    | _ => True

end OidcService

end K5Vision.Auth
