import K5Vision.Identity.Users

/-!
# The audit middleware

`operator_audit_middleware.py`: which requests are audited, and what the middleware
does around the application.

A path is held as the list of its segments, the texts between its slashes behind the
first one.  A slash matches nothing but a slash in the rules, so a pattern is a list
of segment patterns, and a prefix that ends at a slash is a prefix of the segments.
-/

namespace K5Vision.Operator

open Identity

/-! ## Rules -/

def isHexDigit (c : Char) : Bool := c.isDigit || ('a' ≤ c && c ≤ 'f') || ('A' ≤ c && c ≤ 'F')

def isIdChar (c : Char) : Bool := isHexDigit c || c == '-'

def isIdText (s : String) : Bool := s.length == 36 && s.toList.all isIdChar

inductive SegmentPattern
  | literal (text : String)
  | oneOf (texts : List String)
  /-- `_ID`, whose match is the target. -/
  | target
  /-- `[0-9a-fA-F-]{36}` outside a group. -/
  | identifier
  | identifierMp4
  /-- `[^/]{1,32}`. -/
  | bounded
  deriving DecidableEq

def SegmentPattern.accepts : SegmentPattern → String → Bool
  | .literal text, s => s == text
  | .oneOf texts, s => texts.contains s
  | .target, s => isIdText s
  | .identifier, s => isIdText s
  | .identifierMp4, s => (s.toList.take 36).all isIdChar && s.toList.drop 36 == ['.', 'm', 'p', '4']
  | .bounded, s => 1 ≤ s.length && s.length ≤ 32

/-- `pattern.fullmatch(path)`, with the target if the pattern has one. -/
def matchSegments : List SegmentPattern → List String → Option (Option String)
  | [], [] => some none
  | pattern :: patterns, segment :: segments =>
      if pattern.accepts segment then
        (matchSegments patterns segments).map fun found =>
          if pattern = .target then some segment else found
      else none
  | _, _ => none

/-- A rule of `_RULES`; a pattern with an optional end is two. -/
structure AuditRule where
  method : String
  patterns : List (List SegmentPattern)
  action : String
  kind : String

/-- Segments behind `/api/v1/operator`. -/
def operator (segments : List SegmentPattern) : List SegmentPattern :=
  .literal "api" :: .literal "v1" :: .literal "operator" :: segments

def auth (segments : List SegmentPattern) : List SegmentPattern :=
  .literal "api" :: .literal "v1" :: .literal "auth" :: segments

def auditRules : List AuditRule :=
  [⟨"POST", [auth [.literal "login"]], "auth.login", "session"⟩,
    ⟨"POST", [auth [.literal "logout"]], "auth.logout", "session"⟩,
    ⟨"POST", [auth [.literal "bootstrap-password"]], "auth.activate", "user"⟩,
    ⟨"POST", [auth [.literal "mfa"]], "auth.mfa", "session"⟩,
    ⟨"POST", [auth [.literal "oidc", .oneOf ["start", "complete"]]], "auth.sso", "session"⟩,
    ⟨"GET", [auth [.literal "oidc", .literal "callback"]], "auth.sso", "session"⟩,
    ⟨"POST", [operator [.literal "security", .literal "mfa",
        .oneOf ["enroll", "confirm", "disable", "recovery-codes"]]],
      "security.mfa.configure", "user"⟩,
    ⟨"PUT", [operator [.literal "admin", .literal "sso", .literal "provider"]],
      "security.sso.configure", "security"⟩,
    ⟨"POST", [operator [.literal "admin", .literal "sso", .literal "provider", .literal "test"]],
      "security.sso.configure", "security"⟩,
    ⟨"POST", [operator [.literal "admin", .literal "sso", .literal "links"]],
      "security.sso.configure", "security"⟩,
    ⟨"DELETE", [operator [.literal "admin", .literal "sso", .literal "links", .target]],
      "security.sso.configure", "user"⟩,
    ⟨"POST", [operator [.literal "camera-discovery"]], "camera.discover", "camera"⟩,
    ⟨"POST", [operator [.literal "camera-profiles"]], "camera.probe", "camera"⟩,
    ⟨"POST", [operator [.literal "camera-stream-probe"]], "camera.probe", "camera"⟩,
    ⟨"POST", [operator [.literal "cameras"],
        operator [.literal "cameras", .oneOf ["connect", "stream-connect"]]],
      "camera.enroll", "camera"⟩,
    ⟨"POST", [operator [.literal "cameras", .target, .literal "reconnect"]],
      "camera.reconnect", "camera"⟩,
    ⟨"DELETE", [operator [.literal "cameras", .target]], "camera.remove", "camera"⟩,
    ⟨"PUT", [operator [.literal "cameras", .target, .literal "recording"]],
      "recording.configure", "camera"⟩,
    ⟨"PATCH", [operator [.literal "cameras", .target, .literal "analytics"]],
      "analytics.configure", "camera"⟩,
    ⟨"POST", [operator [.literal "cameras", .target, .literal "exports"]],
      "export.prepare", "camera"⟩,
    ⟨"GET", [operator [.literal "cameras", .target, .literal "exports", .identifier,
        .literal "file"]], "export.download", "camera"⟩,
    ⟨"GET", [[.literal "media", .literal "exports", .target, .identifierMp4]],
      "export.download", "camera"⟩,
    ⟨"POST", [operator [.literal "admin", .literal "users"]], "user.create", "user"⟩,
    ⟨"PATCH", [operator [.literal "admin", .literal "users", .target]],
      "user.configure", "user"⟩,
    ⟨"PUT", [operator [.literal "admin", .literal "users", .target, .literal "camera-access"]],
      "user.camera_access", "user"⟩,
    ⟨"POST", [operator [.literal "admin", .literal "users", .target,
        .literal "reset-password"]], "user.reset_password", "user"⟩,
    ⟨"GET", [operator [.literal "admin", .literal "activity", .literal "export"]],
      "audit.export", "site"⟩]

def AuditRule.match? (rule : AuditRule) (method : String) (path : List String) :
    Option (Option String) :=
  if method == rule.method then rule.patterns.findSome? fun pattern => matchSegments pattern path
  else none

/-! ## Classification -/

def hexValue (digits : List Char) : ℕ :=
  digits.foldl (fun value c => 16 * value +
    (if c.isDigit then c.toNat - '0'.toNat else c.toLower.toNat - 'a'.toNat + 10)) 0

/-- `UUID(text)` of a text of hexadecimal digits and hyphens; `none` is its
`ValueError`. -/
def uuidOfText (text : String) : Option Uuid :=
  let digits := text.toList.filter fun c => c != '-'
  if digits.length = 32 then some (BitVec.ofNat 128 (hexValue digits)) else none

structure Classification where
  action : String
  kind : String
  target : Option Uuid
  deriving DecidableEq, Repr

/-- The areas below `/api/v1/operator/admin` that are audited as a whole. -/
def auditAreas : List (String × String × String) :=
  [("storage", "storage.configure", "storage"), ("time", "time.configure", "time"),
    ("integrations", "integration.configure", "integration"),
    ("security", "security.configure", "security"), ("roles", "role.configure", "role")]

/-- The action of a request in an area. -/
def areaAction (method : String) (path : List String) (action kind : String) : String :=
  let last := path.getLast?.getD ""
  if kind == "role" && method == "DELETE" then "role.remove"
  else if kind == "integration" && last == "test" then "integration.test"
  else if kind == "time" && ["resync", "synchronize"].contains last then "time.resync"
  else action

def classifyArea (method : String) (path : List String) : Option Classification :=
  auditAreas.findSome? fun (area, action, kind) =>
    if ["api", "v1", "operator", "admin", area].isPrefixOf path then
      some ⟨areaAction method path action kind, kind, none⟩
    else none

def cameraTimePatterns : List (List SegmentPattern) :=
  [operator [.literal "cameras", .target, .literal "time"],
    operator [.literal "cameras", .target, .literal "time", .bounded]]

def classifyCameraTime (path : List String) : Option Classification :=
  match cameraTimePatterns.findSome? fun pattern => matchSegments pattern path with
  | some (some target) =>
      (uuidOfText target).map fun id =>
        ⟨if ["sync", "synchronize"].contains (path.getLast?.getD "") then "time.camera.sync"
          else "time.camera.configure", "camera", some id⟩
  | _ => none

def classifyAuth (path : List String) : Option Classification :=
  if ["api", "v1", "auth", "mfa"].isPrefixOf path && 4 < path.length then
    some ⟨"auth.mfa", "session", none⟩
  else if ["api", "v1", "auth", "sso"].isPrefixOf path && 4 < path.length then
    some ⟨"auth.sso", "session", none⟩
  else none

def classify (method : String) (path : List String) : Option Classification :=
  match auditRules.findSome? fun rule => (rule.match? method path).map (rule, ·) with
  | some (rule, none) => some ⟨rule.action, rule.kind, none⟩
  | some (rule, some target) =>
      (uuidOfText target).map fun id => ⟨rule.action, rule.kind, some id⟩
  | none =>
      if ["POST", "PUT", "PATCH", "DELETE"].contains method then
        (classifyArea method path).or ((classifyCameraTime path).or (classifyAuth path))
      else none

/-! ## The middleware -/

/-- What becomes of `store.record`: the event is durable, the store refused it, or
another exception was raised. -/
inductive RecordResult
  | appended
  | refused
  | raised
  deriving DecidableEq, Repr

/-- An event the middleware records. -/
structure AuditEntry where
  action : String
  outcome : String
  actor : Option Uuid
  targetKind : String
  targetId : Option Uuid
  requestId : Uuid
  statusCode : Option ℕ
  deriving DecidableEq, Repr

inductive MiddlewareEffect
  | record (entry : AuditEntry) (result : RecordResult)
  | runApplication
  | refuse
  deriving DecidableEq, Repr

structure Scope where
  isHttp : Bool
  method : String
  path : List String

structure MiddlewareEnvironment where
  requestId : Uuid
  attempt : RecordResult
  completion : RecordResult
  /-- The actor the application has set in the context. -/
  actor : Option Uuid
  status : Option ℕ
  interrupted : Bool

/-- The outcome a finished request is recorded with. -/
def finalOutcome (interrupted : Bool) (status : Option ℕ) : String :=
  if interrupted then "interrupted"
  else
    match status with
    | none => "failure"
    | some status =>
        if status = 401 ∨ status = 403 then "denied"
        else if status = 202 ∨ (300 ≤ status ∧ status < 400) then "started"
        else if status < 400 then "success"
        else "failure"

/-- The classification of a read that is recorded only when it fails. -/
def classifyRead (scope : Scope) : Option Classification :=
  if scope.isHttp && scope.method == "GET" then
    match scope.path with
    | "api" :: "v1" :: "operator" :: "cameras" :: target :: rest =>
        -- `$` also matches in front of a final newline
        let target :=
          if rest.isEmpty && target.endsWith "\n" then (target.dropEnd 1).toString else target
        let id := if isIdText target then uuidOfText target else none
        some ⟨"security.access", if id.isSome then "camera" else "site", id⟩
    | "api" :: "v1" :: "operator" :: _ :: _ => some ⟨"security.access", "site", none⟩
    | ["api", "v1", "auth", "me"] => some ⟨"security.access", "site", none⟩
    | _ => none
  else none

/-- `__call__` from the application on. -/
def observe (env : MiddlewareEnvironment) (attempt : Bool) (found : Classification) :
    List MiddlewareEffect :=
  .runApplication ::
    if attempt || env.status.any (400 ≤ ·) then
      [.record ⟨found.action, finalOutcome env.interrupted env.status, env.actor, found.kind,
        found.target, env.requestId, env.status⟩ env.completion]
    else []

def callMiddleware (env : MiddlewareEnvironment) (scope : Scope) : List MiddlewareEffect :=
  match if scope.isHttp then classify scope.method scope.path else none with
  | some found =>
      let started : AuditEntry :=
        ⟨found.action, "started", none, found.kind, found.target, env.requestId, none⟩
      match env.attempt with
      | .appended => .record started .appended :: observe env true found
      | .refused => [.record started .refused, .refuse]
      | .raised => [.record started .raised]
  | none =>
      match classifyRead scope with
      | some found => observe env false found
      | none => [.runApplication]

end K5Vision.Operator
