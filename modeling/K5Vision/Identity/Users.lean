import K5Vision.Library.Table
import K5Vision.Library.Rounding
import K5Vision.Media.RecordingDescriptor

/-!
# Accounts and the identity database

`domain/users.py` and the four tables that `services/user_registry.py` opens.
The tables hold what the code writes into them: the `users`, `user_credentials`
and `user_camera_access` tables are keyed by the site and the user, `user_audit`
is the list of its rows.  A text column is held as the value it encodes, a
`datetime` of the registry is an instant in UTC, and blobs of a fixed length
carry their length.

Two clocks are read.  `datetime.now(UTC)` is an `Instant`, in microseconds;
`time.monotonic()` is a binary64 number, and so are the deadlines computed from
it.
-/

namespace K5Vision.Identity

open Library
open K5Vision.Media (datetimeRange totalSeconds)

/-! ## Text -/

/-- The Unicode property `White_Space`, which strips model fields. -/
def isWhiteSpace (c : Char) : Bool :=
  let n := c.toNat
  (9 ≤ n && n ≤ 13) || n == 0x20 || n == 0x85 || n == 0xA0 || n == 0x1680 ||
    (0x2000 ≤ n && n ≤ 0x200A) || n == 0x2028 || n == 0x2029 || n == 0x202F || n == 0x205F ||
    n == 0x3000

/-- `str.isspace` of one character, which `str.strip` uses. -/
def isSpace (c : Char) : Bool := isWhiteSpace c || (0x1C ≤ c.toNat && c.toNat ≤ 0x1F)

def stripBy (space : Char → Bool) (s : String) : String :=
  String.ofList ((s.toList.dropWhile space).reverse.dropWhile space).reverse

def strip (s : String) : String := stripBy isSpace s

/-- `^[A-Za-z0-9][A-Za-z0-9._-]{least,most}$`, on the whole string. -/
def isIdentifier (least most : ℕ) (s : String) : Bool :=
  match s.toList with
  | [] => false
  | first :: rest =>
      first.isAlphanum && least ≤ rest.length && rest.length ≤ most &&
        rest.all fun c => c.isAlphanum || c == '.' || c == '_' || c == '-'

def isSiteId (s : String) : Bool := isIdentifier 0 127 s

def isActor (s : String) : Bool := isIdentifier 0 63 s

def isUsername (s : String) : Bool := isIdentifier 2 63 s

abbrev Username := { s : String // isUsername s = true }

/-- The bounds of the `display_name` field, on a stripped string. -/
def isDisplayName (s : String) : Bool :=
  stripBy isWhiteSpace s == s && 1 ≤ s.length && s.length ≤ 128

abbrev DisplayName := { s : String // isDisplayName s = true }

/-- `COLLATE NOCASE`: equality up to the case of the ASCII letters. -/
def sameNocase (a b : String) : Bool := a.toLower == b.toLower

/-! ## Identifiers and blobs -/

abbrev Uuid := BitVec 128

namespace Uuid

def hexDigits (id : Uuid) : List Char :=
  (List.range 32).map fun i => Nat.digitChar (id.toNat / 16 ^ (31 - i) % 16)

/-- Hyphens after the digits 8, 12, 16 and 20. -/
def hyphenate (digits : List Char) : List Char :=
  digits.take 8 ++ '-' :: (digits.drop 8).take 4 ++ '-' :: (digits.drop 12).take 4 ++
    '-' :: (digits.drop 16).take 4 ++ '-' :: digits.drop 20

def str (id : Uuid) : String := String.ofList (hyphenate (hexDigits id))

end Uuid

def saltBytes : ℕ := 16

def scryptDklen : ℕ := 32

/-- `secrets.token_bytes(_SALT_BYTES)`. -/
abbrev Salt := { bytes : List UInt8 // bytes.length = saltBytes }

/-- A key derived by `hashlib.scrypt`. -/
abbrev Verifier := { bytes : List UInt8 // bytes.length = scryptDklen }

def credentialScheme : String := "scrypt-v1"

/-! ## Clocks -/

/-- An aware `datetime` in UTC: microseconds from the start of year 1. -/
abbrev Instant := { micros : ℤ // 0 ≤ micros ∧ micros < datetimeRange }

/-- `instant + timedelta(seconds=…)`; `none` is its `OverflowError`. -/
def Instant.addSeconds (instant : Instant) (seconds : ℤ) : Option Instant :=
  let micros := instant.1 + seconds * 1000000
  if h : 0 ≤ micros ∧ micros < datetimeRange then some ⟨micros, h⟩ else none

def Instant.later (a b : Instant) : Instant := if a.1 < b.1 then b else a

def Instant.secondsSince (a b : Instant) : ℚ := totalSeconds (a.1 - b.1)

def toFloat (x : ℚ) : ℚ := roundToPrecision 53 x

def floatAdd (x y : ℚ) : ℚ := toFloat (x + y)

/-- A reading of `time.monotonic()`. -/
structure Reading where
  seconds : ℚ
  isFloat : toFloat seconds = seconds

theorem floatAdd_le_of_add_le {x y : ℚ} {reading : Reading} (h : x + y ≤ reading.seconds) :
    floatAdd x y ≤ reading.seconds := by
  rw [← reading.isFloat]
  exact roundToPrecision_mono (by norm_num) h

/-! ## Accounts -/

inductive UserRole
  | viewer
  | operator
  | administrator
  deriving DecidableEq, Repr

structure UserCreate where
  username : Username
  displayName : DisplayName
  role : UserRole
  enabled : Bool
  deriving DecidableEq

structure UserAccount extends UserCreate where
  id : Uuid
  deriving DecidableEq

def sampleAccount (role : UserRole) : UserAccount where
  username := ⟨"ada", by decide +kernel⟩
  displayName := ⟨"Ada", by decide +kernel⟩
  role := role
  enabled := true
  id := 0

structure UserPatch where
  displayName : Option DisplayName
  role : Option UserRole
  enabled : Option Bool
  requireChange : displayName.isSome ∨ role.isSome ∨ enabled.isSome

/-! ## Rows -/

inductive CredentialKind
  | password
  | bootstrap
  | expiredBootstrap
  deriving DecidableEq, Repr

/-- A row of `user_credentials` behind its key. -/
structure CredentialRow where
  scheme : String
  kind : CredentialKind
  salt : Salt
  verifier : Verifier
  expiresAt : Option Instant
  issuedAt : Option Instant
  lastCheckedAt : Option Instant
  deriving DecidableEq

inductive AccessMode
  | all
  | selected
  deriving DecidableEq, Repr

def AccessMode.value : AccessMode → String
  | .all => "all"
  | .selected => "selected"

/-- An admitted camera access, and a row of `user_camera_access` behind its key. -/
structure CameraAccess where
  mode : AccessMode
  cameraIds : List Uuid
  deriving DecidableEq

/-- The actions of the audit. -/
inductive AuditAction
  | created
  | passwordInitialized
  | bootstrapIssued
  | cameraAccessUpdated
  | passwordReset
  | bootstrapConsumed
  | updated
  deriving DecidableEq, Repr

/-- The fields an audit row can name. -/
inductive AuditField
  | username
  | displayName
  | role
  | enabled
  | credentialState
  | cameraAccess
  deriving DecidableEq, Repr

/-- A row of `user_audit`. -/
structure AuditRow where
  eventId : ℕ
  siteId : String
  userId : Uuid
  action : AuditAction
  actor : String
  changedFields : List AuditField
  occurredAt : Instant
  deriving DecidableEq

structure Database where
  users : Table (String × Uuid) UserCreate
  credentials : Table (String × Uuid) CredentialRow
  cameraAccess : Table (String × Uuid) CameraAccess
  audit : List AuditRow
  deriving DecidableEq

def Database.empty : Database := ⟨.empty, .empty, .empty, []⟩

end K5Vision.Identity
