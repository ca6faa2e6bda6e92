import K5Vision.Auth.AuthSessions
import K5Vision.Library.BigEndian

/-!
# The store of second factors

`AccountSecurityStore` of `operator_identity_security.py`: for each user with a second
factor one row, with the generation of the enrolment, the protected secret, the last
counter that was used and the digests of the recovery codes that were not.

The clock enters a call as the counter of its reading, `int(utc() // 30)`, which can
be any integer and need not grow from call to call.
-/

namespace K5Vision.Auth

open Library Identity

/-- A row of `mfa`, behind its user. -/
structure MfaRow where
  generation : String
  secret : List UInt8
  lastCounter : ℤ
  recovery : List Sha256
  deriving DecidableEq

abbrev MfaRows := Uuid → Option MfaRow

/-- The libraries the store calls: the hash functions and the protection of secrets. -/
structure AccountSecurityStore where
  sha256 : List UInt8 → Sha256
  hmacSha1 : List UInt8 → List UInt8 → { bytes : List UInt8 // bytes.length = 20 }
  protect : List UInt8 → String → Option (List UInt8)
  unprotect : List UInt8 → String → Option (List UInt8)

inductive StoreFault
  | none
  | before
  | after
  deriving DecidableEq, Repr

def sixDigits (n : ℕ) : String :=
  String.ofList ((List.range 6).map fun i => Nat.digitChar (n / 10 ^ (5 - i) % 10))

/-- `re.fullmatch("[0-9]{6}", code)`. -/
def isSixDigits (code : String) : Bool := code.length == 6 && code.toList.all Char.isDigit

def counterWindow (counter : ℤ) : List ℤ :=
  (List.range (counter + 2 - max 0 (counter - 1)).toNat).map fun i : ℕ => max 0 (counter - 1) + i

inductive Factor
  | totp (counter : ℤ)
  | recovery (digest : Sha256)
  deriving DecidableEq

namespace AccountSecurityStore

variable (store : AccountSecurityStore)

def totp (secret : List UInt8) (counter : ℤ) : String :=
  let digest := (store.hmacSha1 secret (toBigEndian 8 counter.toNat)).1
  let offset := (digest.getLast?.getD 0).toNat % 16
  sixDigits (ofBigEndian ((digest.drop offset).take 4) % 2 ^ 31 % 1000000)

def normalizeRecovery (value : String) : List Char :=
  (value.toList.filter fun c => c != '-' && c != ' ').map Char.toLower

def recoveryDigest (value : String) : Option Sha256 :=
  let normalized := normalizeRecovery value
  if normalized.length == 20 && normalized.all fun c => c.isDigit || ('a' ≤ c && c ≤ 'f') then
    some (store.sha256 (normalized.map fun c => UInt8.ofNat c.toNat))
  else none

/-- The digests `_recovery_codes` keeps of the codes it draws. -/
def recoveryDigests (codes : List String) : List Sha256 :=
  codes.map fun code => store.sha256 (code.toList.map fun c => UInt8.ofNat c.toNat)

def shownRecovery (code : String) : String :=
  String.intercalate "-"
    ((List.range 5).map fun i => String.ofList ((code.toList.drop (4 * i)).take 4))

/-- The environment of a call that draws codes. -/
structure DrawEnvironment where
  fault : StoreFault
  generation : String
  codes : List String

/-- What a call leaves, given what it leaves when nothing fails. -/
def committed (fault : StoreFault) (rows written : MfaRows) : MfaRows :=
  if fault = .before then rows else written

/-- `enable`: the codes it returns, or `none` if it raises, and the rows. -/
def enable (env : DrawEnvironment) (rows : MfaRows) (userId : Uuid) (secret : List UInt8)
    (confirmedCounter : ℤ) : Option (List String) × MfaRows :=
  if secret.length ≠ 20 ∨ confirmedCounter < 0 ∨ 2 ^ 63 ≤ confirmedCounter then (none, rows)
  else
    match store.protect secret userId.str with
    | none => (none, rows)
    | some «protected» =>
        if (rows userId).isSome then (none, rows)
        else
          let row : MfaRow :=
            ⟨env.generation, «protected», confirmedCounter, store.recoveryDigests env.codes⟩
          (if env.fault = .none then some (env.codes.map shownRecovery) else none,
            committed env.fault rows (Function.update rows userId (some row)))

/-- What a call of `consume` makes of a row. -/
inductive Judgement
  | raised
  | refused
  | accepted (factor : Factor) (row : MfaRow)

/-- The body of `verify` on the row it has read. -/
def judge (userId : Uuid) (row : MfaRow) (code : String) (counter : ℤ) : Judgement :=
  match store.recoveryDigest code with
  | some digest =>
      if digest ∈ row.recovery then
        .accepted (.recovery digest) { row with recovery := row.recovery.erase digest }
      else .refused
  | none =>
      if !isSixDigits code then .refused
      else
        match store.unprotect row.secret userId.str with
        | none => .raised
        | some secret =>
            if secret.length ≠ 20 then .raised
            else
              match (counterWindow counter).find? fun value =>
                  row.lastCounter < value && store.totp secret value == code with
              | none => .refused
              | some value =>
                  -- the column holds 63 bits
                  if 2 ^ 63 ≤ value then .raised
                  else .accepted (.totp value) { row with lastCounter := value }

/-- What `consume` returns; `none` when it raises. -/
def consume (fault : StoreFault) (counter : ℤ) (rows : MfaRows) (userId : Uuid) (code : String)
    (generation : Option String) : Option Bool × MfaRows :=
  if code.length < 1 ∨ 64 < code.length then (some false, rows)
  else
    match rows userId with
    | none => (if fault = .none then some false else none, rows)
    | some row =>
        if generation.any fun generation => generation != row.generation then
          (if fault = .none then some false else none, rows)
        else
          match store.judge userId row code counter with
          | .raised => (none, rows)
          | .refused => (if fault = .none then some false else none, rows)
          | .accepted _ row =>
              (if fault = .none then some true else none,
                committed fault rows (Function.update rows userId (some row)))

def disable (fault : StoreFault) (rows : MfaRows) (userId : Uuid) : Option Unit × MfaRows :=
  (if fault = .none then some () else none, committed fault rows (Function.update rows userId none))

def replaceRecovery (env : DrawEnvironment) (rows : MfaRows) (userId : Uuid) :
    Option (List String) × MfaRows :=
  match rows userId with
  | none => (none, rows)
  | some row =>
      (if env.fault = .none then some (env.codes.map shownRecovery) else none,
        committed env.fault rows (Function.update rows userId
          (some { row with recovery := store.recoveryDigests env.codes })))

end AccountSecurityStore

end K5Vision.Auth
