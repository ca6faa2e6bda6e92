import K5Vision.Auth.AuthSessions
import Mathlib.Data.List.Infix

/-!
# The probe vault

`_ProbeVault` of `operator_onvif_api.py` with the two routes that work on it, `profiles` and
`connect`, and `enroll_camera_source` of `operator_product_api.py` as far as `connect` goes through
it.  A route runs from one `await` to the next in one step; what it awaits is answered by the event
that takes it on.  A task refers to a probe by its place among all probes that were made, and so
does the dictionary, for probes are compared with `is`.

The lock that enrolments wait for is left out, so that more of them can be on their way than the
program lets in.  The account and the token of a session come from `require_admin`.
-/

namespace K5Vision.Operator.Probes

open Library Identity Auth

def maxProbes : ℕ := 16

def maxProfiles : ℕ := 8

def probeTtlSeconds : ℚ := 120

abbrev Session := UserAccount × String

/-- An `HTTPException`, over the clock samples `κ` that are published. -/
structure HttpError (κ : Type) where
  status : ℕ
  detail : String
  clock : Option κ
  deriving DecidableEq

/-- A camera profile, as the connector returns it.  A size that is no `int` is `none`, and so is a
name that is no string. -/
structure Profile (κ : Type) where
  token : String
  name : Option String
  codec : String
  width : Option ℤ
  height : Option ℤ
  sourceUri : String
  clock : κ
  deriving DecidableEq

abbrev Owner := Uuid × Sha256

structure Probe (κ : Type) where
  owner : Owner
  host : String
  port : ℕ
  secure : Bool
  expires : ℚ
  profiles : Table String (Profile κ)
  connecting : Bool

/-- `_ProbeVault`, with all probes that were ever made. -/
structure Vault (κ : Type) where
  objects : List (Probe κ)
  probes : Table String ℕ

structure Installed (κ : Type) where
  sha256 : List UInt8 → Sha256
  /-- The sample that is published without a reading. -/
  unavailable : κ

namespace Installed

variable {κ : Type} (installed : Installed κ)

def digest (token : String) : Sha256 := installed.sha256 token.toUTF8.toList

def owner (session : Session) : Owner := (session.1.id, installed.digest session.2)

end Installed

def probeExpired {κ : Type} : HttpError κ := ⟨410, "camera_probe_expired", none⟩

namespace Vault

variable {κ : Type}

def create : Vault κ := ⟨[], Table.empty⟩

def prune (now : Reading) (vault : Vault κ) : Vault κ :=
  { vault with
    probes := vault.probes.keep fun row =>
      vault.objects[row.2]?.any fun probe => now.seconds < probe.expires }

/-- The clock is read twice. -/
def reserve (identifier : String) (owner : Owner) (now again : Reading) (host : String) (port : ℕ)
    (secure : Bool) (vault : Vault κ) : Except (HttpError κ) ℕ × Vault κ :=
  let pruned := vault.prune now
  if maxProbes ≤ pruned.probes.rows.length then
    (.error ⟨429, "camera_busy", none⟩, pruned)
  else
    let address := pruned.objects.length
    let expires := floatAdd again.seconds probeTtlSeconds
    let probe : Probe κ := ⟨owner, host, port, secure, expires, Table.empty, false⟩
    (.ok address, ⟨pruned.objects ++ [probe], pruned.probes.upsert identifier address⟩)

def get (identifier : String) (owner : Owner) (now : Reading) (vault : Vault κ) :
    Except (HttpError κ) ℕ × Vault κ :=
  let pruned := vault.prune now
  match pruned.probes.find? identifier with
  | none => (.error probeExpired, pruned)
  | some address =>
      if pruned.objects[address]?.any (·.owner = owner) then (.ok address, pruned)
      else (.error probeExpired, pruned)

def claimed (identifier : String) (address : ℕ) (owner : Owner) (now : Reading) (vault : Vault κ) :
    Except (HttpError κ) Unit × Vault κ :=
  match vault.get identifier owner now with
  | (.error error, pruned) => (.error error, pruned)
  | (.ok found, pruned) =>
      if found = address ∧ pruned.objects[address]?.any (·.connecting) then (.ok (), pruned)
      else (.error probeExpired, pruned)

def discard (identifier : String) (address : ℕ) (vault : Vault κ) : Vault κ :=
  if vault.probes.find? identifier = some address then
    { vault with probes := vault.probes.erase identifier }
  else vault

def clearToken (digest : Sha256) (vault : Vault κ) : Vault κ :=
  { vault with
    probes := vault.probes.keep fun row =>
      !vault.objects[row.2]?.any fun probe => probe.owner.2 = digest }

def clear (vault : Vault κ) : Vault κ := { vault with probes := Table.empty }

def setConnecting (address : ℕ) (connecting : Bool) (vault : Vault κ) : Vault κ :=
  { vault with
    objects := vault.objects.modify address fun probe => { probe with connecting := connecting } }

/-- The profiles that a probe offers from now on. -/
def addProfiles (address : ℕ) (profiles : List (String × Profile κ)) (vault : Vault κ) : Vault κ :=
  { vault with
    objects := vault.objects.modify address fun probe =>
      { probe with
        profiles := profiles.foldl (fun table row => table.upsert row.1 row.2) probe.profiles } }

end Vault

/-! ## What the connector finds -/

structure ProfileRequest where
  host : String
  port : ℕ
  secure : Bool
  username : String
  password : String
  deriving DecidableEq

/-- A profile as it is published. -/
structure PublicProfile where
  id : String
  name : String
  codec : String
  width : ℤ
  height : ℤ
  supported : Bool
  deriving DecidableEq

def occursIn (part text : String) : Bool := part.toList <:+: text.toList

def publicName (value : Option String) (fallback : String) (secrets : List String) : String :=
  match value with
  | none => fallback
  | some text =>
      if strip text = "" ∨ 128 < text.length ∨ occursIn "://" text ∨
          text.toList.any (fun character => character.toNat < 32) ∨
          secrets.any (fun secret => secret ≠ "" ∧ occursIn secret text) then
        fallback
      else strip text

/-- `_connector_failure` of a probe. -/
def connectorFailure {κ : Type} (code : String) (clock : κ) : HttpError κ :=
  let (status, detail) :=
    if code = "busy" then (429, "camera_busy")
    else if code = "auth_failed" then (422, "camera_auth_failed")
    else if code = "unreachable" then (503, "camera_unreachable")
    else if code = "unsupported" then (422, "camera_unsupported")
    else (502, "camera_invalid_response")
  ⟨status, detail, some clock⟩

def size? : Option ℤ → Option ℤ
  | none => none
  | some value => if 0 ≤ value ∧ value ≤ 16384 then some value else none

/-- The loop over the profiles, with the handles that it draws: the profiles to keep, and those to
publish unless one is refused. -/
def selectProfiles {κ : Type} (request : ProfileRequest) (handles : ℕ → String) :
    ℕ → List (Profile κ) → List (String × Profile κ) × Option (List PublicProfile)
  | _, [] => ([], some [])
  | index, profile :: rest =>
      match size? profile.width, size? profile.height with
      | some width, some height =>
          if profile.codec ∈ ["H264", "H265", "MJPEG", "UNKNOWN"] then
            let (kept, published) := selectProfiles request handles (index + 1) rest
            let name := publicName profile.name s!"Profile {index}"
              [request.username, request.password, profile.token]
            ((handles index, profile) :: kept, published.map fun profiles =>
              ⟨handles index, name, profile.codec, width, height, profile.codec = "H264"⟩ ::
                profiles)
          else ([], none)
      | _, _ => ([], none)

/-! ## The routes -/

structure ConnectRequest where
  probeId : String
  profileId : String
  name : String
  deriving DecidableEq

structure ProfileReply (κ : Type) where
  probeId : String
  expiresInSeconds : ℕ
  profiles : List PublicProfile
  clock : κ
  deriving DecidableEq

inductive Outcome (κ : Type)
  | probed (reply : ProfileReply κ)
  | connected (identifier : String)
  | raised (error : HttpError κ)
  | cancelled
  deriving DecidableEq

inductive Phase (κ : Type)
  | idle
  | probing (request : ProfileRequest) (session : Session) (identifier : String) (address : ℕ)
  /-- `profiles` has failed, and awaits `current_admin` before it says so. -/
  | failing (session : Session) (identifier : String) (address : ℕ) (error : HttpError κ)
  /-- `profiles` awaits `current_admin` before it replies. -/
  | admitting (session : Session) (identifier : String) (address : ℕ)
      (profiles : List PublicProfile) (clock : κ)
  /-- `connect` has claimed the probe; `enroll` awaits its lock and `authenticate`. -/
  | enrolling (request : ConnectRequest) (session : Session) (address : ℕ)
  /-- `enroll` is behind the store, and awaits the media worker and the view. -/
  | applying (request : ConnectRequest) (session : Session) (address : ℕ)
  | ended (outcome : Outcome κ)
  deriving DecidableEq

/-- What the connector answers.  A cancellation stands for all that is no `Exception`. -/
inductive ProbeAnswer (κ : Type)
  | selected (profiles : Option (List (Profile κ)))
  | raised (code : String) (clock : κ)
  | cancelled

inductive AuthAnswer (κ : Type)
  | current (account : UserAccount)
  | raised (error : HttpError κ)
  | cancelled

inductive ViewAnswer (κ : Type)
  | returned
  | raised (error : HttpError κ)
  | cancelled

/-- What the store did: whether the camera was written, and what was raised then. -/
structure StoreEnd (κ : Type) where
  written : Bool
  error : Option (HttpError κ)

def isAdmin (session : Session) (account : UserAccount) : Bool :=
  account.id = session.1.id ∧ account.role = .administrator

def insufficient {κ : Type} : HttpError κ :=
  ⟨403, "Insufficient camera administration permission", none⟩

/-- How `current_admin` ends. -/
def AuthAnswer.admits {κ : Type} (session : Session) : AuthAnswer κ → Except (Outcome κ) Unit
  | .current account => if isAdmin session account then .ok () else .error (.raised insufficient)
  | .raised error => .error (.raised error)
  | .cancelled => .error .cancelled

namespace Installed

variable {κ : Type} (installed : Installed κ)

/-- `profiles`, to the connector. -/
def profiles (request : ProfileRequest) (session : Session) (identifier : String)
    (now again : Reading) (vault : Vault κ) : Phase κ × Vault κ :=
  match vault.reserve identifier (installed.owner session) now again request.host request.port
      request.secure with
  | (.error error, after) => (.ended (.raised error), after)
  | (.ok address, after) => (.probing request session identifier address, after)

/-- `profiles`, behind the connector. -/
def probed (request : ProfileRequest) (session : Session) (identifier : String) (address : ℕ)
    (answer : ProbeAnswer κ) (handles : ℕ → String) (vault : Vault κ) : Phase κ × Vault κ :=
  let invalid := connectorFailure "invalid_response" installed.unavailable
  match answer with
  | .cancelled => (.ended .cancelled, vault.discard identifier address)
  | .raised code clock => (.failing session identifier address (connectorFailure code clock), vault)
  | .selected none => (.failing session identifier address invalid, vault)
  | .selected (some []) => (.failing session identifier address invalid, vault)
  | .selected (some (first :: rest)) =>
      if maxProfiles < (first :: rest).length then
        (.failing session identifier address invalid, vault)
      else
        let (kept, published) := selectProfiles request handles 1 (first :: rest)
        let after := vault.addProfiles address kept
        match published with
        | none => (.failing session identifier address invalid, after)
        | some profiles => (.admitting session identifier address profiles first.clock, after)

/-- `profiles`, behind `current_admin`. -/
def admitted (session : Session) (identifier : String) (address : ℕ)
    (profiles : List PublicProfile) (clock : κ) (answer : AuthAnswer κ) (now again : Reading)
    (vault : Vault κ) : Phase κ × Vault κ :=
  match answer.admits session with
  | .error outcome => (.ended outcome, vault.discard identifier address)
  | .ok () =>
      match vault.get identifier (installed.owner session) now with
      | (.error error, after) => (.ended (.raised error), after.discard identifier address)
      | (.ok found, after) =>
          if found = address then
            let left := (after.objects[address]?.map (·.expires)).getD 0 - again.seconds
            (.ended (.probed ⟨identifier, ⌊toFloat left⌋.toNat, profiles, clock⟩), after)
          else (.ended (.raised probeExpired), after.discard identifier address)

/-- `connect`, into `enroll`.  Whether the camera can be selected is found before anything is
awaited. -/
def connect (request : ConnectRequest) (session : Session) (now : Reading) (selectable : Bool)
    (vault : Vault κ) : Phase κ × Vault κ :=
  match vault.get request.probeId (installed.owner session) now with
  | (.error error, after) => (.ended (.raised error), after)
  | (.ok address, after) =>
      if after.objects[address]?.any (·.connecting) then
        (.ended (.raised ⟨409, "camera_busy", none⟩), after)
      else
        match after.objects[address]?.bind (·.profiles.find? request.profileId) with
        | none => (.ended (.raised probeExpired), after)
        | some profile =>
            if profile.codec ≠ "H264" then
              (.ended (.raised ⟨422, "camera_profile_unsupported", none⟩), after)
            else if selectable then
              (.enrolling request session address, after.setConnecting address true)
            else
              (.ended (.raised ⟨422, "Invalid camera selection", none⟩),
                (after.setConnecting address true).setConnecting address false)

/-- `enroll`, behind `authenticate`: the claim is checked, and the camera is stored. -/
def enrolled (request : ConnectRequest) (session : Session) (address : ℕ) (answer : AuthAnswer κ)
    (now : Reading) (store : StoreEnd κ) (vault : Vault κ) : Phase κ × Vault κ × Bool :=
  match answer.admits session with
  | .error outcome => (.ended outcome, vault.setConnecting address false, false)
  | .ok () =>
      match vault.claimed request.probeId address (installed.owner session) now with
      | (.error error, after) =>
          (.ended (.raised error), after.setConnecting address false, false)
      | (.ok (), after) =>
          match store.error with
          | some error =>
              (.ended (.raised error), after.setConnecting address false, store.written)
          | none => (.applying request session address, after, true)

end Installed

/-- `profiles`, behind a failure and `current_admin`. -/
def failed {κ : Type} (session : Session) (identifier : String) (address : ℕ) (error : HttpError κ)
    (answer : AuthAnswer κ) (vault : Vault κ) : Phase κ × Vault κ :=
  match answer.admits session with
  | .error outcome => (.ended outcome, vault.discard identifier address)
  | .ok () => (.ended (.raised error), vault.discard identifier address)

/-- `connect`, behind the store. -/
def applied {κ : Type} (request : ConnectRequest) (address : ℕ) (answer : ViewAnswer κ)
    (vault : Vault κ) : Phase κ × Vault κ :=
  match answer with
  | .returned =>
      (.ended (.connected request.probeId),
        (vault.discard request.probeId address).setConnecting address false)
  | .raised error => (.ended (.raised error), vault.setConnecting address false)
  | .cancelled => (.ended .cancelled, vault.setConnecting address false)

/-! ## All calls together -/

/-- A camera that a connect has stored. -/
structure Stored (ι : Type) where
  call : ι
  session : Session
  identifier : String
  address : ℕ
  storedAt : Reading

/-- The vault with the calls on it.  `drawn` are the identifiers that were handed to `reserve`. -/
structure System (ι κ : Type) where
  vault : Vault κ
  phase : ι → Phase κ
  stored : List (Stored ι)
  drawn : List String

def System.create (ι κ : Type) : System ι κ := ⟨Vault.create, fun _ => .idle, [], []⟩

inductive Event (ι κ : Type)
  | profiles (call : ι) (request : ProfileRequest) (session : Session) (identifier : String)
      (now again : Reading)
  | probed (call : ι) (answer : ProbeAnswer κ) (handles : ℕ → String)
  /-- `current_admin` of `profiles` answers. -/
  | admitted (call : ι) (answer : AuthAnswer κ) (now again : Reading)
  | connect (call : ι) (request : ConnectRequest) (session : Session) (now : Reading)
      (selectable : Bool)
  /-- `authenticate` of `enroll` answers. -/
  | enrolled (call : ι) (answer : AuthAnswer κ) (now : Reading) (store : StoreEnd κ)
  | applied (call : ι) (answer : ViewAnswer κ)
  | prune (now : Reading)
  | clearToken (token : String)
  | clear

namespace System

variable {ι κ : Type} [DecidableEq ι]

def go (system : System ι κ) (call : ι) (after : Phase κ × Vault κ) : System ι κ :=
  { system with vault := after.2, phase := Function.update system.phase call after.1 }

/-- A call goes on, and may have stored a camera. -/
def store (system : System ι κ) (stored : Stored ι) (after : Phase κ × Vault κ × Bool) :
    System ι κ :=
  { system.go stored.call (after.1, after.2.1) with
    stored := if after.2.2 then stored :: system.stored else system.stored }

/-- An event for a call that waits for something else changes nothing. -/
def step (installed : Installed κ) (system : System ι κ) : Event ι κ → System ι κ
  | .profiles call request session identifier now again =>
      match system.phase call with
      | .idle =>
          { system.go call (installed.profiles request session identifier now again system.vault)
            with drawn := identifier :: system.drawn }
      | _ => system
  | .probed call answer handles =>
      match system.phase call with
      | .probing request session identifier address =>
          system.go call
            (installed.probed request session identifier address answer handles system.vault)
      | _ => system
  | .admitted call answer now again =>
      match system.phase call with
      | .failing session identifier address error =>
          system.go call (Probes.failed session identifier address error answer system.vault)
      | .admitting session identifier address profiles clock =>
          system.go call (installed.admitted session identifier address profiles clock answer now
            again system.vault)
      | _ => system
  | .connect call request session now selectable =>
      match system.phase call with
      | .idle => system.go call (installed.connect request session now selectable system.vault)
      | _ => system
  | .enrolled call answer now store =>
      match system.phase call with
      | .enrolling request session address =>
          system.store ⟨call, session, request.probeId, address, now⟩
            (installed.enrolled request session address answer now store system.vault)
      | _ => system
  | .applied call answer =>
      match system.phase call with
      | .applying request _ address =>
          system.go call (Probes.applied request address answer system.vault)
      | _ => system
  | .prune now => { system with vault := system.vault.prune now }
  | .clearToken token => { system with vault := system.vault.clearToken (installed.digest token) }
  | .clear => { system with vault := system.vault.clear }

/-- The system over any calls.  A call begins once, and `secrets.token_urlsafe(24)` draws no
identifier again. -/
def machine (ι : Type) [DecidableEq ι] (installed : Installed κ) :
    Machine (System ι κ) (Event ι κ) where
  step := step installed
  admissible system
    | .profiles call _ _ identifier _ _ =>
        system.phase call = .idle ∧ identifier ∉ system.drawn
    | _ => True

end System

end K5Vision.Operator.Probes
