import K5Vision.Identity.UuidText
import K5Vision.Library.DurableSteps
import K5Vision.Operator.AuditStore
import K5Vision.Operator.PersonEvents
import K5Vision.Operator.RolePolicy
import Mathlib.Logic.Function.Basic

/-!
# The anchors of the component state

`operator_component_state.py`: the database of the accounts names the components whose own data
files are required from then on, and the constructors of the role policy, of the audit store and of
the event store consult it before they make or open their files.

A constructor is a sequence of durable steps on two files, and the process can be gone before each
of them.  A transaction of a database is one step, and so is the replacement of a file.

Left out are the checks of file identities and permissions, which nothing but another program on
the same files can fail.
-/

namespace K5Vision.Operator.ComponentState

open Library Handler Identity

/-! ## The table of anchors -/

def components : List String :=
  ["roles", "account_security", "audit", "storage", "integrations", "person_events"]

/-- A row of `operator_component_anchors`. -/
structure AnchorRow where
  siteId : String
  component : String
  schemaVersion : ℕ
  deriving DecidableEq, Repr

/-- The checks of `_validate` on the rows that it fetches. -/
def rowsAdmitted (siteId : String) (rows : List AnchorRow) : Bool :=
  let fetched := rows.take 7
  fetched.length ≤ components.length && decide (fetched.map (·.component)).Nodup &&
    fetched.all fun row => row.siteId = siteId && components.contains row.component &&
      row.schemaVersion = 1

/-- `_validate`: whether there is a table; `none` is its `ValueError`. -/
def validate (siteId : String) : Option (List AnchorRow) → Option Bool
  | none => some false
  | some rows => if rowsAdmitted siteId rows then some true else none

/-- `SELECT schema_version` for a site and a component. -/
def schemaVersion (siteId component : String) (rows : List AnchorRow) : Option ℕ :=
  (rows.find? fun row => row.siteId = siteId && row.component = component).map (·.schemaVersion)

/-- `ComponentStateAnchor.__init__`: whether a component is admitted with or without its file. -/
def anchorAdmits (siteId component : String) (present : Bool) (anchors : Option (List AnchorRow)) :
    Bool :=
  components.contains component &&
    match validate siteId anchors with
    | none => false
    | some false => true
    | some true =>
        (schemaVersion siteId component (anchors.getD [])).all fun version =>
          version = 1 && present

/-- `INSERT OR IGNORE`, under the primary key of site and component. -/
def insertAnchor (siteId component : String) (rows : List AnchorRow) : List AnchorRow :=
  if rows.any fun row => row.siteId = siteId && row.component = component then rows
  else rows ++ [⟨siteId, component, 1⟩]

/-- `seal`: the table behind its transaction, if this is committed. -/
def sealAnchor (siteId component : String) (anchors : Option (List AnchorRow)) :
    Option (List AnchorRow) :=
  let rows := anchors.getD []
  if !rowsAdmitted siteId rows then none
  else
    let inserted := insertAnchor siteId component rows
    if schemaVersion siteId component inserted = some 1 then some inserted else none

/-! ## The data files -/

/-- The components whose constructors are followed here. -/
inductive StateComponent
  | roles
  | audit
  | personEvents
  deriving DecidableEq, Repr

def StateComponent.value : StateComponent → String
  | .roles => "roles"
  | .audit => "audit"
  | .personEvents => "person_events"

/-- `role-profiles.json`, as it is parsed. -/
structure RoleDocument where
  schemaVersion : ℕ
  siteId : String
  state : PolicyState

/-- The tables of the audit. -/
structure AuditDatabase (δ : Type) where
  schemaVersion : ℕ
  siteId : String
  store : Audit.AuditStore δ

/-- The tables of the person events. -/
structure EventDatabase where
  schemaVersion : ℕ
  siteId : String
  store : PersonEvents.EventStore

/-- What a data file holds behind the first start of its component. -/
def Contents (δ : Type) : StateComponent → Type
  | .roles => RoleDocument
  | .audit => AuditDatabase δ
  | .personEvents => EventDatabase

/-- The files: the database of the accounts with its anchors, and the data files.  A data file
that is there can hold nothing that its store reads, as a database without tables does. -/
structure Disk (δ : Type) where
  anchors : Option (List AnchorRow)
  files : (component : StateComponent) → Option (Option (Contents δ component))
  temporaries : List RoleDocument

structure Site (δ : Type) where
  siteId : String
  policy : RolePolicy
  formats : Audit.Formats δ
  unicode : UnicodeTable
  /-- The document of a new policy is far below `_MAX_BYTES`. -/
  fits_new : policy.fits ⟨1, .empty, .empty⟩ = true

variable {δ : Type} [DecidableEq δ] (site : Site δ)

def Site.new : (component : StateComponent) → Contents δ component
  | .roles => (⟨1, site.siteId, ⟨1, .empty, .empty⟩⟩ : RoleDocument)
  | .audit => (⟨1, site.siteId, ⟨0, site.formats.zero, 0, site.formats.zero, [], false⟩⟩ :
      AuditDatabase δ)
  | .personEvents => (⟨1, site.siteId, ⟨[], [], 0⟩⟩ : EventDatabase)

/-- What a constructor admits: `_read` of the policy, `_verify_chain` of the audit, and the checks
on `event_state` and `camera_analytics`. -/
def Site.admits : (component : StateComponent) → Contents δ component → Bool
  | .roles, (document : RoleDocument) =>
      document.schemaVersion = 1 && document.siteId = site.siteId &&
        site.policy.isValid document.state
  | .audit, (database : AuditDatabase δ) =>
      database.schemaVersion = 1 && database.siteId = site.siteId &&
        Audit.verifyChain site.formats database.store
  | .personEvents, (database : EventDatabase) =>
      database.schemaVersion = 1 && database.siteId = site.siteId &&
        database.store.cameras.all fun row =>
          (Uuid.ofText site.unicode (codePoints row.cameraId)).isSome &&
            PersonEvents.settingsAdmitted row.confidence

/-! ## Durable steps -/

abbrev Opening (δ α : Type) := Handler (Fragile (Disk δ)) Stop α

def Disk.put (disk : Disk δ) (component : StateComponent)
    (file : Option (Option (Contents δ component))) : Disk δ :=
  { disk with files := Function.update disk.files component file }

def fileExists (component : StateComponent) (disk : Disk δ) : Option (Bool × Disk δ) :=
  some ((disk.files component).isSome, disk)

def admitAnchor (component : StateComponent) (present : Bool) (disk : Disk δ) :
    Option (Unit × Disk δ) :=
  if anchorAdmits site.siteId component.value present disk.anchors then some ((), disk) else none

/-- `os.open` with `O_CREAT | O_EXCL`: whether the file is new. -/
def create (component : StateComponent) (disk : Disk δ) : Option (Bool × Disk δ) :=
  match disk.files component with
  | none => some (true, disk.put component (some none))
  | some _ => some (false, disk)

def createTables (component : StateComponent) (disk : Disk δ) : Option (Unit × Disk δ) :=
  some ((), disk.put component (some (some (site.new component))))

def verify (component : StateComponent) (disk : Disk δ) : Option (Unit × Disk δ) :=
  match disk.files component with
  | some (some contents) => if site.admits component contents then some ((), disk) else none
  | _ => none

def commitSeal (component : StateComponent) (disk : Disk δ) : Option (Unit × Disk δ) :=
  (sealAnchor site.siteId component.value disk.anchors).map fun rows =>
    ((), { disk with anchors := some rows })

/-- A temporary file with the document, written and flushed. -/
def writeTemporary (document : RoleDocument) (disk : Disk δ) : Option (Unit × Disk δ) :=
  if site.policy.fits document.state then
    some ((), { disk with temporaries := document :: disk.temporaries })
  else none

def replaceRoles (document : RoleDocument) (disk : Disk δ) : Option (Unit × Disk δ) :=
  some ((), { disk.put .roles (some (some document)) with temporaries := disk.temporaries.tail })

/-! ## Constructors -/

def openDatabase (component : StateComponent) : Opening δ Unit := do
  let present ← durable (fileExists component)
  durable (admitAnchor site component present)
  let created ← durable (create component)
  if created then
    durable (createTables site component)
    durable (verify site component)
    durable (commitSeal site component)
  else
    durable (verify site component)
    durable (commitSeal site component)

def openAudit : Opening δ Unit := openDatabase site .audit

def openPersonEvents : Opening δ Unit := openDatabase site .personEvents

def openRoles : Opening δ Unit := do
  let present ← durable (fileExists .roles)
  durable (admitAnchor site .roles present)
  let present ← durable (fileExists .roles)
  if present then
    durable (verify site .roles)
    durable (commitSeal site .roles)
  else
    durable (writeTemporary site (site.new .roles))
    durable (replaceRoles (site.new .roles))
    durable (commitSeal site .roles)

def openComponent : StateComponent → Opening δ Unit
  | .roles => openRoles site
  | .audit => openAudit site
  | .personEvents => openPersonEvents site

/-! ## Histories -/

/-- The files, and the components that the running process has opened. -/
structure System (δ : Type) where
  disk : Disk δ
  opened : StateComponent → Bool

inductive Event (δ : Type)
  /-- A constructor is called, and the process is gone behind so many of its steps. -/
  | start (component : StateComponent) (crash : Option ℕ)
  /-- The constructor of another component has come to its `seal`. -/
  | sealOther (component : String)
  | write (component : StateComponent) (contents : Contents δ component)
  | stop
  | delete (component : StateComponent)

/-- Behind a constructor; a crash takes the process with it. -/
def System.started (system : System δ) (component : StateComponent) :
    Except Stop Unit × Fragile (Disk δ) → System δ
  | (.ok (), world) => ⟨world.state, Function.update system.opened component true⟩
  | (.error .refused, world) => ⟨world.state, Function.update system.opened component false⟩
  | (.error .crashed, world) => ⟨world.state, fun _ => false⟩

def step (system : System δ) : Event δ → System δ
  | .start component crash =>
      system.started component ((openComponent site component).exec ⟨system.disk, crash⟩)
  | .sealOther component =>
      match sealAnchor site.siteId component system.disk.anchors with
      | none => system
      | some rows => { system with disk := { system.disk with anchors := some rows } }
  | .write component contents =>
      { system with disk := system.disk.put component (some (some contents)) }
  | .stop => { system with opened := fun _ => false }
  | .delete component => { system with disk := system.disk.put component none }

/-- Data is written by an open store, and deleted while no store is open. -/
def Admissible (system : System δ) : Event δ → Prop
  | .sealOther component => component ∈ ["account_security", "storage", "integrations"]
  | .write component _ => system.opened component = true
  | .delete _ => ∀ component, system.opened component = false
  | _ => True

def machine : Machine (System δ) (Event δ) where
  step := step site
  admissible := Admissible

def Sealed (component : StateComponent) (disk : Disk δ) : Prop :=
  ⟨site.siteId, component.value, 1⟩ ∈ disk.anchors.getD []

/-- Nothing is sealed, and what data files there are would be admitted. -/
structure Unanchored (system : System δ) : Prop where
  anchors : system.disk.anchors = none
  files : ∀ component file, system.disk.files component = some file →
    ∃ contents, file = some contents ∧ site.admits component contents = true
  opened : ∀ component, system.opened component = false

end K5Vision.Operator.ComponentState
