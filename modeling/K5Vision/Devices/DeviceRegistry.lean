import K5Vision.Identity.UuidText
import K5Vision.Library.IpAddress
import K5Vision.Library.JsonWriter
import K5Vision.Library.Machine
import Mathlib.Data.Finset.Sort
import Mathlib.Data.List.Lex
import Mathlib.Logic.Function.Basic

/-!
# The device registry

The models of `domain/devices.py` and `DeviceRegistry` of `services/device_registry.py`.

A row of the table is what SQLite keeps: texts and a port.  `encodeRow` is what `_enroll` binds to
its `INSERT`, `decodeDevice` what every read makes of a row.  The registries of a deployment are
connections to one database; a call of `enroll` or `enroll_stream` goes through the statements of
`_enroll` one at a time, and the statements of different registries come in any order.  At most one
connection has an immediate transaction open.  A statement can fail with a `sqlite3.Error`; a
`ROLLBACK` does not.
-/

namespace K5Vision.Devices

open Identity Library

/-! ## The models -/

inductive DeviceProtocol
  | onvif
  | rtsp
  | http
  | https
  | vendor
  deriving DecidableEq, Repr

namespace DeviceProtocol

def value : DeviceProtocol → Text
  | onvif => codePoints "onvif"
  | rtsp => codePoints "rtsp"
  | http => codePoints "http"
  | https => codePoints "https"
  | vendor => codePoints "vendor"

def ofValue (text : Text) : Option DeviceProtocol :=
  [onvif, rtsp, http, https, vendor].find? fun protocol => protocol.value = text

theorem ofValue_value : ∀ protocol : DeviceProtocol, ofValue protocol.value = some protocol := by
  intro protocol
  cases protocol <;> decide +kernel

end DeviceProtocol

inductive DeviceKind
  | camera
  | bodyCamera
  | drone
  | encoder
  | sensor
  deriving DecidableEq, Repr

namespace DeviceKind

def value : DeviceKind → Text
  | camera => codePoints "camera"
  | bodyCamera => codePoints "body_camera"
  | drone => codePoints "drone"
  | encoder => codePoints "encoder"
  | sensor => codePoints "sensor"

def ofValue (text : Text) : Option DeviceKind :=
  [camera, bodyCamera, drone, encoder, sensor].find? fun kind => kind.value = text

theorem ofValue_value : ∀ kind : DeviceKind, ofValue kind.value = some kind := by
  intro kind
  cases kind <;> decide +kernel

end DeviceKind

/-- `strip_whitespace` of a string field. -/
def trim (text : Text) : Text :=
  let space := fun c => isWhiteSpace (Char.ofNat c)
  ((text.dropWhile space).reverse.dropWhile space).reverse

/-- A value of a string field with `min_length=1`: Unicode, stripped, and not too long. -/
def IsField (most : ℕ) (text : Text) : Prop :=
  (∀ c ∈ text, IsScalar c) ∧ trim text = text ∧ 1 ≤ text.length ∧ text.length ≤ most

instance (most : ℕ) : DecidablePred (IsField most) := fun text =>
  inferInstanceAs (Decidable ((∀ c ∈ text, IsScalar c) ∧ trim text = text ∧
    1 ≤ text.length ∧ text.length ≤ most))

structure DeviceCreate where
  name : Text
  host : IpAddress
  managementPort : ℤ
  kind : DeviceKind
  protocols : Finset DeviceProtocol
  tags : Finset Text
  name_valid : IsField 128 name
  port_valid : 1 ≤ managementPort ∧ managementPort ≤ 65535
  protocols_valid : protocols.Nonempty
  tags_valid : tags.card ≤ 32 ∧ ∀ tag ∈ tags, IsField 64 tag
  deriving DecidableEq

structure Device extends DeviceCreate where
  id : Uuid
  deriving DecidableEq

def readField (most : ℕ) (text : Text) : Option Text :=
  if IsField most (trim text) then some (trim text) else none

def readSet {α : Type*} [DecidableEq α] (readItem : Text → Option α) : Json → Option (Finset α)
  | .array items =>
      let readString (item : Json) : Option α :=
        match item with
        | .string text => readItem text
        | _ => none
      (items.mapM readString).map List.toFinset
  | _ => none

/-- The bounds of the fields. -/
def DeviceCreate.ofFields (name : Text) (host : IpAddress) (managementPort : ℤ) (kind : DeviceKind)
    (protocols : Finset DeviceProtocol) (tags : Finset Text) : Option DeviceCreate :=
  if h : IsField 128 name ∧ (1 ≤ managementPort ∧ managementPort ≤ 65535) ∧
      protocols.Nonempty ∧ tags.card ≤ 32 ∧ ∀ tag ∈ tags, IsField 64 tag then
    some ⟨name, host, managementPort, kind, protocols, tags, h.1, h.2.1, h.2.2.1, h.2.2.2⟩
  else none

/-- The validation of the fields; `none` is a `ValidationError`. -/
def DeviceCreate.validate (name host : Text) (managementPort : ℤ) (kind : Text)
    (protocols tags : Json) : Option DeviceCreate := do
  let name ← readField 128 name
  let host ← readAddress host
  let kind ← DeviceKind.ofValue kind
  let protocols ← readSet DeviceProtocol.ofValue protocols
  let tags ← readSet (readField 64) tags
  DeviceCreate.ofFields name host managementPort kind protocols tags

theorem DeviceCreate.ofFields_self (request : DeviceCreate) :
    DeviceCreate.ofFields request.name request.host request.managementPort request.kind
      request.protocols request.tags = some request :=
  dif_pos ⟨request.name_valid, request.port_valid, request.protocols_valid, request.tags_valid⟩

/-! ## Rows -/

structure DeviceRow where
  siteId : String
  id : Text
  name : Text
  host : Text
  managementPort : ℤ
  kind : Text
  protocolsJson : Text
  tagsJson : Text
  streamKey : Text
  deriving DecidableEq

/-- The columns of `UNIQUE(site_id, id)`. -/
def DeviceRow.identity (row : DeviceRow) : String × Text := (row.siteId, row.id)

/-- The columns of `UNIQUE(site_id, host, management_port, stream_key)`. -/
def DeviceRow.endpoint (row : DeviceRow) : String × Text × ℤ × Text :=
  (row.siteId, row.host, row.managementPort, row.streamKey)

def protocolsJson (device : Device) : Text :=
  dumps ((device.protocols.image DeviceProtocol.value).sort (· ≤ ·))

def tagsJson (device : Device) : Text := dumps (device.tags.sort (· ≤ ·))

def encodeRow (siteId : String) (streamKey : Text) (device : Device) : DeviceRow where
  siteId := siteId
  id := device.id.text
  name := device.name
  host := writeAddress device.host
  managementPort := device.managementPort
  kind := device.kind.value
  protocolsJson := protocolsJson device
  tagsJson := tagsJson device
  streamKey := streamKey

/-- The interpreter that runs the registries. -/
structure Interpreter where
  unicode : UnicodeTable
  /-- How deep `json.loads` lets arrays and objects be nested. -/
  depth : ℕ
  depth_pos : 1 ≤ depth

inductive DecodeFailure
  | invalidState
  | recursion
  deriving DecidableEq, Repr

def loadsColumn (interpreter : Interpreter) (text : Text) : Except DecodeFailure Json :=
  match loads interpreter.depth text with
  | .ok value => .ok value
  | .error .decodeError => .error .invalidState
  | .error .recursion => .error .recursion

def decodeDevice (interpreter : Interpreter) (row : DeviceRow) : Except DecodeFailure Device :=
  match Uuid.ofText interpreter.unicode row.id with
  | none => .error .invalidState
  | some id => do
      let protocols ← loadsColumn interpreter row.protocolsJson
      let tags ← loadsColumn interpreter row.tagsJson
      match DeviceCreate.validate row.name row.host row.managementPort row.kind protocols tags with
      | none => .error .invalidState
      | some fields => .ok ⟨fields, id⟩

/-! ## Rows are read back -/

theorem readField_of_isField {most : ℕ} {text : Text} (h : IsField most text) :
    readField most text = some text := by
  have htrim : trim text = text := h.2.1
  rw [readField, htrim, if_pos h]

/-- The texts of some items, in any order, are read back as items of the set. -/
theorem exists_written {α : Type*} {write : α → Text} {s : Finset α} {texts : List Text}
    (h : ∀ text ∈ texts, ∃ a ∈ s, write a = text) :
    ∃ items : List α, items.map write = texts ∧ ∀ a ∈ items, a ∈ s := by
  induction texts with
  | nil => exact ⟨[], rfl, by simp⟩
  | cons text texts ih =>
      rw [List.forall_mem_cons] at h
      obtain ⟨a, ha, rfl⟩ := h.1
      obtain ⟨items, rfl, hitems⟩ := ih h.2
      exact ⟨a :: items, rfl, by simpa using ⟨ha, hitems⟩⟩

theorem readSet_sort {α : Type*} [DecidableEq α] {read : Text → Option α} (write : α → Text)
    (s : Finset α) (h : ∀ a ∈ s, read (write a) = some a) :
    readSet read (.array (((s.image write).sort (· ≤ ·)).map .string)) = some s := by
  have hwritten : ∀ text ∈ (s.image write).sort (· ≤ ·), ∃ a ∈ s, write a = text := by
    intro text htext
    simpa using htext
  obtain ⟨items, hitems, hmem⟩ := exists_written hwritten
  have hread : (items.map write).mapM read = some items :=
    mapM_map_of_inverse fun a ha => h a (hmem a ha)
  have hset : items.toFinset = s := by
    ext a
    refine ⟨fun ha => hmem a (List.mem_toFinset.mp ha), fun ha => ?_⟩
    have htext : write a ∈ items.map write := by
      rw [hitems, Finset.mem_sort]
      exact Finset.mem_image_of_mem _ ha
    obtain ⟨b, hb, heq⟩ := List.mem_map.mp htext
    have hsame : some b = some a := by rw [← h b (hmem b hb), ← h a ha, heq]
    cases hsame
    exact List.mem_toFinset.mpr hb
  rw [List.mapM_map] at hread
  rw [← hitems, readSet, List.map_map, List.mapM_map]
  simp only [Function.comp_def] at hread ⊢
  rw [hread, Option.map_some, hset]

theorem isScalar_value (protocol : DeviceProtocol) : ∀ c ∈ protocol.value, IsScalar c := by
  cases protocol <;> decide +kernel

theorem loadsColumn_protocolsJson (interpreter : Interpreter) (device : Device) :
    loadsColumn interpreter (protocolsJson device) = .ok (.array
      (((device.protocols.image DeviceProtocol.value).sort (· ≤ ·)).map .string)) := by
  rw [loadsColumn, protocolsJson, loads_dumps interpreter.depth_pos]
  intro text htext
  simp only [Finset.mem_sort, Finset.mem_image] at htext
  obtain ⟨protocol, -, rfl⟩ := htext
  exact isScalar_value protocol

theorem loadsColumn_tagsJson (interpreter : Interpreter) (device : Device) :
    loadsColumn interpreter (tagsJson device) =
      .ok (.array ((device.tags.sort (· ≤ ·)).map .string)) := by
  rw [loadsColumn, tagsJson, loads_dumps interpreter.depth_pos]
  intro tag htag
  exact (device.tags_valid.2 tag (by simpa using htag)).1

theorem decodeDevice_encodeRow (interpreter : Interpreter) (siteId : String) (streamKey : Text)
    (device : Device) :
    decodeDevice interpreter (encodeRow siteId streamKey device) = .ok device := by
  have hprotocols : readSet DeviceProtocol.ofValue (.array
      (((device.protocols.image DeviceProtocol.value).sort (· ≤ ·)).map .string)) =
        some device.protocols :=
    readSet_sort _ _ fun protocol _ => DeviceProtocol.ofValue_value protocol
  have htags : readSet (readField 64) (.array ((device.tags.sort (· ≤ ·)).map .string)) =
      some device.tags := by
    have hsort := readSet_sort id device.tags
      fun tag htag => readField_of_isField (device.tags_valid.2 tag htag)
    simpa using hsort
  have hvalid : DeviceCreate.validate device.name (writeAddress device.host) device.managementPort
      device.kind.value (.array
        (((device.protocols.image DeviceProtocol.value).sort (· ≤ ·)).map .string))
      (.array ((device.tags.sort (· ≤ ·)).map .string)) = some device.toDeviceCreate := by
    simp only [DeviceCreate.validate, readField_of_isField device.name_valid,
      readAddress_writeAddress, DeviceKind.ofValue_value, hprotocols, htags]
    exact DeviceCreate.ofFields_self _
  simp only [decodeDevice, encodeRow, Uuid.ofText_text, loadsColumn_protocolsJson,
    loadsColumn_tagsJson, hvalid, bind, Except.bind]

/-! ## Calls -/

structure Call where
  request : DeviceCreate
  stream : Option Text
  deriving DecidableEq

def Call.streamKey (call : Call) : Text := call.stream.getD []

def isStreamKey (text : Text) : Bool :=
  text.length = 64 && text.all fun c => 48 ≤ c && c ≤ 57 || 97 ≤ c && c ≤ 102

/-- `enroll_stream` passes its check; `enroll` has none. -/
def Call.accepted (call : Call) : Bool :=
  match call.stream with
  | none => true
  | some key => isStreamKey key && call.request.protocols = {DeviceProtocol.rtsp}

/-- A call that gets to `_enroll`. -/
abbrev AcceptedCall := {call : Call // call.accepted = true}

inductive Failure
  /-- `ValueError("direct stream requires an RTSP device and opaque stream key")`. -/
  | streamKey
  /-- The `UnicodeEncodeError` of binding a text with a lone surrogate. -/
  | encoding
  | decoding (failure : DecodeFailure)
  /-- `DeviceRegistryConflictError("device endpoint is already enrolled with conflicting
  metadata")`. -/
  | conflict
  | capacity
  | storage
  deriving DecidableEq, Repr

structure DeviceRegistration where
  device : Device
  created : Bool
  deriving DecidableEq

structure Return where
  siteId : String
  call : Call
  outcome : Except Failure DeviceRegistration

inductive Phase
  | idle
  | begins (call : AcceptedCall)
  | selects (call : AcceptedCall)
  | counts (call : AcceptedCall)
  | inserts (call : AcceptedCall) (device : Device)
  | commits (call : AcceptedCall) (registration : DeviceRegistration)

/-- What SQLite makes of a statement, and the id that `uuid4` draws, where one is drawn behind the
statement. -/
inductive Answer
  | succeeds (newId : Uuid)
  | fails

structure System (ι : Type*) where
  /-- The committed rows, by their `row_id`. -/
  rows : List DeviceRow
  writer : Option ι
  inserted : List DeviceRow
  phases : ι → Phase
  returns : List Return

/-- Registries of one capacity over one database. -/
structure Deployment (ι : Type*) where
  interpreter : Interpreter
  capacity : ℕ
  site : ι → String
  capacity_valid : 1 ≤ capacity ∧ capacity ≤ 100000
  site_valid : ∀ i, isSiteId (site i) = true

def siteRows (siteId : String) (rows : List DeviceRow) : List DeviceRow :=
  rows.filter fun row => row.siteId = siteId

def endpointOf (siteId : String) (call : Call) : String × Text × ℤ × Text :=
  (siteId, writeAddress call.request.host, call.request.managementPort, call.streamKey)

def hostEncodable (call : Call) : Prop := ∀ c ∈ writeAddress call.request.host, IsScalar c

instance (call : Call) : Decidable (hostEncodable call) :=
  inferInstanceAs (Decidable (∀ c ∈ writeAddress call.request.host, IsScalar c))

namespace Deployment

variable {ι : Type*} [DecidableEq ι] (d : Deployment ι)

def go (i : ι) (phase : Phase) (s : System ι) : System ι :=
  { s with phases := Function.update s.phases i phase }

def finish (i : ι) (call : Call) (outcome : Except Failure DeviceRegistration) (s : System ι) :
    System ι :=
  { s with
    phases := Function.update s.phases i .idle
    returns := s.returns ++ [⟨d.site i, call, outcome⟩] }

/-- `if connection.in_transaction: connection.execute("ROLLBACK")`. -/
def rollback (i : ι) (s : System ι) : System ι :=
  if s.writer = some i then { s with writer := none, inserted := [] } else s

def sqliteError (i : ι) (call : AcceptedCall) (s : System ι) : System ι :=
  d.finish i call.1 (.error .storage) (rollback i s)

/-- `BEGIN IMMEDIATE`, which fails while a transaction is open. -/
def beginImmediate (i : ι) (call : AcceptedCall) (answer : Answer) (s : System ι) : System ι :=
  match answer, s.writer with
  | .succeeds _, none => go i (.selects call) { s with writer := some i, inserted := [] }
  | _, _ => d.sqliteError i call s

/-- The `SELECT` of the endpoint, and what is made of its row.  What the binding and the decoder
raise is no `sqlite3.Error`. -/
def select (i : ι) (call : AcceptedCall) (answer : Answer) (s : System ι) : System ι :=
  if hostEncodable call.1 then
    match answer with
    | .fails => d.sqliteError i call s
    | .succeeds _ =>
        match (s.rows ++ s.inserted).find? fun row => row.endpoint = endpointOf (d.site i) call.1 with
        | none => go i (.counts call) s
        | some row =>
            match decodeDevice d.interpreter row with
            | .error failure => d.finish i call.1 (.error (.decoding failure)) s
            | .ok existing =>
                if existing.toDeviceCreate = call.1.request then
                  go i (.commits call ⟨existing, false⟩) s
                else d.finish i call.1 (.error .conflict) (rollback i s)
  else d.finish i call.1 (.error .encoding) s

def count (i : ι) (call : AcceptedCall) (answer : Answer) (s : System ι) : System ι :=
  match answer with
  | .fails => d.sqliteError i call s
  | .succeeds newId =>
      if d.capacity ≤ (siteRows (d.site i) (s.rows ++ s.inserted)).length then
        d.finish i call.1 (.error .capacity) (rollback i s)
      else go i (.inserts call ⟨call.1.request, newId⟩) s

/-- The `INSERT`, which a row with its id or its endpoint refuses. -/
def insert (i : ι) (call : AcceptedCall) (device : Device) (answer : Answer) (s : System ι) : System ι :=
  let row := encodeRow (d.site i) call.1.streamKey device
  match answer with
  | .fails => d.sqliteError i call s
  | .succeeds _ =>
      if ∃ other ∈ s.rows ++ s.inserted,
          other.identity = row.identity ∨ other.endpoint = row.endpoint then
        d.sqliteError i call s
      else go i (.commits call ⟨device, true⟩) { s with inserted := s.inserted ++ [row] }

def commit (i : ι) (call : AcceptedCall) (registration : DeviceRegistration) (answer : Answer)
    (s : System ι) : System ι :=
  match answer with
  | .fails => d.sqliteError i call s
  | .succeeds _ =>
      d.finish i call.1 (.ok registration)
        { s with rows := s.rows ++ s.inserted, writer := none, inserted := [] }

def statement (i : ι) (answer : Answer) (s : System ι) : System ι :=
  match s.phases i with
  | .idle => s
  | .begins call => d.beginImmediate i call answer s
  | .selects call => d.select i call answer s
  | .counts call => d.count i call answer s
  | .inserts call device => d.insert i call device answer s
  | .commits call registration => d.commit i call registration answer s

/-- A call takes the lock of a registry that has no other call under way. -/
def call (i : ι) (call : Call) (s : System ι) : System ι :=
  if h : call.accepted = true then
    match s.phases i with
    | .idle => go i (.begins ⟨call, h⟩) s
    | _ => s
  else { s with returns := s.returns ++ [⟨d.site i, call, .error .streamKey⟩] }

inductive Event (ι : Type*)
  | call (i : ι) (call : Call)
  | statement (i : ι) (answer : Answer)

/-- The registries, where some condition holds of every step. -/
def machine (condition : System ι → Event ι → Prop) : Machine (System ι) (Event ι) where
  step s
    | .call i call => d.call i call s
    | .statement i answer => d.statement i answer s
  admissible := condition

/-! ## Reading -/

inductive ListFailure
  | offset
  | limit
  | decoding (failure : DecodeFailure)
  deriving DecidableEq, Repr

def maxDevicePageSize : ℤ := 100

/-- `list` of a registry, when its `SELECT` succeeds. -/
def list (i : ι) (offset limit : ℤ) (s : System ι) : Except ListFailure (List Device) :=
  if offset < 0 then .error .offset
  else if ¬(1 ≤ limit ∧ limit ≤ maxDevicePageSize) then .error .limit
  else
    (((siteRows (d.site i) s.rows).drop offset.toNat).take limit.toNat).mapM fun row =>
      (decodeDevice d.interpreter row).mapError .decoding

end Deployment

def camera : DeviceCreate where
  name := codePoints "gate"
  host := .v4 0x0A000001
  managementPort := 80
  kind := .camera
  protocols := {.onvif}
  tags := ∅
  name_valid := by decide +kernel
  port_valid := by decide
  protocols_valid := ⟨.onvif, Finset.mem_singleton_self _⟩
  tags_valid := by simp

end K5Vision.Devices
