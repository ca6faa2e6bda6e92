import K5Vision.Devices.DeviceRegistry
import K5Vision.Media.FramedRecording
import K5Vision.Media.RecordingCatalog

/-!
# Exports of recordings

`BoundedOperatorExportCoordinator` of `operator_export.py`, with the route of
`operator_recording_api.py` that calls it and its `_OperatorExportResponse`.

One step is what the event loop does in one go: a call of the route, a task or a body runs from an
await that ends to its next one.  `_reserve` is part of such a step, for nobody suspends with
`_state_lock` held.  A task that has ended calls its callbacks in a later step.  A cancellation that
comes behind the end of an awaited task is delivered all the same, when its caller goes on.

Starlette takes the chunks of a body and sends them; whatever it does, it comes to the `finally`
clause of the response while nobody is within the body.  That can happen to a body that has not
begun or has ended, and again later.

A file is known by its identity, and its bytes are a matter of its identity: a finalized recording
is not written again.  What stands under the name of a recording can change at any time.
-/

namespace K5Vision.Media.Exports

open Catalog Devices Identity Library

/-! ## Errors -/

inductive OperatorExportErrorCode
  | exportTooLarge
  | exportBusy
  | exportInvalid
  deriving DecidableEq, Repr

/-- What `begin_export` raises. -/
inductive Failure
  | cancelled
  /-- `OperatorExportError`. -/
  | exportError (code : OperatorExportErrorCode) (message : String)
  | playbackError (code : OperatorPlaybackErrorCode) (message : String)
  /-- Any other `Exception`. -/
  | other
  /-- An exception that is no `Exception`. -/
  | fatal
  deriving DecidableEq, Repr

def notValidated : Failure := .exportError .exportInvalid "recording export could not be validated"

/-! ## Files -/

structure FileIdentity where
  dev : ℕ
  ino : ℕ
  size : ℕ
  mtimeNs : ℤ
  deriving DecidableEq, Repr

/-- What `lstat` finds under the name of a recording. -/
inductive Entry
  | regular (identity : FileIdentity)
  | other
  deriving DecidableEq, Repr

/-- The bytes of all files. -/
structure FileContents where
  bytesOf : FileIdentity → List UInt8
  length_bytesOf : ∀ identity, (bytesOf identity).length = identity.size

/-! ## The validation -/

/-- What the validation finds: in its two calls of `lstat`, where `none` is an `OSError`, and the
bytes that the reader gets in between, if it can open the path. -/
structure Inspection where
  before : Option Entry
  opened : Option (List UInt8)
  after : Option Entry

/-- The limits of the reader; `none` is the `ValueError` of its constructor. -/
def readerLimits (descriptor : RecordingStreamDescriptor) : Option FramedLimits :=
  if h : max 1 descriptor.packetCount ≤ 1000000 ∧
      max 1 descriptor.payloadBytes ≤ 8 * 1024 * 1024 * 1024 then
    some { FramedLimits.default with
      maxPackets := max 1 descriptor.packetCount
      maxPayloadBytes := max 1 descriptor.payloadBytes
      maxPackets_mem := ⟨Nat.le_max_left _ _, h.1⟩
      maxPayloadBytes_mem := ⟨Nat.le_max_left _ _, h.2⟩ }
  else none

def checkRecording (descriptor : RecordingStreamDescriptor) (opened : Option (List UInt8)) :
    Except Failure Unit :=
  match readerLimits descriptor with
  | none => .error .other
  | some limits =>
      let (trace, snapshot) := (FramedRecordingReader.create limits).iterPackets opened
      if trace.error.isSome then .error notValidated
      else if snapshot.state ≠ .complete ∨ snapshot.packets ≠ descriptor.packetCount ∨
          snapshot.payloadBytes ≠ descriptor.payloadBytes ∨
            snapshot.fileBytes ≠ descriptor.fileBytes then .error notValidated
      else .ok ()

def verifyRecordingForExport (descriptor : RecordingStreamDescriptor) (inspection : Inspection) :
    Except Failure FileIdentity :=
  match inspection.before with
  | some (.regular before) =>
      if before.size ≠ descriptor.fileBytes then .error notValidated
      else
        match checkRecording descriptor inspection.opened with
        | .error failure => .error failure
        | .ok () =>
            match inspection.after with
            | none => .error notValidated
            | some after =>
                if after = .regular before then .ok before
                else
                  .error (.exportError .exportInvalid "recording export changed during validation")
  | _ => .error notValidated

/-! ## The parts of a body -/

def encodeAscii (text : Text) : List UInt8 := text.map UInt8.ofNat

structure Sections where
  descriptorHeader : List UInt8
  recordingHeader : List UInt8
  footer : List UInt8

/-- `_multipart_sections`, which makes no use of the bytes of the descriptor. -/
def multipartSections (recordingId : Uuid) (boundary : Text) (fileBytes : ℕ) : Sections where
  descriptorHeader := encodeAscii <|
    codePoints "--" ++ boundary ++ codePoints "\r\n" ++
    codePoints "Content-Type: application/json\r\n" ++
    codePoints "Content-Disposition: attachment; filename=\"" ++ recordingId.text ++
    codePoints ".k5d\"\r\n" ++
    codePoints "\r\n"
  recordingHeader := encodeAscii <|
    codePoints "\r\n--" ++ boundary ++ codePoints "\r\n" ++
    codePoints "Content-Type: application/vnd.k5.recording\r\n" ++
    codePoints "Content-Disposition: attachment; filename=\"" ++ recordingId.text ++
    codePoints ".k5r\"\r\n" ++
    codePoints "Content-Length: " ++ codePoints (toString fileBytes) ++ codePoints "\r\n" ++
    codePoints "\r\n"
  footer := encodeAscii (codePoints "\r\n--" ++ boundary ++ codePoints "--\r\n")

def boundaryOf (recordingId : Uuid) : Text :=
  codePoints "k5-" ++ recordingId.hexDigits.map Char.toNat

/-- `OperatorExportHandle`; its path is that of `recordingName`. -/
structure OperatorExportHandle where
  recordingId : Uuid
  descriptorBytes : List UInt8
  fileBytes : ℕ
  fileIdentity : FileIdentity
  boundary : Text
  responseBytes : ℕ
  reservation : ℕ

def OperatorExportHandle.sections (handle : OperatorExportHandle) : Sections :=
  multipartSections handle.recordingId handle.boundary handle.fileBytes

/-! ## The body of a response -/

inductive BodyEnd
  | exhausted
  /-- The `RuntimeError` of a recording that became unavailable. -/
  | unavailable
  | osError
  | cancelled
  /-- It was closed at a `yield`. -/
  | closed
  /-- It was closed before it had begun, and has run no code. -/
  | unused
  deriving DecidableEq, Repr

inductive Stage
  | created
  /-- It has yielded the header of the descriptor, and so on. -/
  | descriptorHeader
  | descriptor
  | recordingHeader
  /-- It has yielded a chunk, with so many bytes left. -/
  | chunk (remaining : ℕ)
  /-- It awaits `asyncio.sleep(0)`. -/
  | pausing (remaining : ℕ)
  | footer
  | ended (bodyEnd : BodyEnd)
  deriving DecidableEq, Repr

/-- The generator of `stream`, with the bytes that it has yielded. -/
structure Body where
  stage : Stage
  sent : List UInt8

/-- What a body meets in the file system; an `OSError` is a `none`. -/
structure StreamAnswer where
  lstat : Option Entry
  opens : Bool
  fstat : Option FileIdentity
  /-- How many bytes a read can give at most. -/
  available : Option ℕ

def exportChunkBytes : ℕ := 64 * 1024

namespace Body

def create : Body := ⟨.created, []⟩

def finish (bodyEnd : BodyEnd) (body : Body) : Body := { body with stage := .ended bodyEnd }

def send (stage : Stage) (bytes : List UInt8) (body : Body) : Body := ⟨stage, body.sent ++ bytes⟩

/-- `file.read(most)` at a position of the file that the handle is about. -/
def read (files : FileContents) (handle : OperatorExportHandle) (position most available : ℕ) :
    List UInt8 :=
  ((files.bytesOf handle.fileIdentity).drop position).take (min most available)

/-- The loop over the open file, up to its next `yield`. -/
def readOn (files : FileContents) (handle : OperatorExportHandle) (remaining : ℕ)
    (answer : StreamAnswer) (body : Body) : Body :=
  match answer.available with
  | none => body.finish .osError
  | some available =>
      let position := handle.fileBytes - remaining
      if remaining = 0 then
        if read files handle position 1 available ≠ [] then body.finish .unavailable
        else body.send .footer handle.sections.footer
      else
        let chunk := read files handle position (min exportChunkBytes remaining) available
        if chunk = [] then body.finish .unavailable
        else body.send (.chunk (remaining - chunk.length)) chunk

def openFile (files : FileContents) (handle : OperatorExportHandle) (answer : StreamAnswer)
    (body : Body) : Body :=
  if answer.lstat ≠ some (.regular handle.fileIdentity) ∨ !answer.opens then
    body.finish .unavailable
  else
    match answer.fstat with
    | none => body.finish .osError
    | some identity =>
        if identity ≠ handle.fileIdentity then body.finish .unavailable
        else body.readOn files handle handle.fileBytes answer

/-- The body goes on from where it is. -/
def advance (files : FileContents) (handle : OperatorExportHandle) (answer : StreamAnswer)
    (body : Body) : Body :=
  match body.stage with
  | .created => body.send .descriptorHeader handle.sections.descriptorHeader
  | .descriptorHeader => body.send .descriptor handle.descriptorBytes
  | .descriptor => body.send .recordingHeader handle.sections.recordingHeader
  | .recordingHeader => body.openFile files handle answer
  | .chunk remaining => { body with stage := .pausing remaining }
  | .pausing remaining => body.readOn files handle remaining answer
  | .footer => body.finish .exhausted
  | .ended _ => body

/-- `CancelledError` where the body awaits. -/
def interrupt (body : Body) : Body :=
  match body.stage with
  | .pausing _ => body.finish .cancelled
  | _ => body

/-- `aclose`; a body that awaits is running, and refuses. -/
def aclose (body : Body) : Body :=
  match body.stage with
  | .created => body.finish .unused
  | .pausing _ | .ended _ => body
  | _ => body.finish .closed

/-- Whether the body has come to its `finally` clause. -/
def isOver (body : Body) : Bool :=
  match body.stage with
  | .ended bodyEnd => bodyEnd ≠ .unused
  | _ => false

end Body

/-- `_OperatorExportResponse`. -/
structure Response where
  handle : OperatorExportHandle
  body : Body
  /-- Whether its `finally` clause has been run. -/
  unwound : Bool

def Response.closed (response : Response) : Bool := response.unwound || response.body.isOver

/-! ## The coordinator -/

/-- `BoundedOperatorExportCoordinator`, with the code that it is given. -/
structure Coordinator where
  maxExportBytes : ℕ
  maxActiveExports : ℕ
  exportBytes_valid : 1 ≤ maxExportBytes ∧ maxExportBytes ≤ 512 * 1024 * 1024
  activeExports_valid : 1 ≤ maxActiveExports ∧ maxActiveExports ≤ 8
  reader : DescriptorReader
  /-- `to_json_bytes` of a descriptor. -/
  toJsonBytes : StoredDescriptor → List UInt8
  files : FileContents

/-- What `begin_export` has in its variables when it asks for a slot. -/
structure Prepared where
  recordingId : Uuid
  descriptor : StoredDescriptor
  descriptorBytes : List UInt8
  boundary : Text
  responseBytes : ℕ

inductive WorkerEnd
  | returned (identity : FileIdentity)
  | raised (failure : Failure)
  | cancelled
  deriving DecidableEq, Repr

/-- The validation task of an export, with whether it has `_validation_finished` as a callback. -/
inductive Worker
  | absent
  | running (descriptor : StoredDescriptor) (callback : Bool)
  /-- It is done; the callback may be due. -/
  | ended (workerEnd : WorkerEnd) (callback : Bool)

inductive Route
  | idle
  /-- `begin_export` awaits `_load_recording_pair`. -/
  | loading (recordingId : Uuid)
  /-- `begin_export` awaits the shield around its validation. -/
  | validating (prepared : Prepared)
  | raised (failure : Failure)
  /-- The route has returned a response. -/
  | responded (response : Response)

/-- A call of the route. -/
structure Export where
  /-- The reservation that `begin_export` got, if it was admitted. -/
  reservation : Option ℕ
  route : Route
  worker : Worker

/-- A coordinator, with the calls `ι`. -/
structure System (ι : Type*) where
  reservations : Finset ℕ
  /-- How many objects have been made for reservations. -/
  issued : ℕ
  exports : ι → Export

def System.activeExports {ι : Type*} (s : System ι) : ℕ := s.reservations.card

def System.create (ι : Type*) : System ι := ⟨∅, 0, fun _ => ⟨none, .idle, .absent⟩⟩

/-! ## `begin_export` up to its admission -/

def validatePrincipal (principal : UserAccount) : Except Failure Unit :=
  if !principal.enabled ∨ principal.role ∉ [.viewer, .operator, .administrator] then
    .error (.playbackError .unauthorized "an enabled human session is required")
  else .ok ()

def validateDevice (device : Device) : Except Failure Unit :=
  if device.kind ∉ [.camera, .bodyCamera, .encoder] ∨
      device.protocols ∩ {.onvif, .rtsp} = ∅ then
    .error (.playbackError .unsupportedDevice
      "the recording source is not a supported video device")
  else .ok ()

/-- What `registry.get` does. -/
inductive RegistryAnswer
  | storageError
  | otherError
  | found (device : Option Device)

def findDevice : RegistryAnswer → Except Failure Device
  | .storageError => .error (.playbackError .registryUnavailable "device registry is unavailable")
  | .otherError => .error .other
  | .found none => .error (.playbackError .deviceNotFound "recorded device was not found")
  | .found (some device) => .ok device

/-- How the await of `_load_recording_pair` ends. -/
inductive LoadAnswer
  | cancelled
  /-- The loader has run on a directory. -/
  | ran (root : Option Catalog.RecordingRoot)
  | broken

def responseBytesOf (sections : Sections) (descriptorBytes : List UInt8) (fileBytes : ℕ) : ℕ :=
  sections.descriptorHeader.length + descriptorBytes.length + sections.recordingHeader.length +
    fileBytes + sections.footer.length

namespace Coordinator

variable (c : Coordinator)

/-- The await of `_load_recording_pair`. -/
def loaded (recordingId : Uuid) : LoadAnswer → Except Failure StoredDescriptor
  | .cancelled => .error .cancelled
  | .broken => .error .other
  | .ran root =>
      match loadRecordingPair c.reader root recordingId with
      | .error (.error code message) => .error (.playbackError code message)
      | .error .recursion => .error .other
      | .ok descriptor => .ok descriptor

/-- `begin_export`, from the end of its first await to `_reserve`. -/
def prepare (recordingId : Uuid) (answer : LoadAnswer) (registry : RegistryAnswer) :
    Except Failure Prepared := do
  let descriptor ← c.loaded recordingId answer
  let device ← findDevice registry
  validateDevice device
  let descriptorBytes := c.toJsonBytes descriptor
  let boundary := boundaryOf recordingId
  let sections := multipartSections recordingId boundary descriptor.fileBytes
  let responseBytes := responseBytesOf sections descriptorBytes descriptor.fileBytes
  if c.maxExportBytes < responseBytes then
    throw (.exportError .exportTooLarge "recording export exceeds the configured byte limit")
  return ⟨recordingId, descriptor, descriptorBytes, boundary, responseBytes⟩

end Coordinator

/-- The handle of an export whose recording has been validated. -/
def Prepared.handle (prepared : Prepared) (identity : FileIdentity) (reservation : ℕ) :
    OperatorExportHandle where
  recordingId := prepared.recordingId
  descriptorBytes := prepared.descriptorBytes
  fileBytes := prepared.descriptor.fileBytes
  fileIdentity := identity
  boundary := prepared.boundary
  responseBytes := prepared.responseBytes
  reservation := reservation

def Failure.reported : Failure → Failure
  | .cancelled => .cancelled
  | .exportError code message => .exportError code message
  | .fatal => .fatal
  | .playbackError _ _ | .other => notValidated

/-! ## Turns of an export -/

structure Turn where
  next : Export
  discarded : Option ℕ

namespace Export

def stay (e : Export) : Turn := ⟨e, none⟩

/-- The `except` clause of `begin_export`, which looks at the task. -/
def fail (failure : Failure) (e : Export) : Turn :=
  match e.worker with
  | .running descriptor _ =>
      ⟨{ e with route := .raised failure.reported, worker := .running descriptor true }, none⟩
  | _ => ⟨{ e with route := .raised failure.reported }, e.reservation⟩

def begin (principal : UserAccount) (recordingId : Uuid) (e : Export) : Turn :=
  match e.route with
  | .idle =>
      match validatePrincipal principal with
      | .error failure => ⟨{ e with route := .raised failure }, none⟩
      | .ok () => ⟨{ e with route := .loading recordingId }, none⟩
  | _ => e.stay

inductive WorkerRun
  | ran (inspection : Inspection)
  | raised (failure : Failure)
  | cancelled

def WorkerRun.workerEnd (descriptor : StoredDescriptor) : WorkerRun → WorkerEnd
  | .ran inspection =>
      match verifyRecordingForExport descriptor.toRecordingStreamDescriptor inspection with
      | .ok identity => .returned identity
      | .error failure => .raised failure
  | .raised failure => .raised failure
  | .cancelled => .cancelled

def workerEnds (run : WorkerRun) (e : Export) : Turn :=
  match e.worker with
  | .running descriptor callback =>
      ⟨{ e with worker := .ended (run.workerEnd descriptor) callback }, none⟩
  | _ => e.stay

def validationFinished (e : Export) : Turn :=
  match e.worker with
  | .ended workerEnd true => ⟨{ e with worker := .ended workerEnd false }, e.reservation⟩
  | _ => e.stay

def respond (handle : OperatorExportHandle) (made : Bool) (e : Export) : Turn :=
  if made then ⟨{ e with route := .responded ⟨handle, .create, false⟩ }, none⟩
  else ⟨{ e with route := .raised .other }, some handle.reservation⟩

/-- The await of the shield ends: with a cancellation of the caller, or with the task. -/
def resume (interrupted made : Bool) (e : Export) : Turn :=
  match e.route, e.reservation with
  | .validating prepared, some reservation =>
      if interrupted then e.fail .cancelled
      else
        match e.worker with
        | .ended (.returned identity) _ => e.respond (prepared.handle identity reservation) made
        | .ended (.raised failure) _ => e.fail failure
        | .ended .cancelled _ => e.fail .cancelled
        | _ => e.stay
  | _, _ => e.stay

/-- The body of the response does something; its `finally` clause releases the handle. -/
def stream (act : OperatorExportHandle → Body → Body) (e : Export) : Turn :=
  match e.route with
  | .responded response =>
      let body := act response.handle response.body
      ⟨{ e with route := .responded { response with body := body } },
        if body.isOver && !response.body.isOver then some response.handle.reservation else none⟩
  | _ => e.stay

/-- The `finally` clause of the response, whose `aclose` may be cut short. -/
def unwind (closes : Bool) (e : Export) : Turn :=
  match e.route with
  | .responded response =>
      match response.body.stage with
      | .pausing _ => e.stay
      | _ =>
          let body := if closes then response.body.aclose else response.body
          ⟨{ e with route := .responded { response with body := body, unwound := true } },
            some response.handle.reservation⟩
  | _ => e.stay

end Export

/-! ## The machine -/

variable {ι : Type*} [DecidableEq ι]

/-- A turn of the export `i`. -/
def System.turn (i : ι) (turn : Turn) (s : System ι) : System ι :=
  { s with
    exports := Function.update s.exports i turn.next
    reservations :=
      match turn.discarded with
      | none => s.reservations
      | some reservation => s.reservations.erase reservation }

/-- `asyncio.create_task`. -/
inductive Creation
  | created
  | raised (failure : Failure)

/-- `_reserve` lets an export in, with a new object. -/
def System.admitted (i : ι) (s : System ι) : System ι :=
  { reservations := insert s.issued s.reservations
    issued := s.issued + 1
    exports := Function.update s.exports i { s.exports i with reservation := some s.issued } }

/-- `begin_export`, between its two awaits. -/
def Coordinator.admission (c : Coordinator) (i : ι) (answer : LoadAnswer)
    (registry : RegistryAnswer) (creation : Creation) (s : System ι) : System ι :=
  match (s.exports i).route with
  | .loading recordingId =>
      match c.prepare recordingId answer registry with
      | .error failure => s.turn i ⟨{ s.exports i with route := .raised failure }, none⟩
      | .ok prepared =>
          if c.maxActiveExports ≤ s.reservations.card then
            s.turn i ⟨{ s.exports i with route := .raised (.exportError .exportBusy
              "operator export capacity is currently exhausted") }, none⟩
          else
            let s := s.admitted i
            match creation with
            | .created =>
                s.turn i ⟨{ s.exports i with
                  route := .validating prepared
                  worker := .running prepared.descriptor false }, none⟩
            | .raised failure => s.turn i ((s.exports i).fail failure)
  | _ => s

inductive Event (ι : Type*)
  | begin (i : ι) (principal : UserAccount) (recordingId : Uuid)
  | loaded (i : ι) (answer : LoadAnswer) (registry : RegistryAnswer) (creation : Creation)
  | workerEnds (i : ι) (run : Export.WorkerRun)
  | validationFinished (i : ι)
  | resume (i : ι) (interrupted made : Bool)
  /-- The body of a response is asked for more, or goes on behind its await. -/
  | advance (i : ι) (answer : StreamAnswer)
  | interrupt (i : ι)
  | aclose (i : ι)
  | unwind (i : ι) (closes : Bool)

def Coordinator.machine (c : Coordinator) : Machine (System ι) (Event ι) where
  step s
    | .begin i principal recordingId => s.turn i ((s.exports i).begin principal recordingId)
    | .loaded i answer registry creation => c.admission i answer registry creation s
    | .workerEnds i run => s.turn i ((s.exports i).workerEnds run)
    | .validationFinished i => s.turn i (s.exports i).validationFinished
    | .resume i interrupted made => s.turn i ((s.exports i).resume interrupted made)
    | .advance i answer =>
        s.turn i ((s.exports i).stream fun handle body => body.advance c.files handle answer)
    | .interrupt i => s.turn i ((s.exports i).stream fun _ body => body.interrupt)
    | .aclose i => s.turn i ((s.exports i).stream fun _ body => body.aclose)
    | .unwind i closes => s.turn i ((s.exports i).unwind closes)
  admissible _ _ := True

end K5Vision.Media.Exports
