import K5Vision.Media.FramedRoundTrip
import K5Vision.Media.OperatorExport

/-!
# The bodies of exports

What a body has yielded is a function of its stage (`Body.Sound`), so an exhausted body has yielded
everything, whatever the sizes of its chunks were.  The handle that it works from was put together
by `begin_export` (`Prepared.Sound`) and completed by a validation (`WorkerEnd.Sound`), which makes
the length of the body the announced one.
-/

namespace K5Vision.Media.Exports

open Catalog Devices Identity Library

/-! ## What a body is to be -/

/-- The bytes are a recording with the packets of a descriptor. -/
def IsRecordingOf (descriptor : RecordingStreamDescriptor) (bytes : List UInt8) : Prop :=
  ∃ packets, bytes = recordingFile packets ∧ (∀ packet ∈ packets, isRtpV2 packet) ∧
    packets.length = descriptor.packetCount ∧ payloadTotal packets = descriptor.payloadBytes

/-- The body of a response has been yielded as a whole, of a recording that was loaded and
validated: its file is a recording if it is what the validation has read. -/
def Response.Whole (c : Coordinator) (response : Response) : Prop :=
  ∃ root descriptor inspection,
    loadRecordingPair c.reader root response.handle.recordingId = .ok descriptor ∧
    verifyRecordingForExport descriptor.toRecordingStreamDescriptor inspection =
      .ok response.handle.fileIdentity ∧
    (inspection.opened = some (c.files.bytesOf response.handle.fileIdentity) →
      IsRecordingOf descriptor.toRecordingStreamDescriptor
        (c.files.bytesOf response.handle.fileIdentity)) ∧
    response.body.sent =
      (multipartSections response.handle.recordingId (boundaryOf response.handle.recordingId)
        descriptor.fileBytes).descriptorHeader ++
      c.toJsonBytes descriptor ++
      (multipartSections response.handle.recordingId (boundaryOf response.handle.recordingId)
        descriptor.fileBytes).recordingHeader ++
      c.files.bytesOf response.handle.fileIdentity ++
      (multipartSections response.handle.recordingId (boundaryOf response.handle.recordingId)
        descriptor.fileBytes).footer ∧
    response.body.sent.length = response.handle.responseBytes

/-! ## Bodies -/

def OperatorExportHandle.front (handle : OperatorExportHandle) : List UInt8 :=
  handle.sections.descriptorHeader ++ handle.descriptorBytes ++ handle.sections.recordingHeader

def Body.Sound (files : FileContents) (handle : OperatorExportHandle) (body : Body) : Prop :=
  match body.stage with
  | .created => body.sent = []
  | .descriptorHeader => body.sent = handle.sections.descriptorHeader
  | .descriptor => body.sent = handle.sections.descriptorHeader ++ handle.descriptorBytes
  | .recordingHeader => body.sent = handle.front
  | .chunk remaining | .pausing remaining =>
      remaining ≤ handle.fileBytes ∧ body.sent = handle.front ++
        (files.bytesOf handle.fileIdentity).take (handle.fileBytes - remaining)
  | .footer | .ended .exhausted =>
      body.sent = handle.front ++ files.bytesOf handle.fileIdentity ++ handle.sections.footer
  | .ended _ => True

variable {body : Body} {handle : OperatorExportHandle} {files : FileContents}

theorem Body.sound_finish {bodyEnd : BodyEnd} (h : bodyEnd ≠ .exhausted) :
    (body.finish bodyEnd).Sound files handle := by
  cases bodyEnd with
  | exhausted => exact absurd rfl h
  | _ => trivial

theorem Body.take_append_read {remaining available : ℕ}
    (hsize : (files.bytesOf handle.fileIdentity).length = handle.fileBytes)
    (hremaining : remaining ≤ handle.fileBytes) :
    let chunk := read files handle (handle.fileBytes - remaining) (min exportChunkBytes remaining)
      available
    (files.bytesOf handle.fileIdentity).take (handle.fileBytes - remaining) ++ chunk =
      (files.bytesOf handle.fileIdentity).take
        (handle.fileBytes - (remaining - chunk.length)) := by
  intro chunk
  have hlength : chunk.length = min (min exportChunkBytes remaining) available := by
    simp only [chunk, read, List.length_take, List.length_drop, hsize]
    omega
  have hend : handle.fileBytes - (remaining - chunk.length) =
      handle.fileBytes - remaining + min (min exportChunkBytes remaining) available := by
    omega
  rw [hend, List.take_add]
  rfl

theorem Body.sound_readOn {remaining : ℕ} {answer : StreamAnswer}
    (hsize : (files.bytesOf handle.fileIdentity).length = handle.fileBytes)
    (hremaining : remaining ≤ handle.fileBytes) (hsent : body.sent = handle.front ++
      (files.bytesOf handle.fileIdentity).take (handle.fileBytes - remaining)) :
    (body.readOn files handle remaining answer).Sound files handle := by
  unfold readOn
  split
  · exact sound_finish (by simp)
  next available _ =>
    simp only
    split
    · next hzero =>
        split
        · exact sound_finish (by simp)
        · show body.sent ++ _ = _
          rw [hsent, hzero, Nat.sub_zero, ← hsize, List.take_length]
    · next hzero =>
        split
        · exact sound_finish (by simp)
        · refine ⟨by omega, ?_⟩
          show body.sent ++ _ = _
          rw [hsent, List.append_assoc, take_append_read hsize hremaining]

theorem Body.Sound.advance (h : body.Sound files handle)
    (hsize : (files.bytesOf handle.fileIdentity).length = handle.fileBytes)
    (answer : StreamAnswer) : (body.advance files handle answer).Sound files handle := by
  obtain ⟨stage, sent⟩ := body
  cases stage with
  | created =>
      have hsent : sent = [] := h
      simp [Body.advance, send, Body.Sound, hsent]
  | descriptorHeader =>
      have hsent : sent = handle.sections.descriptorHeader := h
      simp [Body.advance, send, Body.Sound, hsent]
  | descriptor =>
      have hsent : sent = handle.sections.descriptorHeader ++ handle.descriptorBytes := h
      simp [Body.advance, send, Body.Sound, hsent, OperatorExportHandle.front]
  | recordingHeader =>
      have hsent : sent = handle.front := h
      show (Body.openFile files handle answer ⟨.recordingHeader, sent⟩).Sound files handle
      unfold openFile
      split
      · exact sound_finish (by simp)
      split
      · exact sound_finish (by simp)
      · split
        · exact sound_finish (by simp)
        · exact sound_readOn hsize le_rfl (by simp [hsent])
  | chunk remaining => exact h
  | pausing remaining => exact sound_readOn hsize h.1 h.2
  | footer => exact h
  | ended bodyEnd => exact h

theorem Body.Sound.interrupt (h : body.Sound files handle) : body.interrupt.Sound files handle := by
  unfold Body.interrupt
  split
  · exact sound_finish (by simp)
  · exact h

theorem Body.Sound.aclose (h : body.Sound files handle) : body.aclose.Sound files handle := by
  unfold Body.aclose
  split
  · exact sound_finish (by simp)
  · exact h
  · exact h
  · exact sound_finish (by simp)

/-! ## Over is over -/

theorem Body.advance_of_isOver (answer : StreamAnswer) (h : body.isOver) :
    body.advance files handle answer = body := by
  obtain ⟨stage, sent⟩ := body
  cases stage with
  | ended bodyEnd => rfl
  | _ => simp [isOver] at h

theorem Body.interrupt_of_isOver (h : body.isOver) : body.interrupt = body := by
  obtain ⟨stage, sent⟩ := body
  cases stage with
  | ended bodyEnd => rfl
  | _ => simp [isOver] at h

theorem Body.aclose_of_isOver (h : body.isOver) : body.aclose = body := by
  obtain ⟨stage, sent⟩ := body
  cases stage with
  | ended bodyEnd => rfl
  | _ => simp [isOver] at h

/-! ## Handles -/

/-- What `begin_export` has put together. -/
structure Prepared.Sound (c : Coordinator) (prepared : Prepared) : Prop where
  loaded : ∃ root, loadRecordingPair c.reader root prepared.recordingId = .ok prepared.descriptor
  descriptorBytes_eq : prepared.descriptorBytes = c.toJsonBytes prepared.descriptor
  boundary_eq : prepared.boundary = boundaryOf prepared.recordingId
  responseBytes_eq : prepared.responseBytes =
    responseBytesOf
      (multipartSections prepared.recordingId prepared.boundary prepared.descriptor.fileBytes)
      prepared.descriptorBytes prepared.descriptor.fileBytes

theorem of_verify {descriptor : RecordingStreamDescriptor} {inspection : Inspection}
    {identity : FileIdentity}
    (h : verifyRecordingForExport descriptor inspection = .ok identity) :
    identity.size = descriptor.fileBytes ∧
      checkRecording descriptor inspection.opened = .ok () := by
  unfold verifyRecordingForExport at h
  split at h
  · split at h
    · cases h
    · next hsize =>
        split at h
        · cases h
        next hcheck =>
          split at h
          · cases h
          split at h
          · cases h
            exact ⟨not_not.mp hsize, hcheck⟩
          · cases h
  · cases h

theorem isRecordingOf_of_check {descriptor : RecordingStreamDescriptor} {bytes : List UInt8}
    (h : checkRecording descriptor (some bytes) = .ok ()) : IsRecordingOf descriptor bytes := by
  unfold checkRecording at h
  split at h
  · cases h
  next limits _ =>
    simp only at h
    split at h
    · cases h
    next hok =>
      split at h
      · cases h
      next hcounts =>
        rw [Bool.not_eq_true, Option.isSome_eq_false_iff, Option.isNone_iff_eq_none,
          FramedRecordingReader.iterPackets_error_eq_none_iff] at hok
        obtain ⟨packets, rfl, hfits⟩ := hok
        obtain ⟨items, reader, hread, -, -, hpackets, hpayload, -⟩ :=
          FramedRecordingReader.iterPackets_recordingFile hfits
        rw [hread, hpackets, hpayload] at hcounts
        simp only [not_or, not_not] at hcounts
        exact ⟨packets, rfl, hfits.valid, hcounts.2.1, hcounts.2.2.1⟩

/-- A task that returned has validated the recording. -/
def WorkerEnd.Sound (prepared : Prepared) : WorkerEnd → Prop
  | .returned identity => ∃ inspection,
      verifyRecordingForExport prepared.descriptor.toRecordingStreamDescriptor inspection =
        .ok identity
  | _ => True

structure Response.Sound (c : Coordinator) (prepared : Prepared) (slot : ℕ) (response : Response) :
    Prop where
  prepared_sound : prepared.Sound c
  validated : (WorkerEnd.returned response.handle.fileIdentity).Sound prepared
  handle_eq : response.handle = prepared.handle response.handle.fileIdentity slot
  body_sound : response.body.Sound c.files response.handle

variable {response : Response} {slot : ℕ} {prepared : Prepared} {c : Coordinator}

theorem Response.Sound.length_bytesOf (h : response.Sound c prepared slot) :
    (c.files.bytesOf response.handle.fileIdentity).length = response.handle.fileBytes := by
  obtain ⟨inspection, hverify⟩ := h.validated
  rw [c.files.length_bytesOf, (of_verify hverify).1, h.handle_eq]
  rfl

theorem Response.Sound.reservation_eq (h : response.Sound c prepared slot) :
    response.handle.reservation = slot := by
  rw [h.handle_eq]
  rfl

theorem sound_workerEnd (prepared : Prepared) (run : Export.WorkerRun) :
    (run.workerEnd prepared.descriptor).Sound prepared := by
  cases run with
  | ran inspection =>
      simp only [Export.WorkerRun.workerEnd]
      split
      · next hok => exact ⟨inspection, hok⟩
      · trivial
  | raised failure => trivial
  | cancelled => trivial

theorem exists_root_of_loaded {recordingId : Uuid} {answer : LoadAnswer}
    {descriptor : StoredDescriptor} (h : c.loaded recordingId answer = .ok descriptor) :
    ∃ root, loadRecordingPair c.reader root recordingId = .ok descriptor := by
  cases answer with
  | cancelled => cases h
  | broken => cases h
  | ran root =>
      refine ⟨root, ?_⟩
      simp only [Coordinator.loaded] at h
      split at h
      · cases h
      · cases h
      · next hload =>
          cases h
          exact hload

theorem sound_prepare {recordingId : Uuid} {answer : LoadAnswer} {registry : RegistryAnswer}
    (h : c.prepare recordingId answer registry = .ok prepared) : prepared.Sound c := by
  unfold Coordinator.prepare at h
  cases hloaded : c.loaded recordingId answer with
  | error failure =>
      rw [hloaded] at h
      cases h
  | ok descriptor =>
      rw [hloaded] at h
      cases hdevice : findDevice registry with
      | error failure =>
          rw [hdevice] at h
          cases h
      | ok device =>
          rw [hdevice] at h
          cases hvalid : validateDevice device with
          | error failure =>
              simp only [bind, Except.bind, hvalid] at h
              cases h
          | ok =>
              simp only [bind, Except.bind, hvalid] at h
              split at h
              · cases h
              · cases h
                exact ⟨exists_root_of_loaded hloaded, rfl, rfl, rfl⟩

/-! ## Whole bodies -/

theorem Response.Sound.sent_eq (h : response.Sound c prepared slot)
    (hended : response.body.stage = .ended .exhausted) :
    response.body.sent = response.handle.front ++
      c.files.bytesOf response.handle.fileIdentity ++ response.handle.sections.footer := by
  have hbody := h.body_sound
  rwa [Body.Sound, hended] at hbody

theorem Response.Sound.whole (h : response.Sound c prepared slot)
    (hended : response.body.stage = .ended .exhausted) : response.Whole c := by
  obtain ⟨root, hload⟩ := h.prepared_sound.loaded
  obtain ⟨inspection, hverify⟩ := h.validated
  have hid : response.handle.recordingId = prepared.recordingId := by
    rw [h.handle_eq]
    rfl
  have hbytes : response.handle.descriptorBytes = c.toJsonBytes prepared.descriptor := by
    rw [h.handle_eq]
    exact h.prepared_sound.descriptorBytes_eq
  have hsections : response.handle.sections =
      multipartSections prepared.recordingId (boundaryOf prepared.recordingId)
        prepared.descriptor.fileBytes := by
    rw [h.handle_eq, ← h.prepared_sound.boundary_eq]
    rfl
  have hlength : response.handle.responseBytes =
      responseBytesOf response.handle.sections response.handle.descriptorBytes
        response.handle.fileBytes := by
    rw [h.handle_eq]
    exact h.prepared_sound.responseBytes_eq
  refine ⟨root, prepared.descriptor, inspection, by rw [hid, hload], hverify, ?_, ?_, ?_⟩
  · intro hopened
    have hcheck := (of_verify hverify).2
    rw [hopened] at hcheck
    exact isRecordingOf_of_check hcheck
  · rw [h.sent_eq hended, OperatorExportHandle.front, hbytes, hsections, hid]
  · rw [h.sent_eq hended, hlength, responseBytesOf, OperatorExportHandle.front]
    simp only [List.length_append, h.length_bytesOf]

/-! ## The announced length -/

theorem length_encodeAscii (text : Text) : (encodeAscii text).length = text.length :=
  List.length_map _

theorem length_codePoints (s : String) : (codePoints s).length = s.length := by
  rw [codePoints, List.length_map, String.length_toList]

theorem length_hexDigits (id : Uuid) : id.hexDigits.length = 32 := by
  rw [Uuid.hexDigits, List.length_map, List.length_range]

theorem length_text (id : Uuid) : id.text.length = 36 := by
  have hhex := length_hexDigits id
  rw [Uuid.text, codePoints, List.length_map, Uuid.str, String.toList_ofList]
  simp only [Uuid.hyphenate, List.length_append, List.length_cons, List.length_take,
    List.length_drop, hhex]
  rfl

theorem length_boundaryOf (id : Uuid) : (boundaryOf id).length = 35 := by
  have hprefix : "k5-".length = 3 := by decide
  rw [boundaryOf, List.length_append, length_codePoints, hprefix, List.length_map, length_hexDigits]

theorem responseBytesOf_eq (id : Uuid) (descriptorBytes : List UInt8) (fileBytes : ℕ) :
    responseBytesOf (multipartSections id (boundaryOf id) fileBytes) descriptorBytes fileBytes =
      393 + (toString fileBytes).length + descriptorBytes.length + fileBytes := by
  have htexts : "--".length + "\r\n".length + "Content-Type: application/json\r\n".length +
      "Content-Disposition: attachment; filename=\"".length + ".k5d\"\r\n".length +
      "\r\n".length + ("\r\n--".length + "\r\n".length +
      "Content-Type: application/vnd.k5.recording\r\n".length +
      "Content-Disposition: attachment; filename=\"".length + ".k5r\"\r\n".length +
      "Content-Length: ".length + "\r\n".length + "\r\n".length) +
      ("\r\n--".length + "--\r\n".length) = 216 := by
    decide +kernel
  simp only [responseBytesOf, multipartSections, length_encodeAscii, List.length_append,
    length_codePoints, length_boundaryOf, length_text]
  omega

end K5Vision.Media.Exports
