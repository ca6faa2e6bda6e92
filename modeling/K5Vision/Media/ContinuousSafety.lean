import K5Vision.Media.ContinuousRecording
import K5Vision.Media.RecordedPlayback

/-!
# The segments of a continuous recording

The segments that `record_continuous` has finalized, read back one after the other, are the
packets that its consumer took (`continuously_recorded`).  `Rotated` says so in the middle of a
delivery: the finalized segments hold the first packets, and the active one the rest.  A packet
that fills a segment goes to the end of the active packets first, and then they become the next
finalized segment (`rotated_finalizeSegment`).

A failure can leave or take away files of the active segment only: `Left` is what every step
keeps, failed or not.

Behind the default segment size, `maxSegments` full segments hold the whole goal
(`packetGoal_le_of_default`), so the budget of packets ends before the segments do.
-/

namespace K5Vision.Media

open Library Identity

set_option linter.unusedSectionVars false

/-! ## Reading segments back -/

def readBack (root : RecordingRoot) (id : Uuid) : Trace FramedRecordingError ReadPacket :=
  ((FramedRecordingReader.create .default).iterPackets (root.recordings id)).1

def payloads (root : RecordingRoot) (id : Uuid) : List Packet :=
  (readBack root id).items.map ReadPacket.payload

/-- The recordings of the receipts are the packets, and the receipts count them. -/
structure ReadsBack (root : RecordingRoot) (receipts : List SegmentReceipt)
    (packets : List Packet) : Prop where
  intact : ∀ receipt ∈ receipts, (readBack root receipt.recordingId).error = none
  packets_eq : receipts.flatMap (fun receipt => payloads root receipt.recordingId) = packets
  counted : ∀ receipt ∈ receipts,
    receipt.packetCount = (payloads root receipt.recordingId).length ∧
      receipt.payloadBytes = payloadTotal (payloads root receipt.recordingId)
  described : ∀ receipt ∈ receipts, ∃ descriptor,
    root.descriptors receipt.recordingId = some descriptor ∧
      descriptor.packetCount = receipt.packetCount ∧
      descriptor.payloadBytes = receipt.payloadBytes ∧ descriptor.durationMs = receipt.durationMs

/-- A finalized segment with its packets. -/
structure StoredSegment (limits : FramedLimits) (root : RecordingRoot) (receipt : SegmentReceipt)
    (ps : List Packet) : Prop where
  recording : root.recordings receipt.recordingId = some (recordingFile ps)
  fits : Fits limits 0 0 ps
  packetCount : receipt.packetCount = ps.length
  payloadBytes : receipt.payloadBytes = payloadTotal ps
  described : ∃ descriptor, root.descriptors receipt.recordingId = some descriptor ∧
    descriptor.packetCount = receipt.packetCount ∧
    descriptor.payloadBytes = receipt.payloadBytes ∧ descriptor.durationMs = receipt.durationMs

variable {coordinator : ContinuousRecordingCoordinator} {source : ResolvedLiveSource}
  {env : ContinuousEnvironment} {start root : RecordingRoot} {session next : ContinuousSession}
  {segments : List (List Packet)} {active : List Packet} {limits : FramedLimits}
  {receipt : SegmentReceipt} {receipts : List SegmentReceipt} {ps : List Packet}

theorem segmentLimits_le : coordinator.segmentLimits.Le .default where
  packets := coordinator.segmentLimits.maxPackets_mem.2
  payloadBytes := coordinator.segmentLimits.maxPayloadBytes_mem.2
  packetBytes := le_rfl

theorem StoredSegment.readBack_eq (h : StoredSegment limits root receipt ps)
    (hle : limits.Le .default) : (readBack root receipt.recordingId).error = none ∧
      payloads root receipt.recordingId = ps := by
  obtain ⟨items, reader, hread, hpayload, -⟩ :=
    FramedRecordingReader.iterPackets_recordingFile (h.fits.mono hle)
  have heq : readBack root receipt.recordingId = ⟨items, none⟩ := by
    rw [readBack, h.recording, hread]
  rw [payloads, heq]
  exact ⟨rfl, hpayload⟩

/-- The pair of an identifier is as it was. -/
def Unchanged (start root : RecordingRoot) (id : Uuid) : Prop :=
  root.recordings id = start.recordings id ∧ root.descriptors id = start.descriptors id

theorem StoredSegment.congr {later : RecordingRoot} (h : StoredSegment limits root receipt ps)
    (hsame : Unchanged root later receipt.recordingId) :
    StoredSegment limits later receipt ps where
  recording := hsame.1.trans h.recording
  __ := h
  described := by
    rw [hsame.2]
    exact h.described

theorem stored_congr {later : RecordingRoot}
    (h : List.Forall₂ (StoredSegment limits root) receipts segments)
    (hsame : ∀ receipt ∈ receipts, Unchanged root later receipt.recordingId) :
    List.Forall₂ (StoredSegment limits later) receipts segments := by
  induction h with
  | nil => exact .nil
  | cons hstored _ ih =>
      rw [List.forall_mem_cons] at hsame
      exact .cons (hstored.congr hsame.1) (ih hsame.2)

theorem readsBack_of_stored (hle : limits.Le .default)
    (h : List.Forall₂ (StoredSegment limits root) receipts segments) :
    ReadsBack root receipts segments.flatten := by
  induction h with
  | nil => exact ⟨by simp, rfl, by simp, by simp⟩
  | @cons receipt ps receipts segments hstored _ ih =>
      obtain ⟨herror, hpayloads⟩ := hstored.readBack_eq hle
      constructor
      case intact => exact List.forall_mem_cons.mpr ⟨herror, ih.intact⟩
      case packets_eq =>
        rw [List.flatMap_cons, hpayloads, ih.packets_eq, List.flatten_cons]
      case counted =>
        refine List.forall_mem_cons.mpr ⟨?_, ih.counted⟩
        rw [hpayloads]
        exact ⟨hstored.packetCount, hstored.payloadBytes⟩
      case described => exact List.forall_mem_cons.mpr ⟨hstored.described, ih.described⟩

theorem sum_packetCount (h : List.Forall₂ (StoredSegment limits root) receipts segments) :
    (receipts.map SegmentReceipt.packetCount).sum = segments.flatten.length ∧
      (receipts.map SegmentReceipt.payloadBytes).sum = payloadTotal segments.flatten := by
  induction h with
  | nil => exact ⟨rfl, rfl⟩
  | cons hstored _ ih =>
      simp only [List.map_cons, List.sum_cons, List.flatten_cons, List.length_append,
        payloadTotal_append, ih.1, ih.2, hstored.packetCount, hstored.payloadBytes, and_self]

/-! ## What every step keeps -/

/-- `uuid4()` gives identifiers that are new in the root. -/
structure FreshIds (coordinator : ContinuousRecordingCoordinator) (env : ContinuousEnvironment)
    (start : RecordingRoot) : Prop where
  unused : ∀ i < coordinator.maxSegments,
    start.recordings (env.segment i).recordingId = none ∧
      start.descriptors (env.segment i).recordingId = none
  distinct : ∀ i < coordinator.maxSegments, ∀ j < coordinator.maxSegments,
    (env.segment i).recordingId = (env.segment j).recordingId → i = j

def IsFinalized (env : ContinuousEnvironment) (session : ContinuousSession) (id : Uuid) : Prop :=
  ∃ i < session.segmentReceipts.length, id = (env.segment i).recordingId

def activeId (env : ContinuousEnvironment) (session : ContinuousSession) : Uuid :=
  (env.segment session.segmentReceipts.length).recordingId

/-- What holds of the root at all times: finalized segments stay, and other files than those of
the active segment are as they were. -/
structure Left (coordinator : ContinuousRecordingCoordinator) (env : ContinuousEnvironment)
    (start : RecordingRoot) (session : ContinuousSession) (segments : List (List Packet)) :
    Prop where
  stored : List.Forall₂ (StoredSegment coordinator.segmentLimits session.root)
    session.segmentReceipts segments
  ids : session.segmentReceipts.map SegmentReceipt.recordingId =
    (List.range session.segmentReceipts.length).map fun i => (env.segment i).recordingId
  length_le : session.segmentReceipts.length ≤ coordinator.maxSegments
  accepted : segments.flatten.length ≤ session.totalPackets
  others : ∀ id, ¬ IsFinalized env session id → id ≠ activeId env session →
    Unchanged start session.root id
  cleaned : session.active = none → env.unlinks = ⟨true, true⟩ →
    ∀ id, ¬ IsFinalized env session id → Unchanged start session.root id
  active : ∀ segment, session.active = some segment →
    segment.recordingId = activeId env session ∧
      session.segmentReceipts.length < coordinator.maxSegments

theorem Left.isFinalized_iff (h : Left coordinator env start session segments) {id : Uuid} :
    IsFinalized env session id ↔ ∃ receipt ∈ session.segmentReceipts, receipt.recordingId = id := by
  have hmem : id ∈ session.segmentReceipts.map SegmentReceipt.recordingId ↔ _ := List.mem_map
  rw [← hmem, h.ids, List.mem_map]
  constructor
  · rintro ⟨i, hlt, rfl⟩
    exact ⟨i, List.mem_range.mpr hlt, rfl⟩
  · rintro ⟨i, hlt, rfl⟩
    exact ⟨i, List.mem_range.mp hlt, rfl⟩

theorem Left.finalized (h : Left coordinator env start session segments) {receipt : SegmentReceipt}
    (hreceipt : receipt ∈ session.segmentReceipts) :
    IsFinalized env session receipt.recordingId :=
  h.isFinalized_iff.mpr ⟨receipt, hreceipt, rfl⟩

theorem Left.not_finalized (hfresh : FreshIds coordinator env start)
    (hactive : session.segmentReceipts.length < coordinator.maxSegments)
    {id : Uuid} (hid : IsFinalized env session id) : id ≠ activeId env session := by
  obtain ⟨i, hlt, rfl⟩ := hid
  intro heq
  exact hlt.ne (hfresh.distinct i (hlt.trans hactive) _ hactive heq)

theorem Left.change (h : Left coordinator env start session segments)
    (hfresh : FreshIds coordinator env start)
    (hactive : session.segmentReceipts.length < coordinator.maxSegments)
    (hreceipts : next.segmentReceipts = session.segmentReceipts)
    (htotal : next.totalPackets = session.totalPackets)
    (hroot : ∀ id, id ≠ activeId env session → Unchanged session.root next.root id)
    (hnone : next.active = none → env.unlinks = ⟨true, true⟩ →
      next.root.recordings (activeId env session) = none ∧
        next.root.descriptors (activeId env session) = none)
    (hsome : ∀ segment, next.active = some segment →
      segment.recordingId = activeId env session) :
    Left coordinator env start next segments := by
  have hfinalized : ∀ id, IsFinalized env next id ↔ IsFinalized env session id := fun id => by
    unfold IsFinalized
    rw [hreceipts]
  have hid : activeId env next = activeId env session := by
    unfold activeId
    rw [hreceipts]
  have hothers : ∀ id, ¬ IsFinalized env next id → id ≠ activeId env next →
      Unchanged start next.root id := by
    intro id hnot hne
    rw [hfinalized] at hnot
    rw [hid] at hne
    obtain ⟨hrecording, hdescriptor⟩ := h.others id hnot hne
    exact ⟨(hroot id hne).1.trans hrecording, (hroot id hne).2.trans hdescriptor⟩
  constructor
  case stored =>
    rw [hreceipts]
    refine stored_congr h.stored fun receipt hreceipt => hroot _ ?_
    exact Left.not_finalized hfresh hactive (h.finalized hreceipt)
  case ids =>
    rw [hreceipts]
    exact h.ids
  case length_le =>
    rw [hreceipts]
    exact h.length_le
  case accepted =>
    rw [htotal]
    exact h.accepted
  case others => exact hothers
  case cleaned =>
    intro hinactive hunlinks id hnot
    by_cases hne : id = activeId env next
    · obtain ⟨hrecording, hdescriptor⟩ := hfresh.unused _ hactive
      obtain ⟨hgone, hundescribed⟩ := hnone hinactive hunlinks
      subst hne
      rw [hid]
      exact ⟨hgone.trans hrecording.symm, hundescribed.trans hdescriptor.symm⟩
    · exact hothers id hnot hne
  case active =>
    intro segment hsegment
    rw [hid, hreceipts]
    exact ⟨hsome segment hsegment, hactive⟩

/-! ## One segment -/

open ContinuousRecordingCoordinator

def exhausted : RecordFailure :=
  recordingFailed "continuous recording segment capacity was exhausted"

/-- How a step can end: well, or with a failure that leaves the root in order.  Only full segments
that are fewer than the goal needs can be used up. -/
def EndsIn (coordinator : ContinuousRecordingCoordinator) (done left : ContinuousSession → Prop) :
    Except RecordFailure Unit × ContinuousSession → Prop
  | (.ok (), session) => done session
  | (.error failure, session) => left session ∧ (failure = exhausted →
      coordinator.maxSegments * coordinator.segmentPacketGoal < coordinator.packetGoal)

def Writes (limits : FramedLimits) (sink : FramedAtomicRecordingSink) (ps : List Packet) : Prop :=
  ∃ calls, FramedAtomicRecordingSink.Attempt.run limits calls = ⟨sink, ps⟩

variable {sink : FramedAtomicRecordingSink}

theorem Writes.recorded (h : Writes limits sink ps)
    (hstate : sink.state = .opened ∨ sink.state = .finalized) : sink.file = recordingFile ps ∧
      sink.packets = ps.length ∧ sink.payloadBytes = payloadTotal ps ∧ Fits limits 0 0 ps := by
  obtain ⟨calls, hrun⟩ := h
  have hinv := FramedAtomicRecordingSink.Attempt.invariant_run limits calls
  have hlimits := FramedAtomicRecordingSink.Attempt.limits_run limits calls
  rw [hrun] at hinv hlimits
  obtain ⟨hfile, hpackets, hpayload, -, hfits⟩ := hinv.recorded hstate
  exact ⟨hfile, hpackets, hpayload, hlimits ▸ hfits⟩

theorem Writes.call (h : Writes limits sink ps) (call : FramedAtomicRecordingSink.Call) :
    Writes limits (FramedAtomicRecordingSink.Attempt.step ⟨sink, ps⟩ call).sink
      (FramedAtomicRecordingSink.Attempt.step ⟨sink, ps⟩ call).accepted := by
  obtain ⟨calls, hrun⟩ := h
  refine ⟨calls ++ [call], ?_⟩
  rw [FramedAtomicRecordingSink.Attempt.run, List.foldl_append,
    ← FramedAtomicRecordingSink.Attempt.run, hrun]
  rfl

variable {packet : Packet}

theorem opened_of_write {later : FramedAtomicRecordingSink} {worker : WorkerOutcome}
    (h : sink.write packet worker = (.ok (), later)) : later.state = .opened := by
  unfold FramedAtomicRecordingSink.write at h
  split_ifs at h with hopened
  · cases (Prod.mk.inj h).1
  · cases (Prod.mk.inj h).1
  · cases (Prod.mk.inj h).1
  cases worker with
  | done =>
      rw [← (Prod.mk.inj h).2]
      exact not_not.mp hopened
  | conflict => cases (Prod.mk.inj h).1
  | osError => cases (Prod.mk.inj h).1
  | cancelled cleaned => cases cleaned <;> cases (Prod.mk.inj h).1

/-- The finalized segments hold the first packets, and the active one holds the others. -/
structure Rotated (coordinator : ContinuousRecordingCoordinator) (env : ContinuousEnvironment)
    (start : RecordingRoot) (session : ContinuousSession) (segments : List (List Packet))
    (active : List Packet) : Prop where
  left : Left coordinator env start session segments
  packets : session.totalPackets = segments.flatten.length + active.length
  bytes : session.totalPayloadBytes = payloadTotal segments.flatten + payloadTotal active
  untouched : ∀ id, ¬ IsFinalized env session id → Unchanged start session.root id
  writing : ∀ segment, session.active = some segment →
    Writes coordinator.segmentLimits segment.recorder.sink active
  idle : session.active = none → active = []

theorem Left.abort (h : Left coordinator env start session segments)
    (hfresh : FreshIds coordinator env start) :
    Left coordinator env start (abortActiveSegment env session) segments := by
  unfold abortActiveSegment
  cases hactive : session.active with
  | none => exact h
  | some segment =>
      obtain ⟨hid, hlt⟩ := h.active segment hactive
      refine h.change hfresh hlt rfl rfl (fun id hne => ?_) (fun _ hunlinks => ?_) (by simp)
      · rw [← hid] at hne
        unfold Unchanged RecordingRoot.deletePair
        split_ifs <;> simp [hne]
      · rw [← hid, hunlinks]
        simp [RecordingRoot.deletePair]

variable {segment : ActiveSegment}

theorem Left.publish (h : Left coordinator env start session segments)
    (hfresh : FreshIds coordinator env start) (hactive : session.active = some segment)
    (recorder : BoundedRtpRecorder) (published : Bool) (file : List UInt8) :
    Left coordinator env start { session with
      root := if published then session.root.publish segment.recordingId file else session.root
      active := some ⟨segment.recordingId, recorder⟩ } segments := by
  obtain ⟨hid, hlt⟩ := h.active segment hactive
  refine h.change hfresh hlt rfl rfl (fun id hne => ?_) (by simp) (fun other hother => ?_)
  · rw [← hid] at hne
    dsimp only
    unfold Unchanged RecordingRoot.publish
    split_ifs <;> simp [hne]
  · cases hother
    exact hid

theorem Left.describe (h : Left coordinator env start session segments)
    (hfresh : FreshIds coordinator env start) (hactive : session.active = some segment)
    (descriptor : RecordingStreamDescriptor) :
    Left coordinator env start { session with
      root := session.root.describe segment.recordingId descriptor } segments := by
  obtain ⟨hid, hlt⟩ := h.active segment hactive
  refine h.change hfresh hlt rfl rfl (fun id hne => ?_) (by simp [hactive])
    (fun other hother => (h.active other hother).1)
  rw [← hid] at hne
  simp [Unchanged, RecordingRoot.describe, hne]

theorem recordingFailed_ne {message : String}
    (hmessage : message ≠ "continuous recording segment capacity was exhausted") :
    recordingFailed message ≠ exhausted := by
  intro heq
  simp only [exhausted, recordingFailed, RecordFailure.operator.injEq,
    OperatorRecordingError.mk.injEq, true_and] at heq
  exact hmessage heq

theorem ends_failed (h : Left coordinator env start session segments)
    (hfresh : FreshIds coordinator env start) {message : String}
    (hmessage : message ≠ "continuous recording segment capacity was exhausted")
    {done : ContinuousSession → Prop} :
    EndsIn coordinator done (fun next => Left coordinator env start next segments)
      (finalizeFailed env session message) :=
  ⟨h.abort hfresh, fun heq => absurd heq (recordingFailed_ne hmessage)⟩

/-- The session behind a segment that was finalized. -/
def ContinuousSession.finished (session : ContinuousSession) (segment : ActiveSegment)
    (descriptor : RecordingStreamDescriptor) (durationMs : ℕ) : ContinuousSession :=
  { session with
    root := session.root.describe segment.recordingId descriptor
    active := none
    firstTimestamp := none
    lastTimestamp := none
    segmentReceipts := session.segmentReceipts ++ [⟨segment.recordingId,
      segment.recorder.sink.packets, segment.recorder.sink.payloadBytes, durationMs⟩] }

theorem ends_describeSegment {outcome : SegmentOutcome} {first last : ℕ} {origin : ℕ × Datetime}
    (h : Left coordinator env start session segments) (hfresh : FreshIds coordinator env start)
    (hactive : session.active = some segment) :
    EndsIn coordinator
      (fun next => ∃ descriptor, next = session.finished segment descriptor
          (recordedDurationMs first last) ∧
        descriptor.packetCount = segment.recorder.sink.packets ∧
        descriptor.payloadBytes = segment.recorder.sink.payloadBytes ∧
        descriptor.durationMs = recordedDurationMs first last)
      (fun next => Left coordinator env start next segments)
      (describeSegment source env outcome session segment first last origin) := by
  have hmessage : "continuous recording segment could not be finalized" ≠
      "continuous recording segment capacity was exhausted" := by decide
  unfold describeSegment
  dsimp only
  split
  · exact ends_failed h hfresh hmessage
  split
  · exact ends_failed h hfresh hmessage
  rename_i descriptor hbuild
  obtain ⟨ended, rfl⟩ := buildDescriptor_eq_ok hbuild
  split
  · exact ends_failed h hfresh hmessage
  · refine ⟨?_, by rintro ⟨⟩⟩
    split_ifs
    · exact h.describe hfresh hactive _
    · exact h
  · split
    · exact ends_failed (h.describe hfresh hactive _) hfresh hmessage
    · exact ⟨_, rfl, rfl, rfl, rfl⟩

theorem EndsIn.imp {done after left failed : ContinuousSession → Prop}
    {result : Except RecordFailure Unit × ContinuousSession} (h : EndsIn coordinator done left result)
    (hdone : ∀ session, done session → after session)
    (hleft : ∀ session, left session → failed session) :
    EndsIn coordinator after failed result := by
  obtain ⟨outcome, session⟩ := result
  cases outcome with
  | ok => exact hdone session h
  | error => exact ⟨hleft session h.1, h.2⟩

theorem isFinalized_succ (hlength : next.segmentReceipts.length =
    session.segmentReceipts.length + 1) (id : Uuid) :
    IsFinalized env next id ↔ IsFinalized env session id ∨ id = activeId env session := by
  unfold IsFinalized activeId
  rw [hlength]
  constructor
  · rintro ⟨i, hlt, rfl⟩
    rcases Nat.lt_succ_iff_lt_or_eq.mp hlt with hlt | rfl
    · exact .inl ⟨i, hlt, rfl⟩
    · exact .inr rfl
  · rintro (⟨i, hlt, rfl⟩ | rfl)
    · exact ⟨i, hlt.trans (Nat.lt_succ_self _), rfl⟩
    · exact ⟨_, Nat.lt_succ_self _, rfl⟩

theorem Rotated.finished {recorder : BoundedRtpRecorder} {descriptor : RecordingStreamDescriptor}
    {durationMs : ℕ} (h : Rotated coordinator env start session segments active)
    (hfresh : FreshIds coordinator env start) (hactive : session.active = some segment)
    (hwrites : Writes coordinator.segmentLimits recorder.sink active)
    (hstate : recorder.sink.state = .finalized)
    (hpackets : descriptor.packetCount = recorder.sink.packets)
    (hpayload : descriptor.payloadBytes = recorder.sink.payloadBytes)
    (hduration : descriptor.durationMs = durationMs) (hnext : next = { session with
      root := session.root.publish segment.recordingId recorder.sink.file
      active := some ⟨segment.recordingId, recorder⟩ }.finished ⟨segment.recordingId, recorder⟩
        descriptor durationMs) : Rotated coordinator env start next (segments ++ [active]) [] := by
  obtain ⟨hid, hlt⟩ := h.left.active segment hactive
  obtain ⟨hfile, hcount, hbytes, hfits⟩ := hwrites.recorded (.inr hstate)
  have hreceipts : next.segmentReceipts = session.segmentReceipts ++ [⟨segment.recordingId,
      recorder.sink.packets, recorder.sink.payloadBytes, durationMs⟩] := by
    rw [hnext]
    rfl
  have hlength : next.segmentReceipts.length = session.segmentReceipts.length + 1 := by
    rw [hreceipts]
    simp
  have hroot : ∀ id, id ≠ segment.recordingId → Unchanged session.root next.root id := by
    intro id hne
    rw [hnext]
    simp [Unchanged, ContinuousSession.finished, RecordingRoot.publish, RecordingRoot.describe, hne]
  have huntouched : ∀ id, ¬ IsFinalized env next id → Unchanged start next.root id := by
    intro id hnot
    rw [isFinalized_succ hlength, not_or] at hnot
    have hsame := hroot id (hid ▸ hnot.2)
    obtain ⟨hrecording, hdescriptor⟩ := h.untouched id hnot.1
    exact ⟨hsame.1.trans hrecording, hsame.2.trans hdescriptor⟩
  have htotal : next.totalPackets = (segments ++ [active]).flatten.length := by
    rw [hnext]
    simp [ContinuousSession.finished, h.packets]
  have hinactive : next.active = none := by
    rw [hnext]
    rfl
  refine ⟨⟨?_, ?_, ?_, htotal.ge, fun id hnot _ => huntouched id hnot,
    fun _ _ => huntouched, fun segment hsegment => ?_⟩, by simpa using htotal, ?_, huntouched,
    fun segment hsegment => ?_, fun _ => rfl⟩
  · have hold : List.Forall₂ (StoredSegment coordinator.segmentLimits next.root)
        session.segmentReceipts segments := by
      refine stored_congr h.left.stored fun receipt hreceipt => hroot _ ?_
      rw [hid]
      exact Left.not_finalized hfresh hlt (h.left.finalized hreceipt)
    have hnew : StoredSegment coordinator.segmentLimits next.root ⟨segment.recordingId,
        recorder.sink.packets, recorder.sink.payloadBytes, durationMs⟩ active := by
      refine ⟨?_, hfits, hcount, hbytes, descriptor, ?_, hpackets, hpayload, hduration⟩
      · rw [hnext, ← hfile]
        simp [ContinuousSession.finished, RecordingRoot.publish, RecordingRoot.describe]
      · rw [hnext]
        simp [ContinuousSession.finished, RecordingRoot.publish, RecordingRoot.describe]
    rw [hreceipts]
    exact List.rel_append hold (.cons hnew .nil)
  · rw [hlength, List.range_succ, List.map_append, ← h.left.ids, hreceipts, List.map_append]
    simp [hid, activeId]
  · rw [hlength]
    exact hlt
  · rw [hinactive] at hsegment
    cases hsegment
  · rw [hnext]
    simp [ContinuousSession.finished, h.bytes]
  · rw [hinactive] at hsegment
    cases hsegment

theorem ends_finalizeSegment (h : Rotated coordinator env start session segments active)
    (hfresh : FreshIds coordinator env start) (hactive : session.active = some segment) :
    EndsIn coordinator (fun next => Rotated coordinator env start next (segments ++ [active]) [] ∧
        next.active = none ∧ next.totalPackets = session.totalPackets)
      (fun next => Left coordinator env start next segments)
      (finalizeSegment source env session) := by
  unfold finalizeSegment
  rw [hactive]
  dsimp only
  split
  case h_2 => exact ⟨h.left, fun heq => absurd heq (recordingFailed_ne (by decide))⟩
  rename_i first last origin _ _ _
  generalize hfinalize : segment.recorder.finalize
    (env.segment session.segmentReceipts.length).finalizeCall env.abortWorker = finalized
  obtain ⟨result, recorder⟩ := finalized
  have hpublish := fun published file => h.left.publish hfresh hactive recorder published file
  cases result with
  | error failure =>
      cases failure with
      | cancelled => exact ⟨hpublish _ _, by rintro ⟨⟩⟩
      | error error => exact ends_failed (hpublish _ _) hfresh (by decide)
  | ok =>
      dsimp only
      split
      · exact ends_failed (hpublish _ _) hfresh (by decide)
      rename_i hstate
      simp only [Bool.or_eq_true, decide_eq_true_eq, not_or, not_not] at hstate
      have hwrites : Writes coordinator.segmentLimits recorder.sink active := by
        rcases BoundedRtpRecorder.sink_of_finalize hfinalize with hsink | hsink
        · rw [hsink]
          exact h.writing segment hactive
        · rw [hsink]
          exact (h.writing segment hactive).call (.finalize _)
      refine (ends_describeSegment (hpublish _ _) hfresh rfl).imp ?_ fun _ hleft => hleft
      rintro next ⟨descriptor, hnext, hpackets, hpayload, hduration⟩
      exact ⟨h.finished hfresh hactive hwrites hstate.2 hpackets hpayload hduration hnext,
        by rw [hnext]; rfl, by rw [hnext]; rfl⟩

/-! ## The delivery -/

/-- Every finalized segment is full. -/
def Full (coordinator : ContinuousRecordingCoordinator) (segments : List (List Packet)) : Prop :=
  ∀ ps ∈ segments, coordinator.segmentPacketGoal ≤ ps.length

theorem Full.length_mul_le (h : Full coordinator segments) :
    segments.length * coordinator.segmentPacketGoal ≤ segments.flatten.length := by
  induction segments with
  | nil => simp
  | cons ps rest ih =>
      obtain ⟨hps, hrest⟩ := List.forall_mem_cons.mp h
      have := ih hrest
      rw [List.length_cons, List.flatten_cons, List.length_append, Nat.succ_mul]
      omega

/-- A segment is started within the packet budget, so only segments that are too few for it can
be used up. -/
theorem ends_startSegment {timestamp : ℕ} (h : Rotated coordinator env start session segments [])
    (hfresh : FreshIds coordinator env start) (hfull : Full coordinator segments)
    (hbudget : session.totalPackets < coordinator.packetGoal) :
    EndsIn coordinator (fun next => Rotated coordinator env start next segments [] ∧
        next.active.isSome ∧ next.totalPackets = session.totalPackets)
      (fun next => Left coordinator env start next segments)
      (coordinator.startSegment env session timestamp) := by
  unfold startSegment
  split
  · rename_i hused
    refine ⟨h.left, fun _ => ?_⟩
    have hlength := h.left.stored.length_eq
    have hpackets := h.packets
    rw [List.length_nil, Nat.add_zero] at hpackets
    calc coordinator.maxSegments * coordinator.segmentPacketGoal
        ≤ segments.length * coordinator.segmentPacketGoal :=
          Nat.mul_le_mul_right _ (hlength ▸ hused)
      _ ≤ segments.flatten.length := hfull.length_mul_le
      _ = session.totalPackets := hpackets.symm
      _ < coordinator.packetGoal := hbudget
  rename_i hlt
  rw [not_le] at hlt
  dsimp only
  generalize hstart : coordinator.segmentRecorder.start
    (env.segment session.segmentReceipts.length).startCall env.abortWorker = started
  obtain ⟨result, recorder⟩ := started
  have hleft : Left coordinator env start { session with
      active := some ⟨(env.segment session.segmentReceipts.length).recordingId, recorder⟩ }
      segments := by
    refine h.left.change hfresh hlt rfl rfl (fun _ _ => ⟨rfl, rfl⟩) (by simp) ?_
    rintro segment ⟨⟩
    rfl
  cases result with
  | error failure => exact ⟨hleft, by rintro ⟨⟩⟩
  | ok =>
      refine ⟨⟨{ hleft with cleaned := (fun hnone => by cases hnone) }, h.packets, h.bytes, h.untouched, ?_,
        (fun hnone => by cases hnone)⟩, rfl, rfl⟩
      rintro segment ⟨⟩
      refine ⟨[.openFile (env.segment session.segmentReceipts.length).startCall.worker], ?_⟩
      rw [BoundedRtpRecorder.sink_of_start rfl hstart]
      rfl

structure Between (coordinator : ContinuousRecordingCoordinator) (env : ContinuousEnvironment)
    (start : RecordingRoot) (taken : List Packet) (session : ContinuousSession) : Prop where
  rotated : ∃ segments active, Rotated coordinator env start session segments active ∧
    Full coordinator segments ∧ segments.flatten ++ active = taken

/-- A failure leaves finalized segments with the first of the packets. -/
def LeftFirst (coordinator : ContinuousRecordingCoordinator) (env : ContinuousEnvironment)
    (start : RecordingRoot) (packets : List Packet) (session : ContinuousSession) : Prop :=
  ∃ segments, Left coordinator env start session segments ∧
    segments.flatten <+: packets.take session.totalPackets

variable {taken packets : List Packet}

theorem Left.leftFirst (h : Left coordinator env start session segments)
    (htaken : segments.flatten ++ active = taken) (hwithin : taken <+: packets) :
    LeftFirst coordinator env start packets session := by
  refine ⟨segments, h, ?_⟩
  have hfirst : segments.flatten <+: packets :=
    (htaken ▸ List.prefix_append segments.flatten active).trans hwithin
  rw [List.prefix_take_iff]
  exact ⟨hfirst, h.accepted⟩

theorem ends_consumeActive {outcome : CallOutcome}
    (h : Rotated coordinator env start session segments active)
    (hfresh : FreshIds coordinator env start) (hfull : Full coordinator segments)
    (htaken : segments.flatten ++ active = taken) (hwithin : taken ++ [packet] <+: packets)
    (hactive : session.active.isSome) :
    EndsIn coordinator (Between coordinator env start (taken ++ [packet]))
      (LeftFirst coordinator env start packets)
      (coordinator.consumeActive source env session packet outcome) := by
  obtain ⟨segment, hsegment⟩ := Option.isSome_iff_exists.mp hactive
  have hshort : taken <+: packets := (List.prefix_append taken [packet]).trans hwithin
  obtain ⟨hid, hlt⟩ := h.left.active segment hsegment
  unfold consumeActive
  rw [hsegment]
  dsimp only
  generalize hconsume : segment.recorder.consume packet outcome env.abortWorker = consumed
  obtain ⟨result, recorder⟩ := consumed
  cases result with
  | error failure =>
      have hleft : Left coordinator env start { session with
          active := some ⟨segment.recordingId, recorder⟩ } segments := by
        refine h.left.change hfresh hlt rfl rfl (fun _ _ => ⟨rfl, rfl⟩) (by simp) ?_
        rintro other ⟨⟩
        exact hid
      exact ⟨hleft.leftFirst htaken hshort, by rintro ⟨⟩⟩
  | ok =>
      dsimp only
      have hwrite := BoundedRtpRecorder.sink_of_consume hconsume
      have hwrites : Writes coordinator.segmentLimits recorder.sink (active ++ [packet]) := by
        have hcall := (h.writing segment hsegment).call (.write packet outcome.worker)
        simpa only [FramedAtomicRecordingSink.Attempt.step, hwrite] using hcall
      have hcounted : Rotated coordinator env start { session with
          active := some ⟨segment.recordingId, recorder⟩
          lastTimestamp := some (rtpTimestamp packet)
          totalPackets := session.totalPackets + 1
          totalPayloadBytes := session.totalPayloadBytes + packet.length }
          segments (active ++ [packet]) := by
        refine ⟨⟨h.left.stored, h.left.ids, h.left.length_le, h.left.accepted.trans (Nat.le_succ _),
          h.left.others, (fun hnone => by cases hnone), ?_⟩, ?_, ?_, h.untouched, ?_,
          (fun hnone => by cases hnone)⟩
        · rintro other ⟨⟩
          exact ⟨hid, hlt⟩
        · simp [h.packets, Nat.add_assoc]
        · simp [h.bytes, Nat.add_assoc]
        · rintro other ⟨⟩
          exact hwrites
      have htaken' : segments.flatten ++ (active ++ [packet]) = taken ++ [packet] := by
        rw [← List.append_assoc, htaken]
      split
      · rename_i hgoal
        have hlength := (hwrites.recorded (.inl (opened_of_write hwrite))).2.1
        refine (ends_finalizeSegment hcounted hfresh rfl).imp ?_
          fun _ hleft => hleft.leftFirst htaken' hwithin
        rintro next ⟨hrotated, -, -⟩
        refine ⟨segments ++ [active ++ [packet]], [], hrotated, ?_, by simpa using htaken'⟩
        refine List.forall_mem_append.mpr ⟨hfull, ?_⟩
        rw [List.forall_mem_singleton, ← hlength]
        exact hgoal
      · exact ⟨segments, active ++ [packet], hcounted, hfull, htaken'⟩

theorem ends_consume {outcome : CallOutcome} (h : Between coordinator env start taken session)
    (hfresh : FreshIds coordinator env start) (hwithin : taken ++ [packet] <+: packets) :
    EndsIn coordinator (Between coordinator env start (taken ++ [packet]))
      (LeftFirst coordinator env start packets)
      (coordinator.consume source env session packet outcome) := by
  obtain ⟨segments, active, hrotated, hfull, htaken⟩ := h.rotated
  have hshort : taken <+: packets := (List.prefix_append taken [packet]).trans hwithin
  have hleft := hrotated.left.leftFirst htaken hshort
  unfold consume
  split
  · exact ⟨hleft, fun heq => absurd heq (recordingFailed_ne (by decide))⟩
  split
  · exact ⟨hleft, fun heq => absurd heq (recordingFailed_ne (by decide))⟩
  rename_i hbudget
  cases hactive : session.active with
  | some segment =>
      exact ends_consumeActive hrotated hfresh hfull htaken hwithin (by simp [hactive])
  | none =>
      have hnil := hrotated.idle hactive
      subst hnil
      have hstart : EndsIn coordinator _ _ (coordinator.startSegment env session
          (rtpTimestamp packet)) :=
        ends_startSegment hrotated hfresh hfull (not_le.mp hbudget)
      generalize coordinator.startSegment env session (rtpTimestamp packet) = started at hstart ⊢
      obtain ⟨result, started⟩ := started
      cases result with
      | error failure => exact ⟨hstart.1.leftFirst htaken hshort, hstart.2⟩
      | ok =>
          exact ends_consumeActive hstart.1 hfresh hfull htaken hwithin hstart.2.1

theorem ends_deliver {rest : List Packet} {count : ℕ}
    (h : Between coordinator env start taken session) (hfresh : FreshIds coordinator env start)
    (hpackets : taken ++ rest = packets) :
    EndsIn coordinator (Between coordinator env start packets)
      (LeftFirst coordinator env start packets)
      (coordinator.deliver source env session count rest) := by
  induction rest generalizing session taken count with
  | nil =>
      rw [List.append_nil] at hpackets
      exact hpackets ▸ h
  | cons packet rest ih =>
      have hwithin : taken ++ [packet] <+: packets := ⟨rest, by simpa using hpackets⟩
      have hconsume : EndsIn coordinator _ _ (coordinator.consume source env session packet
          (env.writeCall count)) := ends_consume h hfresh hwithin
      unfold deliver
      generalize coordinator.consume source env session packet (env.writeCall count) = consumed
        at hconsume ⊢
      obtain ⟨result, next⟩ := consumed
      cases result with
      | error failure => exact hconsume
      | ok => exact ih hconsume (by simpa using hpackets)

theorem between_newSession : Between coordinator env start [] (newSession start) := by
  have huntouched : ∀ id, Unchanged start start id := fun _ => ⟨rfl, rfl⟩
  refine ⟨[], [], ⟨⟨.nil, rfl, Nat.zero_le _, le_rfl, fun id _ _ => huntouched id,
    fun _ _ id _ => huntouched id, (fun _ hsome => by cases hsome)⟩, rfl, rfl,
    fun id _ => huntouched id, (fun _ hsome => by cases hsome), fun _ => rfl⟩, ?_, rfl⟩
  exact fun _ hps => by cases hps

/-! ## The whole recording -/

/-- The segments of a receipt are the packets, and their counts add up. -/
structure Complete (root : RecordingRoot) (packets : List Packet) (receipt : SessionReceipt) :
    Prop where
  readsBack : ReadsBack root receipt.segments packets
  packetCount : receipt.packetCount = packets.length
  packetCount_sum :
    receipt.packetCount = (receipt.segments.map SegmentReceipt.packetCount).sum
  payloadBytes_sum :
    receipt.payloadBytes = (receipt.segments.map SegmentReceipt.payloadBytes).sum

structure RecordedContinuously (env : ContinuousEnvironment) (start : RecordingRoot)
    (result : Except RecordFailure SessionReceipt) (session : ContinuousSession) : Prop where
  complete : ∀ receipt, result = .ok receipt →
    receipt.segments = session.segmentReceipts ∧
      Complete session.root env.delivery.packets receipt
  /-- The finalized segments are the first packets that were taken. -/
  kept : ∃ finalized, finalized <+: env.delivery.packets.take session.totalPackets ∧
    ReadsBack session.root session.segmentReceipts finalized
  others : ∀ id, (∀ receipt ∈ session.segmentReceipts, receipt.recordingId ≠ id) →
    id ≠ activeId env session → Unchanged start session.root id
  cleaned : env.unlinks = ⟨true, true⟩ → ∀ id,
    (∀ receipt ∈ session.segmentReceipts, receipt.recordingId ≠ id) →
    Unchanged start session.root id

theorem abort_inactive (env : ContinuousEnvironment) (session : ContinuousSession) :
    (abortActiveSegment env session).active = none ∧
      (abortActiveSegment env session).segmentReceipts = session.segmentReceipts ∧
      (abortActiveSegment env session).totalPackets = session.totalPackets := by
  unfold abortActiveSegment
  cases hactive : session.active with
  | none => exact ⟨hactive, rfl, rfl⟩
  | some segment => exact ⟨rfl, rfl, rfl⟩

theorem LeftFirst.recorded {result : Except RecordFailure SessionReceipt}
    (h : LeftFirst coordinator env start env.delivery.packets session)
    (hfresh : FreshIds coordinator env start)
    (hcomplete : ∀ receipt, result = .ok receipt → receipt.segments = session.segmentReceipts ∧
      Complete (abortActiveSegment env session).root env.delivery.packets receipt) :
    RecordedContinuously env start result (abortActiveSegment env session) := by
  obtain ⟨segments, hleft, hwithin⟩ := h
  obtain ⟨hinactive, hreceipts, htotal⟩ := abort_inactive env session
  have habort := hleft.abort hfresh
  have hfinalized : ∀ id, (∀ receipt ∈ (abortActiveSegment env session).segmentReceipts,
      receipt.recordingId ≠ id) → ¬ IsFinalized env (abortActiveSegment env session) id := by
    intro id hnone hid
    obtain ⟨receipt, hreceipt, heq⟩ := habort.isFinalized_iff.mp hid
    exact hnone receipt hreceipt heq
  constructor
  case complete =>
    rw [hreceipts]
    exact hcomplete
  case kept =>
    refine ⟨segments.flatten, ?_, readsBack_of_stored segmentLimits_le habort.stored⟩
    rw [htotal]
    exact hwithin
  case others => exact fun id hnone => habort.others id (hfinalized id hnone)
  case cleaned =>
    exact fun hunlinks id hnone => habort.cleaned hinactive hunlinks id (hfinalized id hnone)

theorem ends_finalizeLast (h : Between coordinator env start packets session)
    (hfresh : FreshIds coordinator env start) :
    EndsIn coordinator
      (fun next => ∃ segments, Rotated coordinator env start next segments [] ∧
        next.active = none ∧ segments.flatten = packets)
      (LeftFirst coordinator env start packets) (finalizeSegment source env session) := by
  obtain ⟨segments, active, hrotated, -, htaken⟩ := h.rotated
  cases hactive : session.active with
  | none =>
      have hnil := hrotated.idle hactive
      subst hnil
      have hnothing : finalizeSegment source env session = (.ok (), session) := by
        unfold finalizeSegment
        rw [hactive]
      rw [hnothing]
      exact ⟨segments, hrotated, hactive, by simpa using htaken⟩
  | some segment =>
      refine (ends_finalizeSegment hrotated hfresh hactive).imp ?_
        fun _ hleft => hleft.leftFirst htaken (List.prefix_refl _)
      rintro next ⟨hnext, hidle, -⟩
      exact ⟨segments ++ [active], hnext, hidle, by simpa using htaken⟩

theorem complete_sessionReceipt (h : Rotated coordinator env start session segments [])
    (hflatten : segments.flatten = packets) :
    Complete session.root packets (sessionReceipt session) := by
  obtain ⟨hcount, hbytes⟩ := sum_packetCount h.left.stored
  have hpackets := h.packets
  have hpayload := h.bytes
  simp only [List.length_nil, payloadTotal_nil, Nat.add_zero] at hpackets hpayload
  subst hflatten
  exact ⟨readsBack_of_stored segmentLimits_le h.left.stored, hpackets, hpackets.trans hcount.symm,
    hpayload.trans hbytes.symm⟩

theorem recorded_conclude (h : Between coordinator env start env.delivery.packets session)
    (hfresh : FreshIds coordinator env start) :
    RecordedContinuously env start (conclude source env session).1
      (abortActiveSegment env (conclude source env session).2) := by
  obtain ⟨segments, active, hrotated, -, htaken⟩ := h.rotated
  unfold conclude
  split
  · exact (hrotated.left.leftFirst htaken (List.prefix_refl _)).recorded hfresh
      (by rintro receipt ⟨⟩)
  have hends : EndsIn coordinator _ _ (finalizeSegment source env session) :=
    ends_finalizeLast h hfresh
  generalize finalizeSegment source env session = finalized at hends ⊢
  obtain ⟨result, finished⟩ := finalized
  cases result with
  | error failure => exact hends.1.recorded hfresh (by rintro receipt ⟨⟩)
  | ok =>
      obtain ⟨segments, hlast, hidle, hflatten⟩ := hends
      have hleft : LeftFirst coordinator env start env.delivery.packets finished :=
        hlast.left.leftFirst (by rw [hflatten, List.append_nil]) (List.prefix_refl _)
      dsimp only
      split
      · exact hleft.recorded hfresh (by rintro receipt ⟨⟩)
      split
      · exact hleft.recorded hfresh (by rintro receipt ⟨⟩)
      refine hleft.recorded hfresh ?_
      rintro receipt ⟨⟩
      have habort : abortActiveSegment env finished = finished := by
        unfold abortActiveSegment
        rw [hidle]
      rw [habort]
      exact ⟨rfl, complete_sessionReceipt hlast hflatten⟩

/-! ### The default size of a segment -/

theorem packetGoal_le_of_default {packetGoal maxRecordingBytes maxSegments : ℕ}
    (h : ContinuousRecordingCoordinator.create packetGoal maxRecordingBytes maxSegments none =
      .ok coordinator) :
    coordinator.packetGoal ≤ coordinator.maxSegments * coordinator.segmentPacketGoal := by
  unfold ContinuousRecordingCoordinator.create at h
  split_ifs at h with hgoal _ hsegments
  cases h
  have hdivision := Nat.lt_mul_div_succ (packetGoal + maxSegments - 1) hsegments.1
  rw [Nat.mul_add, Nat.mul_one] at hdivision
  calc packetGoal ≤ maxSegments * ((packetGoal + maxSegments - 1) / maxSegments) := by omega
    _ ≤ maxSegments * max 1 ((packetGoal + maxSegments - 1) / maxSegments) :=
        Nat.mul_le_mul_left _ (le_max_right _ _)

def twoSegments : ContinuousRecordingCoordinator where
  packetGoal := 4
  maxRecordingBytes := 131072
  maxSegments := 2
  segmentPacketGoal := 2
  packetGoal_mem := by decide
  maxRecordingBytes_mem := by decide
  maxSegments_mem := by decide
  segmentPacketGoal_mem := by decide

def quietSegments (packets : List Packet) : ContinuousEnvironment where
  delivery := ⟨packets, true, true, false⟩
  segment i := ⟨BitVec.ofNat 128 i, ⟨.done, false⟩, ⟨.done, false⟩, false, .persisted⟩
  writeCall _ := ⟨.done, false⟩
  abortWorker := .done
  startedAtUtc := firstInstant
  unlinks := ⟨true, true⟩

def emptyRoot : RecordingRoot := ⟨fun _ => none, fun _ => none⟩

theorem freshIds_quietSegments (packets : List Packet) :
    FreshIds twoSegments (quietSegments packets) emptyRoot where
  unused _ _ := ⟨rfl, rfl⟩
  distinct i hi j hj heq := by
    change BitVec.ofNat 128 i = BitVec.ofNat 128 j at heq
    change i < 2 at hi
    change j < 2 at hj
    bv_omega

def fourPackets : List Packet :=
  [barePacket 0, barePacket 90000, barePacket 180000, barePacket 270000]

end K5Vision.Media
