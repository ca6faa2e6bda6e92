import K5Vision.Identity.Users
import K5Vision.Media.OperatorRecording

/-!
# Recording one delivery in segments

`BoundedOperatorRecordingCoordinator.record_continuous` of `operator_recording.py`: the consumer of
a delivery writes its packets to an active segment, finalizes the segment once it is full, and
starts another one with the next packet.  A finalized segment is a pair of files in the recording
root, and has a receipt.

A delivery hands packets to its consumer one after the other, and ends with the consumer's first
failure.  What the sinks' workers, the clock and the files meet is collected in
`ContinuousEnvironment`.
-/

namespace K5Vision.Media

open Library Identity

/-! ## The coordinator -/

def resolvedSegmentGoal (packetGoal maxSegments : ℕ) (segmentPacketGoal : Option ℕ) : ℕ :=
  segmentPacketGoal.getD (max 1 ((packetGoal + maxSegments - 1) / maxSegments))

/-- The parameters of the coordinator that `record_continuous` uses, in the ranges its
constructor enforces. -/
structure ContinuousRecordingCoordinator where
  packetGoal : ℕ
  maxRecordingBytes : ℕ
  maxSegments : ℕ
  segmentPacketGoal : ℕ
  packetGoal_mem : 1 ≤ packetGoal ∧ packetGoal ≤ 65536
  maxRecordingBytes_mem : 1 ≤ maxRecordingBytes ∧ maxRecordingBytes ≤ 512 * 1024 * 1024
  maxSegments_mem : 1 ≤ maxSegments ∧ maxSegments ≤ 32
  segmentPacketGoal_mem : 1 ≤ segmentPacketGoal ∧ segmentPacketGoal ≤ packetGoal

def ContinuousRecordingCoordinator.create (packetGoal maxRecordingBytes maxSegments : ℕ)
    (segmentPacketGoal : Option ℕ) : Except String ContinuousRecordingCoordinator :=
  if hgoal : 1 ≤ packetGoal ∧ packetGoal ≤ 65536 then
    if hbytes : 1 ≤ maxRecordingBytes ∧ maxRecordingBytes ≤ 512 * 1024 * 1024 then
      if hsegments : 1 ≤ maxSegments ∧ maxSegments ≤ 32 then
        if hsegment : 1 ≤ resolvedSegmentGoal packetGoal maxSegments segmentPacketGoal ∧
            resolvedSegmentGoal packetGoal maxSegments segmentPacketGoal ≤ packetGoal then
          .ok ⟨packetGoal, maxRecordingBytes, maxSegments,
            resolvedSegmentGoal packetGoal maxSegments segmentPacketGoal, hgoal, hbytes, hsegments,
            hsegment⟩
        else .error "segment_packet_goal must be between 1 and packet_goal"
      else .error "max_segments must be between 1 and 32"
    else .error "max_recording_bytes must be between 1 and 536870912"
  else .error "packet_goal must be between 1 and 65536"

/-! ## The recording root -/

/-- The recordings and the descriptors of a directory. -/
structure RecordingRoot where
  recordings : Uuid → Option (List UInt8)
  descriptors : Uuid → Option RecordingStreamDescriptor

/-- Which files of a pair could be removed; a worker that is still writing counts as one that
could not. -/
structure Unlinks where
  recording : Bool
  descriptor : Bool
  deriving DecidableEq, Repr

namespace RecordingRoot

def publish (root : RecordingRoot) (id : Uuid) (file : List UInt8) : RecordingRoot :=
  { root with recordings := Function.update root.recordings id (some file) }

def describe (root : RecordingRoot) (id : Uuid) (descriptor : RecordingStreamDescriptor) :
    RecordingRoot :=
  { root with descriptors := Function.update root.descriptors id (some descriptor) }

def deletePair (root : RecordingRoot) (id : Uuid) (unlinks : Unlinks) : RecordingRoot where
  recordings := if unlinks.recording then Function.update root.recordings id none
    else root.recordings
  descriptors := if unlinks.descriptor then Function.update root.descriptors id none
    else root.descriptors

end RecordingRoot

/-! ## The session -/

/-- `OperatorRecordingSegmentReceipt`. -/
structure SegmentReceipt where
  recordingId : Uuid
  packetCount : ℕ
  payloadBytes : ℕ
  durationMs : ℕ
  deriving DecidableEq, Repr

/-- The bounds declared with its fields are those of the receipt of one recording. -/
def SegmentReceipt.inRange (receipt : SegmentReceipt) : Bool :=
  OperatorRecordingReceipt.inRange ⟨receipt.packetCount, receipt.payloadBytes, receipt.durationMs⟩

/-- `OperatorRecordingSessionReceipt`, without its identifier. -/
structure SessionReceipt where
  segments : List SegmentReceipt
  segmentCount : ℕ
  packetCount : ℕ
  payloadBytes : ℕ
  durationMs : ℕ
  deriving DecidableEq, Repr

def SessionReceipt.inRange (receipt : SessionReceipt) : Bool :=
  1 ≤ receipt.segmentCount && receipt.segmentCount ≤ 32 &&
    1 ≤ receipt.packetCount && receipt.packetCount ≤ 65536 && 12 ≤ receipt.payloadBytes &&
    receipt.durationMs ≤ 7 * 24 * 60 * 60 * 1000

/-- `recorder`, with its sink, and `recording_id`. -/
structure ActiveSegment where
  recordingId : Uuid
  recorder : BoundedRtpRecorder

/-- The variables of `record_continuous` that its inner functions share, and the directory. -/
structure ContinuousSession where
  root : RecordingRoot
  active : Option ActiveSegment
  firstTimestamp : Option ℕ
  lastTimestamp : Option ℕ
  segmentReceipts : List SegmentReceipt
  totalPackets : ℕ
  totalPayloadBytes : ℕ
  /-- `session_timestamp_origin` and `session_started_at`. -/
  origin : Option (ℕ × Datetime)

inductive DescriptorOutcome
  | persisted
  | failed
  /-- The caller was cancelled, and the worker goes on; it may write the descriptor. -/
  | cancelled (written : Bool)
  deriving DecidableEq, Repr

structure SegmentOutcome where
  recordingId : Uuid
  startCall : CallOutcome
  finalizeCall : CallOutcome
  /-- The file is published by a finalization that fails. -/
  published : Bool
  descriptor : DescriptorOutcome

structure Delivery where
  packets : List Packet
  /-- It returns behind the last packet; otherwise it raises. -/
  returns : Bool
  /-- The consumer's exceptions leave it as an exception of its own. -/
  wraps : Bool
  /-- A cancelled consumer was cancelled by the delivery's timeout. -/
  timesOut : Bool

structure ContinuousEnvironment where
  delivery : Delivery
  segment : ℕ → SegmentOutcome
  /-- What the write of each packet meets. -/
  writeCall : ℕ → CallOutcome
  abortWorker : WorkerOutcome
  /-- `_millisecond_utc_now()` when the first segment was started. -/
  startedAtUtc : Datetime
  unlinks : Unlinks

namespace ContinuousRecordingCoordinator

variable (coordinator : ContinuousRecordingCoordinator) (source : ResolvedLiveSource)
  (env : ContinuousEnvironment)

/-- The limits the sink of a segment is constructed with. -/
def segmentLimits : FramedLimits where
  maxPackets := coordinator.segmentPacketGoal
  maxPayloadBytes := coordinator.maxRecordingBytes
  maxPacketBytes := 65535
  maxPackets_mem := by
    have hsegment := coordinator.segmentPacketGoal_mem
    have hgoal := coordinator.packetGoal_mem
    omega
  maxPayloadBytes_mem := by
    have := coordinator.maxRecordingBytes_mem
    omega
  maxPacketBytes_mem := FramedLimits.default.maxPacketBytes_mem

/-- The recorder of a segment before `start`. -/
def segmentRecorder : BoundedRtpRecorder :=
  .create (.create coordinator.segmentLimits) coordinator.segmentPacketGoal
    coordinator.maxRecordingBytes

/-- `abort_active_segment`.  The recorder is aborted and dropped. -/
def abortActiveSegment (session : ContinuousSession) : ContinuousSession :=
  match session.active with
  | none => session
  | some active => { session with
      root := session.root.deletePair active.recordingId env.unlinks
      active := none }

def startSegment (session : ContinuousSession) (timestamp : ℕ) :
    Except RecordFailure Unit × ContinuousSession :=
  if coordinator.maxSegments ≤ session.segmentReceipts.length then
    (.error (recordingFailed "continuous recording segment capacity was exhausted"), session)
  else
    let segment := env.segment session.segmentReceipts.length
    let (result, recorder) := coordinator.segmentRecorder.start segment.startCall env.abortWorker
    let started := { session with active := some ⟨segment.recordingId, recorder⟩ }
    match result with
    | .error failure => (.error (.recorder failure), started)
    | .ok () => (.ok (), { started with
        firstTimestamp := some timestamp
        lastTimestamp := some timestamp
        origin := session.origin <|> some (timestamp, env.startedAtUtc) })

def finalizeFailed (session : ContinuousSession) (message : String) :
    Except RecordFailure Unit × ContinuousSession :=
  (.error (recordingFailed message), abortActiveSegment env session)

/-- `finalize_segment` behind the finalization of the recorder: the descriptor and the receipt. -/
def describeSegment (segment : SegmentOutcome) (session : ContinuousSession)
    (active : ActiveSegment) (first last : ℕ) (origin : ℕ × Datetime) :
    Except RecordFailure Unit × ContinuousSession :=
  let message := "continuous recording segment could not be finalized"
  let counters := active.recorder.sink
  match origin.2.addMilliseconds (recordedDurationMs origin.1 first) with
  | none => finalizeFailed env session message
  | some started =>
      match buildDescriptor source.payloadType first last counters started with
      | .error _ => finalizeFailed env session message
      | .ok descriptor =>
          let described := { session with
            root := session.root.describe active.recordingId descriptor }
          match segment.descriptor with
          | .failed => finalizeFailed env session message
          | .cancelled written =>
              (.error (.recorder .cancelled), if written then described else session)
          | .persisted =>
              let receipt : SegmentReceipt := ⟨active.recordingId, counters.packets,
                counters.payloadBytes, recordedDurationMs first last⟩
              if !receipt.inRange then finalizeFailed env described message
              else (.ok (), { described with
                active := none
                firstTimestamp := none
                lastTimestamp := none
                segmentReceipts := session.segmentReceipts ++ [receipt] })

def finalizeSegment (session : ContinuousSession) : Except RecordFailure Unit × ContinuousSession :=
  match session.active with
  | none => (.ok (), session)
  | some active =>
      match session.firstTimestamp, session.lastTimestamp, session.origin with
      | some first, some last, some origin =>
          let segment := env.segment session.segmentReceipts.length
          let (result, recorder) := active.recorder.finalize segment.finalizeCall env.abortWorker
          let finished : ActiveSegment := ⟨active.recordingId, recorder⟩
          let finalized := { session with
            root := if result.isOk || segment.published then
              session.root.publish active.recordingId recorder.sink.file else session.root
            active := some finished }
          match result with
          | .error .cancelled => (.error (.recorder .cancelled), finalized)
          | .error (.error _) =>
              finalizeFailed env finalized "continuous recording segment could not be finalized"
          | .ok () =>
              if recorder.state ≠ .finalized || recorder.sink.state ≠ .finalized then
                finalizeFailed env finalized "continuous recording segment did not finalize"
              else describeSegment source env segment finalized finished first last origin
      | _, _, _ => (.error (recordingFailed "continuous recording segment had no media"), session)

/-- The part of `consume` with an active segment. -/
def consumeActive (session : ContinuousSession) (packet : Packet) (outcome : CallOutcome) :
    Except RecordFailure Unit × ContinuousSession :=
  match session.active with
  | none => (.ok (), session)
  | some active =>
      let (result, recorder) := active.recorder.consume packet outcome env.abortWorker
      let consumed := { session with active := some ⟨active.recordingId, recorder⟩ }
      match result with
      | .error failure => (.error (.recorder failure), consumed)
      | .ok () =>
          let counted := { consumed with
            lastTimestamp := some (rtpTimestamp packet)
            totalPackets := session.totalPackets + 1
            totalPayloadBytes := session.totalPayloadBytes + packet.length }
          if coordinator.segmentPacketGoal ≤ recorder.sink.packets then
            finalizeSegment source env counted
          else (.ok (), counted)

def consume (session : ContinuousSession) (packet : Packet) (outcome : CallOutcome) :
    Except RecordFailure Unit × ContinuousSession :=
  if payloadType packet ≠ source.payloadType then
    (.error (recordingFailed "recording RTP payload type changed unexpectedly"), session)
  else if coordinator.packetGoal ≤ session.totalPackets then
    (.error (recordingFailed "continuous recording packet budget was exhausted"), session)
  else
    match session.active with
    | some _ => coordinator.consumeActive source env session packet outcome
    | none =>
        match coordinator.startSegment env session (rtpTimestamp packet) with
        | (.error failure, started) => (.error failure, started)
        | (.ok (), started) => coordinator.consumeActive source env started packet outcome

/-- The delivery, up to the consumer's first failure. -/
def deliver (session : ContinuousSession) :
    ℕ → List Packet → Except RecordFailure Unit × ContinuousSession
  | _, [] => (.ok (), session)
  | count, packet :: rest =>
      match coordinator.consume source env session packet (env.writeCall count) with
      | (.error failure, next) => (.error failure, next)
      | (.ok (), next) => deliver next (count + 1) rest

/-- What a failure of the consumer becomes on its way through the delivery and
`record_continuous`. -/
def deliveryFailure (delivery : Delivery) : RecordFailure → RecordFailure
  | .recorder .cancelled =>
      if delivery.timesOut then recordingFailed "continuous operator recording failed"
      else .recorder .cancelled
  | .operator error =>
      if delivery.wraps then recordingFailed "continuous operator recording failed"
      else .operator error
  | _ => recordingFailed "continuous operator recording failed"

def sessionReceipt (session : ContinuousSession) : SessionReceipt where
  segments := session.segmentReceipts
  segmentCount := session.segmentReceipts.length
  packetCount := session.totalPackets
  payloadBytes := session.totalPayloadBytes
  durationMs := (session.segmentReceipts.map SegmentReceipt.durationMs).sum

def conclude (session : ContinuousSession) :
    Except RecordFailure SessionReceipt × ContinuousSession :=
  if !env.delivery.returns then
    (.error (recordingFailed "continuous operator recording failed"), session)
  else
    match finalizeSegment source env session with
    | (.error failure, finished) => (.error failure, finished)
    | (.ok (), finished) =>
        if finished.segmentReceipts.isEmpty || finished.totalPackets < 1 then
          (.error (recordingFailed "continuous operator recording produced no finalized media"),
            finished)
        else if !(sessionReceipt finished).inRange then (.error .receipt, finished)
        else (.ok (sessionReceipt finished), finished)

def newSession (root : RecordingRoot) : ContinuousSession where
  root := root
  active := none
  firstTimestamp := none
  lastTimestamp := none
  segmentReceipts := []
  totalPackets := 0
  totalPayloadBytes := 0
  origin := none

/-- `record_continuous`, from the resolved source on; in the end an active segment is aborted. -/
def recordContinuous (root : RecordingRoot) :
    Except RecordFailure SessionReceipt × ContinuousSession :=
  match coordinator.deliver source env (newSession root) 0 env.delivery.packets with
  | (.error failure, session) =>
      (.error (deliveryFailure env.delivery failure), abortActiveSegment env session)
  | (.ok (), session) =>
      let (result, finished) := conclude source env session
      (result, abortActiveSegment env finished)

end ContinuousRecordingCoordinator

end K5Vision.Media
