import K5Vision.Media.PlaybackChain

/-!
# Recording one bounded delivery

`media/recording.py`, the delivery loop of `media/rtp_delivery.py` and
`BoundedOperatorRecordingCoordinator.record` of `operator_recording.py`: a
delivery hands valid packets to a consumer, the consumer notes the first and the
last timestamp and writes through `BoundedRtpRecorder` to the framed sink, and a
finalized recording gets a descriptor.  A recording that fails anywhere is
removed, so `record` either returns what is stored or an error.

What the relay, the sink's workers, the clock and the descriptor's file do is
collected in `RecordingEnvironment`.
-/

namespace K5Vision.Media

open Library

/-! ## The bounded recorder -/

inductive RecordingState
  | created
  | recording
  | finalized
  | aborted
  | failed
  deriving DecidableEq, Repr

inductive RecordingErrorCode
  | invalidState
  | invalidPacket
  | limitExceeded
  | sinkFailure
  | timeout
  deriving DecidableEq, Repr

structure RecordingError where
  code : RecordingErrorCode
  message : String
  deriving DecidableEq, Repr

inductive RecorderFailure
  | error (error : RecordingError)
  | cancelled
  deriving DecidableEq, Repr

/-- What a bounded call of the sink meets: what its worker does, and whether a
cancellation of it came from the operation's timeout. -/
structure CallOutcome where
  worker : WorkerOutcome
  timedOut : Bool
  deriving DecidableEq, Repr

structure BoundedRtpRecorder where
  sink : FramedAtomicRecordingSink
  maxPackets : ℕ
  maxBytes : ℕ
  state : RecordingState
  packetsWritten : ℕ
  bytesWritten : ℕ

namespace BoundedRtpRecorder

def create (sink : FramedAtomicRecordingSink) (maxPackets maxBytes : ℕ) : BoundedRtpRecorder where
  sink := sink
  maxPackets := maxPackets
  maxBytes := maxBytes
  state := .created
  packetsWritten := 0
  bytesWritten := 0

/-- `_call`: the errors of the sink as the recorder reports them. -/
def call (result : Except SinkFailure Unit) (timedOut : Bool) (message : String) :
    Except RecorderFailure Unit :=
  match result with
  | .ok () => .ok ()
  | .error (.error _) => .error (.error ⟨.sinkFailure, message⟩)
  | .error .cancelled =>
      if timedOut then .error (.error ⟨.timeout, message⟩) else .error .cancelled

def abortSinkBestEffort (recorder : BoundedRtpRecorder) (worker : WorkerOutcome) :
    BoundedRtpRecorder :=
  { recorder with sink := (recorder.sink.abort worker).2 }

/-- The branches a failed call of the sink shares: the recorder is aborted by a
cancellation and failed otherwise, and the sink is aborted. -/
def afterFailure (recorder : BoundedRtpRecorder) (failure : RecorderFailure)
    (abortWorker : WorkerOutcome) : Except RecorderFailure Unit × BoundedRtpRecorder :=
  let state := match failure with
    | .cancelled => .aborted
    | .error _ => .failed
  (.error failure, { recorder with state := state }.abortSinkBestEffort abortWorker)

def start (recorder : BoundedRtpRecorder) (outcome : CallOutcome) (abortWorker : WorkerOutcome) :
    Except RecorderFailure Unit × BoundedRtpRecorder :=
  if recorder.state = .recording then (.ok (), recorder)
  else if recorder.state ≠ .created then
    (.error (.error ⟨.invalidState, "recording cannot start from current state"⟩), recorder)
  else
    let (result, sink) := recorder.sink.openFile outcome.worker
    let called := { recorder with sink := sink }
    match call result outcome.timedOut "recording sink failed to open" with
    | .error failure => called.afterFailure failure abortWorker
    | .ok () => (.ok (), { called with state := .recording })

def consume (recorder : BoundedRtpRecorder) (packet : Packet) (outcome : CallOutcome)
    (abortWorker : WorkerOutcome) : Except RecorderFailure Unit × BoundedRtpRecorder :=
  if recorder.state ≠ .recording then
    (.error (.error ⟨.invalidState, "recording is not accepting packets"⟩), recorder)
  else if !isRtpV2 packet then
    (.error (.error ⟨.invalidPacket, "recording packet is not valid RTP v2"⟩), recorder)
  else if recorder.maxPackets < recorder.packetsWritten + 1 ||
      recorder.maxBytes < recorder.bytesWritten + packet.length then
    (.error (.error ⟨.limitExceeded, "recording ingest limit exceeded"⟩),
      { recorder with state := .aborted }.abortSinkBestEffort abortWorker)
  else
    let (result, sink) := recorder.sink.write packet outcome.worker
    let called := { recorder with sink := sink }
    match call result outcome.timedOut "recording sink write failed" with
    | .error failure => called.afterFailure failure abortWorker
    | .ok () =>
        (.ok (), { called with
          packetsWritten := recorder.packetsWritten + 1
          bytesWritten := recorder.bytesWritten + packet.length })

def finalize (recorder : BoundedRtpRecorder) (outcome : CallOutcome)
    (abortWorker : WorkerOutcome) : Except RecorderFailure Unit × BoundedRtpRecorder :=
  if recorder.state = .finalized then (.ok (), recorder)
  else if recorder.state ≠ .recording then
    (.error (.error ⟨.invalidState, "recording cannot finalize from current state"⟩), recorder)
  else
    let (result, sink) := recorder.sink.finalize outcome.worker
    let called := { recorder with sink := sink }
    match call result outcome.timedOut "recording sink failed to finalize" with
    | .error failure => called.afterFailure failure abortWorker
    | .ok () => (.ok (), { called with state := .finalized })

end BoundedRtpRecorder

/-! ## The coordinator -/

inductive OperatorRecordingErrorCode
  | unauthorized
  | insufficientPermission
  | deviceNotFound
  | unsupportedDevice
  | sourceUnavailable
  | sourceScopeMismatch
  | recordingBusy
  | recordingFailure
  | registryUnavailable
  deriving DecidableEq, Repr

structure OperatorRecordingError where
  code : OperatorRecordingErrorCode
  message : String
  deriving DecidableEq, Repr

/-- The exceptions that leave `record`. -/
inductive RecordFailure
  | operator (error : OperatorRecordingError)
  | recorder (failure : RecorderFailure)
  | descriptor (message : String)
  | receipt
  /-- The end of the recording is beyond the last year of a `datetime`. -/
  | overflow
  deriving DecidableEq, Repr

def recordingFailed (message : String) : RecordFailure := .operator ⟨.recordingFailure, message⟩

/-- The parameters of the coordinator and of its delivery, in the ranges their
constructors enforce. -/
structure BoundedOperatorRecordingCoordinator where
  packetGoal : ℕ
  maxRecordingBytes : ℕ
  deliveryPacketGoal : ℕ
  packetGoal_mem : 1 ≤ packetGoal ∧ packetGoal ≤ 65536
  maxRecordingBytes_mem : 1 ≤ maxRecordingBytes ∧ maxRecordingBytes ≤ 512 * 1024 * 1024
  deliveryPacketGoal_mem : 1 ≤ deliveryPacketGoal ∧ deliveryPacketGoal ≤ 4096

/-- The private source, with the payload types its constructor admits. -/
structure ResolvedLiveSource where
  payloadType : ℕ
  payloadType_mem : 96 ≤ payloadType ∧ payloadType ≤ 127

structure RecordingEnvironment where
  relayStarts : Bool
  /-- The datagrams that arrive before the deadline, in order. -/
  datagrams : List Packet
  openCall : CallOutcome
  /-- What the write of each packet meets. -/
  writeCall : ℕ → CallOutcome
  /-- Whether a cancelled write was cancelled by the consumer's timeout. -/
  consumerTimedOut : Bool
  finalizeCall : CallOutcome
  abortWorker : WorkerOutcome
  /-- `_millisecond_utc_now()` after the recording was finalized. -/
  startedAtUtc : Datetime
  descriptorPersisted : Bool

/-- The variables the consumer of `record` shares with it. -/
structure RecordingSession where
  recorder : BoundedRtpRecorder
  firstTimestamp : Option ℕ
  lastTimestamp : Option ℕ

namespace RecordingSession

def consume (session : RecordingSession) (source : ResolvedLiveSource) (packet : Packet)
    (outcome : CallOutcome) (abortWorker : WorkerOutcome) :
    Except RecordFailure Unit × RecordingSession :=
  if payloadType packet ≠ source.payloadType then
    (.error (recordingFailed "recording RTP payload type changed unexpectedly"), session)
  else
    let timestamp := rtpTimestamp packet
    let (result, recorder) := session.recorder.consume packet outcome abortWorker
    (result.mapError .recorder,
      { recorder := recorder
        firstTimestamp := session.firstTimestamp <|> some timestamp
        lastTimestamp := some timestamp })

/-- What an exception of the consumer becomes on its way through `deliver` and
`record`. -/
def deliveryFailure (consumerTimedOut : Bool) : RecordFailure → RecordFailure
  | .recorder .cancelled =>
      if consumerTimedOut then recordingFailed "operator recording failed"
      else .recorder .cancelled
  | _ => recordingFailed "operator recording failed"

/-- The loop of `deliver`, with the number of valid packets so far.  It ends well
exactly when the goal is reached; without more datagrams it times out. -/
def deliver (source : ResolvedLiveSource) (packetGoal : ℕ) (env : RecordingEnvironment) :
    RecordingSession → ℕ → List Packet → Except RecordFailure Unit × RecordingSession
  | session, validPackets, [] =>
      if packetGoal ≤ validPackets then (.ok (), session)
      else (.error (recordingFailed "operator recording failed"), session)
  | session, validPackets, packet :: rest =>
      if packetGoal ≤ validPackets then (.ok (), session)
      else if !isRtpV2 packet then deliver source packetGoal env session validPackets rest
      else
        let (result, next) :=
          session.consume source packet (env.writeCall validPackets) env.abortWorker
        match result with
        | .error failure => (.error (deliveryFailure env.consumerTimedOut failure), next)
        | .ok () => deliver source packetGoal env next (validPackets + 1) rest

end RecordingSession

/-- `duration_ms`: `(last - first) & 0xFFFFFFFF` ticks in milliseconds. -/
def recordedDurationMs (first last : ℕ) : ℕ := rtpDelta first last * 1000 / 90000

/-- The fields of the descriptor of a finalized recording. -/
def recordedDescriptor (payloadType first last : ℕ) (counters : FramedAtomicRecordingSink)
    (started ended : Datetime) : RecordingStreamDescriptor where
  codec := .h264
  payloadType := payloadType
  clockRateHz := 90000
  startedAtUtc := started
  endedAtUtc := ended
  durationMs := recordedDurationMs first last
  rtpTimestampOrigin := first
  packetCount := counters.packets
  payloadBytes := counters.payloadBytes
  fileBytes := counters.fileBytes

/-- The descriptor of a finalized recording, as its constructor validates it. -/
def buildDescriptor (payloadType first last : ℕ) (counters : FramedAtomicRecordingSink)
    (started : Datetime) : Except RecordFailure RecordingStreamDescriptor :=
  match started.addMilliseconds (recordedDurationMs first last) with
  | none => .error .overflow
  | some ended =>
      let descriptor := recordedDescriptor payloadType first last counters started ended
      match descriptor.validate with
      | .error message => .error (.descriptor message)
      | .ok () => .ok descriptor

/-- `OperatorRecordingReceipt`, without its identifier. -/
structure OperatorRecordingReceipt where
  packetCount : ℕ
  payloadBytes : ℕ
  durationMs : ℕ
  deriving DecidableEq, Repr

/-- The bounds declared with the fields of the receipt. -/
def OperatorRecordingReceipt.inRange (receipt : OperatorRecordingReceipt) : Bool :=
  1 ≤ receipt.packetCount && receipt.packetCount ≤ 65536 &&
    12 ≤ receipt.payloadBytes && receipt.payloadBytes ≤ 512 * 1024 * 1024 &&
    receipt.durationMs ≤ 7 * 24 * 60 * 60 * 1000

/-- What a successful `record` returns and leaves behind. -/
structure RecordedPair where
  receipt : OperatorRecordingReceipt
  file : List UInt8
  descriptor : RecordingStreamDescriptor

namespace BoundedOperatorRecordingCoordinator

variable (coordinator : BoundedOperatorRecordingCoordinator)

theorem packetGoal_mem_limits : 1 ≤ coordinator.packetGoal ∧ coordinator.packetGoal ≤ 1000000 :=
  ⟨coordinator.packetGoal_mem.1, coordinator.packetGoal_mem.2.trans (by norm_num)⟩

theorem maxRecordingBytes_mem_limits : 1 ≤ coordinator.maxRecordingBytes ∧
      coordinator.maxRecordingBytes ≤ 8 * 1024 * 1024 * 1024 :=
  ⟨coordinator.maxRecordingBytes_mem.1, coordinator.maxRecordingBytes_mem.2.trans (by norm_num)⟩

/-- The limits `record` constructs its sink with. -/
def limits : FramedLimits where
  maxPackets := coordinator.packetGoal
  maxPayloadBytes := coordinator.maxRecordingBytes
  maxPacketBytes := 65535
  maxPackets_mem := coordinator.packetGoal_mem_limits
  maxPayloadBytes_mem := coordinator.maxRecordingBytes_mem_limits
  maxPacketBytes_mem := FramedLimits.default.maxPacketBytes_mem

def recorder : BoundedRtpRecorder :=
  .create (.create coordinator.limits) coordinator.packetGoal coordinator.maxRecordingBytes

/-- `record` behind the finalization: the checks, the descriptor, the receipt. -/
def conclude (source : ResolvedLiveSource) (env : RecordingEnvironment)
    (session : RecordingSession) : Except RecordFailure RecordedPair :=
  if session.recorder.state ≠ .finalized || session.recorder.sink.state ≠ .finalized then
    .error (recordingFailed "operator recording did not finalize")
  else
    match session.firstTimestamp, session.lastTimestamp with
    | some first, some last =>
        let counters := session.recorder.sink
        match buildDescriptor source.payloadType first last counters env.startedAtUtc with
        | .error failure => .error failure
        | .ok descriptor =>
            let receipt : OperatorRecordingReceipt :=
              ⟨counters.packets, counters.payloadBytes, recordedDurationMs first last⟩
            if !env.descriptorPersisted then
              .error (recordingFailed "recording descriptor could not be persisted")
            else if !receipt.inRange then .error .receipt
            else .ok ⟨receipt, counters.file, descriptor⟩
    | _, _ => .error (recordingFailed "operator recording did not finalize")

/-- `record`, from the resolved source on. -/
def record (source : ResolvedLiveSource) (env : RecordingEnvironment) :
    Except RecordFailure RecordedPair :=
  match coordinator.recorder.start env.openCall env.abortWorker with
  | (.error failure, _) => .error (.recorder failure)
  | (.ok (), recorder) =>
      if !env.relayStarts then .error (recordingFailed "operator recording failed")
      else
        match RecordingSession.deliver source coordinator.deliveryPacketGoal env
            ⟨recorder, none, none⟩ 0 env.datagrams with
        | (.error failure, _) => .error failure
        | (.ok (), session) =>
            match session.recorder.finalize env.finalizeCall env.abortWorker with
            | (.error .cancelled, _) => .error (.recorder .cancelled)
            | (.error (.error _), _) => .error (recordingFailed "operator recording failed")
            | (.ok (), recorder) => conclude source env { session with recorder := recorder }

end BoundedOperatorRecordingCoordinator

end K5Vision.Media
