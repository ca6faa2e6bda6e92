import K5Vision.Library.Handler
import K5Vision.Media.PlaybackChain

/-!
# Decoding of a playback

`BoundedPlaybackDecodeBridge` of `media/playback_decode.py`, with the pump of
`media/playback_pump.py` that it runs: scheduled packets go to a decoder, and its frames to a
consumer.

Decoder and consumer are somebody else's code.  What their calls return or raise is given with the
run (`PlaybackCallees`); a value that they return is what the code can see of it, so that its
length, the items that it yields and the fields of a frame raise where they are not what they
should be.  The consumer's answer stands beside the frame that it gets.

Beside the bridge, a run keeps the calls of the decoder that have come back.
-/

namespace K5Vision.Media

open Library

/-- What a call of foreign code raises: a `TimeoutError`, its own or that of `wait_for`, a
`CancelledError`, another `Exception`, or a `BaseException` that is none. -/
inductive CalleeRaise
  | timeout
  | cancelled
  | failure
  | fatal
  deriving DecidableEq, Repr

/-- An item of what the decoder returns. -/
inductive FrameValue
  | other
  /-- `sourceElapsedMs` is the number that the field is compared as, `payload` the length of the
  payload, and `consumer` what the consumer does. -/
  | frame (sourceElapsedMs : Except CalleeRaise ℚ) (payload : Except CalleeRaise ℕ)
      (consumer : Except CalleeRaise Unit)

inductive FramesValue
  | unsized (raised : CalleeRaise)
  /-- The length, the items that the iteration yields, and how it ends. -/
  | sized (length : ℕ) (items : List FrameValue) (ends : Except CalleeRaise Unit)

structure PacketDelivery where
  /-- The clock and the sleep before the packet. -/
  pacing : Except CalleeRaise Unit
  decoded : Except CalleeRaise FramesValue
  /-- A cancellation comes from the timeout of the pump. -/
  overdue : Bool

structure PlaybackCallees where
  /-- The clock at the start of the pump. -/
  clock : Except CalleeRaise Unit
  deliver : ScheduledPlaybackPacket → PacketDelivery
  flush : Except CalleeRaise FramesValue
  close : Except CalleeRaise Unit

/-! ## Errors -/

inductive PlaybackPumpErrorCode
  | invalidState
  | scheduleFailure
  | consumerTimeout
  | consumerFailure
  | pacingFailure
  deriving DecidableEq, Repr

structure PlaybackPumpError where
  code : PlaybackPumpErrorCode
  message : String
  scheduleErrorCode : Option PlaybackScheduleErrorCode
  deriving DecidableEq, Repr

inductive PlaybackDecodeErrorCode
  | invalidState
  | invalidDecoder
  | pumpFailure
  | decoderTimeout
  | decoderFailure
  | invalidFrame
  | frameLimit
  | consumerTimeout
  | consumerFailure
  | cleanupFailure
  deriving DecidableEq, Repr

structure PlaybackDecodeError where
  code : PlaybackDecodeErrorCode
  message : String
  pumpErrorCode : Option PlaybackPumpErrorCode
  deriving DecidableEq, Repr

inductive DecodeRaised
  | decode (error : PlaybackDecodeError)
  | pump (error : PlaybackPumpError)
  /-- It comes from foreign code, or from a snapshot out of its bounds, and nothing has translated
  it. -/
  | raised (raised : CalleeRaise)
  deriving DecidableEq, Repr

/-! ## States -/

inductive PlaybackPumpState
  | created
  | running
  | complete
  | cancelled
  | failed
  deriving DecidableEq, Repr

structure BoundedPlaybackPump where
  schedule : BoundedPlaybackSchedule
  state : PlaybackPumpState
  deliveredPackets : ℕ
  descriptorVerified : Bool

/-- The fields of the snapshot of a pump that the bridge reads. -/
structure PlaybackPumpSnapshot where
  deliveredPackets : ℕ
  descriptorVerified : Bool

inductive PlaybackDecodeState
  | created
  | running
  | complete
  | cancelled
  | failed
  deriving DecidableEq, Repr

def PlaybackDecodeState.Terminal : PlaybackDecodeState → Prop
  | .created | .running => False
  | .complete | .cancelled | .failed => True

def maxDecodedFrames : ℕ := 1000000

def maxSourceElapsedMs : ℕ := 2147483647

structure PlaybackDecodeLimits where
  maxFrames : ℕ
  maxFramesPerPacket : ℕ
  maxFrameBytes : ℕ
  frames_mem : 1 ≤ maxFrames ∧ maxFrames ≤ maxDecodedFrames
  perPacket_mem : 1 ≤ maxFramesPerPacket ∧ maxFramesPerPacket ≤ 32
  bytes_mem : 1 ≤ maxFrameBytes ∧ maxFrameBytes ≤ 128 * 1024 * 1024

/-- `BoundedPlaybackDecodeBridge`; its limits stand beside it. -/
structure BoundedPlaybackDecodeBridge where
  pump : BoundedPlaybackPump
  state : PlaybackDecodeState
  decodedFrames : ℕ
  decodedBytes : ℕ
  sourceSpanMs : ℚ
  pumpDeliveredPackets : ℕ
  descriptorVerified : Bool

structure PlaybackDecodeSnapshot where
  state : PlaybackDecodeState
  decodedFrames : ℕ
  decodedBytes : ℕ
  sourceSpanMs : ℤ
  pumpDeliveredPackets : ℕ
  descriptorVerified : Bool

/-- A call of the decoder that has come back, and, for `flushed`, whose frames are consumed. -/
inductive DecoderCall
  | decoded (packet : ScheduledPlaybackPacket)
  | flushed
  | closed
  deriving DecidableEq

/-- The bridge and the local variables of its `run`. -/
structure DecodeRun where
  bridge : BoundedPlaybackDecodeBridge
  boundaryError : Option PlaybackDecodeError
  primaryError : Option DecodeRaised
  calls : List DecoderCall

namespace DecodeRun

def create (schedule : BoundedPlaybackSchedule) : DecodeRun :=
  ⟨⟨⟨schedule, .created, 0, false⟩, .created, 0, 0, 0, 0, false⟩, none, none, []⟩

def withState (run : DecodeRun) (state : PlaybackDecodeState) : DecodeRun :=
  { run with bridge := { run.bridge with state := state } }

def withPump (run : DecodeRun) (state : PlaybackPumpState) : DecodeRun :=
  { run with bridge := { run.bridge with pump := { run.bridge.pump with state := state } } }

def called (run : DecodeRun) (call : DecoderCall) : DecodeRun :=
  { run with calls := run.calls ++ [call] }

/-- A packet more has been delivered. -/
def delivered (run : DecodeRun) : DecodeRun :=
  { run with bridge := { run.bridge with pump := { run.bridge.pump with
      deliveredPackets := run.bridge.pump.deliveredPackets + 1 } } }

/-- The pump is through. -/
def pumped (run : DecodeRun) (verified : Bool) : DecodeRun :=
  { run with bridge := { run.bridge with pump := { run.bridge.pump with
      descriptorVerified := verified
      state := .complete } } }

/-- The bridge is through. -/
def completed (run : DecodeRun) (snapshot : PlaybackPumpSnapshot) : DecodeRun :=
  { run with bridge := { run.bridge with
      pumpDeliveredPackets := snapshot.deliveredPackets
      descriptorVerified := snapshot.descriptorVerified
      state := .complete } }

def take (run : DecodeRun) (sourceElapsedMs : ℚ) (frameBytes : ℕ) : DecodeRun :=
  { run with bridge := { run.bridge with
      decodedFrames := run.bridge.decodedFrames + 1
      decodedBytes := run.bridge.decodedBytes + frameBytes
      sourceSpanMs := max run.bridge.sourceSpanMs sourceElapsedMs } }

end DecodeRun

/-! ## The bridge -/

namespace PlaybackDecode

abbrev Method := Handler DecodeRun DecodeRaised

variable {α : Type}

def throwing (raised : DecodeRaised) : Method α := Handler.read fun _ => .error raised

def untranslated (outcome : Except CalleeRaise α) : Method α :=
  Handler.read fun _ => outcome.mapError .raised

/-- The `except` clauses around a call of foreign code. -/
def translated (outcome : Except CalleeRaise α) (timeout failure : PlaybackDecodeError) :
    Method α :=
  Handler.read fun _ => outcome.mapError fun
    | .timeout => .decode timeout
    | .failure => .decode failure
    | .cancelled => .raised .cancelled
    | .fatal => .raised .fatal

def decode (packet : ScheduledPlaybackPacket) (outcome : Except CalleeRaise FramesValue) :
    Method FramesValue := do
  let frames ← translated outcome ⟨.decoderTimeout, "playback decoder timed out", none⟩
    ⟨.decoderFailure, "playback decoder failed", none⟩
  modify fun run => run.called (.decoded packet)
  return frames

def invalidFrame (message : String) : DecodeRaised := .decode ⟨.invalidFrame, message, none⟩

def checkRoom (limits : PlaybackDecodeLimits) : Method Unit :=
  Handler.read fun run =>
    if limits.maxFrames ≤ run.bridge.decodedFrames then
      .error (.decode ⟨.frameLimit, "playback decoded-frame limit exceeded", none⟩)
    else .ok ()

def emitFrame (limits : PlaybackDecodeLimits) : FrameValue → Method Unit
  | .other => throwing (invalidFrame "playback decoder emitted an invalid frame")
  | .frame sourceElapsedMs payload consumer => do
      let elapsed ← untranslated sourceElapsedMs
      Handler.require (decide (0 ≤ elapsed ∧ elapsed ≤ maxSourceElapsedMs))
        (invalidFrame "playback decoder emitted invalid frame timing")
      let frameBytes ← untranslated payload
      Handler.require (decide (1 ≤ frameBytes ∧ frameBytes ≤ limits.maxFrameBytes))
        (invalidFrame "playback decoder emitted an invalid frame size")
      checkRoom limits
      translated consumer ⟨.consumerTimeout, "playback frame consumer timed out", none⟩
        ⟨.consumerFailure, "playback frame consumer failed", none⟩
      modify fun run => run.take elapsed frameBytes

def emitFrames (limits : PlaybackDecodeLimits) : FramesValue → Method Unit
  | .unsized raised => throwing (.raised raised)
  | .sized length items ends => do
      Handler.require (decide (length ≤ limits.maxFramesPerPacket))
        (.decode ⟨.frameLimit, "playback decoder emitted too many frames for one packet", none⟩)
      Handler.forEach (emitFrame limits) items
      untranslated ends

def keepBoundary : DecodeRaised → Method Unit
  | .decode error => do
      modify fun run => { run with boundaryError := some error }
      throwing (.decode error)
  | .pump error => throwing (.pump error)
  | .raised raised => throwing (.raised raised)

def packetConsumer (limits : PlaybackDecodeLimits) (packet : ScheduledPlaybackPacket)
    (outcome : Except CalleeRaise FramesValue) : Method Unit :=
  (decode packet outcome >>= emitFrames limits).recover keepBoundary

/-! ## The pump -/

def pumpFailed (error : PlaybackPumpError) : Method α := do
  modify fun run => run.withPump .failed
  throwing (.pump error)

def pumpCancelled : Method α := do
  modify fun run => run.withPump .cancelled
  throwing (.raised .cancelled)

def handleConsumer (overdue : Bool) : DecodeRaised → Method Unit
  | .raised .cancelled =>
      if overdue then pumpFailed ⟨.consumerTimeout, "playback consumer timed out", none⟩
      else pumpCancelled
  | .raised .timeout => pumpFailed ⟨.consumerTimeout, "playback consumer timed out", none⟩
  | .raised .fatal => throwing (.raised .fatal)
  | .raised .failure | .decode _ | .pump _ =>
      pumpFailed ⟨.consumerFailure, "playback consumer failed", none⟩

def pace : Except CalleeRaise Unit → Method Unit
  | .ok () => pure ()
  | .error .cancelled => pumpCancelled
  | .error .fatal => throwing (.raised .fatal)
  | .error .timeout | .error .failure =>
      pumpFailed ⟨.pacingFailure, "playback pacing failed", none⟩

def deliverPacket (limits : PlaybackDecodeLimits)
    (deliver : ScheduledPlaybackPacket → PacketDelivery) (packet : ScheduledPlaybackPacket) :
    Method Unit := do
  pace (deliver packet).pacing
  (packetConsumer limits packet (deliver packet).decoded).recover
    (handleConsumer (deliver packet).overdue)
  modify DecodeRun.delivered

def startClock : Except CalleeRaise Unit → Method Unit
  | .ok () => pure ()
  | .error .cancelled => throwing (.raised .cancelled)
  | .error .fatal => throwing (.raised .fatal)
  | .error .timeout | .error .failure =>
      pumpFailed ⟨.pacingFailure, "playback pacing clock failed", none⟩

/-- The end of the source of the pump. -/
def endSource (error : Option PlaybackScheduleError) (verified : Bool) :
    Method PlaybackPumpSnapshot :=
  match error with
  | some error =>
      pumpFailed ⟨.scheduleFailure, "playback schedule failed", some error.code⟩
  | none => do
      modify fun run => run.pumped verified
      Handler.read fun run =>
        .ok ⟨run.bridge.pump.deliveredPackets, run.bridge.pump.descriptorVerified⟩

/-- `BoundedPlaybackPump.run`, over what its schedule hands out. -/
def pumpSource (limits : PlaybackDecodeLimits) (callees : PlaybackCallees)
    (source : Trace PlaybackScheduleError ScheduledPlaybackPacket) (verified : Bool) :
    Method PlaybackPumpSnapshot := do
  modify fun run => run.withPump .running
  startClock callees.clock
  Handler.forEach (deliverPacket limits callees.deliver) source.items
  endSource source.error verified

def pumpRun (limits : PlaybackDecodeLimits) (callees : PlaybackCallees) :
    Method PlaybackPumpSnapshot :=
  Handler.of fun run =>
    if run.bridge.pump.state ≠ .created then
      (.error (.pump ⟨.invalidState, "playback pump cannot be reused", none⟩), run)
    else
      let (source, schedule) := run.bridge.pump.schedule.iterPackets
      (pumpSource limits callees source schedule.descriptorVerified).exec run

/-! ## The run -/

def flush (limits : PlaybackDecodeLimits) (outcome : Except CalleeRaise FramesValue) :
    Method Unit := do
  let frames ← translated outcome ⟨.decoderTimeout, "playback decoder flush timed out", none⟩
    ⟨.decoderFailure, "playback decoder flush failed", none⟩
  emitFrames limits frames
  modify fun run => run.called .flushed

def closeDecoder (outcome : Except CalleeRaise Unit) : Method Unit := do
  modify fun run => run.called .closed
  translated outcome ⟨.cleanupFailure, "playback decoder cleanup failed", none⟩
    ⟨.cleanupFailure, "playback decoder cleanup failed", none⟩

/-- The inner `try`. -/
def body (limits : PlaybackDecodeLimits) (callees : PlaybackCallees) : Method Unit := do
  let snapshot ← pumpRun limits callees
  flush limits callees.flush
  modify fun run => run.completed snapshot

/-- The run ends in a state by its first error. -/
def endBy (state : PlaybackDecodeState) (raised : DecodeRaised) : Method α := do
  modify fun run => { run.withState state with primaryError := some raised }
  throwing raised

def handleBody : DecodeRaised → Method Unit
  | .raised .cancelled => endBy .cancelled (.raised .cancelled)
  | .decode error => endBy .failed (.decode error)
  | .pump error =>
      Handler.of fun run =>
        (endBy .failed (.decode (run.boundaryError.getD
          ⟨.pumpFailure, "playback pump failed", some error.code⟩))).exec run
  | .raised .timeout => throwing (.raised .timeout)
  | .raised .failure => throwing (.raised .failure)
  | .raised .fatal => throwing (.raised .fatal)

/-- An error of the cleanup counts where it is the first one. -/
def afterCleanup (state : PlaybackDecodeState) (raised : DecodeRaised) : Method Unit :=
  Handler.of fun run =>
    if run.primaryError = none then (.error raised, run.withState state) else (.ok (), run)

def cleanUp (outcome : Except CalleeRaise Unit) : Method Unit :=
  (closeDecoder outcome).recover fun
    | .raised .cancelled => afterCleanup .cancelled (.raised .cancelled)
    | .decode error => afterCleanup .failed (.decode error)
    | raised => throwing raised

def observed (bridge : BoundedPlaybackDecodeBridge) : PlaybackDecodeSnapshot where
  state := bridge.state
  decodedFrames := bridge.decodedFrames
  decodedBytes := bridge.decodedBytes
  sourceSpanMs := bridge.sourceSpanMs.num
  pumpDeliveredPackets := bridge.pumpDeliveredPackets
  descriptorVerified := bridge.descriptorVerified

/-- The model `PlaybackDecodeSnapshot` takes whole numbers only. -/
def snapshot : Method PlaybackDecodeSnapshot :=
  Handler.read fun run =>
    if run.bridge.decodedFrames ≤ maxDecodedFrames ∧ 0 ≤ run.bridge.sourceSpanMs ∧
        run.bridge.sourceSpanMs.isInt then
      .ok (observed run.bridge)
    else .error (.raised .failure)

/-- `run`, with a consumer that can be called. -/
def run (limits : PlaybackDecodeLimits) (callees : PlaybackCallees) :
    Method PlaybackDecodeSnapshot := do
  Handler.read fun run =>
    if run.bridge.state ≠ .created then
      .error (.decode ⟨.invalidState, "playback decoder boundary cannot be reused", none⟩)
    else .ok ()
  modify fun run => run.withState .running
  ((body limits callees).recover handleBody >>= fun _ => snapshot).ensure
    (cleanUp callees.close) fun _ late => late

end PlaybackDecode

end K5Vision.Media
