import K5Vision.Media.Playback

/-!
# Timeline, navigator, window and schedule

Playback of a time window is four generators, each looping over the one before:

* `BoundedPlaybackTimeline` unwraps the 32-bit RTP timestamps packet by packet
  into milliseconds since the first packet, and refuses a timestamp that goes
  back;
* `BoundedPlaybackNavigator` skips to the first packet at or after a target;
* `BoundedPlaybackWindow` leaves out the packets after the end of the window,
  but reads on, so that the whole file is verified;
* `BoundedPlaybackSchedule` numbers the packets and computes due times at the
  playback rate.

Each layer keeps the layer below in its state, as the constructors do, and reads
its `descriptor_verified` flag when that layer has ended without an error.  The
constructors of these layers pass `max_packets` on and leave the other two limits
at their defaults; here all three are passed on.
-/

namespace K5Vision.Media

open Library

/-! ## The timeline -/

inductive PlaybackTimelineErrorCode
  | invalidState
  | playbackFailure
  | timestampRegression
  deriving DecidableEq, Repr

structure PlaybackTimelineError where
  code : PlaybackTimelineErrorCode
  message : String
  playbackErrorCode : Option PlaybackErrorCode
  deriving DecidableEq, Repr

structure TimedPlaybackPacket where
  packet : Packet
  ordinal : ℕ
  rtpTimestamp : ℕ
  elapsedMs : ℕ
  deriving DecidableEq, Repr

def rtpModulus : ℕ := 2 ^ 32

def rtpHalfRange : ℕ := 2 ^ 31

/-- The forward distance `(timestamp - previous) % _RTP_MODULUS`. -/
def rtpDelta (previous timestamp : ℕ) : ℕ := (((timestamp : ℤ) - previous) % rtpModulus).toNat

/-- `BoundedPlaybackTimeline`, with the two local variables of its generator. -/
structure BoundedPlaybackTimeline where
  playback : BoundedRecordingPlayback
  state : PlaybackState
  packets : ℕ
  elapsedMs : ℕ
  timestampWraps : ℕ
  descriptorVerified : Bool
  previousTimestamp : Option ℕ
  elapsedTicks : ℕ

namespace BoundedPlaybackTimeline

def create (file : Option (List UInt8)) (descriptor : RecordingStreamDescriptor)
    (limits : FramedLimits) : Except String BoundedPlaybackTimeline :=
  if limits.maxPackets < descriptor.packetCount then
    .error "descriptor packet count exceeds timeline limit"
  else do
    let playback ← BoundedRecordingPlayback.create file descriptor limits
    return ⟨playback, .created, 0, 0, 0, false, none, 0⟩

def playbackFailure (error : PlaybackError) : PlaybackTimelineError :=
  ⟨.playbackFailure, "playback timeline read failed", some error.code⟩

def timestampRegression : PlaybackTimelineError :=
  ⟨.timestampRegression, "playback RTP timestamp regressed", none⟩

/-- The part of the loop body after the regression check. -/
def emitPacket (timeline : BoundedPlaybackTimeline) (packet : Packet) :
    Turn BoundedPlaybackTimeline TimedPlaybackPacket PlaybackTimelineError :=
  let timestamp := rtpTimestamp packet
  let elapsedMs := timeline.elapsedTicks * 1000 / timeline.playback.descriptor.clockRateHz
  .emit ⟨packet, timeline.packets, timestamp, elapsedMs⟩
    { timeline with
      packets := timeline.packets + 1
      elapsedMs := elapsedMs
      previousTimestamp := some timestamp }

def body (timeline : BoundedPlaybackTimeline) (packet : Packet) :
    Turn BoundedPlaybackTimeline TimedPlaybackPacket PlaybackTimelineError :=
  match timeline.previousTimestamp with
  | none => timeline.emitPacket packet
  | some previous =>
      let timestamp := rtpTimestamp packet
      let delta := rtpDelta previous timestamp
      if rtpHalfRange ≤ delta then .fail timestampRegression timeline
      else
        let wraps := if timestamp < previous ∧ 0 < delta then 1 else 0
        { timeline with
          timestampWraps := timeline.timestampWraps + wraps
          elapsedTicks := timeline.elapsedTicks + delta }.emitPacket packet

def iterPackets (timeline : BoundedPlaybackTimeline) :
    Trace PlaybackTimelineError TimedPlaybackPacket × BoundedPlaybackTimeline :=
  if timeline.state ≠ .created then
    (⟨[], some ⟨.invalidState, "playback timeline cannot be reused", none⟩⟩, timeline)
  else
    let (source, playback) := timeline.playback.iterPackets
    let (trace, last) := source.through body playbackFailure { timeline with state := .reading }
    match trace.error with
    | some _ => (trace, { last with state := .failed, playback := playback })
    | none =>
        (trace, { last with
          state := .complete
          playback := playback
          descriptorVerified := playback.descriptorVerified })

end BoundedPlaybackTimeline

/-! ## The navigator -/

inductive PlaybackNavigationState
  | created
  | scanning
  | positioned
  | complete
  | aborted
  | failed
  deriving DecidableEq, Repr

inductive PlaybackNavigationErrorCode
  | invalidState
  | timelineFailure
  deriving DecidableEq, Repr

structure PlaybackNavigationError where
  code : PlaybackNavigationErrorCode
  message : String
  timelineErrorCode : Option PlaybackTimelineErrorCode
  deriving DecidableEq, Repr

structure BoundedPlaybackNavigator where
  timeline : BoundedPlaybackTimeline
  targetMs : ℕ
  state : PlaybackNavigationState
  scannedPackets : ℕ
  emittedPackets : ℕ
  positionedAtMs : Option ℕ
  descriptorVerified : Bool

namespace BoundedPlaybackNavigator

def create (file : Option (List UInt8)) (descriptor : RecordingStreamDescriptor)
    (targetMs : ℕ) (limits : FramedLimits) : Except String BoundedPlaybackNavigator :=
  if descriptor.durationMs < targetMs then
    .error "target_ms is outside the recording duration"
  else if limits.maxPackets < descriptor.packetCount then
    .error "descriptor packet count exceeds navigation limit"
  else do
    let timeline ← BoundedPlaybackTimeline.create file descriptor limits
    return ⟨timeline, targetMs, .created, 0, 0, none, false⟩

def timelineFailure (error : PlaybackTimelineError) : PlaybackNavigationError :=
  ⟨.timelineFailure, "playback navigation failed", some error.code⟩

def body (navigator : BoundedPlaybackNavigator) (item : TimedPlaybackPacket) :
    Turn BoundedPlaybackNavigator TimedPlaybackPacket PlaybackNavigationError :=
  let scanned := { navigator with scannedPackets := navigator.scannedPackets + 1 }
  match navigator.positionedAtMs with
  | some _ => .emit item { scanned with emittedPackets := navigator.emittedPackets + 1 }
  | none =>
      if item.elapsedMs < navigator.targetMs then .skip scanned
      else
        .emit item { scanned with
          positionedAtMs := some item.elapsedMs
          state := .positioned
          emittedPackets := navigator.emittedPackets + 1 }

def iterPackets (navigator : BoundedPlaybackNavigator) :
    Trace PlaybackNavigationError TimedPlaybackPacket × BoundedPlaybackNavigator :=
  if navigator.state ≠ .created then
    (⟨[], some ⟨.invalidState, "playback navigator cannot be reused", none⟩⟩, navigator)
  else
    let (source, timeline) := navigator.timeline.iterPackets
    let (trace, last) := source.through body timelineFailure { navigator with state := .scanning }
    match trace.error with
    | some _ => (trace, { last with state := .failed, timeline := timeline })
    | none =>
        (trace, { last with
          state := .complete
          timeline := timeline
          descriptorVerified := timeline.descriptorVerified })

end BoundedPlaybackNavigator

/-! ## The window -/

inductive PlaybackWindowErrorCode
  | invalidState
  | navigationFailure
  deriving DecidableEq, Repr

structure PlaybackWindowError where
  code : PlaybackWindowErrorCode
  message : String
  navigationErrorCode : Option PlaybackNavigationErrorCode
  deriving DecidableEq, Repr

structure BoundedPlaybackWindow where
  navigator : BoundedPlaybackNavigator
  startMs : ℕ
  endMs : ℕ
  state : PlaybackState
  scannedPackets : ℕ
  emittedPackets : ℕ
  firstEmittedMs : Option ℕ
  lastEmittedMs : Option ℕ
  descriptorVerified : Bool

namespace BoundedPlaybackWindow

def create (file : Option (List UInt8)) (descriptor : RecordingStreamDescriptor)
    (startMs endMs : ℕ) (limits : FramedLimits) : Except String BoundedPlaybackWindow :=
  if ¬ (startMs ≤ endMs ∧ endMs ≤ descriptor.durationMs) then
    .error "playback window is outside the recording duration"
  else if limits.maxPackets < descriptor.packetCount then
    .error "descriptor packet count exceeds playback-window limit"
  else do
    let navigator ← BoundedPlaybackNavigator.create file descriptor startMs limits
    return ⟨navigator, startMs, endMs, .created, 0, 0, none, none, false⟩

def navigationFailure (error : PlaybackNavigationError) : PlaybackWindowError :=
  ⟨.navigationFailure, "playback window read failed", some error.code⟩

def body (window : BoundedPlaybackWindow) (item : TimedPlaybackPacket) :
    Turn BoundedPlaybackWindow TimedPlaybackPacket PlaybackWindowError :=
  let scanned := { window with scannedPackets := window.scannedPackets + 1 }
  if window.endMs < item.elapsedMs then .skip scanned
  else
    .emit item { scanned with
      firstEmittedMs := window.firstEmittedMs <|> some item.elapsedMs
      lastEmittedMs := some item.elapsedMs
      emittedPackets := window.emittedPackets + 1 }

def iterPackets (window : BoundedPlaybackWindow) :
    Trace PlaybackWindowError TimedPlaybackPacket × BoundedPlaybackWindow :=
  if window.state ≠ .created then
    (⟨[], some ⟨.invalidState, "playback window cannot be reused", none⟩⟩, window)
  else
    let (source, navigator) := window.navigator.iterPackets
    let (trace, last) := source.through body navigationFailure { window with state := .reading }
    match trace.error with
    | some _ => (trace, { last with state := .failed, navigator := navigator })
    | none =>
        (trace, { last with
          state := .complete
          navigator := navigator
          descriptorVerified := navigator.descriptorVerified })

end BoundedPlaybackWindow

/-! ## The schedule -/

inductive PlaybackRate
  | quarter
  | half
  | normal
  | double
  | quadruple
  | octuple
  | sixteen
  deriving DecidableEq, Repr

/-- A playback rate as numerator and denominator. -/
structure RateRatio where
  numerator : ℕ
  denominator : ℕ
  numerator_pos : 0 < numerator
  denominator_pos : 0 < denominator
  deriving DecidableEq, Repr

def PlaybackRate.ratio : PlaybackRate → RateRatio
  | .quarter => ⟨1, 4, by omega, by omega⟩
  | .half => ⟨1, 2, by omega, by omega⟩
  | .normal => ⟨1, 1, by omega, by omega⟩
  | .double => ⟨2, 1, by omega, by omega⟩
  | .quadruple => ⟨4, 1, by omega, by omega⟩
  | .octuple => ⟨8, 1, by omega, by omega⟩
  | .sixteen => ⟨16, 1, by omega, by omega⟩

inductive PlaybackScheduleState
  | created
  | scheduling
  | complete
  | aborted
  | failed
  deriving DecidableEq, Repr

inductive PlaybackScheduleErrorCode
  | invalidState
  | windowFailure
  deriving DecidableEq, Repr

structure PlaybackScheduleError where
  code : PlaybackScheduleErrorCode
  message : String
  windowErrorCode : Option PlaybackWindowErrorCode
  deriving DecidableEq, Repr

structure ScheduledPlaybackPacket where
  packet : Packet
  ordinal : ℕ
  sourceElapsedMs : ℕ
  dueMs : ℕ
  deriving DecidableEq, Repr

/-- `BoundedPlaybackSchedule`, with the local `origin_ms` of its generator.  The
rate is any ratio; the code's seven rates are the values of `PlaybackRate.ratio`. -/
structure BoundedPlaybackSchedule where
  window : BoundedPlaybackWindow
  rate : RateRatio
  state : PlaybackScheduleState
  packets : ℕ
  sourceSpanMs : ℕ
  scheduledSpanMs : ℕ
  descriptorVerified : Bool
  originMs : Option ℕ

namespace BoundedPlaybackSchedule

def create (file : Option (List UInt8)) (descriptor : RecordingStreamDescriptor)
    (startMs endMs : ℕ) (rate : RateRatio) (limits : FramedLimits) :
    Except String BoundedPlaybackSchedule := do
  let window ← BoundedPlaybackWindow.create file descriptor startMs endMs limits
  return ⟨window, rate, .created, 0, 0, 0, false, none⟩

def windowFailure (error : PlaybackWindowError) : PlaybackScheduleError :=
  ⟨.windowFailure, "playback schedule failed", some error.code⟩

def body (schedule : BoundedPlaybackSchedule) (item : TimedPlaybackPacket) :
    Turn BoundedPlaybackSchedule ScheduledPlaybackPacket PlaybackScheduleError :=
  let originMs := schedule.originMs.getD item.elapsedMs
  let sourceDeltaMs := item.elapsedMs - originMs
  let dueMs := sourceDeltaMs * schedule.rate.denominator / schedule.rate.numerator
  .emit ⟨item.packet, schedule.packets, item.elapsedMs, dueMs⟩
    { schedule with
      packets := schedule.packets + 1
      sourceSpanMs := sourceDeltaMs
      scheduledSpanMs := dueMs
      originMs := some originMs }

def iterPackets (schedule : BoundedPlaybackSchedule) :
    Trace PlaybackScheduleError ScheduledPlaybackPacket × BoundedPlaybackSchedule :=
  if schedule.state ≠ .created then
    (⟨[], some ⟨.invalidState, "playback schedule cannot be reused", none⟩⟩, schedule)
  else
    let (source, window) := schedule.window.iterPackets
    let (trace, last) := source.through body windowFailure { schedule with state := .scheduling }
    match trace.error with
    | some _ => (trace, { last with state := .failed, window := window })
    | none =>
        (trace, { last with
          state := .complete
          window := window
          descriptorVerified := window.descriptorVerified })

end BoundedPlaybackSchedule

end K5Vision.Media
