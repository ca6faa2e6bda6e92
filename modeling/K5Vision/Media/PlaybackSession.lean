import K5Vision.Media.PlaybackDecode

/-!
# Playback sessions

`BoundedPlaybackSession` of `media/playback_session.py`, which makes a decoder, puts it into a
bridge and runs the bridge.  The bridge stands in the state of the session from the start; its
constructor does nothing but check its arguments (`composed`).
-/

namespace K5Vision.Media

open Library

inductive PlaybackSessionState
  | created
  | running
  | complete
  | cancelled
  | failed
  deriving DecidableEq, Repr

def PlaybackSessionState.Terminal : PlaybackSessionState → Prop
  | .created | .running => False
  | .complete | .cancelled | .failed => True

inductive PlaybackSessionErrorCode
  | invalidState
  | unsupportedCodec
  | decoderInitFailure
  | compositionFailure
  | decodeFailure
  deriving DecidableEq, Repr

structure PlaybackSessionError where
  code : PlaybackSessionErrorCode
  message : String
  decodeErrorCode : Option PlaybackDecodeErrorCode
  deriving DecidableEq, Repr

inductive SessionRaised
  | session (error : PlaybackSessionError)
  /-- It comes from the bridge, or from the factory of decoders. -/
  | inner (raised : DecodeRaised)

structure PlaybackSessionSnapshot where
  state : PlaybackSessionState
  decoderInitialized : Bool
  decodedFrames : ℕ
  decodedBytes : ℕ
  sourceSpanMs : ℤ
  deliveredPackets : ℕ
  descriptorVerified : Bool

/-- `BoundedPlaybackSession`, and the bridge that it runs. -/
structure BoundedPlaybackSession where
  snapshot : PlaybackSessionSnapshot
  decode : DecodeRun

structure SessionCallees where
  /-- The factory; what it makes has the methods of a decoder, or not. -/
  factory : Except CalleeRaise Bool
  /-- The constructor of the bridge takes its arguments. -/
  composed : Bool
  decoder : PlaybackCallees

namespace BoundedPlaybackSession

def create (schedule : BoundedPlaybackSchedule) : BoundedPlaybackSession :=
  ⟨⟨.created, false, 0, 0, 0, 0, false⟩, .create schedule⟩

def withState (session : BoundedPlaybackSession) (state : PlaybackSessionState) :
    BoundedPlaybackSession :=
  { session with snapshot := { session.snapshot with state := state } }

def initialized (session : BoundedPlaybackSession) : BoundedPlaybackSession :=
  { session with snapshot := { session.snapshot with decoderInitialized := true } }

/-- The results of the bridge. -/
def completed (session : BoundedPlaybackSession) (result : PlaybackDecodeSnapshot) :
    BoundedPlaybackSession :=
  { session with snapshot := { session.snapshot with
      decodedFrames := result.decodedFrames
      decodedBytes := result.decodedBytes
      sourceSpanMs := result.sourceSpanMs
      deliveredPackets := result.pumpDeliveredPackets
      descriptorVerified := result.descriptorVerified
      state := .complete } }

abbrev Method := Handler BoundedPlaybackSession SessionRaised

variable {α : Type}

def throwing (raised : SessionRaised) : Method α := Handler.read fun _ => .error raised

def newDecoder (factory : Except CalleeRaise Bool) : Method Unit := do
  match factory with
  | .error .cancelled => throwing (.inner (.raised .cancelled))
  | .error .fatal => throwing (.inner (.raised .fatal))
  | .error .timeout | .error .failure =>
      throwing (.session ⟨.decoderInitFailure, "playback decoder could not be initialized", none⟩)
  | .ok false =>
      throwing (.session ⟨.decoderInitFailure,
        "playback decoder does not satisfy the required boundary", none⟩)
  | .ok true => modify initialized

/-- The bridge, or the end of the decoder by `_close_unbound_decoder`, which raises nothing. -/
def compose (composed : Bool) : Method Unit := do
  if composed then pure ()
  else
    modify fun session => { session with decode := session.decode.called .closed }
    throwing (.session ⟨.compositionFailure,
      "playback session could not compose the accepted boundaries", none⟩)

def runBridge (limits : PlaybackDecodeLimits) (callees : PlaybackCallees) :
    Method PlaybackDecodeSnapshot :=
  Handler.of fun session =>
    let (outcome, after) := (PlaybackDecode.run limits callees).exec session.decode
    (outcome.mapError .inner, { session with decode := after })

def body (limits : PlaybackDecodeLimits) (callees : SessionCallees) :
    Method PlaybackSessionSnapshot := do
  newDecoder callees.factory
  compose callees.composed
  let result ← runBridge limits callees.decoder
  modify fun session => session.completed result
  Handler.read fun session => .ok session.snapshot

def endBy (state : PlaybackSessionState) (raised : SessionRaised) : Method α := do
  modify fun session => session.withState state
  throwing raised

def handleBody : SessionRaised → Method PlaybackSessionSnapshot
  | .inner (.raised .cancelled) => endBy .cancelled (.inner (.raised .cancelled))
  | .session error => endBy .failed (.session error)
  | .inner (.decode error) =>
      endBy .failed (.session ⟨.decodeFailure,
        "playback session failed inside the accepted decode boundary", some error.code⟩)
  | .inner (.pump error) => throwing (.inner (.pump error))
  | .inner (.raised .timeout) => throwing (.inner (.raised .timeout))
  | .inner (.raised .failure) => throwing (.inner (.raised .failure))
  | .inner (.raised .fatal) => throwing (.inner (.raised .fatal))

/-- `run`, with a consumer that can be called. -/
def run (limits : PlaybackDecodeLimits) (callees : SessionCallees) :
    Method PlaybackSessionSnapshot := do
  Handler.read fun session =>
    if session.snapshot.state ≠ .created then
      .error (.session ⟨.invalidState, "playback session cannot be reused", none⟩)
    else .ok ()
  modify fun session => session.withState .running
  (body limits callees).recover handleBody

end BoundedPlaybackSession

end K5Vision.Media
