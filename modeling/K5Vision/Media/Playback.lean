import K5Vision.Media.FramedRecording
import K5Vision.Media.RecordingDescriptor

/-!
# Reading a recording through its descriptor

`media/playback.py`: `BoundedRecordingPlayback` reads a file with
`FramedRecordingReader`, checks every packet against the descriptor and compares
the counters with the descriptor's at the end.  The comparison is what rejects a
file cut at a record boundary, which the reader alone takes for complete.
-/

namespace K5Vision.Media

open Library

inductive PlaybackState
  | created
  | reading
  | complete
  | aborted
  | failed
  deriving DecidableEq, Repr

inductive PlaybackErrorCode
  | invalidState
  | recordingFailure
  | descriptorMismatch
  | rtpMismatch
  deriving DecidableEq, Repr

structure PlaybackError where
  code : PlaybackErrorCode
  message : String
  recordingErrorCode : Option FramedRecordingErrorCode
  deriving DecidableEq, Repr

def rtpMismatch : PlaybackError :=
  ⟨.rtpMismatch, "playback RTP metadata does not match descriptor", none⟩

def descriptorMismatch : PlaybackError :=
  ⟨.descriptorMismatch, "playback recording does not match descriptor", none⟩

def recordingFailure (error : FramedRecordingError) : PlaybackError :=
  ⟨.recordingFailure, "playback recording read failed", some error.code⟩

/-- `BoundedRecordingPlayback`, over the contents of the file it reads. -/
structure BoundedRecordingPlayback where
  file : Option (List UInt8)
  descriptor : RecordingStreamDescriptor
  limits : FramedLimits
  state : PlaybackState
  packets : ℕ
  payloadBytes : ℕ
  fileBytes : ℕ
  descriptorVerified : Bool

namespace BoundedRecordingPlayback

/-- The constructor, which refuses a descriptor beyond its limits. -/
def create (file : Option (List UInt8)) (descriptor : RecordingStreamDescriptor)
    (limits : FramedLimits) : Except String BoundedRecordingPlayback :=
  if limits.maxPackets < descriptor.packetCount then
    .error "descriptor packet count exceeds playback limit"
  else if limits.maxPayloadBytes < descriptor.payloadBytes then
    .error "descriptor payload bytes exceed playback limit"
  else .ok ⟨file, descriptor, limits, .created, 0, 0, 0, false⟩

/-- `_validate_packet`: the checks of a packet, of which the last is made of the
first packet only. -/
def packetMatches (playback : BoundedRecordingPlayback) (packet : Packet) : Bool :=
  payloadType packet == playback.descriptor.payloadType &&
    !(playback.packets == 0 && rtpTimestamp packet != playback.descriptor.rtpTimestampOrigin)

def progressMatches (playback : BoundedRecordingPlayback) : Bool :=
  !(playback.descriptor.packetCount < playback.packets ||
    playback.descriptor.payloadBytes < playback.payloadBytes)

def completeMatches (playback : BoundedRecordingPlayback) : Bool :=
  playback.packets == playback.descriptor.packetCount &&
    playback.payloadBytes == playback.descriptor.payloadBytes &&
    playback.fileBytes == playback.descriptor.fileBytes

def body (playback : BoundedRecordingPlayback) (item : ReadPacket) :
    Turn BoundedRecordingPlayback Packet PlaybackError :=
  let read := { playback with fileBytes := item.fileBytes }
  if !playback.packetMatches item.payload then .fail rtpMismatch read
  else
    let next := { read with
      packets := playback.packets + 1
      payloadBytes := playback.payloadBytes + item.payload.length }
    if !next.progressMatches then .fail descriptorMismatch next else .emit item.payload next

/-- `iter_packets`, run to its end. -/
def iterPackets (playback : BoundedRecordingPlayback) :
    Trace PlaybackError Packet × BoundedRecordingPlayback :=
  if playback.state ≠ .created then
    (⟨[], some ⟨.invalidState, "playback boundary cannot be reused", none⟩⟩, playback)
  else
    let (source, reader) := (FramedRecordingReader.create playback.limits).iterPackets playback.file
    let (trace, last) := source.through body recordingFailure { playback with state := .reading }
    match trace.error with
    | some error =>
        -- the counters of a reader that failed itself are the ones it stopped with
        let fileBytes := if error.recordingErrorCode.isSome then reader.fileBytes else last.fileBytes
        (trace, { last with state := .failed, fileBytes := fileBytes })
    | none =>
        let final := { last with fileBytes := reader.fileBytes }
        if !final.completeMatches then
          (⟨trace.items, some descriptorMismatch⟩, { final with state := .failed })
        else (trace, { final with state := .complete, descriptorVerified := true })

end BoundedRecordingPlayback

end K5Vision.Media
