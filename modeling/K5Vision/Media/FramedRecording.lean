import K5Vision.Library.Trace
import K5Vision.Media.Rtp

/-!
# The framed recording format

`media/framed_recording.py`: a recording file is an eight-byte magic followed by
records, each a big-endian length, the CRC-32 of the payload and the payload.
The writer `FramedAtomicRecordingSink` and the reader `FramedRecordingReader`
are separate implementations with their own state, limits and terminal checks,
and are modelled separately.

The sink's file work runs in a worker thread.  What that worker did is an input
here (`WorkerOutcome`), so that every operation has its error and cancellation
branches; the file is the list of bytes that reached it.
-/

namespace K5Vision.Media

open Library

/-! ## States, errors and limits -/

inductive FramedRecordingState
  | created
  | opened
  | finalized
  | complete
  | aborted
  | failed
  deriving DecidableEq, Repr

inductive FramedRecordingErrorCode
  | invalidRecordingId
  | invalidState
  | conflict
  | limitExceeded
  | ioFailure
  | invalidHeader
  | invalidRecord
  | truncatedRecord
  | integrityFailure
  deriving DecidableEq, Repr

structure FramedRecordingError where
  code : FramedRecordingErrorCode
  message : String
  deriving DecidableEq, Repr

/-- The limits a sink or a reader is constructed with; the constructors of both
refuse values outside these ranges. -/
structure FramedLimits where
  maxPackets : ℕ
  maxPayloadBytes : ℕ
  maxPacketBytes : ℕ
  maxPackets_mem : 1 ≤ maxPackets ∧ maxPackets ≤ 1000000
  maxPayloadBytes_mem : 1 ≤ maxPayloadBytes ∧ maxPayloadBytes ≤ 8 * 1024 * 1024 * 1024
  maxPacketBytes_mem : 12 ≤ maxPacketBytes ∧ maxPacketBytes ≤ 65535

/-- The limits both constructors default to, which are the largest ones. -/
def FramedLimits.default : FramedLimits where
  maxPackets := 1000000
  maxPayloadBytes := 8 * 1024 * 1024 * 1024
  maxPacketBytes := 65535
  maxPackets_mem := by norm_num
  maxPayloadBytes_mem := by norm_num
  maxPacketBytes_mem := by omega

/-- Every limit of `small` is at most the one of `large`. -/
structure FramedLimits.Le (small large : FramedLimits) : Prop where
  packets : small.maxPackets ≤ large.maxPackets
  payloadBytes : small.maxPayloadBytes ≤ large.maxPayloadBytes
  packetBytes : small.maxPacketBytes ≤ large.maxPacketBytes

/-! ## Framing -/

/-- `_MAGIC`, the bytes of `K5RTPF` and a two-byte version. -/
def magic : List UInt8 := [0x4B, 0x35, 0x52, 0x54, 0x50, 0x46, 0x00, 0x01]

def recordHeaderSize : ℕ := 8

/-- One bit of the reflected CRC-32 division. -/
def crcShift (crc : UInt32) : UInt32 :=
  if crc &&& 1 != 0 then (crc >>> 1) ^^^ 0xEDB88320 else crc >>> 1

def crc32 (data : List UInt8) : UInt32 :=
  data.foldl (fun crc byte => crcShift^[8] (crc ^^^ byte.toUInt32)) 0xFFFFFFFF ^^^ 0xFFFFFFFF

-- the check value of the CRC-32 standard, over the digits 1 to 9
example : crc32 [0x31, 0x32, 0x33, 0x34, 0x35, 0x36, 0x37, 0x38, 0x39] = 0xCBF43926 := by
  decide +kernel

/-- The bytes `_write_record_sync` writes for one packet. -/
def encodeRecord (packet : Packet) : List UInt8 :=
  toBigEndian 4 packet.length ++ toBigEndian 4 (crc32 packet).toNat ++ packet

/-! ## The sink -/

inductive WorkerOutcome
  | done
  | conflict
  /-- It raised another `OSError` after `written` bytes had reached the file. -/
  | osError (written : ℕ)
  /-- The caller was cancelled meanwhile; `cleaned` tells whether the attempt
  could be cleaned up afterwards. -/
  | cancelled (cleaned : Bool)
  deriving DecidableEq, Repr

inductive SinkFailure
  | error (error : FramedRecordingError)
  | cancelled
  deriving DecidableEq, Repr

/-- `FramedAtomicRecordingSink`, with the bytes of the file it writes. -/
structure FramedAtomicRecordingSink where
  limits : FramedLimits
  state : FramedRecordingState
  packets : ℕ
  payloadBytes : ℕ
  fileBytes : ℕ
  file : List UInt8

namespace FramedAtomicRecordingSink

def create (limits : FramedLimits) : FramedAtomicRecordingSink where
  limits := limits
  state := .created
  packets := 0
  payloadBytes := 0
  fileBytes := 0
  file := []

def fail (sink : FramedAtomicRecordingSink) (code : FramedRecordingErrorCode)
    (message : String) : Except SinkFailure Unit × FramedAtomicRecordingSink :=
  (.error (.error ⟨code, message⟩), { sink with state := .failed })

def refuse (sink : FramedAtomicRecordingSink) (message : String) :
    Except SinkFailure Unit × FramedAtomicRecordingSink :=
  (.error (.error ⟨.invalidState, message⟩), sink)

/-- The cancellation branch the operations share: the attempt is cleaned up and
the sink is aborted, or the cleanup fails. -/
def afterCancellation (sink : FramedAtomicRecordingSink) (cleaned : Bool) :
    Except SinkFailure Unit × FramedAtomicRecordingSink :=
  if cleaned then (.error .cancelled, { sink with state := .aborted, file := [] })
  else sink.fail .ioFailure "framed recording cleanup failed"

def openFile (sink : FramedAtomicRecordingSink) (worker : WorkerOutcome) :
    Except SinkFailure Unit × FramedAtomicRecordingSink :=
  if sink.state = .opened then (.ok (), sink)
  else if sink.state ≠ .created then
    sink.refuse "framed recording cannot open from current state"
  else
    match worker with
    | .done =>
        (.ok (), { sink with state := .opened, fileBytes := magic.length, file := magic })
    | .conflict => sink.fail .conflict "framed recording identifier already exists"
    | .osError _ => sink.fail .ioFailure "framed recording failed to open"
    | .cancelled cleaned => sink.afterCancellation cleaned

def write (sink : FramedAtomicRecordingSink) (packet : Packet) (worker : WorkerOutcome) :
    Except SinkFailure Unit × FramedAtomicRecordingSink :=
  if sink.state ≠ .opened then sink.refuse "framed recording is not open for writes"
  else if sink.limits.maxPacketBytes < packet.length || !isRtpV2 packet then
    sink.fail .invalidRecord "framed recording packet is invalid"
  else if sink.limits.maxPackets < sink.packets + 1 ||
      sink.limits.maxPayloadBytes < sink.payloadBytes + packet.length then
    sink.fail .limitExceeded "framed recording limit exceeded"
  else
    match worker with
    | .done =>
        (.ok (), { sink with
          packets := sink.packets + 1
          payloadBytes := sink.payloadBytes + packet.length
          fileBytes := sink.fileBytes + (recordHeaderSize + packet.length)
          file := sink.file ++ encodeRecord packet })
    -- `FileExistsError` is an `OSError` here
    | .conflict => sink.fail .ioFailure "framed recording write failed"
    | .osError written =>
        { sink with file := sink.file ++ (encodeRecord packet).take written }.fail
          .ioFailure "framed recording write failed"
    | .cancelled cleaned => sink.afterCancellation cleaned

def finalize (sink : FramedAtomicRecordingSink) (worker : WorkerOutcome) :
    Except SinkFailure Unit × FramedAtomicRecordingSink :=
  if sink.state = .finalized then (.ok (), sink)
  else if sink.state ≠ .opened then
    sink.refuse "framed recording cannot finalize from current state"
  else
    match worker with
    | .done => (.ok (), { sink with state := .finalized })
    | .conflict => sink.fail .conflict "framed recording identifier already exists"
    | .osError _ => sink.fail .ioFailure "framed recording failed to finalize"
    | .cancelled cleaned => sink.afterCancellation cleaned

def abort (sink : FramedAtomicRecordingSink) (worker : WorkerOutcome) :
    Except SinkFailure Unit × FramedAtomicRecordingSink :=
  if sink.state = .aborted then (.ok (), sink)
  else if sink.state = .finalized then
    sink.refuse "finalized framed recording cannot be aborted"
  else
    match worker with
    | .done => (.ok (), { sink with state := .aborted, file := [] })
    | .conflict => sink.fail .ioFailure "framed recording cleanup failed"
    | .osError _ => sink.fail .ioFailure "framed recording cleanup failed"
    | .cancelled cleaned => sink.afterCancellation cleaned

end FramedAtomicRecordingSink

/-! ## The reader -/

structure FramedRecordingReader where
  limits : FramedLimits
  state : FramedRecordingState
  packets : ℕ
  payloadBytes : ℕ
  fileBytes : ℕ

/-- A payload the reader yields, with `snapshot.file_bytes` at that moment. -/
structure ReadPacket where
  payload : Packet
  fileBytes : ℕ
  deriving DecidableEq, Repr

/-- One turn of the reading loop: the file is over, an error, or a packet. -/
inductive ReadTurn
  | complete (reader : FramedRecordingReader)
  | fail (error : FramedRecordingError) (reader : FramedRecordingReader)
  | packet (item : ReadPacket) (reader : FramedRecordingReader) (rest : List UInt8)

namespace FramedRecordingReader

/-- A reader before `iter_packets`. -/
def create (limits : FramedLimits) : FramedRecordingReader where
  limits := limits
  state := .created
  packets := 0
  payloadBytes := 0
  fileBytes := 0

/-- One turn of the `while True` loop, on the bytes not read yet. -/
def readRecord (reader : FramedRecordingReader) (rest : List UInt8) : ReadTurn :=
  let header := rest.take recordHeaderSize
  let counted := { reader with fileBytes := reader.fileBytes + header.length }
  let failed := { counted with state := .failed }
  if header.isEmpty then .complete { counted with state := .complete }
  else if header.length ≠ recordHeaderSize then
    .fail ⟨.truncatedRecord, "framed recording is truncated"⟩ failed
  else
    let packetBytes := ofBigEndian (header.take 4)
    let expectedCrc := ofBigEndian (header.drop 4)
    if packetBytes < 12 || reader.limits.maxPacketBytes < packetBytes then
      .fail ⟨.invalidRecord, "framed recording record is invalid"⟩ failed
    else if reader.limits.maxPackets < reader.packets + 1 ||
        reader.limits.maxPayloadBytes < reader.payloadBytes + packetBytes then
      .fail ⟨.limitExceeded, "framed recording read limit exceeded"⟩ failed
    else
      let payload := (rest.drop recordHeaderSize).take packetBytes
      if payload.length < packetBytes then
        .fail ⟨.truncatedRecord, "framed recording is truncated"⟩ failed
      else
        let read := { counted with fileBytes := counted.fileBytes + packetBytes }
        if (crc32 payload).toNat ≠ expectedCrc then
          .fail ⟨.integrityFailure, "framed recording integrity check failed"⟩
            { read with state := .failed }
        else if !isRtpV2 payload then
          .fail ⟨.invalidRecord, "framed recording record is invalid"⟩
            { read with state := .failed }
        else
          .packet ⟨payload, read.fileBytes⟩
            { read with
              packets := reader.packets + 1
              payloadBytes := reader.payloadBytes + packetBytes }
            (rest.drop (recordHeaderSize + packetBytes))

theorem length_lt_of_readRecord_packet {reader next : FramedRecordingReader}
    {rest after : List UInt8} {item : ReadPacket}
    (h : reader.readRecord rest = .packet item next after) : after.length < rest.length := by
  have hrest : rest ≠ [] := by
    rintro rfl
    simp [readRecord] at h
  have hafter : ∃ n, after = rest.drop (recordHeaderSize + n) := by
    unfold readRecord at h
    simp only at h
    split_ifs at h
    injection h with _ _ hdrop
    exact ⟨_, hdrop.symm⟩
  obtain ⟨n, rfl⟩ := hafter
  have hpos : 0 < rest.length := List.length_pos_iff.mpr hrest
  rw [List.length_drop, recordHeaderSize]
  omega

/-- The reading loop on the bytes not read yet. -/
def readRecords (reader : FramedRecordingReader) (rest : List UInt8) :
    Trace FramedRecordingError ReadPacket × FramedRecordingReader :=
  match _hturn : reader.readRecord rest with
  | .complete final => (⟨[], none⟩, final)
  | .fail error final => (⟨[], some error⟩, final)
  | .packet item next after =>
      let (trace, final) := readRecords next after
      (⟨item :: trace.items, trace.error⟩, final)
termination_by rest.length
decreasing_by exact length_lt_of_readRecord_packet _hturn

/-- `iter_packets`, run to its end; `none` is a file that cannot be opened. -/
def iterPackets (reader : FramedRecordingReader) (file : Option (List UInt8)) :
    Trace FramedRecordingError ReadPacket × FramedRecordingReader :=
  if reader.state ≠ .created then
    (⟨[], some ⟨.invalidState, "framed recording reader cannot be reused"⟩⟩, reader)
  else
    match file with
    | none =>
        (⟨[], some ⟨.ioFailure, "framed recording failed to open"⟩⟩,
          { reader with state := .failed })
    | some bytes =>
        let header := bytes.take magic.length
        let counted := { reader with
          state := .opened, fileBytes := reader.fileBytes + header.length }
        if header ≠ magic then
          (⟨[], some ⟨.invalidHeader, "framed recording header is invalid"⟩⟩,
            { counted with state := .failed })
        else counted.readRecords (bytes.drop magic.length)

end FramedRecordingReader

end K5Vision.Media
