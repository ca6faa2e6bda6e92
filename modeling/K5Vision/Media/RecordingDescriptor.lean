import K5Vision.Library.Rounding
import Mathlib.Data.Rat.Floor

/-!
# The recording descriptor

`media/recording_descriptor.py`: the metadata stored beside a finalized
recording, and the contract its constructor enforces.  A `datetime` is its wall
clock in microseconds from the start of year 1, with its UTC offset; `timedelta`
is a number of microseconds.

The validator computes the duration in binary64, from `total_seconds()`, which is
an integer division, and a product with `1000`.  Both are the exact result
rounded to 53 significant bits; the durations a descriptor may have keep both in
the normal range of the format.
-/

namespace K5Vision.Media

open Library

/-! ## Instants -/

/-- The microseconds from the start of year 1 to the end of year 9999. -/
def datetimeRange : ℤ := 3652059 * 86400 * 1000000

/-- A Python `datetime`; `utcOffset` is `none` for a naive one. -/
structure Datetime where
  micros : ℤ
  utcOffset : Option ℤ
  deriving DecidableEq, Repr

/-- `datetime + timedelta(milliseconds=…)`, which raises `OverflowError` outside
the years 1 to 9999. -/
def Datetime.addMilliseconds (instant : Datetime) (milliseconds : ℕ) : Option Datetime :=
  let micros := instant.micros + milliseconds * 1000
  if 0 ≤ micros ∧ micros < datetimeRange then some { instant with micros := micros } else none

/-! ## Binary64 -/

def trueDivide (a b : ℤ) : ℚ := roundToPrecision 53 ((a : ℚ) / b)

def floatMul (x y : ℚ) : ℚ := roundToPrecision 53 (x * y)

def truncate (x : ℚ) : ℤ := if 0 ≤ x then ⌊x⌋ else ⌈x⌉

def totalSeconds (micros : ℤ) : ℚ := trueDivide micros 1000000

/-- `int(timedelta.total_seconds() * 1000)`. -/
def expectedMilliseconds (micros : ℤ) : ℤ := truncate (floatMul (totalSeconds micros) 1000)

/-! ## The descriptor -/

inductive VideoCodec
  | h264
  | h265
  | jpeg
  deriving DecidableEq, Repr

/-- The fields of `RecordingStreamDescriptor` that are not constants or opaque
identifiers. -/
structure RecordingStreamDescriptor where
  codec : VideoCodec
  payloadType : ℕ
  clockRateHz : ℕ
  startedAtUtc : Datetime
  endedAtUtc : Datetime
  durationMs : ℕ
  rtpTimestampOrigin : ℕ
  packetCount : ℕ
  payloadBytes : ℕ
  fileBytes : ℕ
  deriving DecidableEq, Repr

namespace RecordingStreamDescriptor

def formatMagicBytes : ℕ := 8

def recordOverheadBytes : ℕ := 8

def maxPackets : ℕ := 1000000

def maxPayloadBytes : ℕ := 8 * 1024 * 1024 * 1024

def maxFileBytes : ℕ := formatMagicBytes + maxPackets * recordOverheadBytes + maxPayloadBytes

def maxDurationMs : ℕ := 7 * 24 * 60 * 60 * 1000

/-- The bounds declared with the fields, checked before the contract. -/
def fieldsInRange (d : RecordingStreamDescriptor) : Bool :=
  d.payloadType ≤ 127 && 1 ≤ d.clockRateHz && d.clockRateHz ≤ 192000 &&
    d.durationMs ≤ maxDurationMs && d.rtpTimestampOrigin ≤ 0xFFFFFFFF &&
    d.packetCount ≤ maxPackets && d.payloadBytes ≤ maxPayloadBytes &&
    formatMagicBytes ≤ d.fileBytes && d.fileBytes ≤ maxFileBytes

/-- The two checks made of each timestamp. -/
def validateTimestamp (timestamp : Datetime) : Except String Unit :=
  if timestamp.utcOffset ≠ some 0 then .error "recording timestamps must be UTC"
  else if timestamp.micros % 1000000 % 1000 ≠ 0 then
    .error "recording timestamps must use millisecond precision"
  else .ok ()

def validateContract (d : RecordingStreamDescriptor) : Except String Unit := do
  validateTimestamp d.startedAtUtc
  validateTimestamp d.endedAtUtc
  if d.endedAtUtc.micros < d.startedAtUtc.micros then
    throw "recording end precedes start"
  let expectedDurationMs := expectedMilliseconds (d.endedAtUtc.micros - d.startedAtUtc.micros)
  if (d.durationMs : ℤ) ≠ expectedDurationMs then
    throw "recording duration does not match timestamps"
  match d.codec with
  | .h264 | .h265 =>
      if ¬ (96 ≤ d.payloadType ∧ d.payloadType ≤ 127) then
        throw "dynamic video codec requires dynamic RTP payload type"
  | .jpeg =>
      if ¬ (d.payloadType = 26 ∨ 96 ≤ d.payloadType ∧ d.payloadType ≤ 127) then
        throw "JPEG RTP payload type is unsupported"
  if d.clockRateHz ≠ 90000 then
    throw "supported video RTP clock rate is 90000 Hz"
  let expectedFileBytes := formatMagicBytes + d.packetCount * recordOverheadBytes + d.payloadBytes
  if d.fileBytes ≠ expectedFileBytes then
    throw "recording byte counts do not match format framing"
  if d.packetCount = 0 then
    if d.payloadBytes ≠ 0 ∨ d.durationMs ≠ 0 then
      throw "empty recording counters are inconsistent"
  else if d.payloadBytes < d.packetCount * 12 then
    throw "recording payload bytes are below minimum RTP size"

/-- The model's constructor: the field bounds, then the contract. -/
def validate (d : RecordingStreamDescriptor) : Except String Unit :=
  if !d.fieldsInRange then .error "field out of range" else d.validateContract

end RecordingStreamDescriptor

end K5Vision.Media
