import K5Vision.Library.BigEndian
import Mathlib.Data.List.Basic

/-!
# RTP packets

The fixed header fields the recording and playback boundaries read from a
packet, and the structural check `is_rtp_v2` of `media/rtp_delivery.py`.  A
packet is its bytes; the accessors are total, as Python's slices are, and the
two single-byte ones are only applied behind `isRtpV2`, which demands twelve
bytes.
-/

namespace K5Vision.Media

open Library

abbrev Packet := List UInt8

/-- `is_rtp_v2`: version 2, and room for the contributing sources and the header
extension that the header announces. -/
def isRtpV2 (packet : Packet) : Bool :=
  let first := packet.getD 0 0
  if packet.length < 12 || first >>> 6 != 2 then false
  else
    let csrcCount := (first &&& 0x0F).toNat
    let headerLength := 12 + csrcCount * 4
    if packet.length < headerLength then false
    else
      let hasExtension := first &&& 0x10 != 0
      if !hasExtension then true
      else if packet.length < headerLength + 4 then false
      else
        let extensionWords := ofBigEndian ((packet.drop (headerLength + 2)).take 2)
        decide (headerLength + 4 + extensionWords * 4 ≤ packet.length)

def payloadType (packet : Packet) : ℕ := (packet.getD 1 0 &&& 0x7F).toNat

def rtpTimestamp (packet : Packet) : ℕ := ofBigEndian ((packet.drop 4).take 4)

theorem twelve_le_length_of_isRtpV2 {packet : Packet} (h : isRtpV2 packet = true) :
    12 ≤ packet.length := by
  by_contra hshort
  simp [isRtpV2, not_le.mp hshort] at h

end K5Vision.Media
