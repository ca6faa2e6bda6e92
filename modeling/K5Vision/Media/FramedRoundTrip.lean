import K5Vision.Media.Playback
import Mathlib.Algebra.BigOperators.Group.List.Basic

/-!
# The reader inverts the sink

One record is the unit of everything here.  `readRecord_encodeRecord` says that
the reading loop, at the start of a record of an admissible packet, yields that
packet; `eq_encodeRecord_of_readRecord` says that it yields a packet at nothing
else; `readRecord_of_prefix` says that at a record cut short it reports a
truncation.  The statements about whole files are inductions over the packets,
with the counters of the reader carried by `Fits`: the packets still to come fit
the limits from the counters reached so far.

On the other side `SinkInvariant` follows the sink through any sequence of calls
and worker outcomes: as long as it is open or finalized, its file is the framing
of the packets it accepted.
-/

namespace K5Vision.Media

open Library

/-! ## Framings -/

def framed (packets : List Packet) : List UInt8 := packets.flatMap encodeRecord

def payloadTotal (packets : List Packet) : ℕ := (packets.map List.length).sum

def recordingFile (packets : List Packet) : List UInt8 := magic ++ framed packets

@[simp] theorem framed_nil : framed [] = [] := rfl

@[simp] theorem framed_cons (p : Packet) (packets : List Packet) :
    framed (p :: packets) = encodeRecord p ++ framed packets := rfl

@[simp] theorem framed_append (first second : List Packet) :
    framed (first ++ second) = framed first ++ framed second := List.flatMap_append

@[simp] theorem payloadTotal_nil : payloadTotal [] = 0 := rfl

@[simp] theorem payloadTotal_cons (p : Packet) (packets : List Packet) :
    payloadTotal (p :: packets) = p.length + payloadTotal packets := by
  simp [payloadTotal]

@[simp] theorem payloadTotal_append (first second : List Packet) :
    payloadTotal (first ++ second) = payloadTotal first + payloadTotal second := by
  simp [payloadTotal]

@[simp] theorem length_encodeRecord (p : Packet) :
    (encodeRecord p).length = recordHeaderSize + p.length := by
  simp only [encodeRecord, List.length_append, length_toBigEndian, recordHeaderSize]

theorem length_framed (packets : List Packet) :
    (framed packets).length = recordHeaderSize * packets.length + payloadTotal packets := by
  induction packets with
  | nil => simp
  | cons p packets ih =>
      rw [framed_cons, List.length_append, length_encodeRecord, ih, payloadTotal_cons,
        List.length_cons]
      ring

/-- The packets are valid and fit the limits from the given counters on. -/
structure Fits (limits : FramedLimits) (packets payloadBytes : ℕ) (ps : List Packet) : Prop where
  valid : ∀ p ∈ ps, isRtpV2 p = true
  sizes : ∀ p ∈ ps, p.length ≤ limits.maxPacketBytes
  count : packets + ps.length ≤ limits.maxPackets
  total : payloadBytes + payloadTotal ps ≤ limits.maxPayloadBytes

variable {packets payloadBytes : ℕ} {limits : FramedLimits}

theorem fits_nil (hcount : packets ≤ limits.maxPackets)
    (htotal : payloadBytes ≤ limits.maxPayloadBytes) : Fits limits packets payloadBytes [] :=
  ⟨by simp, by simp, by simpa using hcount, by simpa using htotal⟩

theorem fits_cons_iff {p : Packet} {ps : List Packet} : Fits limits packets payloadBytes (p :: ps) ↔
      isRtpV2 p = true ∧ p.length ≤ limits.maxPacketBytes ∧
        Fits limits (packets + 1) (payloadBytes + p.length) ps := by
  constructor
  · rintro ⟨hvalid, hsizes, hcount, htotal⟩
    rw [List.length_cons] at hcount
    rw [payloadTotal_cons] at htotal
    refine ⟨hvalid p List.mem_cons_self, hsizes p List.mem_cons_self, ?_, ?_, by omega, by omega⟩
    · exact fun q hq => hvalid q (List.mem_cons_of_mem p hq)
    · exact fun q hq => hsizes q (List.mem_cons_of_mem p hq)
  · rintro ⟨hp, hsize, hvalid, hsizes, hcount, htotal⟩
    refine ⟨List.forall_mem_cons.mpr ⟨hp, hvalid⟩, List.forall_mem_cons.mpr ⟨hsize, hsizes⟩, ?_, ?_⟩
    · rw [List.length_cons]
      omega
    · rw [payloadTotal_cons]
      omega

theorem Fits.of_append {first second : List Packet}
    (h : Fits limits packets payloadBytes (first ++ second)) :
    Fits limits packets payloadBytes first := by
  have hcount := h.count
  have htotal := h.total
  rw [List.length_append] at hcount
  rw [payloadTotal_append] at htotal
  refine ⟨fun p hp => h.valid p ?_, fun p hp => h.sizes p ?_, by omega, by omega⟩
  · exact List.mem_append_left second hp
  · exact List.mem_append_left second hp

theorem Fits.drop_append {first second : List Packet}
    (h : Fits limits packets payloadBytes (first ++ second)) :
    Fits limits (packets + first.length) (payloadBytes + payloadTotal first) second := by
  have hcount := h.count
  have htotal := h.total
  rw [List.length_append] at hcount
  rw [payloadTotal_append] at htotal
  refine ⟨fun p hp => h.valid p ?_, fun p hp => h.sizes p ?_, by omega, by omega⟩
  · exact List.mem_append_right first hp
  · exact List.mem_append_right first hp

theorem Fits.mono {small large : FramedLimits} (hle : small.Le large) {ps : List Packet}
    (h : Fits small packets payloadBytes ps) : Fits large packets payloadBytes ps :=
  ⟨h.valid, fun p hp => (h.sizes p hp).trans hle.packetBytes, h.count.trans hle.packets,
    h.total.trans hle.payloadBytes⟩

/-! ## One record -/

namespace FramedRecordingReader

/-- The counters after reading one more packet. -/
def advance (reader : FramedRecordingReader) (p : Packet) : FramedRecordingReader :=
  { reader with
    packets := reader.packets + 1
    payloadBytes := reader.payloadBytes + p.length
    fileBytes := reader.fileBytes + (recordHeaderSize + p.length) }

theorem take_encodeRecord (p : Packet) (rest : List UInt8) :
    (encodeRecord p ++ rest).take recordHeaderSize =
      toBigEndian 4 p.length ++ toBigEndian 4 (crc32 p).toNat := by
  rw [encodeRecord, List.append_assoc, List.take_left' (by simp [recordHeaderSize])]

theorem drop_encodeRecord (p : Packet) (rest : List UInt8) :
    (encodeRecord p ++ rest).drop recordHeaderSize = p ++ rest := by
  rw [encodeRecord, List.append_assoc, List.drop_left' (by simp [recordHeaderSize])]

variable {limits : FramedLimits} {p : Packet}

theorem ofBigEndian_length (hsize : p.length ≤ limits.maxPacketBytes) :
    ofBigEndian (toBigEndian 4 p.length) = p.length := by
  have := limits.maxPacketBytes_mem.2
  exact ofBigEndian_toBigEndian (by norm_num; omega)

theorem ofBigEndian_crc32 (p : Packet) :
    ofBigEndian (toBigEndian 4 (crc32 p).toNat) = (crc32 p).toNat :=
  ofBigEndian_toBigEndian (by have := (crc32 p).toNat_lt; norm_num; omega)

variable {reader : FramedRecordingReader}

variable {ps : List Packet}

theorem readRecord_encodeRecord
    (hfits : Fits reader.limits reader.packets reader.payloadBytes (p :: ps)) (rest : List UInt8) :
    reader.readRecord (encodeRecord p ++ rest) =
      .packet ⟨p, (reader.advance p).fileBytes⟩ (reader.advance p) rest := by
  obtain ⟨hvalid, hsize, hrest⟩ := fits_cons_iff.mp hfits
  have hcount := hrest.count
  have htotal := hrest.total
  have htwelve := twelve_le_length_of_isRtpV2 hvalid
  have hdrop : (encodeRecord p ++ rest).drop (recordHeaderSize + p.length) = rest :=
    List.drop_left' (length_encodeRecord p)
  unfold readRecord
  simp only [take_encodeRecord, drop_encodeRecord, hdrop, List.take_left' (length_toBigEndian 4 _),
    List.drop_left' (length_toBigEndian 4 _), ofBigEndian_length hsize, ofBigEndian_crc32,
    List.take_left' rfl, hvalid]
  rw [if_neg (by simp [toBigEndian]), if_neg (by simp [recordHeaderSize]),
    if_neg (by simp; omega), if_neg (by simp; omega), if_neg (lt_irrefl _), if_neg (by simp),
    if_neg (by simp)]
  simp [advance, recordHeaderSize, Nat.add_assoc]

variable {rest : List UInt8}

theorem eq_encodeRecord_of_readRecord {next : FramedRecordingReader} {after : List UInt8}
    {item : ReadPacket} (h : reader.readRecord rest = .packet item next after) :
    rest = encodeRecord item.payload ++ after ∧ next = reader.advance item.payload ∧
      isRtpV2 item.payload = true ∧ item.payload.length ≤ reader.limits.maxPacketBytes ∧
      reader.packets + 1 ≤ reader.limits.maxPackets ∧
      reader.payloadBytes + item.payload.length ≤ reader.limits.maxPayloadBytes := by
  unfold readRecord at h
  simp only at h
  split_ifs at h with _ hheader hsize hlimit hshort hcrc hvalid
  injection h with hitem hnext hafter
  subst hitem hnext hafter
  set n := ofBigEndian ((rest.take recordHeaderSize).take 4) with hn
  simp only [Bool.or_eq_true, decide_eq_true_eq, not_or, not_lt] at hsize hlimit hshort
  have hlength : ((rest.drop recordHeaderSize).take n).length = n :=
    le_antisymm (List.length_take_le _ _) hshort
  have hfull : (rest.take recordHeaderSize).length = 8 := not_not.mp hheader
  -- the header is the encoding of the two numbers read from it
  have hfirst : toBigEndian 4 n = (rest.take recordHeaderSize).take 4 :=
    toBigEndian_ofBigEndian (by rw [List.length_take, hfull]; rfl)
  have hsecond : toBigEndian 4 (ofBigEndian ((rest.take recordHeaderSize).drop 4)) =
      (rest.take recordHeaderSize).drop 4 :=
    toBigEndian_ofBigEndian (by rw [List.length_drop, hfull])
  refine ⟨?_, ?_, by simpa using hvalid, ?_, by omega, ?_⟩
  · rw [encodeRecord, hlength, hfirst, not_not.mp hcrc, hsecond, List.take_append_drop,
      List.append_assoc, ← List.drop_drop, List.take_append_drop, List.take_append_drop]
  · rw [advance, hlength, hfull, Nat.add_assoc]
    rfl
  · simpa only [hlength] using hsize.2
  · simpa only [hlength] using hlimit.2

theorem eq_nil_of_readRecord_complete {final : FramedRecordingReader}
    (h : reader.readRecord rest = .complete final) : rest = [] := by
  unfold readRecord at h
  simp only at h
  split_ifs at h with hempty
  have htake : rest.take recordHeaderSize = [] := by simpa using hempty
  simpa [recordHeaderSize] using htake

variable {cut : List UInt8}

/-- At a record cut short the loop reports a truncation. -/
theorem readRecord_of_prefix
    (hfits : Fits reader.limits reader.packets reader.payloadBytes (p :: ps))
    (hcut : cut <+: encodeRecord p) (hne : cut ≠ [])
    (hshort : cut.length < (encodeRecord p).length) :
    ∃ final, reader.readRecord cut =
      .fail ⟨.truncatedRecord, "framed recording is truncated"⟩ final := by
  obtain ⟨hvalid, hsize, hrest⟩ := fits_cons_iff.mp hfits
  have hcount := hrest.count
  have htotal := hrest.total
  have htwelve := twelve_le_length_of_isRtpV2 hvalid
  have hempty : ¬ (cut.take recordHeaderSize).isEmpty = true := by
    simp [recordHeaderSize, hne]
  rw [length_encodeRecord] at hshort
  unfold readRecord
  simp only
  rw [if_neg hempty]
  by_cases hheader : cut.length < recordHeaderSize
  · rw [if_pos (by rw [List.length_take]; omega)]
    exact ⟨_, rfl⟩
  -- the header is whole, so the reader knows how long the payload should be
  have htake : cut.take recordHeaderSize =
      toBigEndian 4 p.length ++ toBigEndian 4 (crc32 p).toNat := by
    rw [← take_encodeRecord p []]
    obtain ⟨tail, htail⟩ := hcut
    rw [List.append_nil, ← htail, List.take_append_of_le_length (not_lt.mp hheader)]
  have hpayload : ((cut.drop recordHeaderSize).take p.length).length < p.length := by
    rw [List.length_take, List.length_drop]
    omega
  simp only [htake, List.take_left' (length_toBigEndian 4 _), ofBigEndian_length hsize]
  rw [if_neg (by simp [recordHeaderSize]), if_neg (by simp; omega), if_neg (by simp; omega),
    if_pos hpayload]
  exact ⟨_, rfl⟩

/-! ## Whole files -/

def advanceAll (reader : FramedRecordingReader) (ps : List Packet) : FramedRecordingReader :=
  ps.foldl advance reader

def delivered (reader : FramedRecordingReader) : List Packet → List ReadPacket
  | [] => []
  | p :: ps => ⟨p, (reader.advance p).fileBytes⟩ :: (reader.advance p).delivered ps

@[simp] theorem map_payload_delivered (reader : FramedRecordingReader) (ps : List Packet) :
    (reader.delivered ps).map ReadPacket.payload = ps := by
  induction ps generalizing reader with
  | nil => rfl
  | cons p ps ih => simp [delivered, ih]

theorem advanceAll_eq (reader : FramedRecordingReader) (ps : List Packet) :
    reader.advanceAll ps = { reader with
      packets := reader.packets + ps.length
      payloadBytes := reader.payloadBytes + payloadTotal ps
      fileBytes := reader.fileBytes + (framed ps).length } := by
  induction ps generalizing reader with
  | nil => rfl
  | cons p ps ih =>
      rw [advanceAll, List.foldl_cons, ← advanceAll, ih]
      simp only [advance, List.length_cons, payloadTotal_cons, framed_cons, List.length_append,
        length_encodeRecord, FramedRecordingReader.mk.injEq, true_and]
      omega

/-- Reading the framing of admissible packets yields them, and goes on behind them. -/
theorem readRecords_framed (hfits : Fits reader.limits reader.packets reader.payloadBytes ps)
    (rest : List UInt8) :
    reader.readRecords (framed ps ++ rest) =
      (⟨reader.delivered ps ++ ((reader.advanceAll ps).readRecords rest).1.items,
        ((reader.advanceAll ps).readRecords rest).1.error⟩,
        ((reader.advanceAll ps).readRecords rest).2) := by
  induction ps generalizing reader with
  | nil => rfl
  | cons p ps ih =>
      have hrest : Fits (reader.advance p).limits (reader.advance p).packets
          (reader.advance p).payloadBytes ps := (fits_cons_iff.mp hfits).2.2
      rw [framed_cons, List.append_assoc, readRecords]
      split
      · rename_i final hturn
        rw [readRecord_encodeRecord hfits] at hturn
        cases hturn
      · rename_i error final hturn
        rw [readRecord_encodeRecord hfits] at hturn
        cases hturn
      rename_i item next after hturn
      rw [readRecord_encodeRecord hfits] at hturn
      injection hturn with hitem hnext hafter
      subst hitem hnext hafter
      rw [ih hrest]
      rfl

theorem readRecords_of_fail {final : FramedRecordingReader} {error : FramedRecordingError}
    (h : reader.readRecord rest = .fail error final) :
    reader.readRecords rest = (⟨[], some error⟩, final) := by
  rw [readRecords]
  split
  · rename_i hturn
    cases h.symm.trans hturn
  · rename_i hturn
    cases h.symm.trans hturn
    rfl
  · rename_i hturn
    cases h.symm.trans hturn

theorem readRecords_nil (reader : FramedRecordingReader) :
    reader.readRecords [] = (⟨[], none⟩, { reader with state := .complete }) := by
  rw [readRecords]
  split
  · rename_i final hturn
    simp only [readRecord, List.take_nil, List.isEmpty_nil, if_true] at hturn
    injection hturn with hfinal
    rw [← hfinal]
    rfl
  · rename_i error final hturn
    simp [readRecord] at hturn
  · rename_i item next after hturn
    simp [readRecord] at hturn

/-- **Completeness of the reader.**  A framing of packets that fit is read to its
end. -/
theorem readRecords_framed_complete
    (hfits : Fits reader.limits reader.packets reader.payloadBytes ps) :
    reader.readRecords (framed ps) =
      (⟨reader.delivered ps, none⟩, { reader.advanceAll ps with state := .complete }) := by
  have := readRecords_framed hfits []
  rwa [List.append_nil, readRecords_nil, List.append_nil] at this

/-- **Soundness of the reader.**  What is read without an error is the framing of
the packets yielded, and they fit. -/
theorem eq_framed_of_readRecords {reader : FramedRecordingReader}
    (hcount : reader.packets ≤ reader.limits.maxPackets)
    (htotal : reader.payloadBytes ≤ reader.limits.maxPayloadBytes)
    (hok : (reader.readRecords rest).1.error = none) :
    ∃ ps, rest = framed ps ∧ Fits reader.limits reader.packets reader.payloadBytes ps := by
  induction hlength : rest.length using Nat.strong_induction_on generalizing reader rest with
  | _ length ih =>
      rw [readRecords] at hok
      split at hok
      · rename_i final hturn
        rw [eq_nil_of_readRecord_complete hturn]
        exact ⟨[], rfl, fits_nil hcount htotal⟩
      · cases hok
      rename_i item next after hturn
      obtain ⟨hrest, hnext, hvalid, hsize, hcount', htotal'⟩ := eq_encodeRecord_of_readRecord hturn
      have hshorter : after.length < length := by
        rw [← hlength]
        exact length_lt_of_readRecord_packet hturn
      subst hnext
      obtain ⟨ps, hafter, hfits⟩ : ∃ ps, after = framed ps ∧ Fits reader.limits
          (reader.packets + 1) (reader.payloadBytes + item.payload.length) ps :=
        ih _ hshorter hcount' htotal' hok rfl
      exact ⟨item.payload :: ps, by rw [hrest, hafter, framed_cons],
        fits_cons_iff.mpr ⟨hvalid, hsize, hfits⟩⟩

/-! ## Truncated files -/

/-- Every prefix of a framing is the framing of the first packets, followed by
nothing or by the beginning of the next record. -/
theorem prefix_framed (hcut : cut <+: framed ps) :
    (∃ before after, ps = before ++ after ∧ cut = framed before) ∨
      ∃ before p after tail, ps = before ++ p :: after ∧ cut = framed before ++ tail ∧
        tail <+: encodeRecord p ∧ tail ≠ [] ∧ tail.length < (encodeRecord p).length := by
  induction ps generalizing cut with
  | nil =>
      have hnil : cut = [] := by simpa using hcut
      exact Or.inl ⟨[], [], rfl, by simp [hnil]⟩
  | cons p ps ih =>
      rw [framed_cons] at hcut
      have hrecord : encodeRecord p <+: encodeRecord p ++ framed ps := List.prefix_append _ _
      by_cases hlength : (encodeRecord p).length ≤ cut.length
      · -- the first record is whole
        obtain ⟨cut', rfl⟩ := List.prefix_of_prefix_length_le hrecord hcut hlength
        rw [List.prefix_append_right_inj] at hcut
        rcases ih hcut with ⟨before, after, rfl, rfl⟩ | ⟨before, q, after, tail, rfl, rfl, htail⟩
        · exact Or.inl ⟨p :: before, after, rfl, rfl⟩
        · exact Or.inr ⟨p :: before, q, after, tail, rfl, by simp, htail⟩
      · rw [not_le] at hlength
        have hprefix := List.prefix_of_prefix_length_le hcut hrecord hlength.le
        by_cases hnil : cut = []
        · exact Or.inl ⟨[], p :: ps, rfl, hnil⟩
        · exact Or.inr ⟨[], p, ps, cut, rfl, rfl, hprefix, hnil, hlength⟩

/-- Reading a prefix of the framing of admissible packets yields the first of
them, and ends in a truncation error or at a record boundary. -/
theorem readRecords_prefix (reader : FramedRecordingReader)
    (hfits : Fits reader.limits reader.packets reader.payloadBytes ps) (hcut : cut <+: framed ps) :
    ∃ before after, ps = before ++ after ∧
      (reader.readRecords cut).1.items = reader.delivered before ∧
      ((reader.readRecords cut).1.error =
          some ⟨.truncatedRecord, "framed recording is truncated"⟩ ∨
        cut = framed before ∧ (reader.readRecords cut).1.error = none) := by
  rcases prefix_framed hcut with ⟨before, after, rfl, rfl⟩ |
    ⟨before, p, after, tail, rfl, rfl, htail, hne, hshort⟩
  · refine ⟨before, after, rfl, ?_⟩
    rw [readRecords_framed_complete hfits.of_append]
    exact ⟨rfl, Or.inr ⟨rfl, rfl⟩⟩
  refine ⟨before, p :: after, rfl, ?_⟩
  have hnext : Fits (reader.advanceAll before).limits (reader.advanceAll before).packets
      (reader.advanceAll before).payloadBytes (p :: after) := by
    rw [advanceAll_eq]
    exact hfits.drop_append
  obtain ⟨final, hturn⟩ := readRecord_of_prefix hnext htail hne hshort
  rw [readRecords_framed hfits.of_append, readRecords_of_fail hturn, List.append_nil]
  exact ⟨rfl, Or.inl rfl⟩

/-! ## Files with their magic -/

theorem iterPackets_create (rest : List UInt8) :
    (create limits).iterPackets (some (magic ++ rest)) =
      { create limits with state := .opened, fileBytes := magic.length }.readRecords rest := by
  unfold iterPackets
  rw [if_neg (by simp [create])]
  simp only [List.take_left' rfl, List.drop_left' rfl]
  rw [if_neg (by simp)]
  simp [create]

theorem iterPackets_of_not_magic {bytes : List UInt8} (h : bytes.take magic.length ≠ magic) :
    ((create limits).iterPackets (some bytes)).1 =
      ⟨[], some ⟨.invalidHeader, "framed recording header is invalid"⟩⟩ := by
  unfold iterPackets
  rw [if_neg (by simp [create])]
  simp only
  rw [if_pos h]

theorem iterPackets_recordingFile (hfits : Fits limits 0 0 ps) : ∃ items reader,
      (create limits).iterPackets (some (recordingFile ps)) = (⟨items, none⟩, reader) ∧
        items.map ReadPacket.payload = ps ∧ reader.state = .complete ∧
        reader.packets = ps.length ∧ reader.payloadBytes = payloadTotal ps ∧
        reader.fileBytes = (recordingFile ps).length := by
  rw [recordingFile, iterPackets_create, readRecords_framed_complete hfits, advanceAll_eq]
  exact ⟨_, _, rfl, map_payload_delivered _ ps, rfl, by simp [create], by simp [create],
    by simp⟩

/-- The reader accepts exactly the files of the recordings that fit its limits. -/
theorem iterPackets_error_eq_none_iff {bytes : List UInt8} :
    ((create limits).iterPackets (some bytes)).1.error = none ↔
      ∃ ps, bytes = recordingFile ps ∧ Fits limits 0 0 ps := by
  constructor
  · intro hok
    by_cases hmagic : bytes.take magic.length = magic
    · rw [← List.take_append_drop magic.length bytes, hmagic, iterPackets_create] at hok
      obtain ⟨ps, hrest, hfits⟩ := eq_framed_of_readRecords (Nat.zero_le _) (Nat.zero_le _) hok
      refine ⟨ps, ?_, hfits⟩
      calc bytes = bytes.take magic.length ++ bytes.drop magic.length :=
            (List.take_append_drop _ _).symm
        _ = recordingFile ps := by rw [hmagic, hrest, recordingFile]
    · rw [iterPackets_of_not_magic hmagic] at hok
      cases hok
  · rintro ⟨ps, rfl, hfits⟩
    obtain ⟨items, reader, hread, -⟩ := iterPackets_recordingFile hfits
    rw [hread]

/-- A prefix of a recording file is a part of the magic, or the magic and a
prefix of the records. -/
theorem prefix_recordingFile (hcut : cut <+: recordingFile ps) :
    cut.take magic.length ≠ magic ∧ cut.length < magic.length ∨
      ∃ cut', cut = magic ++ cut' ∧ cut' <+: framed ps := by
  by_cases hlength : magic.length ≤ cut.length
  · obtain ⟨cut', rfl⟩ :=
      List.prefix_of_prefix_length_le (List.prefix_append magic (framed ps)) hcut hlength
    rw [recordingFile, List.prefix_append_right_inj] at hcut
    exact Or.inr ⟨cut', rfl, hcut⟩
  · rw [not_le] at hlength
    refine Or.inl ⟨fun h => ?_, hlength⟩
    have := congrArg List.length h
    rw [List.length_take] at this
    omega

end FramedRecordingReader

/-! ## The sink over any run -/

namespace FramedAtomicRecordingSink

/-- A call of the sink, with what its worker does. -/
inductive Call
  | openFile (worker : WorkerOutcome)
  | write (packet : Packet) (worker : WorkerOutcome)
  | finalize (worker : WorkerOutcome)
  | abort (worker : WorkerOutcome)

/-- A sink together with the packets whose `write` has returned. -/
structure Attempt where
  sink : FramedAtomicRecordingSink
  accepted : List Packet

namespace Attempt

def step (attempt : Attempt) : Call → Attempt
  | .openFile worker => ⟨(attempt.sink.openFile worker).2, attempt.accepted⟩
  | .write packet worker =>
      let (result, sink) := attempt.sink.write packet worker
      match result with
      | .ok () => ⟨sink, attempt.accepted ++ [packet]⟩
      | .error _ => ⟨sink, attempt.accepted⟩
  | .finalize worker => ⟨(attempt.sink.finalize worker).2, attempt.accepted⟩
  | .abort worker => ⟨(attempt.sink.abort worker).2, attempt.accepted⟩

def run (limits : FramedLimits) (calls : List Call) : Attempt :=
  calls.foldl step ⟨create limits, []⟩

/-- The file is the framing of the packets accepted, the counters count it, and
the packets are within the limits. -/
structure Recorded (attempt : Attempt) : Prop where
  file_eq : attempt.sink.file = recordingFile attempt.accepted
  packets_eq : attempt.sink.packets = attempt.accepted.length
  payloadBytes_eq : attempt.sink.payloadBytes = payloadTotal attempt.accepted
  fileBytes_eq : attempt.sink.fileBytes = attempt.sink.file.length
  fits : Fits attempt.sink.limits 0 0 attempt.accepted

/-- What holds after every sequence of calls.  A sink that has failed or was
aborted promises nothing about its file. -/
structure Invariant (attempt : Attempt) : Prop where
  created : attempt.sink.state = .created → attempt.accepted = [] ∧
    attempt.sink.packets = 0 ∧ attempt.sink.payloadBytes = 0
  recorded : attempt.sink.state = .opened ∨ attempt.sink.state = .finalized → attempt.Recorded

end Attempt

def withPacket (sink : FramedAtomicRecordingSink) (packet : Packet) : FramedAtomicRecordingSink :=
  { sink with
    packets := sink.packets + 1
    payloadBytes := sink.payloadBytes + packet.length
    fileBytes := sink.fileBytes + (recordHeaderSize + packet.length)
    file := sink.file ++ encodeRecord packet }

/-- What a call can do to a sink: nothing, stop it, open it, take a packet in, or
finalize it. -/
inductive Effect (sink : FramedAtomicRecordingSink) :
    FramedAtomicRecordingSink → Option Packet → Prop
  | unchanged : Effect sink sink none
  | stopped {next : FramedAtomicRecordingSink} (hlimits : next.limits = sink.limits)
      (hstate : next.state = .failed ∨ next.state = .aborted) : Effect sink next none
  | opened (hstate : sink.state = .created) :
      Effect sink { sink with state := .opened, fileBytes := magic.length, file := magic } none
  | accepted {packet : Packet} (hstate : sink.state = .opened)
      (hsize : packet.length ≤ sink.limits.maxPacketBytes) (hvalid : isRtpV2 packet = true)
      (hcount : sink.packets + 1 ≤ sink.limits.maxPackets)
      (htotal : sink.payloadBytes + packet.length ≤ sink.limits.maxPayloadBytes) :
      Effect sink (sink.withPacket packet) (some packet)
  | finalized (hstate : sink.state = .opened) :
      Effect sink { sink with state := .finalized } none

theorem effect_afterCancellation (sink : FramedAtomicRecordingSink) (cleaned : Bool) :
    Effect sink (sink.afterCancellation cleaned).2 none := by
  unfold afterCancellation
  split_ifs
  · exact .stopped rfl (Or.inr rfl)
  · exact .stopped rfl (Or.inl rfl)

theorem effect_openFile (sink : FramedAtomicRecordingSink) (worker : WorkerOutcome) :
    Effect sink (sink.openFile worker).2 none := by
  unfold openFile
  split_ifs with hopened hcreated
  · exact .unchanged
  · exact .unchanged
  cases worker with
  | done => exact .opened (not_not.mp hcreated)
  | conflict => exact .stopped rfl (Or.inl rfl)
  | osError written => exact .stopped rfl (Or.inl rfl)
  | cancelled cleaned => exact effect_afterCancellation sink cleaned

/-- A packet is accepted only while the sink is open and within its limits. -/
theorem effect_write (sink : FramedAtomicRecordingSink) (packet : Packet) (worker : WorkerOutcome) :
    (sink.write packet worker).1 = .ok () ∧
        Effect sink (sink.write packet worker).2 (some packet) ∨
      (∃ failure, (sink.write packet worker).1 = .error failure) ∧
        Effect sink (sink.write packet worker).2 none := by
  unfold write
  split_ifs with hopened hinvalid hlimit
  · exact Or.inr ⟨⟨_, rfl⟩, .unchanged⟩
  · exact Or.inr ⟨⟨_, rfl⟩, .stopped rfl (Or.inl rfl)⟩
  · exact Or.inr ⟨⟨_, rfl⟩, .stopped rfl (Or.inl rfl)⟩
  simp only [Bool.or_eq_true, decide_eq_true_eq, not_or, not_lt, Bool.not_eq_true',
    Bool.not_eq_false] at hinvalid hlimit
  cases worker with
  | done =>
      exact Or.inl ⟨rfl, .accepted (not_not.mp hopened) hinvalid.1 hinvalid.2 hlimit.1 hlimit.2⟩
  | conflict => exact Or.inr ⟨⟨_, rfl⟩, .stopped rfl (Or.inl rfl)⟩
  | osError written => exact Or.inr ⟨⟨_, rfl⟩, .stopped rfl (Or.inl rfl)⟩
  | cancelled cleaned =>
      refine Or.inr ⟨?_, effect_afterCancellation sink cleaned⟩
      cases cleaned <;> exact ⟨_, rfl⟩

theorem effect_finalize (sink : FramedAtomicRecordingSink) (worker : WorkerOutcome) :
    Effect sink (sink.finalize worker).2 none := by
  unfold finalize
  split_ifs with hfinalized hopened
  · exact .unchanged
  · exact .unchanged
  cases worker with
  | done => exact .finalized (not_not.mp hopened)
  | conflict => exact .stopped rfl (Or.inl rfl)
  | osError written => exact .stopped rfl (Or.inl rfl)
  | cancelled cleaned => exact effect_afterCancellation sink cleaned

theorem effect_abort (sink : FramedAtomicRecordingSink) (worker : WorkerOutcome) :
    Effect sink (sink.abort worker).2 none := by
  unfold abort
  split_ifs
  · exact .unchanged
  · exact .unchanged
  cases worker with
  | done => exact .stopped rfl (Or.inr rfl)
  | conflict => exact .stopped rfl (Or.inl rfl)
  | osError written => exact .stopped rfl (Or.inl rfl)
  | cancelled cleaned => exact effect_afterCancellation sink cleaned

namespace Attempt

theorem step_cases (attempt : Attempt) (call : Call) :
    ∃ packet, Effect attempt.sink (attempt.step call).sink packet ∧
      (attempt.step call).accepted = attempt.accepted ++ packet.toList := by
  cases call with
  | openFile worker =>
      exact ⟨none, effect_openFile _ worker, (List.append_nil _).symm⟩
  | write packet worker =>
      have heffects := effect_write attempt.sink packet worker
      simp only [step]
      generalize attempt.sink.write packet worker = outcome at heffects ⊢
      obtain ⟨result, sink⟩ := outcome
      rcases heffects with ⟨hok, heffect⟩ | ⟨⟨failure, herr⟩, heffect⟩
      · simp only at hok
        subst hok
        exact ⟨some packet, heffect, rfl⟩
      · simp only at herr
        subst herr
        exact ⟨none, heffect, (List.append_nil _).symm⟩
  | finalize worker =>
      exact ⟨none, effect_finalize _ worker, (List.append_nil _).symm⟩
  | abort worker =>
      exact ⟨none, effect_abort _ worker, (List.append_nil _).symm⟩

theorem fits_append_singleton {limits : FramedLimits} {ps : List Packet} {p : Packet}
    (h : Fits limits 0 0 ps) (hsize : p.length ≤ limits.maxPacketBytes)
    (hvalid : isRtpV2 p = true) (hcount : ps.length + 1 ≤ limits.maxPackets)
    (htotal : payloadTotal ps + p.length ≤ limits.maxPayloadBytes) :
    Fits limits 0 0 (ps ++ [p]) := by
  refine ⟨fun q hq => ?_, fun q hq => ?_, by simpa using hcount, by simpa using htotal⟩
  · rcases List.mem_append.mp hq with hq | hq
    · exact h.valid q hq
    · rwa [List.mem_singleton.mp hq]
  · rcases List.mem_append.mp hq with hq | hq
    · exact h.sizes q hq
    · rwa [List.mem_singleton.mp hq]

variable {attempt : Attempt}

theorem Recorded.invariant (h : attempt.Recorded) (hstate : attempt.sink.state ≠ .created) :
    attempt.Invariant :=
  ⟨fun hcreated => absurd hcreated hstate, fun _ => h⟩

theorem invariant_step (hinv : attempt.Invariant) (call : Call) :
    (attempt.step call).Invariant := by
  obtain ⟨packet, heffect, haccepted⟩ := attempt.step_cases call
  generalize attempt.step call = next at heffect haccepted ⊢
  obtain ⟨sink, accepted⟩ := next
  simp only at heffect haccepted
  subst haccepted
  cases heffect with
  | unchanged => rwa [Option.toList_none, List.append_nil]
  | stopped hlimits hstate =>
      refine ⟨fun h => ?_, fun h => ?_⟩
      · rcases hstate with hstate | hstate <;> cases hstate.symm.trans h
      · rcases hstate with hstate | hstate <;>
          rcases h with h | h <;> cases hstate.symm.trans h
  | opened hstate =>
      obtain ⟨hnil, hpackets, hpayload⟩ := hinv.created hstate
      rw [hnil]
      refine Recorded.invariant ⟨rfl, hpackets, hpayload, rfl, ?_⟩ (by simp)
      exact fits_nil (Nat.zero_le _) (Nat.zero_le _)
  | @accepted packet hstate hsize hvalid hcount htotal =>
      obtain ⟨hfile, hpackets, hpayload, hbytes, hfits⟩ := hinv.recorded (Or.inl hstate)
      rw [hpackets] at hcount
      rw [hpayload] at htotal
      refine Recorded.invariant ⟨?_, ?_, ?_, ?_, ?_⟩ (by simp [withPacket, hstate])
      · simp [withPacket, hfile, recordingFile]
      · simp [withPacket, hpackets]
      · simp [withPacket, hpayload]
      · simp [withPacket, hbytes]
      · exact fits_append_singleton hfits hsize hvalid hcount htotal
  | finalized hstate =>
      obtain ⟨hfile, hpackets, hpayload, hbytes, hfits⟩ := hinv.recorded (Or.inl hstate)
      rw [Option.toList_none, List.append_nil]
      exact Recorded.invariant ⟨hfile, hpackets, hpayload, hbytes, hfits⟩ (by simp)

theorem invariant_run (limits : FramedLimits) (calls : List Call) : (run limits calls).Invariant := by
  have hstart : Invariant ⟨create limits, []⟩ :=
    ⟨fun _ => ⟨rfl, rfl, rfl⟩, fun h => by simp [create] at h⟩
  exact List.foldlRecOn calls step hstart fun _ h call _ => invariant_step h call

theorem limits_step (attempt : Attempt) (call : Call) :
    (attempt.step call).sink.limits = attempt.sink.limits := by
  obtain ⟨packet, heffect, -⟩ := attempt.step_cases call
  generalize (attempt.step call).sink = sink at heffect
  cases heffect with
  | stopped hlimits _ => exact hlimits
  | _ => rfl

theorem limits_run (limits : FramedLimits) (calls : List Call) :
    (run limits calls).sink.limits = limits :=
  List.foldlRecOn (motive := fun attempt : Attempt => attempt.sink.limits = limits) calls step rfl
    fun attempt h call _ => (limits_step attempt call).trans h

def recordCalls (ps : List Packet) : List Call :=
  .openFile .done :: (ps.map fun p => .write p .done) ++ [.finalize .done]

theorem step_write_of_fits (hstate : attempt.sink.state = .opened) {p : Packet} {ps : List Packet}
    (hfits : Fits attempt.sink.limits attempt.sink.packets attempt.sink.payloadBytes (p :: ps)) :
    attempt.step (.write p .done) = ⟨attempt.sink.withPacket p, attempt.accepted ++ [p]⟩ := by
  obtain ⟨hvalid, hsize, hrest⟩ := fits_cons_iff.mp hfits
  have hcount := hrest.count
  have htotal := hrest.total
  have hwrite : attempt.sink.write p .done = (.ok (), attempt.sink.withPacket p) := by
    unfold write
    rw [if_neg (not_not.mpr hstate), if_neg (by simp [hvalid]; omega), if_neg (by simp; omega)]
    rfl
  simp only [step, hwrite]

theorem foldl_write_of_fits (hstate : attempt.sink.state = .opened) {ps : List Packet}
    (hfits : Fits attempt.sink.limits attempt.sink.packets attempt.sink.payloadBytes ps) :
    ((ps.map fun p => Call.write p .done).foldl step attempt).sink.state = .opened ∧
      ((ps.map fun p => Call.write p .done).foldl step attempt).accepted =
        attempt.accepted ++ ps := by
  induction ps generalizing attempt with
  | nil => exact ⟨hstate, (List.append_nil _).symm⟩
  | cons p rest ih =>
      rw [List.map_cons, List.foldl_cons, step_write_of_fits hstate hfits]
      have hrest : Fits (attempt.sink.withPacket p).limits (attempt.sink.withPacket p).packets
          (attempt.sink.withPacket p).payloadBytes rest := (fits_cons_iff.mp hfits).2.2
      have hnext : (attempt.sink.withPacket p).state = .opened := hstate
      obtain ⟨hopened, haccepted⟩ := @ih ⟨attempt.sink.withPacket p, attempt.accepted ++ [p]⟩
        hnext hrest
      exact ⟨hopened, by rw [haccepted, List.append_assoc, List.singleton_append]⟩

theorem run_recordCalls {limits : FramedLimits} {ps : List Packet} (hfits : Fits limits 0 0 ps) :
    (run limits (recordCalls ps)).sink.state = .finalized ∧
      (run limits (recordCalls ps)).accepted = ps := by
  have hopened := @foldl_write_of_fits (step ⟨create limits, []⟩ (.openFile .done)) rfl ps hfits
  rw [run, recordCalls, List.cons_append, List.foldl_cons, List.foldl_append, List.foldl_cons,
    List.foldl_nil]
  generalize (ps.map fun p => Call.write p .done).foldl step
    (step ⟨create limits, []⟩ (.openFile .done)) = attempt at hopened ⊢
  refine ⟨?_, hopened.2⟩
  simp only [step, finalize, hopened.1]
  rfl

end Attempt

end FramedAtomicRecordingSink

end K5Vision.Media
