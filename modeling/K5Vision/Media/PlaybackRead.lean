import K5Vision.Media.FramedRoundTrip

/-!
# What the descriptor adds to the reader

A playback of the file of some packets, whose metadata match the descriptor and
whose counters do not exceed it, hands out these packets; whether it ends in
`descriptorMismatch` is decided by the counters alone.  So the file of a whole
recording is verified, and the same file cut at a record boundary, which is a
whole file for the reader, is not.
-/

namespace K5Vision.Media

open Library

/-! ## Descriptors of packet lists -/

/-- The RTP metadata of the descriptor are those of the packets. -/
structure Matches (d : RecordingStreamDescriptor) (ps : List Packet) : Prop where
  payloadType_eq : ∀ p ∈ ps, payloadType p = d.payloadType
  origin_eq : ∀ p ∈ ps.head?, rtpTimestamp p = d.rtpTimestampOrigin

/-- The counters of the descriptor are those of the packets and their file. -/
structure Counts (d : RecordingStreamDescriptor) (ps : List Packet) : Prop where
  packetCount_eq : d.packetCount = ps.length
  payloadBytes_eq : d.payloadBytes = payloadTotal ps
  fileBytes_eq : d.fileBytes = (recordingFile ps).length

theorem Matches.of_append {d : RecordingStreamDescriptor} {first second : List Packet}
    (h : Matches d (first ++ second)) : Matches d first := by
  refine ⟨fun p hp => h.payloadType_eq p (List.mem_append_left second hp), fun p hp => ?_⟩
  cases first with
  | nil => cases hp
  | cons q rest => exact h.origin_eq p hp

theorem length_recordingFile (ps : List Packet) :
    (recordingFile ps).length = 8 + (ps.map fun p => 8 + p.length).sum := by
  rw [recordingFile, List.length_append, length_framed]
  have hsum : (ps.map fun p => 8 + p.length).sum = 8 * ps.length + payloadTotal ps := by
    induction ps with
    | nil => rfl
    | cons p rest ih =>
        rw [List.map_cons, List.sum_cons, ih, List.length_cons, payloadTotal_cons]
        ring
  rw [hsum]
  rfl

theorem not_counts_of_append {d : RecordingStreamDescriptor} {first second : List Packet}
    (h : Counts d (first ++ second)) (hne : second ≠ []) : ¬ Counts d first := by
  intro hfirst
  have := h.packetCount_eq.symm.trans hfirst.packetCount_eq
  rw [List.length_append] at this
  exact hne (List.length_eq_zero_iff.mp (by omega))

namespace BoundedRecordingPlayback

def start (file : Option (List UInt8)) (d : RecordingStreamDescriptor) (limits : FramedLimits) :
    BoundedRecordingPlayback :=
  ⟨file, d, limits, .created, 0, 0, 0, false⟩

variable {limits : FramedLimits} {d : RecordingStreamDescriptor}

theorem create_eq_ok_iff {file : Option (List UInt8)} {playback : BoundedRecordingPlayback} :
    create file d limits = .ok playback ↔
      d.packetCount ≤ limits.maxPackets ∧ d.payloadBytes ≤ limits.maxPayloadBytes ∧
        playback = start file d limits := by
  unfold create
  split_ifs with hcount htotal
  · simp
    omega
  · simp
    omega
  · rw [not_lt] at hcount htotal
    rw [Except.ok.injEq, eq_comm]
    exact ⟨fun h => ⟨hcount, htotal, h⟩, fun h => h.2.2⟩

/-! ## The loop over the reader's packets -/

variable {playback : BoundedRecordingPlayback}

variable {item : ReadPacket}

theorem body_of_matches (htype : payloadType item.payload = playback.descriptor.payloadType)
    (horigin : playback.packets = 0 →
      rtpTimestamp item.payload = playback.descriptor.rtpTimestampOrigin)
    (hcount : playback.packets + 1 ≤ playback.descriptor.packetCount)
    (htotal : playback.payloadBytes + item.payload.length ≤ playback.descriptor.payloadBytes) :
    playback.body item = .emit item.payload { playback with
      packets := playback.packets + 1
      payloadBytes := playback.payloadBytes + item.payload.length
      fileBytes := item.fileBytes } := by
  have hpacket : playback.packetMatches item.payload = true := by
    simp only [packetMatches, htype, beq_self_eq_true, Bool.true_and, Bool.not_eq_true',
      Bool.and_eq_false_iff, beq_eq_false_iff_ne, bne_eq_false_iff_eq]
    exact or_iff_not_imp_left.mpr fun h => horigin (not_not.mp h)
  unfold body
  simp only
  rw [if_neg (by simp [hpacket]), if_neg]
  simp only [progressMatches, Bool.not_not, Bool.or_eq_true, decide_eq_true_eq, not_or, not_lt]
  exact ⟨hcount, htotal⟩

theorem loop_body (playback : BoundedRecordingPlayback) (items : List ReadPacket)
    (htype : ∀ item ∈ items, payloadType item.payload = playback.descriptor.payloadType)
    (horigin : playback.packets = 0 → ∀ item ∈ items.head?,
      rtpTimestamp item.payload = playback.descriptor.rtpTimestampOrigin)
    (hcount : playback.packets + items.length ≤ playback.descriptor.packetCount)
    (htotal : playback.payloadBytes + payloadTotal (items.map ReadPacket.payload) ≤
      playback.descriptor.payloadBytes) :
    ∃ fileBytes, loop body playback items =
      (⟨items.map ReadPacket.payload, none⟩, { playback with
        packets := playback.packets + items.length
        payloadBytes := playback.payloadBytes + payloadTotal (items.map ReadPacket.payload)
        fileBytes := fileBytes }) := by
  induction items generalizing playback with
  | nil => exact ⟨playback.fileBytes, rfl⟩
  | cons item rest ih =>
      rw [List.length_cons] at hcount
      rw [List.map_cons, payloadTotal_cons] at htotal
      have hturn := body_of_matches (htype item List.mem_cons_self)
        (fun h => horigin h item rfl) (by omega) (by omega)
      obtain ⟨fileBytes, hloop⟩ := ih { playback with
          packets := playback.packets + 1
          payloadBytes := playback.payloadBytes + item.payload.length
          fileBytes := item.fileBytes }
        (fun i hi => htype i (List.mem_cons_of_mem item hi)) (fun h => by simp at h)
        (by simp only; omega) (by simp only; omega)
      refine ⟨fileBytes, ?_⟩
      rw [loop_cons_emit hturn, hloop, List.map_cons, payloadTotal_cons, List.length_cons]
      simp only [Nat.add_assoc, Nat.add_comm 1]

variable {next : BoundedRecordingPlayback}

theorem emit_of_body {packet : Packet} (h : playback.body item = .emit packet next) :
    next.packets = playback.packets + 1 ∧ next.descriptor = playback.descriptor ∧
      next.descriptorVerified = playback.descriptorVerified := by
  unfold body at h
  simp only at h
  split_ifs at h
  injection h with _ hnext
  subst hnext
  exact ⟨rfl, rfl, rfl⟩

theorem body_ne_skip : playback.body item ≠ .skip next := by
  unfold body
  simp only
  split_ifs <;> simp

theorem fail_of_body {error : PlaybackError} (h : playback.body item = .fail error next) :
    next.descriptorVerified = playback.descriptorVerified := by
  unfold body at h
  simp only at h
  split_ifs at h <;>
  · injection h with _ hnext
    subst hnext
    rfl

/-- Whatever the packets are, a loop that ends well has counted all of them, and
the loop alone verifies nothing. -/
theorem counts_loop (playback : BoundedRecordingPlayback) (items : List ReadPacket) :
    ((loop body playback items).1.error = none →
      (loop body playback items).2.packets = playback.packets + items.length ∧
        (loop body playback items).2.descriptor = playback.descriptor) ∧
      (loop body playback items).2.descriptorVerified = playback.descriptorVerified := by
  induction items generalizing playback with
  | nil => exact ⟨fun _ => ⟨rfl, rfl⟩, rfl⟩
  | cons item rest ih =>
      cases hturn : playback.body item with
      | skip next => exact absurd hturn body_ne_skip
      | emit packet next =>
          obtain ⟨hpackets, hdescriptor, hverified⟩ := emit_of_body hturn
          obtain ⟨ihcounts, ihverified⟩ := ih next
          rw [loop_cons_emit hturn]
          refine ⟨fun hok => ?_, ihverified.trans hverified⟩
          obtain ⟨hcount, hdesc⟩ := ihcounts hok
          refine ⟨?_, hdesc.trans hdescriptor⟩
          rw [hcount, hpackets, List.length_cons]
          omega
      | fail error next =>
          rw [loop_cons_fail hturn]
          refine ⟨fun hok => ?_, fail_of_body hturn⟩
          cases hok

/-! ## Whole playbacks -/

theorem completeMatches_iff : playback.completeMatches = true ↔
      playback.packets = playback.descriptor.packetCount ∧
        playback.payloadBytes = playback.descriptor.payloadBytes ∧
        playback.fileBytes = playback.descriptor.fileBytes := by
  simp [completeMatches, and_assoc]

theorem iterPackets_start {file : Option (List UInt8)}
    {source : Trace FramedRecordingError ReadPacket} {reader : FramedRecordingReader}
    (hread : (FramedRecordingReader.create limits).iterPackets file = (source, reader)) :
    (start file d limits).iterPackets =
      let (trace, last) := source.through body recordingFailure
        ⟨file, d, limits, .reading, 0, 0, 0, false⟩
      match trace.error with
      | some error =>
          let fileBytes :=
            if error.recordingErrorCode.isSome then reader.fileBytes else last.fileBytes
          (trace, { last with state := .failed, fileBytes := fileBytes })
      | none =>
          let final := { last with fileBytes := reader.fileBytes }
          if !final.completeMatches then
            (⟨trace.items, some descriptorMismatch⟩, { final with state := .failed })
          else (trace, { final with state := .complete, descriptorVerified := true }) := by
  have hsource : (FramedRecordingReader.create (start file d limits).limits).iterPackets
      (start file d limits).file = (source, reader) := hread
  unfold iterPackets
  rw [if_neg (by simp [start]), hsource]
  rfl

/-- A playback of packets that match and do not exceed the descriptor hands them
all out, and then decides by the counters. -/
theorem iterPackets_recordingFile {ps : List Packet} (hmatches : Matches d ps)
    (hfits : Fits limits 0 0 ps) (hcount : ps.length ≤ d.packetCount)
    (htotal : payloadTotal ps ≤ d.payloadBytes) :
    (Counts d ps → ∃ final,
      (start (some (recordingFile ps)) d limits).iterPackets = (⟨ps, none⟩, final) ∧
        final.descriptorVerified = true) ∧
      (¬ Counts d ps → (start (some (recordingFile ps)) d limits).iterPackets.1 =
        ⟨ps, some descriptorMismatch⟩) := by
  obtain ⟨items, reader, hread, hitems, -, -, -, hbytes⟩ :=
    FramedRecordingReader.iterPackets_recordingFile hfits
  have hlength : items.length = ps.length := by rw [← hitems, List.length_map]
  obtain ⟨fileBytes, hloop⟩ := loop_body
    ⟨some (recordingFile ps), d, limits, .reading, 0, 0, 0, false⟩ items
    (fun item hitem => hmatches.payloadType_eq _ (by
      rw [← hitems]
      exact List.mem_map_of_mem hitem))
    (fun _ item hitem => hmatches.origin_eq _ (by
      rw [← hitems, List.head?_map]
      exact Option.mem_map_of_mem _ hitem))
    (by simpa [hlength] using hcount) (by simpa [hitems] using htotal)
  rw [hitems, hlength] at hloop
  rw [iterPackets_start hread, Trace.through_of_loop _ hloop]
  simp only [Option.map_none]
  refine ⟨fun hcounts => ?_, fun hcounts => ?_⟩
  · rw [if_neg]
    · exact ⟨_, rfl, rfl⟩
    · rw [Bool.not_eq_true', Bool.not_eq_false, completeMatches_iff, hbytes]
      exact ⟨by simp [hcounts.packetCount_eq], by simp [hcounts.payloadBytes_eq],
        hcounts.fileBytes_eq.symm⟩
  · rw [if_pos]
    rw [Bool.not_eq_true', ← Bool.not_eq_true, completeMatches_iff, hbytes]
    rintro ⟨hpackets, hpayload, hfile⟩
    exact hcounts ⟨by simpa using hpackets.symm, by simpa using hpayload.symm, hfile.symm⟩

theorem iterPackets_cut {first second : List Packet} (hmatches : Matches d (first ++ second))
    (hcounts : Counts d (first ++ second)) (hfits : Fits limits 0 0 (first ++ second))
    (hne : second ≠ []) :
    (start (some (recordingFile first)) d limits).iterPackets.1 =
      ⟨first, some descriptorMismatch⟩ := by
  have hcount := hcounts.packetCount_eq
  have htotal := hcounts.payloadBytes_eq
  rw [List.length_append] at hcount
  rw [payloadTotal_append] at htotal
  exact (iterPackets_recordingFile hmatches.of_append hfits.of_append (by omega) (by omega)).2
    (not_counts_of_append hcounts hne)

/-- A playback of a recording file that ends without an error, or says that the
descriptor is verified, has a descriptor of that many packets. -/
theorem packetCount_eq_of_ok {ps : List Packet} (hfits : Fits limits 0 0 ps)
    (hok : (start (some (recordingFile ps)) d limits).iterPackets.1.error = none ∨
      (start (some (recordingFile ps)) d limits).iterPackets.2.descriptorVerified = true) :
    d.packetCount = ps.length := by
  obtain ⟨items, reader, hread, hitems, -⟩ := FramedRecordingReader.iterPackets_recordingFile hfits
  rw [iterPackets_start hread] at hok
  obtain ⟨hcount, hverified⟩ := counts_loop
    ⟨some (recordingFile ps), d, limits, .reading, 0, 0, 0, false⟩ items
  generalize hloop : loop body
    ⟨some (recordingFile ps), d, limits, .reading, 0, 0, 0, false⟩ items = result
    at hcount hverified
  obtain ⟨⟨emitted, error⟩, last⟩ := result
  cases error with
  | some error =>
      rw [Trace.through_of_loop_error _ hloop] at hok
      simp only [reduceCtorEq, false_or] at hok
      cases hverified.symm.trans hok
  | none =>
      rw [Trace.through_of_loop _ hloop] at hok
      simp only [Option.map_none] at hok
      obtain ⟨hpackets, hdescriptor⟩ : last.packets = 0 + items.length ∧ last.descriptor = d :=
        hcount rfl
      by_cases hcomplete : { last with fileBytes := reader.fileBytes }.completeMatches = true
      · have := (completeMatches_iff.mp hcomplete).1
        simp only [hpackets, hdescriptor, Nat.zero_add] at this
        rw [← this, ← hitems, List.length_map]
      · rw [if_pos (by simpa using hcomplete)] at hok
        simp only [reduceCtorEq, false_or] at hok
        cases hverified.symm.trans hok

end BoundedRecordingPlayback

/-! ## Packets that are a header only -/

def barePacket (timestamp : ℕ) : Packet :=
  [0x80, 0x60, 0, 0] ++ toBigEndian 4 timestamp ++ [0, 0, 0, 0]

theorem length_barePacket (timestamp : ℕ) : (barePacket timestamp).length = 12 := by
  simp [barePacket]

theorem isRtpV2_barePacket (timestamp : ℕ) : isRtpV2 (barePacket timestamp) = true := by
  have hfirst : (barePacket timestamp).getD 0 0 = 0x80 := rfl
  rw [isRtpV2, length_barePacket, hfirst]
  rfl

theorem payloadType_barePacket (timestamp : ℕ) : payloadType (barePacket timestamp) = 96 := by
  have hsecond : (barePacket timestamp).getD 1 0 = 0x60 := rfl
  rw [payloadType, hsecond]
  rfl

theorem rtpTimestamp_barePacket {timestamp : ℕ} (h : timestamp < 2 ^ 32) :
    rtpTimestamp (barePacket timestamp) = timestamp := by
  have hdrop : (barePacket timestamp).drop 4 = toBigEndian 4 timestamp ++ [0, 0, 0, 0] := rfl
  rw [rtpTimestamp, hdrop, List.take_left' (length_toBigEndian 4 timestamp),
    ofBigEndian_toBigEndian (by norm_num; omega)]

def bareDescriptor (timestamps : List ℕ) (durationMs : ℕ) : RecordingStreamDescriptor where
  codec := .h264
  payloadType := 96
  clockRateHz := 90000
  startedAtUtc := ⟨0, some 0⟩
  endedAtUtc := ⟨durationMs * 1000, some 0⟩
  durationMs := durationMs
  rtpTimestampOrigin := timestamps.headD 0
  packetCount := timestamps.length
  payloadBytes := 12 * timestamps.length
  fileBytes := 8 + 20 * timestamps.length

theorem payloadTotal_map_barePacket (timestamps : List ℕ) :
    payloadTotal (timestamps.map barePacket) = 12 * timestamps.length := by
  induction timestamps with
  | nil => rfl
  | cons timestamp rest ih =>
      rw [List.map_cons, payloadTotal_cons, length_barePacket, ih, List.length_cons]
      ring

theorem map_rtpTimestamp_barePacket {timestamps : List ℕ} (h : ∀ t ∈ timestamps, t < 2 ^ 32) :
    (timestamps.map barePacket).map rtpTimestamp = timestamps := by
  rw [List.map_map]
  refine (List.map_congr_left fun t ht => ?_).trans (List.map_id timestamps)
  rw [Function.comp_apply, rtpTimestamp_barePacket (h t ht), id]

theorem matches_bareDescriptor {timestamps : List ℕ} (h : ∀ t ∈ timestamps, t < 2 ^ 32)
    (durationMs : ℕ) :
    Matches (bareDescriptor timestamps durationMs) (timestamps.map barePacket) := by
  refine ⟨fun p hp => ?_, fun p hp => ?_⟩
  · obtain ⟨t, -, rfl⟩ := List.mem_map.mp hp
    exact payloadType_barePacket t
  cases timestamps with
  | nil => cases hp
  | cons t rest =>
      obtain rfl : barePacket t = p := by simpa using hp
      exact rtpTimestamp_barePacket (h t List.mem_cons_self)

theorem counts_bareDescriptor (timestamps : List ℕ) (durationMs : ℕ) :
    Counts (bareDescriptor timestamps durationMs) (timestamps.map barePacket) := by
  refine ⟨by simp [bareDescriptor], (payloadTotal_map_barePacket timestamps).symm, ?_⟩
  rw [recordingFile, List.length_append, length_framed, payloadTotal_map_barePacket, List.length_map]
  show 8 + 20 * timestamps.length = 8 + (8 * timestamps.length + 12 * timestamps.length)
  ring

theorem fits_barePackets (timestamps : List ℕ) (h : timestamps.length ≤ 1000000) :
    Fits .default 0 0 (timestamps.map barePacket) := by
  refine ⟨fun p hp => ?_, fun p hp => ?_, ?_, ?_⟩
  · obtain ⟨t, -, rfl⟩ := List.mem_map.mp hp
    exact isRtpV2_barePacket t
  · obtain ⟨t, -, rfl⟩ := List.mem_map.mp hp
    rw [length_barePacket]
    show 12 ≤ 65535
    omega
  · rw [List.length_map]
    show 0 + timestamps.length ≤ 1000000
    omega
  · rw [payloadTotal_map_barePacket]
    show 0 + 12 * timestamps.length ≤ 8 * 1024 * 1024 * 1024
    omega

/-! ## Round trip and truncation -/

open FramedAtomicRecordingSink in
/-- A sink that is open or finalized, after any calls, has written what a reader
within limits at least as large reads back, with the same counters. -/
theorem read_of_run {limits readerLimits : FramedLimits} (hle : limits.Le readerLimits)
    {calls : List Call}
    (hstate : (Attempt.run limits calls).sink.state = .opened ∨
      (Attempt.run limits calls).sink.state = .finalized) :
    Fits readerLimits 0 0 (Attempt.run limits calls).accepted ∧
      (Attempt.run limits calls).sink.file = recordingFile (Attempt.run limits calls).accepted := by
  obtain ⟨hfile, -, -, -, hfits⟩ := (Attempt.invariant_run limits calls).recorded hstate
  rw [Attempt.limits_run] at hfits
  exact ⟨hfits.mono hle, hfile⟩

/-- What the reader yields for `cut`, a prefix of the file of `packets`: nothing
and an invalid header inside the magic; otherwise the first packets, and then
either a truncation or, at a record boundary, an end that the playback of no
descriptor of all the packets accepts. -/
structure TruncationDetected (limits : FramedLimits) (packets : List Packet)
    (cut : List UInt8) : Prop where
  inside_magic : cut.length < magic.length →
    ((FramedRecordingReader.create limits).iterPackets (some cut)).1 =
      ⟨[], some ⟨.invalidHeader, "framed recording header is invalid"⟩⟩
  behind_magic : magic.length ≤ cut.length → ∃ before after, packets = before ++ after ∧
    ((FramedRecordingReader.create limits).iterPackets (some cut)).1.items.map
      ReadPacket.payload = before ∧
    (((FramedRecordingReader.create limits).iterPackets (some cut)).1.error =
        some ⟨.truncatedRecord, "framed recording is truncated"⟩ ∨
      cut = recordingFile before ∧
        ∀ d playback, BoundedRecordingPlayback.create (some cut) d limits = .ok playback →
          d.packetCount = packets.length →
          playback.iterPackets.1.error ≠ none ∧
            playback.iterPackets.2.descriptorVerified = false ∧
            (Matches d packets → Counts d packets →
              playback.iterPackets.1 = ⟨before, some descriptorMismatch⟩))

theorem truncationDetected_of_prefix {limits : FramedLimits} {packets : List Packet}
    (hfits : Fits limits 0 0 packets) {cut : List UInt8} (hcut : cut <+: recordingFile packets)
    (hproper : cut ≠ recordingFile packets) : TruncationDetected limits packets cut := by
  rcases FramedRecordingReader.prefix_recordingFile hcut with ⟨hmagic, hlength⟩ | ⟨tail, rfl, htail⟩
  · exact ⟨fun _ => FramedRecordingReader.iterPackets_of_not_magic hmagic,
      fun h => absurd h (not_le.mpr hlength)⟩
  refine ⟨fun h => absurd h (by simp), fun _ => ?_⟩
  obtain ⟨before, after, rfl, hitems, herror⟩ :=
    FramedRecordingReader.readRecords_prefix
      { FramedRecordingReader.create limits with
        state := .opened, fileBytes := magic.length } hfits htail
  rw [FramedRecordingReader.iterPackets_create]
  refine ⟨before, after, rfl, ?_, ?_⟩
  · rw [hitems, FramedRecordingReader.map_payload_delivered]
  rcases herror with herror | ⟨rfl, -⟩
  · exact Or.inl herror
  have hne : after ≠ [] := by
    rintro rfl
    rw [List.append_nil] at hproper
    exact hproper rfl
  refine Or.inr ⟨rfl, fun d playback hcreate hcount => ?_⟩
  obtain ⟨-, -, rfl⟩ := BoundedRecordingPlayback.create_eq_ok_iff.mp hcreate
  have hrejected := fun hok =>
    BoundedRecordingPlayback.packetCount_eq_of_ok (d := d) hfits.of_append hok
  rw [hcount, List.length_append, Nat.add_eq_left, List.length_eq_zero_iff] at hrejected
  refine ⟨fun hok => hne (hrejected (Or.inl hok)), ?_, fun hmatches hcounts => ?_⟩
  · exact Bool.eq_false_iff.mpr fun hverified => hne (hrejected (Or.inr hverified))
  · exact BoundedRecordingPlayback.iterPackets_cut hmatches hcounts hfits hne

open FramedAtomicRecordingSink in
/-- **Round trip of the recording format.**  After any calls that leave the sink
open or finalized, a reader reads back the packets accepted, with the sink's
counters; a reader accepts exactly the files of recordings within its limits; and
every proper prefix of the file is found out. -/
theorem recording_round_trip (limits readerLimits : FramedLimits) (hle : limits.Le readerLimits)
    (calls : List Call)
    (hstate : (Attempt.run limits calls).sink.state = .opened ∨
      (Attempt.run limits calls).sink.state = .finalized) :
    (∃ items reader,
      (FramedRecordingReader.create readerLimits).iterPackets
          (some (Attempt.run limits calls).sink.file) = (⟨items, none⟩, reader) ∧
        items.map ReadPacket.payload = (Attempt.run limits calls).accepted ∧
        reader.state = .complete ∧
        reader.packets = (Attempt.run limits calls).sink.packets ∧
        reader.packets = (Attempt.run limits calls).accepted.length ∧
        reader.payloadBytes = (Attempt.run limits calls).sink.payloadBytes ∧
        reader.fileBytes = (Attempt.run limits calls).sink.fileBytes ∧
        reader.fileBytes =
          8 + ((Attempt.run limits calls).accepted.map fun p => 8 + p.length).sum) ∧
      (∀ bytes, ((FramedRecordingReader.create readerLimits).iterPackets (some bytes)).1.error = none ↔
        ∃ ps, bytes = recordingFile ps ∧ Fits readerLimits 0 0 ps) ∧
      ∀ cut, cut <+: (Attempt.run limits calls).sink.file →
        cut ≠ (Attempt.run limits calls).sink.file →
          TruncationDetected readerLimits (Attempt.run limits calls).accepted cut := by
  obtain ⟨hfits, hfile⟩ := read_of_run hle hstate
  obtain ⟨-, hpackets, hpayload, hbytes, -⟩ := (Attempt.invariant_run limits calls).recorded hstate
  refine ⟨?_, fun bytes => FramedRecordingReader.iterPackets_error_eq_none_iff, ?_⟩
  · obtain ⟨items, reader, hread, hitems, hcomplete, hcount, htotal, hlength⟩ :=
      FramedRecordingReader.iterPackets_recordingFile hfits
    rw [hfile, hread]
    refine ⟨items, reader, rfl, hitems, hcomplete, ?_, hcount, ?_, ?_, ?_⟩
    · rw [hcount, hpackets]
    · rw [htotal, hpayload]
    · rw [hlength, hbytes, hfile]
    · rw [hlength, length_recordingFile]
  · rw [hfile]
    exact fun cut hcut hproper => truncationDetected_of_prefix hfits hcut hproper

open FramedAtomicRecordingSink in
theorem recording_round_trip_bare :
    let attempt := Attempt.run .default [.openFile .done, .write (barePacket 0) .done, .finalize .done]
    attempt.sink.state = .finalized ∧
      ∃ items reader, (FramedRecordingReader.create .default).iterPackets (some attempt.sink.file) =
          (⟨items, none⟩, reader) ∧
        items.map ReadPacket.payload = [barePacket 0] ∧ reader.fileBytes = 28 := by
  refine ⟨rfl, ?_⟩
  obtain ⟨⟨items, reader, hread, hitems, -, -, -, -, -, hbytes⟩, -⟩ :=
    recording_round_trip .default .default ⟨le_rfl, le_rfl, le_rfl⟩
      [.openFile .done, .write (barePacket 0) .done, .finalize .done] (Or.inr rfl)
  exact ⟨items, reader, hread, hitems, hbytes⟩

open FramedAtomicRecordingSink in
/-- A file cut inside its magic is refused for its header, not for a truncation. -/
theorem not_truncation_inside_magic : ¬ ∀ (limits : FramedLimits) (calls : List Call),
      (Attempt.run limits calls).sink.state = .finalized →
      ∀ cut, cut <+: (Attempt.run limits calls).sink.file →
        cut ≠ (Attempt.run limits calls).sink.file →
          (∃ error, ((FramedRecordingReader.create limits).iterPackets (some cut)).1.error =
            some error ∧ error.code = .truncatedRecord) ∨
          ∃ packets, cut = recordingFile packets := by
  intro h
  rcases h .default [.openFile .done, .finalize .done] rfl [] List.nil_prefix (by decide) with
    ⟨error, herror, hcode⟩ | ⟨packets, hfile⟩
  · rw [FramedRecordingReader.iterPackets_of_not_magic (by decide), Option.some.injEq] at herror
    subst herror
    cases hcode
  · cases hfile

end K5Vision.Media
