import K5Vision.Media.PlaybackFrames
import K5Vision.Media.RecordedDuration
import Mathlib.Data.Int.ModEq

/-!
# Playing back what was recorded

`record` takes the duration from the first and the last timestamp, modulo
`2 ^ 32`; the timeline adds up the forward differences packet by packet.  The two
agree modulo `2 ^ 32` (`forwardDistance_modEq`), so a recording plays back whole
exactly when no difference looks like a step back and their sum does not pass the
modulus.

A successful `record` is first inverted: its session is a run of the sink that
accepted the packets delivered, and what is stored is the framing of these
packets and their descriptor.
-/

namespace K5Vision.Media

open Library

/-! ## What a successful recording stores -/

def deliveredPackets (packetGoal : ℕ) (datagrams : List Packet) : List Packet :=
  (datagrams.filter isRtpV2).take packetGoal

theorem call_eq_ok {result : Except SinkFailure Unit} {timedOut : Bool} {message : String}
    (h : BoundedRtpRecorder.call result timedOut message = .ok ()) : result = .ok () := by
  cases result with
  | ok => rfl
  | error failure =>
      cases failure with
      | error => cases h
      | cancelled => cases timedOut <;> cases h

namespace BoundedRtpRecorder

variable {recorder next : BoundedRtpRecorder} {outcome : CallOutcome} {abortWorker : WorkerOutcome}

theorem sink_of_start (hstate : recorder.state = .created)
    (h : recorder.start outcome abortWorker = (.ok (), next)) :
    next.sink = (recorder.sink.openFile outcome.worker).2 := by
  unfold start at h
  rw [if_neg (by simp [hstate]), if_neg (by simp [hstate])] at h
  dsimp only at h
  split at h
  · cases (Prod.mk.inj h).1
  · obtain rfl := (Prod.mk.inj h).2
    rfl

theorem sink_of_consume {packet : Packet}
    (h : recorder.consume packet outcome abortWorker = (.ok (), next)) :
    recorder.sink.write packet outcome.worker = (.ok (), next.sink) := by
  unfold consume at h
  split_ifs at h
  · cases (Prod.mk.inj h).1
  · cases (Prod.mk.inj h).1
  · cases (Prod.mk.inj h).1
  dsimp only at h
  split at h
  · cases (Prod.mk.inj h).1
  · rename_i hcall
    obtain rfl := (Prod.mk.inj h).2
    exact Prod.ext (call_eq_ok hcall) rfl

theorem sink_of_finalize (h : recorder.finalize outcome abortWorker = (.ok (), next)) :
    next.sink = recorder.sink ∨ next.sink = (recorder.sink.finalize outcome.worker).2 := by
  unfold finalize at h
  split_ifs at h
  · exact Or.inl (by rw [(Prod.mk.inj h).2])
  · cases (Prod.mk.inj h).1
  dsimp only at h
  split at h
  · cases (Prod.mk.inj h).1
  · obtain rfl := (Prod.mk.inj h).2
    exact Or.inr rfl

end BoundedRtpRecorder

open FramedAtomicRecordingSink in
/-- The session of a recording: its sink is the outcome of calls that accepted the
packets consumed so far. -/
structure SessionRecorded (limits : FramedLimits) (source : ResolvedLiveSource)
    (session : RecordingSession) (ps : List Packet) : Prop where
  run : ∃ calls, Attempt.run limits calls = ⟨session.recorder.sink, ps⟩
  payloadType_eq : ∀ p ∈ ps, payloadType p = source.payloadType
  first_eq : session.firstTimestamp = ps.head?.map rtpTimestamp
  last_eq : session.lastTimestamp = ps.getLast?.map rtpTimestamp

namespace SessionRecorded

variable {limits : FramedLimits} {source : ResolvedLiveSource} {session next : RecordingSession}
  {ps : List Packet}

theorem consume (h : SessionRecorded limits source session ps) {packet : Packet}
    {outcome : CallOutcome} {abortWorker : WorkerOutcome}
    (hconsume : session.consume source packet outcome abortWorker = (.ok (), next)) :
    SessionRecorded limits source next (ps ++ [packet]) := by
  unfold RecordingSession.consume at hconsume
  by_cases htype : payloadType packet ≠ source.payloadType
  · rw [if_pos htype] at hconsume
    cases (Prod.mk.inj hconsume).1
  rw [if_neg htype] at hconsume
  generalize hrecorder : session.recorder.consume packet outcome abortWorker = consumed
    at hconsume
  obtain ⟨result, recorder⟩ := consumed
  obtain ⟨hresult, rfl⟩ := Prod.mk.inj hconsume
  cases result with
  | error failure => cases hresult
  | ok =>
      obtain ⟨calls, hrun⟩ := h.run
      have hwrite := BoundedRtpRecorder.sink_of_consume hrecorder
      refine ⟨⟨calls ++ [.write packet outcome.worker], ?_⟩, ?_, ?_, ?_⟩
      · rw [FramedAtomicRecordingSink.Attempt.run, List.foldl_append,
          ← FramedAtomicRecordingSink.Attempt.run, hrun]
        simp only [List.foldl_cons, List.foldl_nil, FramedAtomicRecordingSink.Attempt.step, hwrite]
      · intro p hp
        rcases List.mem_append.mp hp with hp | hp
        · exact h.payloadType_eq p hp
        · rw [List.mem_singleton.mp hp]
          exact not_not.mp htype
      · simp only [h.first_eq]
        cases ps <;> rfl
      · simp

theorem deliver {packetGoal : ℕ} {env : RecordingEnvironment} {datagrams : List Packet}
    (h : SessionRecorded limits source session ps)
    (hdeliver : RecordingSession.deliver source packetGoal env session ps.length datagrams =
      (.ok (), next)) :
    SessionRecorded limits source next
      (ps ++ deliveredPackets (packetGoal - ps.length) datagrams) := by
  induction datagrams generalizing session ps with
  | nil =>
      rw [RecordingSession.deliver] at hdeliver
      split_ifs at hdeliver
      · obtain rfl := (Prod.mk.inj hdeliver).2
        simpa [deliveredPackets] using h
      · cases hdeliver
  | cons packet rest ih =>
      rw [RecordingSession.deliver] at hdeliver
      split_ifs at hdeliver with hgoal hvalid
      · obtain rfl := (Prod.mk.inj hdeliver).2
        rw [Nat.sub_eq_zero_of_le hgoal]
        simpa [deliveredPackets] using h
      · rw [deliveredPackets, List.filter_cons_of_neg (by simpa using hvalid)]
        exact ih h hdeliver
      generalize hconsume : session.consume source packet (env.writeCall ps.length)
        env.abortWorker = consumed at hdeliver
      obtain ⟨result, middle⟩ := consumed
      cases result with
      | error failure => cases hdeliver
      | ok =>
          have hmiddle := h.consume hconsume
          have hlength : (ps ++ [packet]).length = ps.length + 1 := by simp
          simp only at hdeliver
          rw [← hlength] at hdeliver
          have hrest := ih hmiddle hdeliver
          have hsub : packetGoal - ps.length = (packetGoal - (ps ++ [packet]).length) + 1 := by
            omega
          rw [hsub, deliveredPackets, List.filter_cons_of_pos (by simpa using hvalid),
            List.take_succ_cons]
          rwa [List.append_assoc, List.singleton_append] at hrest

end SessionRecorded

/-- What is known of a stored pair: its file frames the packets, and its descriptor
describes them. -/
structure Stored (limits : FramedLimits) (pair : RecordedPair) (ps : List Packet) : Prop where
  file_eq : pair.file = recordingFile ps
  fits : Fits limits 0 0 ps
  descriptor_matches : Matches pair.descriptor ps
  counts : Counts pair.descriptor ps
  clockRateHz_eq : pair.descriptor.clockRateHz = 90000
  durationMs_eq : pair.receipt.durationMs = pair.descriptor.durationMs
  duration : ∃ first ∈ ps.head?, ∃ last ∈ ps.getLast?,
    pair.descriptor.durationMs = recordedDurationMs (rtpTimestamp first) (rtpTimestamp last)

theorem buildDescriptor_eq_ok {payloadType first last : ℕ} {counters : FramedAtomicRecordingSink}
    {started : Datetime} {descriptor : RecordingStreamDescriptor}
    (h : buildDescriptor payloadType first last counters started = .ok descriptor) :
    ∃ ended, descriptor = recordedDescriptor payloadType first last counters started ended := by
  unfold buildDescriptor at h
  split at h
  · cases h
  rename_i ended _
  dsimp only at h
  split at h
  · cases h
  · exact ⟨ended, (Except.ok.inj h).symm⟩

namespace BoundedOperatorRecordingCoordinator

variable {coordinator : BoundedOperatorRecordingCoordinator} {source : ResolvedLiveSource}
  {env : RecordingEnvironment}

theorem conclude_eq_ok {session : RecordingSession} {pair : RecordedPair}
    (h : conclude source env session = .ok pair) :
    session.recorder.sink.state = .finalized ∧ ∃ first last ended,
      session.firstTimestamp = some first ∧ session.lastTimestamp = some last ∧
        pair.descriptor = recordedDescriptor source.payloadType first last session.recorder.sink
          env.startedAtUtc ended ∧
        pair.file = session.recorder.sink.file ∧
        pair.receipt.durationMs = recordedDurationMs first last := by
  unfold conclude at h
  split at h
  · cases h
  rename_i hstate
  simp only [Bool.or_eq_true, decide_eq_true_eq, not_or, not_not] at hstate
  refine ⟨hstate.2, ?_⟩
  split at h
  · rename_i first last hfirst hlast
    dsimp only at h
    split at h
    · cases h
    rename_i descriptor hbuild
    obtain ⟨ended, hended⟩ := buildDescriptor_eq_ok hbuild
    split_ifs at h
    obtain rfl := Except.ok.inj h
    exact ⟨first, last, ended, hfirst, hlast, hended, rfl, rfl⟩
  · cases h

/-- **What `record` leaves.**  A successful recording stores the packets delivered. -/
theorem stored_of_record {pair : RecordedPair} (h : coordinator.record source env = .ok pair) :
    Stored coordinator.limits pair
      (deliveredPackets coordinator.deliveryPacketGoal env.datagrams) := by
  unfold record at h
  split at h
  · cases h
  rename_i recorder hstart
  split_ifs at h
  split at h
  · cases h
  rename_i session hdeliver
  split at h
  · cases h
  · cases h
  rename_i finished hfinalize
  -- the session is a run of the sink from its creation on
  have hopened : SessionRecorded coordinator.limits source ⟨recorder, none, none⟩ [] := by
    refine ⟨⟨[.openFile env.openCall.worker], ?_⟩, by simp, rfl, rfl⟩
    rw [BoundedRtpRecorder.sink_of_start rfl hstart]
    rfl
  have hsession := hopened.deliver hdeliver
  rw [List.nil_append, List.length_nil, Nat.sub_zero] at hsession
  generalize deliveredPackets coordinator.deliveryPacketGoal env.datagrams = ps at hsession ⊢
  obtain ⟨hstate, first, last, ended, hfirst, hlast, hdescriptor, hfile, hduration⟩ :=
    conclude_eq_ok h
  obtain ⟨calls, hrun⟩ : ∃ calls, FramedAtomicRecordingSink.Attempt.run coordinator.limits calls =
      ⟨finished.sink, ps⟩ := by
    obtain ⟨calls, hrun⟩ := hsession.run
    rcases BoundedRtpRecorder.sink_of_finalize hfinalize with hsink | hsink
    · exact ⟨calls, by rw [hrun, hsink]⟩
    refine ⟨calls ++ [.finalize env.finalizeCall.worker], ?_⟩
    rw [FramedAtomicRecordingSink.Attempt.run, List.foldl_append,
      ← FramedAtomicRecordingSink.Attempt.run, hrun, hsink]
    rfl
  have hinv := FramedAtomicRecordingSink.Attempt.invariant_run coordinator.limits calls
  have hlimits := FramedAtomicRecordingSink.Attempt.limits_run coordinator.limits calls
  rw [hrun] at hinv hlimits
  obtain ⟨hsinkfile, hpackets, hpayload, hbytes, hfits⟩ := hinv.recorded (Or.inr hstate)
  rw [hlimits] at hfits
  have hfirst' := hsession.first_eq.symm.trans hfirst
  have hlast' := hsession.last_eq.symm.trans hlast
  obtain ⟨p, hp, rfl⟩ := Option.map_eq_some_iff.mp hfirst'
  obtain ⟨q, hq, rfl⟩ := Option.map_eq_some_iff.mp hlast'
  refine ⟨hfile.trans hsinkfile, hfits, ⟨?_, ?_⟩, ⟨?_, ?_, ?_⟩, ?_, ?_, ⟨p, hp, q, hq, ?_⟩⟩
  · rw [hdescriptor]
    exact hsession.payloadType_eq
  · intro r hr
    rw [hdescriptor, Option.some.inj (hr.symm.trans hp)]
    rfl
  · rw [hdescriptor]
    exact hpackets
  · rw [hdescriptor]
    exact hpayload
  · rw [hdescriptor]
    exact hbytes.trans (congrArg List.length hsinkfile)
  · rw [hdescriptor]
    rfl
  · rw [hduration, hdescriptor]
    rfl
  · rw [hdescriptor]
    rfl

end BoundedOperatorRecordingCoordinator

/-! ## The distance the timestamps run -/

/-- The sum of the forward differences between consecutive timestamps. -/
def forwardDistance : List ℕ → ℕ
  | first :: second :: rest => rtpDelta first second + forwardDistance (second :: rest)
  | _ => 0

theorem rtpDelta_modEq (previous timestamp : ℕ) :
    (rtpDelta previous timestamp : ℤ) ≡ timestamp - previous [ZMOD rtpModulus] := by
  have hpos : (0 : ℤ) < rtpModulus := by decide
  rw [rtpDelta, Int.toNat_of_nonneg (Int.emod_nonneg _ hpos.ne')]
  exact Int.mod_modEq _ _

/-- Packet by packet or from the ends, the distance is the same modulo `2 ^ 32`. -/
theorem forwardDistance_modEq {first last : ℕ} {rest : List ℕ}
    (hlast : (first :: rest).getLast? = some last) :
    (forwardDistance (first :: rest) : ℤ) ≡ last - first [ZMOD rtpModulus] := by
  induction rest generalizing first with
  | nil =>
      obtain rfl : first = last := by simpa using hlast
      simp [forwardDistance]
  | cons second rest ih =>
      rw [List.getLast?_cons_cons] at hlast
      have hsum := (rtpDelta_modEq first second).add (ih hlast)
      rw [forwardDistance]
      push_cast
      convert hsum using 1
      ring

theorem rtpDelta_eq_mod {first last : ℕ} {rest : List ℕ}
    (hlast : (first :: rest).getLast? = some last) :
    rtpDelta first last = forwardDistance (first :: rest) % rtpModulus := by
  have hpos : (0 : ℤ) < rtpModulus := by decide
  have hmod := forwardDistance_modEq hlast
  rw [rtpDelta, ← hmod, ← Int.natCast_mod, Int.toNat_natCast]

theorem ticksFrom_le (previous ticks : ℕ) (timestamps : List ℕ) :
    ∀ later ∈ ticksFrom previous ticks timestamps,
      later ≤ ticks + forwardDistance (previous :: timestamps) := by
  induction timestamps generalizing previous ticks with
  | nil => simp [ticksFrom]
  | cons timestamp rest ih =>
      rw [ticksFrom, List.forall_mem_cons, forwardDistance]
      refine ⟨by omega, fun later hlater => ?_⟩
      have := ih _ _ later hlater
      omega

theorem forwardDistance_mem_ticksFrom (previous ticks timestamp : ℕ) (rest : List ℕ) :
    ticks + forwardDistance (previous :: timestamp :: rest) ∈
      ticksFrom previous ticks (timestamp :: rest) := by
  induction rest generalizing previous ticks timestamp with
  | nil => simp [ticksFrom, forwardDistance]
  | cons next rest ih =>
      rw [ticksFrom, forwardDistance, ← Nat.add_assoc]
      exact List.mem_cons_of_mem _ (ih _ _ _)

theorem forall_elapsedTimes_le_iff {clockRateHz bound : ℕ} {p : Packet} {rest : List Packet} :
    (∀ elapsed ∈ elapsedTimes clockRateHz (p :: rest), elapsed ≤ bound) ↔
      forwardDistance ((p :: rest).map rtpTimestamp) * 1000 / clockRateHz ≤ bound := by
  have hdistance : forwardDistance (rtpTimestamp p :: (p :: rest).map rtpTimestamp) =
      forwardDistance ((p :: rest).map rtpTimestamp) := by
    rw [List.map_cons, forwardDistance, rtpDelta_self, Nat.zero_add]
  rw [elapsedTimes, List.forall_mem_map, List.map_cons, unwrappedTicks]
  constructor
  · intro hall
    have hmem := forwardDistance_mem_ticksFrom (rtpTimestamp p) 0 (rtpTimestamp p)
      (rest.map rtpTimestamp)
    have := hall _ hmem
    rwa [Nat.zero_add, ← List.map_cons, hdistance] at this
  · intro hle ticks hticks
    have := ticksFrom_le _ _ _ ticks hticks
    rw [Nat.zero_add, ← List.map_cons, hdistance] at this
    exact (Nat.div_le_div_right (Nat.mul_le_mul_right _ this)).trans hle

/-! ## Playback of a stored pair -/

/-- Playing the pair from 0 to the receipt's duration ends without an error, with
the descriptor verified, and yields the packets, each once and in order. -/
def PlaysBack (pair : RecordedPair) (ps : List Packet) (rate : RateRatio) : Prop :=
  ∃ schedule frames final,
    BoundedPlaybackSchedule.create (some pair.file) pair.descriptor 0 pair.receipt.durationMs rate
        .default = .ok schedule ∧
      schedule.iterPackets = (⟨frames, none⟩, final) ∧ final.descriptorVerified = true ∧
      frames.map ScheduledPlaybackPacket.packet = ps

theorem map_fst_filter_zip_eq_iff {ps : List Packet} {times : List ℕ}
    (hlength : times.length = ps.length) (bound : ℕ) :
    ((ps.zip times).filter fun x => 0 ≤ x.2 ∧ x.2 ≤ bound).map Prod.fst = ps ↔
      ∀ time ∈ times, time ≤ bound := by
  constructor
  · intro hmap time htime
    have hfilter : ((ps.zip times).filter fun x => 0 ≤ x.2 ∧ x.2 ≤ bound).length =
        (ps.zip times).length := by
      rw [← List.length_map (f := Prod.fst), hmap, List.length_zip, hlength, Nat.min_self]
    have hall := List.filter_eq_self.mp (List.filter_sublist.eq_of_length hfilter)
    obtain ⟨i, hi, rfl⟩ := List.getElem_of_mem htime
    have hmem : (ps[i], times[i]) ∈ ps.zip times := by
      rw [← List.getElem_zip (h := by simp; omega)]
      exact List.getElem_mem _
    simpa using hall _ hmem
  · intro hall
    rw [List.filter_eq_self.mpr, List.map_fst_zip hlength.ge]
    rintro ⟨p, time⟩ hmem
    simpa using hall time (List.of_mem_zip hmem).2

theorem exists_cons_of_head? {ps : List Packet} {p : Packet} (h : ps.head? = some p) :
    ∃ rest, ps = p :: rest :=
  ⟨ps.tail, (List.cons_head?_tail h).symm⟩

/-- The recorder's duration covers the timeline exactly when the distance does not
reach the modulus. -/
theorem elapsed_le_recordedDurationMs_iff {first last : ℕ} {rest : List ℕ}
    (hlast : (first :: rest).getLast? = some last) :
    forwardDistance (first :: rest) * 1000 / 90000 ≤ recordedDurationMs first last ↔
      forwardDistance (first :: rest) < rtpModulus := by
  rw [recordedDurationMs, rtpDelta_eq_mod hlast]
  simp only [rtpModulus]
  omega

/-- **When a recording plays back whole.**  Exactly when no timestamp goes back
and the distance they run does not reach the modulus. -/
theorem playsBack_iff {limits : FramedLimits} {pair : RecordedPair} {ps : List Packet}
    (hstored : Stored limits pair ps) (rate : RateRatio) :
    PlaysBack pair ps rate ↔
      Forward (ps.map rtpTimestamp) ∧ forwardDistance (ps.map rtpTimestamp) < rtpModulus := by
  have hle : limits.Le .default :=
    ⟨limits.maxPackets_mem.2, limits.maxPayloadBytes_mem.2, limits.maxPacketBytes_mem.2⟩
  obtain ⟨hfile, hfits, hmatches, hcounts, hclock, hreceipt, p, hp, q, hq, hduration⟩ := hstored
  obtain ⟨rest, rfl⟩ := exists_cons_of_head? hp
  have hfits' := hfits.mono hle
  have hlast : ((p :: rest).map rtpTimestamp).getLast? = some (rtpTimestamp q) := by
    rw [List.getLast?_map, hq]
    rfl
  have hcreate : BoundedPlaybackSchedule.create (some pair.file) pair.descriptor 0
        pair.receipt.durationMs rate .default =
      .ok (.start (some pair.file) pair.descriptor 0 pair.receipt.durationMs rate .default) :=
    BoundedPlaybackSchedule.create_eq rate (Nat.zero_le _) hreceipt.le
      (by simpa [hcounts.packetCount_eq] using hfits'.count)
      (by simpa [hcounts.payloadBytes_eq] using hfits'.total)
  obtain ⟨hplays, hregress⟩ := BoundedPlaybackSchedule.iterPackets_start 0
    pair.receipt.durationMs rate hmatches hcounts hfits'
  rw [← hfile] at hplays hregress
  -- with forward timestamps the frames are the packets within the duration
  have hframes (hforward : Forward ((p :: rest).map rtpTimestamp)) :
      (BoundedPlaybackSchedule.start (some pair.file) pair.descriptor 0 pair.receipt.durationMs rate
          .default).iterPackets.1.items.map ScheduledPlaybackPacket.packet = p :: rest ↔
        forwardDistance ((p :: rest).map rtpTimestamp) < rtpModulus := by
    have hsource := (framesOfWindow_scheduled pair.descriptor (p :: rest) 0
      pair.receipt.durationMs rate).source
    have hbound : forwardDistance ((p :: rest).map rtpTimestamp) * 1000 / 90000 ≤
          recordedDurationMs (rtpTimestamp p) (rtpTimestamp q) ↔
        forwardDistance ((p :: rest).map rtpTimestamp) < rtpModulus :=
      elapsed_le_recordedDurationMs_iff hlast
    rw [(hplays hforward).1, ← hbound, ← hduration, ← hreceipt, ← hclock,
      ← forall_elapsedTimes_le_iff, ← map_fst_filter_zip_eq_iff (length_elapsedTimes _ _),
      ← hsource, List.map_map]
    rfl
  constructor
  · rintro ⟨schedule, frames, final, hcreate', hrun, -, hpackets⟩
    obtain rfl := Except.ok.inj (hcreate.symm.trans hcreate')
    by_cases hforward : Forward ((p :: rest).map rtpTimestamp)
    · refine ⟨hforward, (hframes hforward).mp ?_⟩
      rwa [hrun]
    · have herror := (hregress hforward).1
      rw [hrun] at herror
      cases herror
  · rintro ⟨hforward, hdistance⟩
    obtain ⟨hitems, hverified⟩ := hplays hforward
    exact ⟨_, _, _, hcreate, Prod.ext hitems rfl, hverified, by
      have := (hframes hforward).mpr hdistance
      rwa [hitems] at this⟩

/-- **Recording and playing back.**  For every successful recording and any rate,
playing the receipt's window yields the recorded packets exactly when no recorded
timestamp goes back and the distance they run does not reach the modulus. -/
theorem record_plays_back_iff (coordinator : BoundedOperatorRecordingCoordinator)
    (source : ResolvedLiveSource) (env : RecordingEnvironment) (pair : RecordedPair)
    (hrecord : coordinator.record source env = .ok pair) (rate : RateRatio) :
    PlaysBack pair (deliveredPackets coordinator.deliveryPacketGoal env.datagrams) rate ↔
      Forward ((deliveredPackets coordinator.deliveryPacketGoal env.datagrams).map rtpTimestamp) ∧
        forwardDistance ((deliveredPackets coordinator.deliveryPacketGoal env.datagrams).map
          rtpTimestamp) < rtpModulus :=
  playsBack_iff (BoundedOperatorRecordingCoordinator.stored_of_record hrecord) rate

/-- A delivery in which nothing fails. -/
def quietEnvironment (datagrams : List Packet) : RecordingEnvironment where
  relayStarts := true
  datagrams := datagrams
  openCall := ⟨.done, false⟩
  writeCall := fun _ => ⟨.done, false⟩
  consumerTimedOut := false
  finalizeCall := ⟨.done, false⟩
  abortWorker := .done
  startedAtUtc := firstInstant
  descriptorPersisted := true

/-- A coordinator whose deliveries are of three packets. -/
def threePacketCoordinator : BoundedOperatorRecordingCoordinator where
  packetGoal := 3
  maxRecordingBytes := 65536
  deliveryPacketGoal := 3
  packetGoal_mem := by decide
  maxRecordingBytes_mem := by decide
  deliveryPacketGoal_mem := by decide

def bareSource : ResolvedLiveSource := ⟨96, by decide⟩

/-- The finalized session of a quiet delivery of three packets. -/
def quietSession (datagrams : List Packet) : RecordingSession :=
  let session := (RecordingSession.deliver bareSource 3 (quietEnvironment datagrams)
    ⟨(threePacketCoordinator.recorder.start ⟨.done, false⟩ .done).2, none, none⟩ 0 datagrams).2
  { session with recorder := (session.recorder.finalize ⟨.done, false⟩ .done).2 }

theorem exists_conclude_eq_ok (source : ResolvedLiveSource) (env : RecordingEnvironment)
    (session : RecordingSession) {first last : ℕ} (hrecorder : session.recorder.state = .finalized)
    (hsink : session.recorder.sink.state = .finalized)
    (hfirst : session.firstTimestamp = some first) (hlast : session.lastTimestamp = some last)
    (hcounters : FinalizedCounters session.recorder.sink)
    (hpackets : session.recorder.sink.packets ≤ 65536)
    (hpayload : session.recorder.sink.payloadBytes ≤ 512 * 1024 * 1024) (hlt : first < 2 ^ 32)
    (hstarted : env.startedAtUtc.IsUtcMillisecond) (hpersisted : env.descriptorPersisted = true)
    (hrange : env.startedAtUtc.micros + recordedDurationMs first last * 1000 < datetimeRange)
    (hkeeps : ¬ LosesMillisecond (recordedDurationMs first last)) :
    ∃ pair, BoundedOperatorRecordingCoordinator.conclude source env session = .ok pair := by
  have hduration := recordedDurationMs_lt first last
  have hpos := hcounters.packets_pos
  have htwelve := hcounters.payloadBytes_ge
  have hreceipt : OperatorRecordingReceipt.inRange ⟨session.recorder.sink.packets,
      session.recorder.sink.payloadBytes, recordedDurationMs first last⟩ = true := by
    simp only [OperatorRecordingReceipt.inRange, Bool.and_eq_true, decide_eq_true_eq]
    omega
  have hbuild := buildDescriptor_eq last hcounters source.payloadType_mem hlt hstarted
  rw [if_pos hrange, if_neg hkeeps] at hbuild
  unfold BoundedOperatorRecordingCoordinator.conclude
  rw [if_neg (by simp [hrecorder, hsink]), hfirst, hlast]
  simp only [hbuild, hpersisted, hreceipt, Bool.not_true, Bool.false_eq_true, if_false]
  exact ⟨_, rfl⟩

/-- What `conclude` reads of a session of three packets. -/
structure ThreePackets (session : RecordingSession) (first last : ℕ) : Prop where
  states : session.recorder.state = .finalized ∧ session.recorder.sink.state = .finalized
  stamps : session.firstTimestamp = some first ∧ session.lastTimestamp = some last
  counts : session.recorder.sink.packets = 3 ∧ session.recorder.sink.payloadBytes = 36 ∧
    session.recorder.sink.fileBytes = 68

theorem ThreePackets.concluded {session : RecordingSession} {first last : ℕ}
    {env : RecordingEnvironment} (h : ThreePackets session first last) (hlt : first < 2 ^ 32)
    (hstarted : env.startedAtUtc.IsUtcMillisecond) (hpersisted : env.descriptorPersisted = true)
    (hrange : env.startedAtUtc.micros + recordedDurationMs first last * 1000 < datetimeRange)
    (hkeeps : ¬ LosesMillisecond (recordedDurationMs first last)) :
    ∃ pair, BoundedOperatorRecordingCoordinator.conclude bareSource env session = .ok pair := by
  obtain ⟨hpackets, hpayload, hfile⟩ := h.counts
  have hcounters : FinalizedCounters session.recorder.sink :=
    ⟨by omega, by omega, by omega, by omega, by omega⟩
  exact exists_conclude_eq_ok bareSource env session h.states.1 h.states.2 h.stamps.1 h.stamps.2
    hcounters (by omega) (by omega) hlt hstarted hpersisted hrange hkeeps

/-- A steady recording of one second plays back. -/
theorem record_plays_back_steady : ∃ pair, threePacketCoordinator.record bareSource
        (quietEnvironment ([0, 45000, 90000].map barePacket)) = .ok pair ∧
      PlaysBack pair ([0, 45000, 90000].map barePacket) PlaybackRate.normal.ratio := by
  have hsession : ThreePackets (quietSession ([0, 45000, 90000].map barePacket)) 0 90000 :=
    ⟨by decide +kernel, by decide +kernel, by decide +kernel⟩
  obtain ⟨pair, hconclude⟩ := @ThreePackets.concluded _ _ _
    (quietEnvironment ([0, 45000, 90000].map barePacket)) hsession (by decide)
    isUtcMillisecond_firstInstant rfl (by decide) (by decide)
  have hrecord : threePacketCoordinator.record bareSource
      (quietEnvironment ([0, 45000, 90000].map barePacket)) = .ok pair := hconclude
  refine ⟨pair, hrecord, (record_plays_back_iff _ _ _ _ hrecord PlaybackRate.normal.ratio).mpr ?_⟩
  have hpackets : deliveredPackets threePacketCoordinator.deliveryPacketGoal
      (quietEnvironment ([0, 45000, 90000].map barePacket)).datagrams =
        [0, 45000, 90000].map barePacket := rfl
  rw [hpackets, map_rtpTimestamp_barePacket (by decide)]
  decide

/-- A late packet, and the recording with a receipt does not play back. -/
theorem record_not_played_back_late : ∃ pair, threePacketCoordinator.record bareSource
        (quietEnvironment ([90, 0, 90].map barePacket)) = .ok pair ∧
      ¬ PlaysBack pair ([90, 0, 90].map barePacket) PlaybackRate.normal.ratio := by
  have hsession : ThreePackets (quietSession ([90, 0, 90].map barePacket)) 90 90 :=
    ⟨by decide +kernel, by decide +kernel, by decide +kernel⟩
  obtain ⟨pair, hconclude⟩ := @ThreePackets.concluded _ _ _
    (quietEnvironment ([90, 0, 90].map barePacket)) hsession (by decide)
    isUtcMillisecond_firstInstant rfl (by decide) (by decide)
  have hrecord : threePacketCoordinator.record bareSource
      (quietEnvironment ([90, 0, 90].map barePacket)) = .ok pair := hconclude
  have hstored := BoundedOperatorRecordingCoordinator.stored_of_record hrecord
  refine ⟨pair, hrecord, fun hplays => ?_⟩
  have hforward := ((playsBack_iff hstored PlaybackRate.normal.ratio).mp hplays).1
  have hpackets : deliveredPackets threePacketCoordinator.deliveryPacketGoal
      (quietEnvironment ([90, 0, 90].map barePacket)).datagrams = [90, 0, 90].map barePacket := rfl
  rw [hpackets, map_rtpTimestamp_barePacket (by decide)] at hforward
  exact absurd hforward (by decide)

end K5Vision.Media
