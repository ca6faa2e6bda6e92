import K5Vision.Media.PlaybackChain
import K5Vision.Media.PlaybackRead

/-!
# The frames of a playback window

The unwrapped ticks of a list of timestamps are the running sums of the forward
differences modulo `2 ^ 32`; `unwrappedTicks_of_wrapped` says that they do not
see where the 32-bit counter wrapped.

Each layer of the chain is then a function on lists: the timeline pairs every
packet with its elapsed time, the navigator drops the packets before the target,
the window filters, and the schedule numbers and maps.  Since elapsed times are
sorted, the navigator filters too, and the chain is one filter.
-/

namespace K5Vision.Media

open Library

/-! ## Unwrapped ticks -/

/-- The ticks reached at each timestamp, from the previous timestamp on. -/
def ticksFrom (previous ticks : ℕ) : List ℕ → List ℕ
  | [] => []
  | timestamp :: rest =>
      (ticks + rtpDelta previous timestamp) ::
        ticksFrom timestamp (ticks + rtpDelta previous timestamp) rest

def unwrappedTicks : List ℕ → List ℕ
  | [] => []
  | first :: rest => ticksFrom first 0 (first :: rest)

/-- No timestamp lies half the range or more ahead of the one before it, which is
how a timestamp that went back looks. -/
def Forward (timestamps : List ℕ) : Prop :=
  timestamps.IsChain fun previous timestamp => rtpDelta previous timestamp < rtpHalfRange

instance (timestamps : List ℕ) : Decidable (Forward timestamps) :=
  inferInstanceAs (Decidable (List.IsChain _ _))

@[simp] theorem rtpDelta_self (timestamp : ℕ) : rtpDelta timestamp timestamp = 0 := by
  simp [rtpDelta]

@[simp] theorem length_ticksFrom (previous ticks : ℕ) (timestamps : List ℕ) :
    (ticksFrom previous ticks timestamps).length = timestamps.length := by
  induction timestamps generalizing previous ticks with
  | nil => rfl
  | cons timestamp rest ih => rw [ticksFrom, List.length_cons, ih, List.length_cons]

theorem le_of_mem_ticksFrom {previous ticks : ℕ} {timestamps : List ℕ} :
    ∀ later ∈ ticksFrom previous ticks timestamps, ticks ≤ later := by
  induction timestamps generalizing previous ticks with
  | nil => simp [ticksFrom]
  | cons timestamp rest ih =>
      rw [ticksFrom, List.forall_mem_cons]
      exact ⟨Nat.le_add_right _ _, fun later hlater => (Nat.le_add_right _ _).trans (ih later hlater)⟩

theorem pairwise_ticksFrom (previous ticks : ℕ) (timestamps : List ℕ) :
    (ticksFrom previous ticks timestamps).Pairwise (· ≤ ·) := by
  induction timestamps generalizing previous ticks with
  | nil => exact List.Pairwise.nil
  | cons timestamp rest ih => exact List.pairwise_cons.mpr ⟨le_of_mem_ticksFrom, ih _ _⟩

theorem rtpDelta_wrapped {c u v : ℕ} (huv : u ≤ v) (hgap : v - u < rtpModulus) :
    rtpDelta ((c + u) % rtpModulus) ((c + v) % rtpModulus) = v - u := by
  have hcongr : (((c + v) % rtpModulus : ℕ) - ((c + u) % rtpModulus : ℕ) : ℤ) % rtpModulus =
      ((v - u : ℕ) : ℤ) % rtpModulus := by
    push_cast [huv]
    rw [← Int.sub_emod]
    congr 1
    ring
  rw [rtpDelta, hcongr, Int.emod_eq_of_lt (by positivity) (by exact_mod_cast hgap), Int.toNat_natCast]

theorem ticksFrom_of_wrapped {c u ticks : ℕ} {us : List ℕ}
    (hchain : (u :: us).IsChain fun a b => a ≤ b ∧ b - a < rtpModulus) :
    ticksFrom ((c + u) % rtpModulus) ticks (us.map fun v => (c + v) % rtpModulus) =
      us.map fun v => ticks + (v - u) := by
  induction us generalizing u ticks with
  | nil => rfl
  | cons v rest ih =>
      obtain ⟨⟨huv, hgap⟩, hrest⟩ := List.isChain_cons_cons.mp hchain
      rw [List.map_cons, ticksFrom, rtpDelta_wrapped huv hgap, ih hrest, List.map_cons]
      congr 1
      refine List.map_congr_left fun w hw => ?_
      have hvw : v ≤ w := by
        have hle : (v :: rest).IsChain (· ≤ ·) := hrest.imp fun _ _ h => h.1
        exact (List.pairwise_cons.mp hle.pairwise).1 w hw
      omega

/-- **Unwrapping undoes the wraparound.**  Timestamps that are the low 32 bits of
a counter that never goes back, nor ahead by the modulus, unwrap to the ticks of
the counter, wherever it passes the modulus. -/
theorem unwrappedTicks_of_wrapped {c u : ℕ} {us : List ℕ}
    (hchain : (u :: us).IsChain fun a b => a ≤ b ∧ b - a < rtpModulus) :
    unwrappedTicks ((u :: us).map fun v => (c + v) % rtpModulus) =
      (u :: us).map fun v => v - u := by
  rw [List.map_cons, unwrappedTicks, ticksFrom, rtpDelta_self, ticksFrom_of_wrapped hchain,
    List.map_cons, Nat.sub_self]
  simp

/-! ## The timeline -/

/-- What the timeline yields for packets, from the previous timestamp on. -/
def timedFrom (clockRateHz ordinal previous ticks : ℕ) : List Packet → List TimedPlaybackPacket
  | [] => []
  | p :: rest =>
      let next := ticks + rtpDelta previous (rtpTimestamp p)
      ⟨p, ordinal, rtpTimestamp p, next * 1000 / clockRateHz⟩ ::
        timedFrom clockRateHz (ordinal + 1) (rtpTimestamp p) next rest

def timed (clockRateHz : ℕ) : List Packet → List TimedPlaybackPacket
  | [] => []
  | p :: rest => timedFrom clockRateHz 0 (rtpTimestamp p) 0 (p :: rest)

def elapsedTimes (clockRateHz : ℕ) (ps : List Packet) : List ℕ :=
  (unwrappedTicks (ps.map rtpTimestamp)).map fun ticks => ticks * 1000 / clockRateHz

theorem map_timedFrom (clockRateHz ordinal previous ticks : ℕ) (ps : List Packet) :
    (timedFrom clockRateHz ordinal previous ticks ps).map (fun item => (item.packet, item.elapsedMs)) =
      ps.zip ((ticksFrom previous ticks (ps.map rtpTimestamp)).map (· * 1000 / clockRateHz)) := by
  induction ps generalizing ordinal previous ticks with
  | nil => rfl
  | cons p rest ih => simp only [timedFrom, List.map_cons, ticksFrom, List.zip_cons_cons, ih]

theorem map_timed (clockRateHz : ℕ) (ps : List Packet) :
    (timed clockRateHz ps).map (fun item => (item.packet, item.elapsedMs)) =
      ps.zip (elapsedTimes clockRateHz ps) := by
  cases ps with
  | nil => rfl
  | cons p rest => exact map_timedFrom clockRateHz 0 (rtpTimestamp p) 0 (p :: rest)

theorem elapsedTimes_pairwise (clockRateHz : ℕ) (ps : List Packet) :
    (elapsedTimes clockRateHz ps).Pairwise (· ≤ ·) := by
  refine List.pairwise_map.mpr ?_
  cases ps with
  | nil => exact List.Pairwise.nil
  | cons p rest =>
      refine (pairwise_ticksFrom _ _ _).imp fun hle => ?_
      exact Nat.div_le_div_right (Nat.mul_le_mul_right _ hle)

theorem length_elapsedTimes (clockRateHz : ℕ) (ps : List Packet) :
    (elapsedTimes clockRateHz ps).length = ps.length := by
  cases ps with
  | nil => rfl
  | cons p rest =>
      rw [elapsedTimes, List.map_cons, unwrappedTicks, List.length_map, length_ticksFrom,
        List.length_cons, List.length_map, List.length_cons]

theorem timed_pairwise (clockRateHz : ℕ) (ps : List Packet) :
    (timed clockRateHz ps).Pairwise fun a b => a.elapsedMs ≤ b.elapsedMs := by
  have hsnd : (timed clockRateHz ps).map (fun item => item.elapsedMs) =
      elapsedTimes clockRateHz ps := by
    have := congrArg (List.map Prod.snd) (map_timed clockRateHz ps)
    rwa [List.map_map, List.map_snd_zip (length_elapsedTimes clockRateHz ps).le] at this
  exact List.pairwise_map.mp (hsnd ▸ elapsedTimes_pairwise clockRateHz ps)

namespace BoundedPlaybackTimeline

/-- The loop from a packet on: without a timestamp that goes back every packet is
yielded with its elapsed time; with one, not all of them are. -/
theorem loop_body (timeline : BoundedPlaybackTimeline) {previous : ℕ} (hprevious : timeline.previousTimestamp = some previous)
    (ps : List Packet) :
    (Forward (previous :: ps.map rtpTimestamp) → (loop body timeline ps).1 =
        ⟨timedFrom timeline.playback.descriptor.clockRateHz timeline.packets previous
          timeline.elapsedTicks ps, none⟩) ∧
      (¬ Forward (previous :: ps.map rtpTimestamp) →
        (loop body timeline ps).1.error = some timestampRegression ∧
          (loop body timeline ps).1.items.length < ps.length) := by
  induction ps generalizing timeline previous with
  | nil => exact ⟨fun _ => rfl, fun h => absurd (.singleton previous) h⟩
  | cons p rest ih =>
      rw [List.map_cons, Forward, List.isChain_cons_cons]
      by_cases hdelta : rtpHalfRange ≤ rtpDelta previous (rtpTimestamp p)
      · have hturn : timeline.body p = .fail timestampRegression timeline := by
          unfold body
          rw [hprevious]
          exact if_pos hdelta
        rw [loop_cons_fail hturn]
        exact ⟨fun h => absurd h.1 (not_lt.mpr hdelta), fun _ => ⟨rfl, Nat.succ_pos _⟩⟩
      have hturn : ∃ next, timeline.body p = .emit ⟨p, timeline.packets, rtpTimestamp p,
          (timeline.elapsedTicks + rtpDelta previous (rtpTimestamp p)) * 1000 /
            timeline.playback.descriptor.clockRateHz⟩ next ∧
          next.previousTimestamp = some (rtpTimestamp p) ∧
          next.packets = timeline.packets + 1 ∧
          next.elapsedTicks = timeline.elapsedTicks + rtpDelta previous (rtpTimestamp p) ∧
          next.playback = timeline.playback := by
        unfold body
        rw [hprevious]
        simp only
        rw [if_neg hdelta]
        exact ⟨_, rfl, rfl, rfl, rfl, rfl⟩
      obtain ⟨next, hturn, hnext, hpackets, hticks, hplayback⟩ := hturn
      obtain ⟨hforward, hregress⟩ := ih next hnext
      rw [loop_cons_emit hturn]
      refine ⟨fun h => ?_, fun h => ?_⟩
      · rw [hforward h.2, hpackets, hticks, hplayback]
        rfl
      · obtain ⟨herror, hlength⟩ := hregress fun hrest => h ⟨not_le.mp hdelta, hrest⟩
        exact ⟨herror, Nat.succ_lt_succ hlength⟩

theorem loop_start (timeline : BoundedPlaybackTimeline) (hprevious : timeline.previousTimestamp = none) (hpackets : timeline.packets = 0)
    (hticks : timeline.elapsedTicks = 0) (ps : List Packet) :
    (Forward (ps.map rtpTimestamp) → (loop body timeline ps).1 =
        ⟨timed timeline.playback.descriptor.clockRateHz ps, none⟩) ∧
      (¬ Forward (ps.map rtpTimestamp) →
        (loop body timeline ps).1.error = some timestampRegression ∧
          (loop body timeline ps).1.items.length < ps.length) := by
  cases ps with
  | nil => exact ⟨fun _ => rfl, fun h => absurd .nil h⟩
  | cons p rest =>
      have hturn : timeline.body p = timeline.emitPacket p := by
        unfold body
        rw [hprevious]
      unfold emitPacket at hturn
      obtain ⟨hforward, hregress⟩ := loop_body { timeline with
        packets := timeline.packets + 1
        elapsedMs := timeline.elapsedTicks * 1000 / timeline.playback.descriptor.clockRateHz
        previousTimestamp := some (rtpTimestamp p) } rfl rest
      rw [loop_cons_emit hturn]
      refine ⟨fun h => ?_, fun h => ?_⟩
      · rw [hforward h]
        simp [timed, timedFrom, hpackets, hticks]
      · obtain ⟨herror, hlength⟩ := hregress h
        exact ⟨herror, Nat.succ_lt_succ hlength⟩

theorem iterPackets_of_playback (timeline : BoundedPlaybackTimeline) (hstate : timeline.state = .created)
    (hprevious : timeline.previousTimestamp = none) (hpackets : timeline.packets = 0)
    (hticks : timeline.elapsedTicks = 0) {ps : List Packet} {playback : BoundedRecordingPlayback}
    (hplayback : timeline.playback.iterPackets = (⟨ps, none⟩, playback)) :
    (Forward (ps.map rtpTimestamp) →
        timeline.iterPackets.1 = ⟨timed timeline.playback.descriptor.clockRateHz ps, none⟩ ∧
          timeline.iterPackets.2.descriptorVerified = playback.descriptorVerified) ∧
      (¬ Forward (ps.map rtpTimestamp) →
        timeline.iterPackets.1.error = some timestampRegression ∧
          timeline.iterPackets.1.items.length < ps.length) := by
  obtain ⟨hforward, hregress⟩ := loop_start { timeline with state := .reading }
    hprevious hpackets hticks ps
  unfold iterPackets
  rw [if_neg (not_not.mpr hstate), hplayback]
  generalize hloop : loop body { timeline with state := .reading } ps = result
    at hforward hregress
  obtain ⟨⟨items, error⟩, last⟩ := result
  refine ⟨fun h => ?_, fun h => ?_⟩
  · obtain ⟨rfl, rfl⟩ := Trace.mk.inj (hforward h)
    simp only [Trace.through_of_loop ⟨ps, none⟩ hloop, Option.map_none, and_self]
  obtain ⟨herror, hlength⟩ : error = some timestampRegression ∧ items.length < ps.length :=
    hregress h
  subst herror
  simp only [Trace.through_of_loop_error ⟨ps, none⟩ hloop]
  exact ⟨trivial, hlength⟩

end BoundedPlaybackTimeline

/-! ## The other layers -/

namespace BoundedPlaybackNavigator

theorem loop_body (navigator : BoundedPlaybackNavigator) (hstart : navigator.positionedAtMs = none) (items : List TimedPlaybackPacket) :
    (loop body navigator items).1 =
      ⟨items.dropWhile fun item => item.elapsedMs < navigator.targetMs, none⟩ := by
  refine loop_dropWhile
    (fun state => state.positionedAtMs = none ∧ state.targetMs = navigator.targetMs)
    (fun state => state.positionedAtMs.isSome = true) _ ?_ ?_ ?_ ⟨hstart, rfl⟩ items
  · intro state item hopened
    obtain ⟨position, hposition⟩ := Option.isSome_iff_exists.mp hopened
    unfold body
    rw [hposition]
    refine ⟨_, ?_, rfl⟩
    rfl
  · intro state item hclosed hitem
    unfold body
    rw [hclosed.1, hclosed.2]
    simp only
    rw [if_neg (by simpa using hitem)]
    exact ⟨_, rfl, rfl⟩
  · intro state item hclosed hitem
    unfold body
    rw [hclosed.1, hclosed.2]
    simp only
    rw [if_pos (by simpa using hitem)]
    refine ⟨_, ?_, rfl⟩
    exact ⟨rfl, rfl⟩

theorem iterPackets_of_timeline (navigator : BoundedPlaybackNavigator) (hstate : navigator.state = .created)
    (hstart : navigator.positionedAtMs = none) {items : List TimedPlaybackPacket}
    {error : Option PlaybackTimelineError} {timeline : BoundedPlaybackTimeline}
    (htimeline : navigator.timeline.iterPackets = (⟨items, error⟩, timeline)) :
    navigator.iterPackets.1 = ⟨items.dropWhile fun item => item.elapsedMs < navigator.targetMs,
        error.map timelineFailure⟩ ∧
      (error = none →
        navigator.iterPackets.2.descriptorVerified = timeline.descriptorVerified) := by
  have hitems := loop_body { navigator with state := .scanning } hstart items
  unfold iterPackets
  rw [if_neg (not_not.mpr hstate), htimeline]
  generalize hloop : loop body { navigator with state := .scanning } items = result at hitems
  obtain ⟨trace, last⟩ := result
  subst hitems
  simp only [Trace.through_of_loop ⟨items, error⟩ hloop]
  cases error with
  | none => exact ⟨rfl, fun _ => rfl⟩
  | some error => exact ⟨rfl, fun h => by simp at h⟩

end BoundedPlaybackNavigator

namespace BoundedPlaybackWindow

theorem loop_body (window : BoundedPlaybackWindow) (items : List TimedPlaybackPacket) :
    (loop body window items).1 =
      ⟨items.filter fun item => item.elapsedMs ≤ window.endMs, none⟩ := by
  refine loop_filter (fun state => state.endMs = window.endMs) _ ?_ ?_ rfl items
  · intro state item hend hitem
    unfold body
    rw [hend]
    simp only
    rw [if_neg (by simpa using hitem)]
    refine ⟨_, ?_, rfl⟩
    rfl
  · intro state item hend hitem
    unfold body
    rw [hend]
    simp only
    rw [if_pos (by simpa using hitem)]
    refine ⟨_, ?_, rfl⟩
    rfl

theorem iterPackets_of_navigator (window : BoundedPlaybackWindow) (hstate : window.state = .created)
    {items : List TimedPlaybackPacket} {error : Option PlaybackNavigationError}
    {navigator : BoundedPlaybackNavigator}
    (hnavigator : window.navigator.iterPackets = (⟨items, error⟩, navigator)) :
    window.iterPackets.1 = ⟨items.filter fun item => item.elapsedMs ≤ window.endMs,
        error.map navigationFailure⟩ ∧
      (error = none →
        window.iterPackets.2.descriptorVerified = navigator.descriptorVerified) := by
  have hitems := loop_body { window with state := .reading } items
  unfold iterPackets
  rw [if_neg (not_not.mpr hstate), hnavigator]
  generalize hloop : loop body { window with state := .reading } items = result at hitems
  obtain ⟨trace, last⟩ := result
  subst hitems
  simp only [Trace.through_of_loop ⟨items, error⟩ hloop]
  cases error with
  | none => exact ⟨rfl, fun _ => rfl⟩
  | some error => exact ⟨rfl, fun h => by simp at h⟩

end BoundedPlaybackWindow

/-- The frame scheduled for an item, `ordinal` packets after the first one at
`originMs`. -/
def scheduledFrame (rate : RateRatio) (originMs ordinal : ℕ) (item : TimedPlaybackPacket) :
    ScheduledPlaybackPacket :=
  ⟨item.packet, ordinal, item.elapsedMs,
    (item.elapsedMs - originMs) * rate.denominator / rate.numerator⟩

/-- The frames scheduled for the items of a window. -/
def scheduled (rate : RateRatio) (items : List TimedPlaybackPacket) :
    List ScheduledPlaybackPacket :=
  match items with
  | [] => []
  | first :: _ => items.mapIdx (scheduledFrame rate first.elapsedMs)

theorem length_scheduled (rate : RateRatio) (items : List TimedPlaybackPacket) :
    (scheduled rate items).length = items.length := by
  cases items with
  | nil => rfl
  | cons first rest => exact List.length_mapIdx

theorem map_mapIdx_scheduledFrame {β : Type*} (rate : RateRatio) (originMs : ℕ)
    (items : List TimedPlaybackPacket) (f : ScheduledPlaybackPacket → β) :
    (items.mapIdx (scheduledFrame rate originMs)).map f =
      items.mapIdx fun i item => f (scheduledFrame rate originMs i item) :=
  List.ext_getElem (by simp) (by simp)

theorem map_source_scheduled (rate : RateRatio) (items : List TimedPlaybackPacket) :
    (scheduled rate items).map (fun frame => (frame.packet, frame.sourceElapsedMs)) =
      items.map fun item => (item.packet, item.elapsedMs) := by
  cases items with
  | nil => rfl
  | cons first rest =>
      rw [scheduled, map_mapIdx_scheduledFrame]
      generalize first :: rest = items
      exact List.ext_getElem (by simp) (by simp [scheduledFrame])

theorem map_ordinal_scheduled (rate : RateRatio) (items : List TimedPlaybackPacket) :
    (scheduled rate items).map ScheduledPlaybackPacket.ordinal = List.range items.length := by
  cases items with
  | nil => rfl
  | cons first rest =>
      rw [scheduled, map_mapIdx_scheduledFrame]
      generalize first :: rest = items
      exact List.ext_getElem (by simp) (by simp [scheduledFrame])

theorem dueMs_of_mem_scheduled {rate : RateRatio} {items : List TimedPlaybackPacket}
    {frame first : ScheduledPlaybackPacket} (hframe : frame ∈ scheduled rate items)
    (hfirst : first ∈ (scheduled rate items).head?) :
    frame.dueMs = (frame.sourceElapsedMs - first.sourceElapsedMs) * rate.denominator /
      rate.numerator := by
  cases items with
  | nil => cases hframe
  | cons item rest =>
      obtain ⟨i, hi, rfl⟩ := List.mem_mapIdx.mp hframe
      have : first = scheduledFrame rate item.elapsedMs 0 item := by
        simpa [scheduled, eq_comm] using hfirst
      rw [this]
      rfl

theorem pairwise_dueMs_scheduled (rate : RateRatio) {items : List TimedPlaybackPacket}
    (hsorted : items.Pairwise fun a b => a.elapsedMs ≤ b.elapsedMs) :
    ((scheduled rate items).map ScheduledPlaybackPacket.dueMs).Pairwise (· ≤ ·) := by
  cases items with
  | nil => exact List.Pairwise.nil
  | cons first rest =>
      have hdue : (scheduled rate (first :: rest)).map ScheduledPlaybackPacket.dueMs =
          (first :: rest).map fun item => (item.elapsedMs - first.elapsedMs) * rate.denominator /
            rate.numerator := by
        rw [scheduled, map_mapIdx_scheduledFrame]
        generalize first :: rest = items
        exact List.ext_getElem (by simp) (by simp [scheduledFrame])
      rw [hdue, List.pairwise_map]
      refine hsorted.imp fun hle => Nat.div_le_div_right (Nat.mul_le_mul_right _ ?_)
      exact Nat.sub_le_sub_right hle _

namespace BoundedPlaybackSchedule

theorem loop_body_from {schedule : BoundedPlaybackSchedule} {originMs : ℕ}
    (horigin : schedule.originMs = some originMs) (items : List TimedPlaybackPacket) :
    (loop body schedule items).1 = ⟨items.mapIdx fun i item =>
      scheduledFrame schedule.rate originMs (schedule.packets + i) item, none⟩ := by
  induction items generalizing schedule with
  | nil => rfl
  | cons item rest ih =>
      have hturn : ∃ next, schedule.body item =
            .emit (scheduledFrame schedule.rate originMs schedule.packets item) next ∧
          next.originMs = some originMs ∧ next.rate = schedule.rate ∧
          next.packets = schedule.packets + 1 := by
        unfold body
        rw [horigin]
        exact ⟨_, rfl, rfl, rfl, rfl⟩
      obtain ⟨next, hturn, hnext, hrate, hpackets⟩ := hturn
      rw [loop_cons_emit hturn, ih hnext, List.mapIdx_cons, hrate, hpackets]
      simp only [Nat.add_zero, Nat.add_assoc, Nat.add_comm 1]

theorem loop_body (schedule : BoundedPlaybackSchedule) (horigin : schedule.originMs = none)
    (hpackets : schedule.packets = 0) (items : List TimedPlaybackPacket) :
    (loop body schedule items).1 = ⟨scheduled schedule.rate items, none⟩ := by
  cases items with
  | nil => rfl
  | cons item rest =>
      -- the first item sets the origin, and is emitted as any later one is
      have hfirst : schedule.body item =
          { schedule with originMs := some item.elapsedMs }.body item := by
        unfold body
        rw [horigin]
        rfl
      have hloop : loop body schedule (item :: rest) =
          loop body { schedule with originMs := some item.elapsedMs } (item :: rest) := by
        rw [loop, loop, hfirst]
      rw [hloop, loop_body_from rfl]
      simp only [scheduled, hpackets, Nat.zero_add]

theorem iterPackets_of_window (schedule : BoundedPlaybackSchedule)
    (hstate : schedule.state = .created) (horigin : schedule.originMs = none)
    (hpackets : schedule.packets = 0) {items : List TimedPlaybackPacket}
    {error : Option PlaybackWindowError} {window : BoundedPlaybackWindow}
    (hwindow : schedule.window.iterPackets = (⟨items, error⟩, window)) :
    schedule.iterPackets.1 = ⟨scheduled schedule.rate items, error.map windowFailure⟩ ∧
      (error = none →
        schedule.iterPackets.2.descriptorVerified = window.descriptorVerified) := by
  have hitems := loop_body { schedule with state := .scheduling } horigin hpackets
    items
  unfold iterPackets
  rw [if_neg (not_not.mpr hstate), hwindow]
  generalize hloop : loop body { schedule with state := .scheduling } items = result at hitems
  obtain ⟨trace, last⟩ := result
  subst hitems
  simp only [Trace.through_of_loop ⟨items, error⟩ hloop]
  cases error with
  | none => exact ⟨rfl, fun _ => rfl⟩
  | some error => exact ⟨rfl, fun h => by simp at h⟩

end BoundedPlaybackSchedule

/-! ## What the constructors return -/

def BoundedPlaybackTimeline.start (file : Option (List UInt8)) (d : RecordingStreamDescriptor)
    (limits : FramedLimits) : BoundedPlaybackTimeline :=
  ⟨.start file d limits, .created, 0, 0, 0, false, none, 0⟩

def BoundedPlaybackNavigator.start (file : Option (List UInt8)) (d : RecordingStreamDescriptor)
    (targetMs : ℕ) (limits : FramedLimits) : BoundedPlaybackNavigator :=
  ⟨.start file d limits, targetMs, .created, 0, 0, none, false⟩

def BoundedPlaybackWindow.start (file : Option (List UInt8)) (d : RecordingStreamDescriptor)
    (startMs endMs : ℕ) (limits : FramedLimits) : BoundedPlaybackWindow :=
  ⟨.start file d startMs limits, startMs, endMs, .created, 0, 0, none, none, false⟩

def BoundedPlaybackSchedule.start (file : Option (List UInt8)) (d : RecordingStreamDescriptor)
    (startMs endMs : ℕ) (rate : RateRatio) (limits : FramedLimits) : BoundedPlaybackSchedule :=
  ⟨.start file d startMs endMs limits, rate, .created, 0, 0, 0, false, none⟩

section Create

variable {file : Option (List UInt8)} {d : RecordingStreamDescriptor} {limits : FramedLimits}
  {startMs endMs : ℕ}

theorem BoundedPlaybackTimeline.create_eq (hcount : d.packetCount ≤ limits.maxPackets)
    (htotal : d.payloadBytes ≤ limits.maxPayloadBytes) :
    BoundedPlaybackTimeline.create file d limits = .ok (.start file d limits) := by
  have hplayback := BoundedRecordingPlayback.create_eq_ok_iff.mpr
    ⟨hcount, htotal, (rfl : _ = BoundedRecordingPlayback.start file d limits)⟩
  rw [create, if_neg (not_lt.mpr hcount), hplayback]
  rfl

theorem BoundedPlaybackSchedule.create_eq (rate : RateRatio) (hwindow : startMs ≤ endMs)
    (hend : endMs ≤ d.durationMs) (hcount : d.packetCount ≤ limits.maxPackets)
    (htotal : d.payloadBytes ≤ limits.maxPayloadBytes) :
    create file d startMs endMs rate limits = .ok (.start file d startMs endMs rate limits) := by
  unfold create BoundedPlaybackWindow.create BoundedPlaybackNavigator.create
  rw [if_neg (not_not.mpr ⟨hwindow, hend⟩), if_neg (not_lt.mpr hcount),
    if_neg (not_lt.mpr (hwindow.trans hend)), if_neg (not_lt.mpr hcount),
    BoundedPlaybackTimeline.create_eq hcount htotal]
  rfl

end Create

/-! ## The chain -/

namespace BoundedPlaybackSchedule

variable {d : RecordingStreamDescriptor} {limits : FramedLimits} {ps : List Packet}

/-- The items of the window, read from the timeline by two filters or by one. -/
theorem filter_dropWhile_timed (clockRateHz startMs endMs : ℕ) (ps : List Packet) :
    ((timed clockRateHz ps).dropWhile fun item => item.elapsedMs < startMs).filter
        (fun item => item.elapsedMs ≤ endMs) =
      (timed clockRateHz ps).filter fun item => startMs ≤ item.elapsedMs ∧ item.elapsedMs ≤ endMs := by
  rw [dropWhile_eq_filter_of_pairwise _ _ (timed_pairwise clockRateHz ps), List.filter_filter]
  exact List.filter_congr fun item _ => by
    rw [Bool.decide_and, Bool.and_comm]

/-- Playing a recording: with forward timestamps the chain yields the filtered
timeline and verifies the descriptor; otherwise it ends in an error, with packets
missing. -/
theorem iterPackets_start (startMs endMs : ℕ) (rate : RateRatio) (hmatches : Matches d ps) (hcounts : Counts d ps)
    (hfits : Fits limits 0 0 ps) :
    (Forward (ps.map rtpTimestamp) →
      (start (some (recordingFile ps)) d startMs endMs rate limits).iterPackets.1 =
          ⟨scheduled rate ((timed d.clockRateHz ps).filter fun item =>
            startMs ≤ item.elapsedMs ∧ item.elapsedMs ≤ endMs), none⟩ ∧
        (start (some (recordingFile ps)) d startMs endMs rate limits).iterPackets.2.descriptorVerified =
          true) ∧
      (¬ Forward (ps.map rtpTimestamp) →
        (start (some (recordingFile ps)) d startMs endMs rate limits).iterPackets.1.error =
            some ⟨.windowFailure, "playback schedule failed", some .navigationFailure⟩ ∧
          (start (some (recordingFile ps)) d startMs endMs rate limits).iterPackets.1.items.length <
            ps.length) := by
  obtain ⟨playback, hplayback, hverified⟩ :=
    (BoundedRecordingPlayback.iterPackets_recordingFile hmatches hfits
      hcounts.packetCount_eq.ge hcounts.payloadBytes_eq.ge).1 hcounts
  obtain ⟨hforward, hregress⟩ := BoundedPlaybackTimeline.iterPackets_of_playback
    (.start (some (recordingFile ps)) d limits) rfl rfl rfl rfl hplayback
  generalize htimeline :
    (BoundedPlaybackTimeline.start (some (recordingFile ps)) d limits).iterPackets = timeline
    at hforward hregress
  obtain ⟨⟨timelineItems, timelineError⟩, timeline⟩ := timeline
  obtain ⟨hnavitems, hnavverified⟩ := BoundedPlaybackNavigator.iterPackets_of_timeline
    (.start (some (recordingFile ps)) d startMs limits) rfl rfl htimeline
  generalize hnavigator :
    (BoundedPlaybackNavigator.start (some (recordingFile ps)) d startMs limits).iterPackets =
      navigator at hnavitems hnavverified
  obtain ⟨navigatorTrace, navigator⟩ := navigator
  obtain rfl := hnavitems
  obtain ⟨hwinitems, hwinverified⟩ := BoundedPlaybackWindow.iterPackets_of_navigator
    (.start (some (recordingFile ps)) d startMs endMs limits) rfl hnavigator
  generalize hwindow :
    (BoundedPlaybackWindow.start (some (recordingFile ps)) d startMs endMs limits).iterPackets =
      window at hwinitems hwinverified
  obtain ⟨windowTrace, window⟩ := window
  obtain rfl := hwinitems
  obtain ⟨hitems, hschedverified⟩ := iterPackets_of_window
    (start (some (recordingFile ps)) d startMs endMs rate limits) rfl rfl rfl hwindow
  rw [hitems]
  refine ⟨fun h => ?_, fun h => ?_⟩
  · obtain ⟨htrace, hlast⟩ := hforward h
    obtain ⟨rfl, rfl⟩ := Trace.mk.inj htrace
    refine ⟨?_, ?_⟩
    · exact congrArg (fun items => Trace.mk (scheduled rate items) none)
        (filter_dropWhile_timed d.clockRateHz startMs endMs ps)
    · rw [hschedverified rfl, hwinverified rfl, hnavverified rfl, hlast, hverified]
  obtain ⟨herror, hlength⟩ : timelineError = some BoundedPlaybackTimeline.timestampRegression ∧
      timelineItems.length < ps.length := hregress h
  subst herror
  refine ⟨rfl, ?_⟩
  rw [length_scheduled]
  calc _ ≤ (timelineItems.dropWhile _).length := List.length_filter_le _ _
    _ ≤ timelineItems.length := (List.dropWhile_sublist _).length_le
    _ < ps.length := hlength

end BoundedPlaybackSchedule

/-- What a list of frames has to be: the packets of the window with their elapsed
times, numbered from zero, and due at their distance from the first. -/
structure FramesOfWindow (d : RecordingStreamDescriptor) (ps : List Packet) (startMs endMs : ℕ)
    (rate : RateRatio) (frames : List ScheduledPlaybackPacket) : Prop where
  source : frames.map (fun frame => (frame.packet, frame.sourceElapsedMs)) =
    (ps.zip (elapsedTimes d.clockRateHz ps)).filter fun x => startMs ≤ x.2 ∧ x.2 ≤ endMs
  ordinals : frames.map ScheduledPlaybackPacket.ordinal = List.range frames.length
  due : ∀ first ∈ frames.head?, ∀ frame ∈ frames, frame.dueMs =
    (frame.sourceElapsedMs - first.sourceElapsedMs) * rate.denominator / rate.numerator
  due_mono : (frames.map ScheduledPlaybackPacket.dueMs).Pairwise (· ≤ ·)

theorem framesOfWindow_scheduled (d : RecordingStreamDescriptor) (ps : List Packet)
    (startMs endMs : ℕ) (rate : RateRatio) :
    FramesOfWindow d ps startMs endMs rate (scheduled rate ((timed d.clockRateHz ps).filter
      fun item => startMs ≤ item.elapsedMs ∧ item.elapsedMs ≤ endMs)) := by
  refine ⟨?_, ?_, fun first hfirst frame hframe => dueMs_of_mem_scheduled hframe hfirst, ?_⟩
  · rw [map_source_scheduled, ← map_timed, List.filter_map]
    rfl
  · rw [map_ordinal_scheduled, length_scheduled]
  · exact pairwise_dueMs_scheduled rate ((timed_pairwise d.clockRateHz ps).filter _)

/-- **The schedule is one filter.**  Playing any window of any recording whose
timestamps do not go back, at any rate, ends without an error and yields the
packets of the window.  The elapsed times are those of the unwrapped counter,
wherever the timestamps wrapped. -/
theorem playback_frames (d : RecordingStreamDescriptor) (limits : FramedLimits)
    (ps : List Packet) (startMs endMs : ℕ) (rate : RateRatio)
    (hmatches : Matches d ps) (hcounts : Counts d ps) (hfits : Fits limits 0 0 ps)
    (hwindow : startMs ≤ endMs) (hend : endMs ≤ d.durationMs)
    (hforward : Forward (ps.map rtpTimestamp)) :
    (∃ schedule frames final,
      BoundedPlaybackSchedule.create (some (recordingFile ps)) d startMs endMs rate limits =
          .ok schedule ∧
        schedule.iterPackets = (⟨frames, none⟩, final) ∧ final.descriptorVerified = true ∧
        FramesOfWindow d ps startMs endMs rate frames) ∧
      ∀ c u us, (u :: us).IsChain (fun a b => a ≤ b ∧ b - a < rtpHalfRange) →
        ps.map rtpTimestamp = (u :: us).map (fun v => (c + v) % rtpModulus) →
          elapsedTimes d.clockRateHz ps = (u :: us).map fun v => (v - u) * 1000 / d.clockRateHz := by
  refine ⟨?_, fun c u us hchain hwrapped => ?_⟩
  · obtain ⟨hitems, hverified⟩ := (BoundedPlaybackSchedule.iterPackets_start startMs endMs
      rate hmatches hcounts hfits).1 hforward
    have hcount := hfits.count
    have htotal := hfits.total
    refine ⟨_, _, _, BoundedPlaybackSchedule.create_eq rate hwindow hend ?_ ?_,
      Prod.ext hitems rfl, hverified, framesOfWindow_scheduled d ps startMs endMs rate⟩
    · rwa [hcounts.packetCount_eq, ← Nat.zero_add ps.length]
    · rwa [hcounts.payloadBytes_eq, ← Nat.zero_add (payloadTotal ps)]
  · have hhalf : rtpHalfRange ≤ rtpModulus := by decide
    rw [elapsedTimes, hwrapped, unwrappedTicks_of_wrapped, List.map_map]
    · rfl
    · exact hchain.imp fun a b h => ⟨h.1, h.2.trans_le hhalf⟩

/-- Three packets, of which the second wraps, and a window of the last two. -/
theorem playback_frames_wrapping :
    let ps := [4294966296, 1000, 9000].map barePacket
    let d := bareDescriptor [4294966296, 1000, 9000] 111
    ∃ schedule frames final,
      BoundedPlaybackSchedule.create (some (recordingFile ps)) d 10 111 PlaybackRate.double.ratio
          .default = .ok schedule ∧
        schedule.iterPackets = (⟨frames, none⟩, final) ∧
        frames.map (fun frame => (frame.packet, frame.sourceElapsedMs)) =
          [(barePacket 1000, 22), (barePacket 9000, 111)] := by
  have hlt : ∀ t ∈ [4294966296, 1000, 9000], t < 2 ^ 32 := by decide
  have hforward : Forward (([4294966296, 1000, 9000].map barePacket).map rtpTimestamp) := by
    rw [map_rtpTimestamp_barePacket hlt]
    decide
  obtain ⟨⟨schedule, frames, final, hcreate, hrun, -, hframes⟩, -⟩ :=
    playback_frames (bareDescriptor [4294966296, 1000, 9000] 111) .default
      ([4294966296, 1000, 9000].map barePacket) 10 111 PlaybackRate.double.ratio
      (matches_bareDescriptor hlt 111) (counts_bareDescriptor _ 111)
      (fits_barePackets _ (by decide)) (by decide) (by decide) hforward
  refine ⟨schedule, frames, final, hcreate, hrun, ?_⟩
  rw [hframes.source, elapsedTimes, map_rtpTimestamp_barePacket hlt]
  decide

/-- A late packet ends the playback, although it lies in the window by its
unwrapped time and by the distance it went back. -/
theorem frames_missing_behind_regression :
    ¬ ∀ (d : RecordingStreamDescriptor) (limits : FramedLimits) (ps : List Packet)
        (startMs endMs : ℕ) (rate : RateRatio) (schedule : BoundedPlaybackSchedule),
      Matches d ps → Counts d ps → Fits limits 0 0 ps →
      BoundedPlaybackSchedule.create (some (recordingFile ps)) d startMs endMs rate limits =
        .ok schedule →
      FramesOfWindow d ps startMs endMs rate schedule.iterPackets.1.items := by
  intro hclaim
  have hlt : ∀ t ∈ [0, 9000, 8999], t < 2 ^ 32 := by decide
  have hmatches := matches_bareDescriptor hlt 60000000
  have hcounts := counts_bareDescriptor [0, 9000, 8999] 60000000
  have hfits : Fits .default 0 0 ([0, 9000, 8999].map barePacket) := fits_barePackets _ (by decide)
  have hframes := hclaim _ .default _ 0 60000000 PlaybackRate.normal.ratio _ hmatches hcounts hfits
    (BoundedPlaybackSchedule.create_eq _ (by decide) (by decide) (by decide) (by decide))
  have hmissing := ((BoundedPlaybackSchedule.iterPackets_start 0 60000000
    PlaybackRate.normal.ratio hmatches hcounts hfits).2 (by
      rw [map_rtpTimestamp_barePacket hlt]
      decide)).2
  have hsource := congrArg List.length hframes.source
  rw [List.length_map] at hsource
  rw [hsource, elapsedTimes, map_rtpTimestamp_barePacket hlt] at hmissing
  exact absurd hmissing (by decide)

end K5Vision.Media
