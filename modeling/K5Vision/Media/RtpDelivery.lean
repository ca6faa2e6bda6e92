import K5Vision.Library.WaitLoop
import K5Vision.Media.RecordingDescriptor
import K5Vision.Media.Rtp
import Mathlib.Algebra.Order.BigOperators.Group.List

/-!
# Delivery of RTP packets to a consumer

`EphemeralRtpDelivery.deliver` of `media/rtp_delivery.py`, which reads datagrams from a socket, and
`GStreamerDirectRtpDelivery.deliver` of `media/gstreamer_rtp_pull.py`, which pulls packets from a
reader in the process.  Both run `deliverTurn` in a loop that waits for its inputs (`waitLoop`), and
differ in how a packet is received.

A run is what the code meets: the readings of the clock, what the socket or the reader brings, and
how the consumer takes it.  The counts of a delivery are those of the packets that were processed
(`uses_of_arrival`); whether there is a result of them is decided by the bounds of
`RtpDeliveryResult`, of which the one on the invalid packets is not one of the loop (`FitsResult`).
-/

namespace K5Vision.Media.RtpDelivery

open Library

inductive RtpDeliveryErrorCode
  | timeout
  | runtimeFailure
  | consumerFailure
  deriving DecidableEq, Repr

structure RtpDeliveryError where
  code : RtpDeliveryErrorCode
  message : String
  deriving DecidableEq, Repr

/-- What `deliver` raises. -/
inductive DeliveryRaised
  | delivery (error : RtpDeliveryError)
  | validation
  | cancelled
  /-- What the socket or a cleanup raises goes through. -/
  | foreign
  deriving DecidableEq, Repr

def deliveryTimedOut : DeliveryRaised := .delivery ⟨.timeout, "RTP delivery timed out"⟩

def consumerFailed : DeliveryRaised := .delivery ⟨.consumerFailure, "RTP consumer failed"⟩

/-- The counters of a delivery. -/
structure DeliveryCounts where
  validPackets : ℕ
  invalidPackets : ℕ
  deliveredBytes : ℕ
  deriving DecidableEq, Repr

def maxResultPackets : ℕ := 4096

def maxElapsedMs : ℤ := 600000

structure RtpDeliveryResult where
  counts : DeliveryCounts
  elapsedMs : ℤ
  valid_mem : 1 ≤ counts.validPackets ∧ counts.validPackets ≤ maxResultPackets
  invalid_le : counts.invalidPackets ≤ maxResultPackets
  delivered_pos : 1 ≤ counts.deliveredBytes
  elapsed_mem : 0 ≤ elapsedMs ∧ elapsedMs ≤ maxElapsedMs

/-- The check of the model `RtpDeliveryResult`. -/
def RtpDeliveryResult.validate (counts : DeliveryCounts) (elapsedMs : ℤ) :
    Except DeliveryRaised RtpDeliveryResult :=
  if h : (1 ≤ counts.validPackets ∧ counts.validPackets ≤ maxResultPackets) ∧
      counts.invalidPackets ≤ maxResultPackets ∧ 1 ≤ counts.deliveredBytes ∧
      0 ≤ elapsedMs ∧ elapsedMs ≤ maxElapsedMs then
    .ok ⟨counts, elapsedMs, h.1, h.2.1, h.2.2.1, h.2.2.2⟩
  else .error .validation

/-! ## A turn of the loop -/

inductive Received
  | packet (packet : Packet)
  | nothing
  | failed (raised : DeliveryRaised)

inductive Consumed
  | accepted
  | raised
  | timedOut
  | cancelled
  deriving DecidableEq, Repr

def deliverTurn (counts : DeliveryCounts) (received : Received) (consumed : Consumed) :
    Except DeliveryRaised DeliveryCounts :=
  match received with
  | .failed raised => .error raised
  | .nothing => .ok counts
  | .packet packet =>
      if !isRtpV2 packet then .ok { counts with invalidPackets := counts.invalidPackets + 1 }
      else
        match consumed with
        | .cancelled => .error .cancelled
        | .raised | .timedOut => .error consumerFailed
        | .accepted =>
            .ok { counts with
              validPackets := counts.validPackets + 1
              deliveredBytes := counts.deliveredBytes + packet.length }

inductive StartOutcome
  | started
  | raised
  | cancelled
  deriving DecidableEq, Repr

/-- What a delivery meets, in rounds `ρ`. -/
structure DeliveryRun (ρ : Type) where
  started : ℚ
  start : StartOutcome
  rounds : List ρ
  finished : ℚ
  closed : Bool

/-- The `while` loop and the result behind it, inside the `try` with the cleanup; `none` is a
delivery that is still waiting. -/
def deliverLoop {ρ : Type} (goal : ℕ) (receive : ρ → Received) (consumed : ρ → Consumed)
    (run : DeliveryRun ρ) : Option (Except DeliveryRaised RtpDeliveryResult) :=
  let pumped := waitLoop (fun counts => !decide (counts.validPackets < goal))
    (fun counts round => deliverTurn counts (receive round) (consumed round)) ⟨0, 0, 0⟩ run.rounds
  pumped.map fun
    | .error raised => .error raised
    | .ok counts => RtpDeliveryResult.validate counts
        (max 0 (truncate ((run.finished - run.started) * 1000)))

/-- What the cleanup in `finally` raises comes in the place of the outcome. -/
def cleanUp (closed : Bool) (outcome : Except DeliveryRaised RtpDeliveryResult) :
    Except DeliveryRaised RtpDeliveryResult :=
  if closed then outcome else .error .foreign

/-! ## From a socket -/

/-- `EphemeralRtpDelivery`, within the bounds of its constructor. -/
structure EphemeralRtpDelivery where
  packetGoal : ℕ
  deliveryTimeoutSeconds : ℚ
  maxDatagramBytes : ℕ
  goal_mem : 1 ≤ packetGoal ∧ packetGoal ≤ 4096
  timeout_mem : 0 < deliveryTimeoutSeconds ∧ deliveryTimeoutSeconds ≤ 60
  datagram_mem : 512 ≤ maxDatagramBytes ∧ maxDatagramBytes ≤ 65535

/-- What `sock_recvfrom` does within what is left of the time.  A datagram comes with its source,
which is not looked at. -/
inductive SocketOutcome
  | datagram (payload : Packet) (source : String × ℕ)
  | timeout
  | raised
  | cancelled

structure SocketRound where
  clock : ℚ
  socket : SocketOutcome
  consumed : Consumed

namespace EphemeralRtpDelivery

/-- The rest of a datagram that is too large is dropped. -/
def receive (delivery : EphemeralRtpDelivery) (started : ℚ) (round : SocketRound) : Received :=
  let remaining := started + delivery.deliveryTimeoutSeconds - round.clock
  if remaining ≤ 0 then .failed deliveryTimedOut
  else
    match round.socket with
    | .datagram payload _ => .packet (payload.take delivery.maxDatagramBytes)
    | .timeout => .failed deliveryTimedOut
    | .raised => .failed .foreign
    | .cancelled => .failed .cancelled

def deliver (delivery : EphemeralRtpDelivery) (run : DeliveryRun SocketRound) :
    Option (Except DeliveryRaised RtpDeliveryResult) :=
  let outcome : Option (Except DeliveryRaised RtpDeliveryResult) :=
    match run.start with
    | .cancelled => some (.error .cancelled)
    | .raised => some (.error (.delivery ⟨.runtimeFailure, "RTP relay failed to start"⟩))
    | .started =>
        deliverLoop delivery.packetGoal (delivery.receive run.started) SocketRound.consumed run
  outcome.map (cleanUp run.closed)

end EphemeralRtpDelivery

/-! ## From a reader in the process -/

/-- `GStreamerDirectRtpDelivery`, within the bounds of its constructor. -/
structure GStreamerDirectRtpDelivery where
  packetGoal : ℕ
  deliveryTimeoutSeconds : ℚ
  maxPacketBytes : ℕ
  pullPollMs : ℕ
  goal_mem : 1 ≤ packetGoal ∧ packetGoal ≤ 4096
  timeout_mem : 0 < deliveryTimeoutSeconds ∧ deliveryTimeoutSeconds ≤ 60
  packet_mem : 512 ≤ maxPacketBytes ∧ maxPacketBytes ≤ 65535
  poll_mem : 1 ≤ pullPollMs ∧ pullPollMs ≤ 5000

/-- What `pull` of the reader does. -/
inductive PullOutcome
  | packet (packet : Packet)
  | nothing
  | raised
  | cancelled
  deriving DecidableEq, Repr

structure PullRound where
  clock : ℚ
  /-- The reader is asked with a timeout in milliseconds. -/
  pull : ℤ → PullOutcome
  consumed : Consumed

namespace GStreamerDirectRtpDelivery

def timeoutMs (delivery : GStreamerDirectRtpDelivery) (remaining : ℚ) : ℤ :=
  max 1 (min delivery.pullPollMs (truncate (remaining * 1000)))

def receive (delivery : GStreamerDirectRtpDelivery) (started : ℚ) (round : PullRound) : Received :=
  let remaining := started + delivery.deliveryTimeoutSeconds - round.clock
  if remaining ≤ 0 then .failed deliveryTimedOut
  else
    match round.pull (delivery.timeoutMs remaining) with
    | .packet packet => .packet packet
    | .nothing => .nothing
    | .raised => .failed (.delivery ⟨.runtimeFailure, "direct RTP reader failed"⟩)
    | .cancelled => .failed .cancelled

/-- A reader that does not start is not closed. -/
def deliver (delivery : GStreamerDirectRtpDelivery) (run : DeliveryRun PullRound) :
    Option (Except DeliveryRaised RtpDeliveryResult) :=
  match run.start with
  | .cancelled => some (.error .cancelled)
  | .raised => some (.error (.delivery ⟨.runtimeFailure, "direct RTP reader failed to start"⟩))
  | .started =>
      (deliverLoop delivery.packetGoal (delivery.receive run.started) PullRound.consumed run).map
        (cleanUp run.closed)

end GStreamerDirectRtpDelivery

/-! ## Counts -/

structure DeliveryCounts.Of (counts : DeliveryCounts) (packets : List Packet) : Prop where
  valid : counts.validPackets = packets.countP isRtpV2
  invalid : counts.invalidPackets = packets.countP fun packet => !isRtpV2 packet
  bytes : counts.deliveredBytes = ((packets.filter isRtpV2).map List.length).sum

namespace DeliveryCounts

variable {counts : DeliveryCounts} {packets : List Packet} {packet : Packet}

theorem of_nil : Of ⟨0, 0, 0⟩ [] := ⟨rfl, rfl, rfl⟩

theorem Of.invalid_snoc (h : counts.Of packets) (hpacket : isRtpV2 packet = false) :
    Of { counts with invalidPackets := counts.invalidPackets + 1 } (packets ++ [packet]) where
  valid := by simp [h.valid, hpacket]
  invalid := by simp [h.invalid, hpacket]
  bytes := by simp [h.bytes, hpacket]

theorem Of.valid_snoc (h : counts.Of packets) (hpacket : isRtpV2 packet = true) : Of { counts with
      validPackets := counts.validPackets + 1
      deliveredBytes := counts.deliveredBytes + packet.length } (packets ++ [packet]) where
  valid := by simp [h.valid, hpacket]
  invalid := by simp [h.invalid, hpacket]
  bytes := by simp [h.bytes, hpacket]

theorem Of.bytes_pos (h : counts.Of packets) (hvalid : 1 ≤ counts.validPackets) :
    1 ≤ counts.deliveredBytes := by
  rw [h.valid] at hvalid
  obtain ⟨packet, hmem, hpacket⟩ := List.countP_pos_iff.1 hvalid
  have hlength := twelve_le_length_of_isRtpV2 hpacket
  have hle : packet.length ≤ ((packets.filter isRtpV2).map List.length).sum :=
    List.le_sum_of_mem (List.mem_map_of_mem (List.mem_filter.2 ⟨hmem, hpacket⟩))
  rw [h.bytes]
  omega

end DeliveryCounts

/-! ## A goal that is reached -/

section Arrival

variable {ρ : Type} {goal : ℕ} {packet : ρ → Option Packet} {receive : ρ → Received}
  {consumed : ρ → Consumed} {processed : List ρ}

/-- A round before the deadline; its packet is accepted, where it is a valid one. -/
structure Brings (packet : ρ → Option Packet) (receive : ρ → Received) (consumed : ρ → Consumed)
    (round : ρ) : Prop where
  received : receive round = (packet round).elim .nothing .packet
  accepted : ∀ p, packet round = some p → isRtpV2 p = true → consumed round = .accepted

/-- The last of the rounds brings the last of so many valid packets. -/
structure Completes (goal : ℕ) (packet : ρ → Option Packet) (processed : List ρ) : Prop where
  reached : (processed.filterMap packet).countP isRtpV2 = goal
  last : ∀ before after, processed = before ++ after → after ≠ [] →
    (before.filterMap packet).countP isRtpV2 < goal

theorem deliverTurn_of_brings {round : ρ} (h : Brings packet receive consumed round)
    {counts : DeliveryCounts} {past : List Packet} (hcounts : counts.Of past) :
    ∃ next : DeliveryCounts, next.Of (past ++ (packet round).toList) ∧
      deliverTurn counts (receive round) (consumed round) = .ok next := by
  have haccepted := h.accepted
  rw [h.received]
  cases hpacket : packet round with
  | none =>
      refine ⟨counts, ?_, rfl⟩
      rwa [Option.toList_none, List.append_nil]
  | some p =>
      cases hvalid : isRtpV2 p with
      | false =>
          refine ⟨_, hcounts.invalid_snoc hvalid, ?_⟩
          change (if !isRtpV2 p then _ else _) = _
          rw [if_pos (by rw [hvalid]; rfl)]
      | true =>
          refine ⟨_, hcounts.valid_snoc hvalid, ?_⟩
          rw [haccepted p hpacket hvalid]
          change (if !isRtpV2 p then _ else _) = _
          rw [if_neg (by rw [hvalid]; nofun)]

theorem uses_of_arrival (hbrings : ∀ round ∈ processed, Brings packet receive consumed round)
    (hcompletes : Completes goal packet processed) :
    ∃ counts : DeliveryCounts, counts.Of (processed.filterMap packet) ∧
      Uses (fun counts : DeliveryCounts => !decide (counts.validPackets < goal))
        (fun counts round => deliverTurn counts (receive round) (consumed round)) ⟨0, 0, 0⟩
        processed counts := by
  -- Along the rounds that are left, behind those that have been processed.
  have hfrom : ∀ (rest past : List ρ) (counts : DeliveryCounts), processed = past ++ rest →
      counts.Of (past.filterMap packet) → ∃ final : DeliveryCounts,
        final.Of (processed.filterMap packet) ∧
        Uses (fun counts : DeliveryCounts => !decide (counts.validPackets < goal))
          (fun counts round => deliverTurn counts (receive round) (consumed round)) counts rest
          final := by
    intro rest
    induction rest with
    | nil =>
        intro past counts hprocessed hcounts
        rw [List.append_nil] at hprocessed
        rw [← hprocessed] at hcounts
        refine ⟨counts, hcounts, .stop ?_⟩
        rw [hcounts.valid, hcompletes.reached]
        simp
    | cons round rest ih =>
        intro past counts hprocessed hcounts
        have hopen : counts.validPackets < goal := by
          rw [hcounts.valid]
          exact hcompletes.last past (round :: rest) hprocessed (List.cons_ne_nil round rest)
        have hmem : round ∈ processed := by
          rw [hprocessed]
          exact List.mem_append_right past List.mem_cons_self
        obtain ⟨next, hnext, hturn⟩ := deliverTurn_of_brings (hbrings round hmem) hcounts
        have hpast : (past ++ [round]).filterMap packet =
            past.filterMap packet ++ (packet round).toList := by
          rw [List.filterMap_append]
          cases hpacket : packet round <;> simp [hpacket]
        rw [← hpast] at hnext
        obtain ⟨final, hfinal, huses⟩ := ih (past ++ [round]) next
          (by rw [hprocessed, List.append_assoc, List.singleton_append]) hnext
        exact ⟨final, hfinal, .turn (by simp [hopen]) hturn huses⟩
  exact hfrom processed [] ⟨0, 0, 0⟩ rfl DeliveryCounts.of_nil

end Arrival

/-! ## Results -/

/-- A result of these packets is within its bounds, and nothing fails behind the loop. -/
structure FitsResult {ρ : Type} (run : DeliveryRun ρ) (packets : List Packet) : Prop where
  invalid : packets.countP (fun packet => !isRtpV2 packet) ≤ maxResultPackets
  elapsed : (run.finished - run.started) * 1000 < maxElapsedMs + 1
  closed : run.closed = true

theorem truncate_le_iff {value : ℚ} {bound : ℤ} (hbound : 0 ≤ bound) :
    max 0 (truncate value) ≤ bound ↔ value < bound + 1 := by
  rw [max_le_iff, and_iff_right hbound]
  unfold truncate
  by_cases hnonneg : 0 ≤ value
  · rw [if_pos hnonneg, ← Int.lt_add_one_iff, Int.floor_lt]
    push_cast
    rfl
  rw [if_neg hnonneg, Int.ceil_le]
  have hcast : (0 : ℚ) ≤ bound := by exact_mod_cast hbound
  constructor
  · intro _
    linarith
  · intro _
    linarith

theorem validate_ok_iff {counts : DeliveryCounts} {elapsedMs : ℤ} :
    (∃ result, RtpDeliveryResult.validate counts elapsedMs = .ok result) ↔
      (1 ≤ counts.validPackets ∧ counts.validPackets ≤ maxResultPackets) ∧
        counts.invalidPackets ≤ maxResultPackets ∧ 1 ≤ counts.deliveredBytes ∧
        0 ≤ elapsedMs ∧ elapsedMs ≤ maxElapsedMs := by
  unfold RtpDeliveryResult.validate
  split
  next h => exact ⟨fun _ => h, fun _ => ⟨_, rfl⟩⟩
  next h => exact ⟨nofun, fun hbounds => absurd hbounds h⟩

theorem validate_counts {counts : DeliveryCounts} {elapsedMs : ℤ} {result : RtpDeliveryResult}
    (h : RtpDeliveryResult.validate counts elapsedMs = .ok result) : result.counts = counts := by
  unfold RtpDeliveryResult.validate at h
  split at h
  · cases h
    rfl
  · cases h

section Delivery

variable {ρ : Type} {goal : ℕ} {packet : ρ → Option Packet} {receive : ρ → Received}
  {consumed : ρ → Consumed} {processed rest : List ρ} {run : DeliveryRun ρ}

theorem deliverLoop_of_arrival (hrounds : run.rounds = processed ++ rest)
    (hbrings : ∀ round ∈ processed, Brings packet receive consumed round)
    (hcompletes : Completes goal packet processed) :
    ∃ counts : DeliveryCounts, counts.Of (processed.filterMap packet) ∧
      deliverLoop goal receive consumed run = some (RtpDeliveryResult.validate counts
        (max 0 (truncate ((run.finished - run.started) * 1000)))) := by
  obtain ⟨counts, hcounts, huses⟩ := uses_of_arrival hbrings hcompletes
  refine ⟨counts, hcounts, ?_⟩
  unfold deliverLoop
  rw [hrounds, huses.waitLoop_append rest]
  rfl

theorem deliverLoop_ok_iff (hgoal : 1 ≤ goal ∧ goal ≤ maxResultPackets)
    (hrounds : run.rounds = processed ++ rest)
    (hbrings : ∀ round ∈ processed, Brings packet receive consumed round)
    (hcompletes : Completes goal packet processed) :
    (∃ result, (deliverLoop goal receive consumed run).map (cleanUp run.closed) =
        some (.ok result) ∧ result.counts.Of (processed.filterMap packet)) ↔
      FitsResult run (processed.filterMap packet) := by
  obtain ⟨counts, hcounts, hloop⟩ := deliverLoop_of_arrival hrounds hbrings hcompletes
  have hvalid : counts.validPackets = goal := hcounts.valid.trans hcompletes.reached
  have hbytes := hcounts.bytes_pos (by omega)
  rw [hloop, Option.map_some]
  constructor
  · rintro ⟨result, hresult, -⟩
    have hclosed : run.closed = true := by
      by_contra hclosed
      rw [cleanUp, if_neg hclosed] at hresult
      cases hresult
    rw [cleanUp, if_pos hclosed, Option.some_inj] at hresult
    obtain ⟨-, hinvalid, -, -, helapsed⟩ := validate_ok_iff.1 ⟨result, hresult⟩
    rw [hcounts.invalid] at hinvalid
    exact ⟨hinvalid, (truncate_le_iff (by decide)).1 helapsed, hclosed⟩
  · intro hfits
    have helapsed := (truncate_le_iff (by decide)).2 hfits.elapsed
    obtain ⟨result, hresult⟩ := validate_ok_iff.2 ⟨hvalid.symm ▸ hgoal,
      hcounts.invalid.trans_le hfits.invalid, hbytes, le_max_left 0 _, helapsed⟩
    refine ⟨result, ?_, ?_⟩
    · rw [cleanUp, if_pos hfits.closed, hresult]
    · rwa [validate_counts hresult]

end Delivery

namespace EphemeralRtpDelivery

def packet (delivery : EphemeralRtpDelivery) (round : SocketRound) : Option Packet :=
  match round.socket with
  | .datagram payload _ => some (payload.take delivery.maxDatagramBytes)
  | .timeout | .raised | .cancelled => none

/-- A datagram arrives before the deadline, and the consumer accepts it if it is a valid
packet. -/
structure Arrives (delivery : EphemeralRtpDelivery) (started : ℚ) (round : SocketRound) :
    Prop where
  inTime : round.clock < started + delivery.deliveryTimeoutSeconds
  datagram : ∃ payload source, round.socket = .datagram payload source
  accepted : ∀ p, delivery.packet round = some p → isRtpV2 p = true → round.consumed = .accepted

theorem Arrives.brings {delivery : EphemeralRtpDelivery} {started : ℚ} {round : SocketRound}
    (h : delivery.Arrives started round) :
    Brings delivery.packet (delivery.receive started) SocketRound.consumed round := by
  refine ⟨?_, h.accepted⟩
  obtain ⟨payload, source, hsocket⟩ := h.datagram
  unfold receive packet
  rw [if_neg (not_le.2 (sub_pos.2 h.inTime)), hsocket]
  rfl

end EphemeralRtpDelivery

namespace GStreamerDirectRtpDelivery

def pulled (delivery : GStreamerDirectRtpDelivery) (started : ℚ) (round : PullRound) :
    PullOutcome :=
  round.pull (delivery.timeoutMs (started + delivery.deliveryTimeoutSeconds - round.clock))

def packet (delivery : GStreamerDirectRtpDelivery) (started : ℚ) (round : PullRound) :
    Option Packet :=
  match delivery.pulled started round with
  | .packet packet => some packet
  | .nothing | .raised | .cancelled => none

/-- The reader is asked before the deadline and does not fail, and the consumer accepts its packet
if it is a valid one. -/
structure Arrives (delivery : GStreamerDirectRtpDelivery) (started : ℚ) (round : PullRound) :
    Prop where
  inTime : round.clock < started + delivery.deliveryTimeoutSeconds
  pulled : delivery.pulled started round ≠ .raised ∧ delivery.pulled started round ≠ .cancelled
  accepted : ∀ p, delivery.packet started round = some p → isRtpV2 p = true →
    round.consumed = .accepted

variable {delivery : GStreamerDirectRtpDelivery} {started : ℚ} {round : PullRound}

theorem Arrives.brings (h : delivery.Arrives started round) :
    Brings (delivery.packet started) (delivery.receive started) PullRound.consumed round := by
  refine ⟨?_, h.accepted⟩
  have hpulled := h.pulled
  unfold receive packet
  rw [if_neg (not_le.2 (sub_pos.2 h.inTime))]
  change (match delivery.pulled started round with
    | .packet packet => Received.packet packet
    | .nothing => .nothing
    | .raised => .failed (.delivery ⟨.runtimeFailure, "direct RTP reader failed"⟩)
    | .cancelled => .failed .cancelled) = _
  cases hpull : delivery.pulled started round with
  | packet p => rfl
  | nothing => rfl
  | raised => exact absurd hpull hpulled.1
  | cancelled => exact absurd hpull hpulled.2

end GStreamerDirectRtpDelivery

/-- A delivery whose goal is reached returns the counts of what it has processed where they are
within the bounds of a result, and fails otherwise. -/
theorem deliver_counts (socket : EphemeralRtpDelivery) (direct : GStreamerDirectRtpDelivery) :
    (∀ (run : DeliveryRun SocketRound) (processed rest : List SocketRound),
      run.start = .started → run.rounds = processed ++ rest →
      (∀ round ∈ processed, socket.Arrives run.started round) →
      Completes socket.packetGoal socket.packet processed →
      ((∃ result, socket.deliver run = some (.ok result) ∧
        result.counts.Of (processed.filterMap socket.packet)) ↔
          FitsResult run (processed.filterMap socket.packet))) ∧
    ∀ (run : DeliveryRun PullRound) (processed rest : List PullRound),
      run.start = .started → run.rounds = processed ++ rest →
      (∀ round ∈ processed, direct.Arrives run.started round) →
      Completes direct.packetGoal (direct.packet run.started) processed →
      ((∃ result, direct.deliver run = some (.ok result) ∧
        result.counts.Of (processed.filterMap (direct.packet run.started))) ↔
          FitsResult run (processed.filterMap (direct.packet run.started))) := by
  constructor
  · intro run processed rest hstart hrounds harrives hcompletes
    have hdeliver : socket.deliver run = (deliverLoop socket.packetGoal
        (socket.receive run.started) SocketRound.consumed run).map (cleanUp run.closed) := by
      unfold EphemeralRtpDelivery.deliver
      rw [hstart]
    rw [hdeliver]
    exact deliverLoop_ok_iff socket.goal_mem hrounds
      (fun round hmem => (harrives round hmem).brings) hcompletes
  · intro run processed rest hstart hrounds harrives hcompletes
    have hdeliver : direct.deliver run = (deliverLoop direct.packetGoal
        (direct.receive run.started) PullRound.consumed run).map (cleanUp run.closed) := by
      unfold GStreamerDirectRtpDelivery.deliver
      rw [hstart]
    rw [hdeliver]
    exact deliverLoop_ok_iff direct.goal_mem hrounds
      (fun round hmem => (harrives round hmem).brings) hcompletes

/-! ## Noise -/

theorem completes_one {ρ : Type} {packet : ρ → Option Packet} {noise : List ρ} {round : ρ}
    {p : Packet} (hnoise : ∀ other ∈ noise, ∀ q, packet other = some q → isRtpV2 q = false)
    (hround : packet round = some p) (hvalid : isRtpV2 p = true) :
    Completes 1 packet (noise ++ [round]) := by
  have hnone : ∀ before, before <+: noise → (before.filterMap packet).countP isRtpV2 = 0 := by
    intro before hbefore
    rw [List.countP_eq_zero]
    intro q hq
    obtain ⟨other, hother, hpacket⟩ := List.mem_filterMap.1 hq
    rw [hnoise other (hbefore.subset hother) q hpacket]
    nofun
  constructor
  case reached =>
    rw [List.filterMap_append, List.countP_append, hnone noise List.prefix_rfl]
    simp [hround, hvalid]
  case last =>
    intro before after hprocessed hafter
    have hprefix : before <+: noise ++ [round] := ⟨after, hprocessed.symm⟩
    rcases List.prefix_concat_iff.1 hprefix with hall | hbefore
    · rw [hall] at hprocessed
      exact absurd (List.self_eq_append_right.1 hprocessed) hafter
    · rw [hnone before hbefore]
      exact zero_lt_one

def headerPacket : Packet := 0x80 :: List.replicate 11 0

def headerRound : SocketRound := ⟨1, .datagram headerPacket ("192.0.2.1", 5004), .accepted⟩

def noiseRound : SocketRound := ⟨1, .datagram [] ("192.0.2.2", 5004), .accepted⟩

def onePacketDelivery : EphemeralRtpDelivery :=
  ⟨1, 10, 65535, by decide, by norm_num, by decide⟩

/-- So many empty datagrams and a valid packet within a second. -/
def noisyRun (count : ℕ) : DeliveryRun SocketRound :=
  ⟨0, .started, List.replicate count noiseRound ++ [headerRound], 2, true⟩

theorem noisyRun_arrives (count : ℕ) : ∀ round ∈ (noisyRun count).rounds,
    onePacketDelivery.Arrives (noisyRun count).started round := by
  intro round hround
  rcases List.mem_append.1 hround with hnoise | hheader
  · cases List.eq_of_mem_replicate hnoise
    exact ⟨by norm_num [noiseRound, noisyRun, onePacketDelivery], ⟨_, _, rfl⟩, fun _ _ _ => rfl⟩
  · cases List.mem_singleton.1 hheader
    exact ⟨by norm_num [headerRound, noisyRun, onePacketDelivery], ⟨_, _, rfl⟩, fun _ _ _ => rfl⟩

theorem noisyRun_completes (count : ℕ) :
    Completes onePacketDelivery.packetGoal onePacketDelivery.packet (noisyRun count).rounds := by
  have hheader : onePacketDelivery.packet headerRound = some headerPacket := by decide
  refine completes_one ?_ hheader (by decide)
  intro other hother q hpacket
  cases List.eq_of_mem_replicate hother
  cases hpacket
  decide

def directRun : DeliveryRun PullRound :=
  ⟨0, .started, [⟨1, fun _ => .packet headerPacket, .accepted⟩], 2, true⟩

def directDelivery : GStreamerDirectRtpDelivery :=
  ⟨1, 30, 65535, 100, by decide, by norm_num, by decide, by decide⟩

theorem deliver_counts_one : (∃ result, onePacketDelivery.deliver (noisyRun 1) = some (.ok result) ∧
      result.counts.Of [[], headerPacket]) ∧
    ∃ result, directDelivery.deliver directRun = some (.ok result) ∧
      result.counts.Of [headerPacket] := by
  constructor
  · refine ((deliver_counts onePacketDelivery directDelivery).1 (noisyRun 1) _ [] rfl (List.append_nil _).symm
      (noisyRun_arrives 1) (noisyRun_completes 1)).2 ⟨by decide, ?_, rfl⟩
    norm_num [noisyRun, maxElapsedMs]
  have hheader : directDelivery.packet 0 ⟨1, fun _ => .packet headerPacket, .accepted⟩ =
      some headerPacket := rfl
  refine ((deliver_counts onePacketDelivery directDelivery).2 directRun directRun.rounds [] rfl rfl ?_ ?_).2
    ⟨by decide, ?_, rfl⟩
  · intro round hround
    cases List.mem_singleton.1 hround
    exact ⟨by norm_num [directRun, directDelivery], ⟨nofun, nofun⟩, fun _ _ _ => rfl⟩
  · exact completes_one (List.forall_mem_nil _) hheader (by decide)
  · norm_num [directRun, maxElapsedMs]

theorem noisyRun_packets (count : ℕ) : (noisyRun count).rounds.filterMap onePacketDelivery.packet =
      List.replicate count [] ++ [headerPacket] := by
  have hnoise : onePacketDelivery.packet noiseRound = some [] := rfl
  have hheader : onePacketDelivery.packet headerRound = some headerPacket := by decide
  rw [noisyRun, List.filterMap_append, List.filterMap_replicate_of_some hnoise]
  simp [hheader]

/-- Behind so many empty datagrams the goal is reached, and the delivery fails. -/
theorem deliver_noise :
    (∀ round ∈ (noisyRun 4097).rounds, onePacketDelivery.Arrives (noisyRun 4097).started round) ∧
    Completes onePacketDelivery.packetGoal onePacketDelivery.packet (noisyRun 4097).rounds ∧
    onePacketDelivery.deliver (noisyRun 4097) = some (.error .validation) := by
  have harrives := noisyRun_arrives 4097
  have hcompletes := noisyRun_completes 4097
  refine ⟨harrives, hcompletes, ?_⟩
  obtain ⟨counts, hcounts, hloop⟩ := deliverLoop_of_arrival (List.append_nil _).symm
    (fun round hmem => (harrives round hmem).brings) hcompletes
  have hinvalid : counts.invalidPackets = 4097 := by
    have hempty : isRtpV2 [] = false := rfl
    have hheader : isRtpV2 headerPacket = true := by decide
    rw [hcounts.invalid, noisyRun_packets, List.countP_append, List.countP_replicate, hempty]
    simp [hheader]
  have hvalidate (elapsedMs : ℤ) :
      RtpDeliveryResult.validate counts elapsedMs = .error .validation := by
    unfold RtpDeliveryResult.validate
    rw [dif_neg]
    rintro ⟨-, hle, -⟩
    rw [hinvalid] at hle
    exact absurd hle (by decide)
  unfold EphemeralRtpDelivery.deliver
  change (deliverLoop _ _ _ _).map _ = _
  rw [hloop, hvalidate]
  rfl

end K5Vision.Media.RtpDelivery
