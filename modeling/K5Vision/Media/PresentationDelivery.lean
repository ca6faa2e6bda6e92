import K5Vision.Media.PlaybackChain
import K5Vision.Media.PlaybackDecode

/-!
# Frames for a presentation

`run` of `BoundedPresentationPlaybackDelivery` (`media/presentation_playback.py`) and of
`BoundedLivePresentationDelivery` (`media/live_presentation.py`), behind the checks of its
arguments.  A source, the pump of a playback or the delivery of live packets, awaits its consumer
for each packet; that awaits the decoder, and then the consumer of the run for each frame.  A step
is what comes back from the callee that is awaited; the source may do anything with an exception of
its consumer.  The counters of the source and the snapshot are left out.
-/

namespace K5Vision.Media.PresentationDelivery

open Library

/-! ## The two deliveries -/

inductive Kind
  | playback
  | live
  deriving DecidableEq

inductive ErrorCode
  | decoderInitFailure
  | decoderTimeout
  | decoderFailure
  | invalidRtp
  | invalidFrame
  | frameLimit
  | consumerTimeout
  | consumerFailure
  | cleanupFailure
  | pumpFailure
  | deliveryTimeout
  | deliveryFailure
  deriving DecidableEq

structure DeliveryError where
  code : ErrorCode
  message : String
  deriving DecidableEq

/-- An item that the decoder returns: a `PresentationVideoFrame` with its time and the length of its
payload, or something else. -/
inductive Item
  | other
  | frame (sourceElapsedMs bytes : ℕ)
  deriving DecidableEq

/-- What the decoder returns; it may be no sequence, for `len` or for the iteration. -/
structure Frames where
  length : Option ℕ
  items : List Item
  iterates : Bool

/-- An exception of `run` or of its consumer of packets; nothing translates a `foreign` one. -/
inductive Raised
  | delivery (error : DeliveryError)
  | cancelled
  | foreign
  deriving DecidableEq

inductive Exit
  | returned
  | raised (raised : Raised)
  deriving DecidableEq

/-- The state behind an exit of the constructed delivery. -/
def Exit.state : Exit → PlaybackDecodeState
  | .returned => .complete
  | .raised .cancelled => .cancelled
  | .raised (.delivery _) => .failed
  | .raised .foreign => .running

/-- Who is awaited. -/
inductive Phase
  | construct
  | source
  | decoding (elapsedMs : ℕ)
  | consuming (frame : ℕ × ℕ) (rest : List Item) (iterates flush : Bool) (expectedMs : ℕ)
  | flushing
  | closing (exit : Exit)
  | ended (exit : Exit)
  deriving DecidableEq

/-- The arguments of the constructors; the last three are those of a live delivery. -/
structure Config where
  kind : Kind
  maxFrames : ℕ
  maxFramesPerPacket : ℕ
  maxFrameBytes : ℕ
  payloadType : ℕ
  clockRateHz : ℕ
  maxSourceSpanMs : ℕ

/-- The object and the variables of `run`, how often the decoder was closed, and the frames that the
consumer has accepted, with time and length; `acceptedPackets` is of a live delivery. -/
structure Delivery where
  state : PlaybackDecodeState
  decoderInitialized : Bool
  acceptedPackets : ℕ
  deliveredFrames : ℕ
  deliveredBytes : ℕ
  sourceSpanMs : ℕ
  rtpTimestampOrigin : Option ℕ
  lastPacketElapsedMs : ℕ
  boundaryError : Option DeliveryError
  primaryError : Bool
  phase : Phase
  closes : ℕ
  accepted : List (ℕ × ℕ)

inductive SourceEnd
  | returned
  /-- `PlaybackPumpError` or `RtpDeliveryError`, whose code may be `timeout`. -/
  | error (timeout : Bool)
  /-- The source hands on what its consumer has raised. -/
  | passed (error : DeliveryError)
  | cancelled
  | foreign

/-- What `_new_decoder` meets; `incomplete` lacks a method. -/
inductive Construction
  | decoder
  | failure
  | incomplete
  | fatal
  deriving DecidableEq

inductive Event
  | constructed (result : Construction)
  | packet (packet : Packet) (sourceElapsedMs : ℕ)
  | source (result : SourceEnd)
  | frames (answer : Except CalleeRaise Frames)
  | answer (answer : Except CalleeRaise Unit)

/-- The object in `run`, before `_new_decoder`. -/
def Delivery.create : Delivery :=
  ⟨.running, false, 0, 0, 0, 0, none, 0, none, false, .construct, 0, []⟩

namespace Config

variable (config : Config)

def error (code : ErrorCode) (text : String) : DeliveryError :=
  ⟨code, (if config.kind = .playback then "presentation playback" else "live presentation") ++ text⟩

def consumerError (code : ErrorCode) (text : String) : DeliveryError :=
  ⟨code, (if config.kind = .playback then "presentation" else "live presentation") ++ text⟩

/-- The checks of a frame in `_emit_frames`. -/
def checkFrame (delivered expectedMs : ℕ) : Item → Except DeliveryError (ℕ × ℕ)
  | .other => .error (config.error .invalidFrame " decoder emitted an invalid frame")
  | .frame elapsedMs bytes =>
      let sized := 1 ≤ bytes ∧ bytes ≤ config.maxFrameBytes
      if config.kind = .playback ∧ maxSourceElapsedMs < elapsedMs then
        .error (config.error .invalidFrame " decoder emitted invalid timing")
      else if config.kind = .playback ∧ ¬sized then
        .error (config.error .invalidFrame " decoder emitted an invalid frame size")
      else if config.kind = .live ∧ (elapsedMs ≠ expectedMs ∨ ¬sized) then
        .error (config.error .invalidFrame " decoder emitted invalid frame metadata")
      else if config.maxFrames ≤ delivered then
        .error (config.error .frameLimit " frame limit exceeded")
      else .ok (elapsedMs, bytes)

end Config

namespace Delivery

/-- The `except` clauses of `run`, and the call of `close` behind them. -/
def leave (delivery : Delivery) (exit : Exit) : Delivery :=
  let closing := { delivery with phase := .closing exit, closes := delivery.closes + 1 }
  match exit with
  | .returned => { closing with state := .complete }
  | .raised .cancelled => { closing with state := .cancelled, primaryError := true }
  | .raised (.delivery _) => { closing with state := .failed, primaryError := true }
  | .raised .foreign => closing

/-- An exception in the flush, or in the consumer of packets, which keeps an error of its own. -/
def raise (delivery : Delivery) (flush : Bool) (raised : Raised) : Delivery :=
  if flush then delivery.leave (.raised raised)
  else { delivery with
    phase := .source
    boundaryError := match raised with
      | .delivery error => some error
      | .cancelled | .foreign => delivery.boundaryError }

/-- `_emit_frames` from a frame on, up to the call of the consumer. -/
def emit (config : Config) (delivery : Delivery) (iterates flush : Bool) (expectedMs : ℕ) :
    List Item → Delivery
  | [] =>
      if !iterates then delivery.raise flush .foreign
      else if flush then delivery.leave .returned
      else { delivery with
        phase := .source
        acceptedPackets := delivery.acceptedPackets + if config.kind = .live then 1 else 0 }
  | item :: rest =>
      match config.checkFrame delivery.deliveredFrames expectedMs item with
      | .error error => delivery.raise flush (.delivery error)
      | .ok frame => { delivery with phase := .consuming frame rest iterates flush expectedMs }

def emitFrames (config : Config) (delivery : Delivery) (flush : Bool) (expectedMs : ℕ)
    (frames : Frames) : Delivery :=
  match frames.length with
  | none => delivery.raise flush .foreign
  | some length =>
      if config.maxFramesPerPacket < length then
        delivery.raise flush
          (.delivery (config.error .frameLimit " decoder emitted too many frames"))
      else delivery.emit config frames.iterates flush expectedMs frames.items

/-- The `except` clauses around a callee. -/
def translated (raised : CalleeRaise) (timeout failure : DeliveryError) : Raised :=
  match raised with
  | .timeout => .delivery timeout
  | .failure => .delivery failure
  | .cancelled => .cancelled
  | .fatal => .foreign

/-- The consumer of packets up to `decode`; live packets get their time in `_source_elapsed_ms`. -/
def packet (config : Config) (delivery : Delivery) (packet : Packet) (sourceElapsedMs : ℕ) :
    Delivery :=
  match config.kind with
  | .playback => { delivery with phase := .decoding sourceElapsedMs }
  | .live =>
      if packet.length < 12 ∨ payloadType packet ≠ config.payloadType then
        delivery.raise false
          (.delivery (config.error .invalidRtp " received unsupported RTP metadata"))
      else
        let timestamp := rtpTimestamp packet
        let origin := delivery.rtpTimestampOrigin.getD timestamp
        let elapsedMs := rtpDelta origin timestamp * 1000 / config.clockRateHz
        let started := { delivery with rtpTimestampOrigin := some origin }
        if config.maxSourceSpanMs < elapsedMs then
          started.raise false
            (.delivery (config.error .invalidRtp " RTP timing exceeded the bounded source span"))
        else { started with lastPacketElapsedMs := elapsedMs, phase := .decoding elapsedMs }

/-- `_flush` behind `flush`; live frames get the time of the last packet. -/
def flushed (config : Config) (delivery : Delivery) (frames : Frames) : Delivery :=
  match config.kind with
  | .playback => delivery.emitFrames config true 0 frames
  | .live =>
      let expectedMs := delivery.lastPacketElapsedMs
      if .other ∈ frames.items then
        delivery.raise true
          (.delivery (config.error .invalidFrame " decoder emitted an invalid flush frame"))
      else if !frames.iterates then delivery.raise true .foreign
      else delivery.emitFrames config true expectedMs ⟨some frames.items.length,
        frames.items.map fun
          | .frame _ bytes => .frame expectedMs bytes
          | .other => .other, true⟩

/-- `_new_decoder`, whose exceptions go through `run`. -/
def constructed (config : Config) (delivery : Delivery) : Construction → Delivery
  | .decoder => { delivery with decoderInitialized := true, phase := .source }
  | .failure => { delivery with phase := .ended (.raised (.delivery
      (config.error .decoderInitFailure " decoder could not be initialized"))) }
  | .incomplete => { delivery with phase := .ended (.raised (.delivery
      (config.error .decoderInitFailure " decoder does not satisfy the required boundary"))) }
  | .fatal => { delivery with phase := .ended (.raised .foreign) }

def sourceError (config : Config) (timeout : Bool) : DeliveryError :=
  match config.kind with
  | .playback => ⟨.pumpFailure, "presentation playback pump failed"⟩
  | .live => ⟨if timeout then .deliveryTimeout else .deliveryFailure,
      "live RTP presentation delivery failed"⟩

def sourceEnds (config : Config) (delivery : Delivery) : SourceEnd → Delivery
  | .returned => { delivery with phase := .flushing }
  | .error timeout => delivery.leave
      (.raised (.delivery (delivery.boundaryError.getD (sourceError config timeout))))
  | .passed error => delivery.leave (.raised (.delivery error))
  | .cancelled => delivery.leave (.raised .cancelled)
  | .foreign => delivery.leave (.raised .foreign)

def consumed (config : Config) (delivery : Delivery) (frame : ℕ × ℕ) (rest : List Item)
    (iterates flush : Bool) (expectedMs : ℕ) : Except CalleeRaise Unit → Delivery
  | .error raised => delivery.raise flush (translated raised
      (config.consumerError .consumerTimeout " frame consumer timed out")
      (config.consumerError .consumerFailure " frame consumer failed"))
  | .ok () => { delivery with
      deliveredFrames := delivery.deliveredFrames + 1
      deliveredBytes := delivery.deliveredBytes + frame.2
      sourceSpanMs := max delivery.sourceSpanMs frame.1
      accepted := delivery.accepted ++ [frame] }.emit config iterates flush expectedMs rest

/-- The `finally` clause; an exception of `close` counts where there was none that was kept. -/
def closed (config : Config) (delivery : Delivery) (exit : Exit) :
    Except CalleeRaise Unit → Delivery
  | .ok () => { delivery with phase := .ended exit }
  | .error .fatal => { delivery with phase := .ended (.raised .foreign) }
  | .error raised =>
      if delivery.primaryError then { delivery with phase := .ended exit }
      else if raised = .cancelled then
        { delivery with state := .cancelled, phase := .ended (.raised .cancelled) }
      else { delivery with
        state := .failed
        phase := .ended (.raised (.delivery
          (config.error .cleanupFailure " decoder cleanup failed"))) }

def step (config : Config) (delivery : Delivery) (event : Event) : Delivery :=
  match delivery.phase, event with
  | .construct, .constructed result => delivery.constructed config result
  | .source, .packet packet sourceElapsedMs => delivery.packet config packet sourceElapsedMs
  | .source, .source result => delivery.sourceEnds config result
  | .decoding expectedMs, .frames (.ok frames) => delivery.emitFrames config false expectedMs frames
  | .decoding _, .frames (.error raised) => delivery.raise false (translated raised
      (config.error .decoderTimeout " decoder timed out")
      (config.error .decoderFailure " decoder failed"))
  | .consuming frame rest iterates flush expectedMs, .answer answer =>
      delivery.consumed config frame rest iterates flush expectedMs answer
  | .flushing, .frames (.ok frames) => delivery.flushed config frames
  | .flushing, .frames (.error raised) => delivery.raise true (translated raised
      (config.error .decoderTimeout " decoder flush timed out")
      (config.error .decoderFailure " decoder flush failed"))
  | .closing exit, .answer answer => delivery.closed config exit answer
  | _, _ => delivery

def run (config : Config) (events : List Event) : Delivery := events.foldl (step config) .create

end Delivery

/-! ## Exits -/

namespace Config

variable (config : Config)

/-- The latest time of a frame. -/
def spanLimit : ℕ := if config.kind = .playback then maxSourceElapsedMs else config.maxSourceSpanMs

/-- A frame with the time and the length that the checks let pass. -/
def Admits (frame : ℕ × ℕ) : Prop :=
  frame.1 ≤ config.spanLimit ∧ 1 ≤ frame.2 ∧ frame.2 ≤ config.maxFrameBytes

/-- The time that live frames must have is no later than they may be. -/
def Due (expectedMs : ℕ) : Prop := config.kind = .live → expectedMs ≤ config.maxSourceSpanMs

variable {config} {delivered expectedMs : ℕ} {item : Item} {frame : ℕ × ℕ}

theorem checkFrame_ok (h : config.checkFrame delivered expectedMs item = .ok frame)
    (hdue : config.Due expectedMs) : config.Admits frame ∧ delivered < config.maxFrames := by
  cases item with
  | other => simp [checkFrame] at h
  | frame elapsedMs bytes =>
      simp only [checkFrame] at h
      split_ifs at h with htime hsize hmeta hlimit
      cases h
      cases hkind : config.kind with
      | playback =>
          simp only [hkind, true_and, not_lt, not_not] at htime hsize
          exact ⟨⟨by simpa [spanLimit, hkind] using htime, hsize⟩, not_le.1 hlimit⟩
      | live =>
          simp only [hkind, true_and, not_or, not_not] at hmeta
          have hspan : elapsedMs ≤ config.maxSourceSpanMs := hmeta.1 ▸ hdue hkind
          exact ⟨⟨by simpa [spanLimit, hkind] using hspan, hmeta.2⟩, not_le.1 hlimit⟩

end Config

namespace Delivery

variable {config : Config} {delivery : Delivery}

/-- The decoder is there and open, and no exit is taken. -/
def Running (delivery : Delivery) : Prop :=
  delivery.state = .running ∧ delivery.decoderInitialized = true ∧ delivery.closes = 0

def At (config : Config) (delivery : Delivery) : Phase → Prop
  | .construct =>
      delivery.state = .running ∧ delivery.decoderInitialized = false ∧ delivery.closes = 0
  | .source | .flushing => delivery.Running
  | .decoding elapsedMs => delivery.Running ∧ config.Due elapsedMs
  | .consuming frame _ _ _ expectedMs => delivery.Running ∧ config.Due expectedMs ∧
      config.Admits frame ∧ delivery.deliveredFrames < config.maxFrames
  | .closing exit =>
      delivery.state = exit.state ∧ delivery.decoderInitialized = true ∧ delivery.closes = 1
  | .ended exit =>
      (delivery.decoderInitialized = false → delivery.state = .running ∧ delivery.closes = 0) ∧
      (delivery.decoderInitialized = true → delivery.closes = 1 ∧
        (exit ≠ .raised .foreign → delivery.state = exit.state))

/-- What the counters count, whoever is awaited. -/
def Counted (config : Config) (delivery : Delivery) : Prop :=
  (delivery.deliveredFrames = delivery.accepted.length ∧
    delivery.deliveredBytes = (delivery.accepted.map Prod.snd).sum ∧
    delivery.sourceSpanMs = (delivery.accepted.map Prod.fst).foldl max 0) ∧
  (delivery.deliveredFrames ≤ config.maxFrames ∧
    ∀ frame ∈ delivery.accepted, config.Admits frame) ∧
  config.Due delivery.lastPacketElapsedMs

structure Inv (config : Config) (delivery : Delivery) : Prop where
  counted : delivery.Counted config
  phase : delivery.At config delivery.phase

theorem Counted.leave (h : delivery.Counted config) (hrunning : delivery.Running) (exit : Exit) :
    Inv config (delivery.leave exit) := by
  obtain ⟨hstate, hdecoder, hcloses⟩ := hrunning
  have hclosed : delivery.closes + 1 = 1 := congrArg (· + 1) hcloses
  rcases exit with _ | (error | _ | _)
  · exact ⟨h, rfl, hdecoder, hclosed⟩
  · exact ⟨h, rfl, hdecoder, hclosed⟩
  · exact ⟨h, rfl, hdecoder, hclosed⟩
  · exact ⟨h, hstate, hdecoder, hclosed⟩

theorem Counted.raise (h : delivery.Counted config) (hrunning : delivery.Running) (flush : Bool)
    (raised : Raised) : Inv config (delivery.raise flush raised) := by
  cases flush with
  | true => exact h.leave hrunning _
  | false => exact ⟨h, hrunning⟩

theorem Counted.emit (h : delivery.Counted config) (hrunning : delivery.Running)
    {expectedMs : ℕ} (hdue : config.Due expectedMs) (iterates flush : Bool) (items : List Item) :
    Inv config (delivery.emit config iterates flush expectedMs items) := by
  cases items with
  | nil =>
      unfold Delivery.emit
      split_ifs
      · exact h.raise hrunning _ _
      · exact h.leave hrunning _
      · exact ⟨h, hrunning⟩
      · exact ⟨h, hrunning⟩
  | cons item rest =>
      cases hcheck : config.checkFrame delivery.deliveredFrames expectedMs item with
      | error error =>
          simp only [Delivery.emit, hcheck]
          exact h.raise hrunning _ _
      | ok frame =>
          simp only [Delivery.emit, hcheck]
          exact ⟨h, hrunning, hdue, Config.checkFrame_ok hcheck hdue⟩

theorem Counted.emitFrames (h : delivery.Counted config) (hrunning : delivery.Running)
    {expectedMs : ℕ} (hdue : config.Due expectedMs) (flush : Bool) (frames : Frames) :
    Inv config (delivery.emitFrames config flush expectedMs frames) := by
  unfold Delivery.emitFrames
  split
  · exact h.raise hrunning _ _
  · split_ifs
    · exact h.raise hrunning _ _
    · exact h.emit hrunning hdue _ _ _

theorem Counted.packet (h : delivery.Counted config) (hrunning : delivery.Running) (packet : Packet)
    (sourceElapsedMs : ℕ) : Inv config (delivery.packet config packet sourceElapsedMs) := by
  unfold Delivery.packet
  split <;> rename_i hkind
  · exact ⟨h, hrunning, fun hlive => Kind.noConfusion (hkind.symm.trans hlive)⟩
  · dsimp only
    split_ifs with hrtp hlate
    · exact h.raise hrunning _ _
    · have hstarted : Counted config { delivery with
          rtpTimestampOrigin := some (delivery.rtpTimestampOrigin.getD (rtpTimestamp packet)) } := h
      exact hstarted.raise hrunning _ _
    · have hdue := fun _ : config.kind = .live => not_lt.1 hlate
      exact ⟨⟨h.1, h.2.1, hdue⟩, hrunning, hdue⟩

theorem Counted.flushed (h : delivery.Counted config) (hrunning : delivery.Running)
    (frames : Frames) : Inv config (delivery.flushed config frames) := by
  unfold Delivery.flushed
  split <;> rename_i hkind
  · exact h.emitFrames hrunning (fun hlive => Kind.noConfusion (hkind.symm.trans hlive)) _ _
  · dsimp only
    split_ifs
    · exact h.raise hrunning _ _
    · exact h.raise hrunning _ _
    · exact h.emitFrames hrunning h.2.2 _ _

theorem Counted.sourceEnds (h : delivery.Counted config) (hrunning : delivery.Running)
    (result : SourceEnd) : Inv config (delivery.sourceEnds config result) := by
  cases result with
  | returned => exact ⟨h, hrunning⟩
  | error timeout =>
      exact h.leave hrunning
        (.raised (.delivery (delivery.boundaryError.getD (sourceError config timeout))))
  | passed error => exact h.leave hrunning (.raised (.delivery error))
  | cancelled => exact h.leave hrunning (.raised .cancelled)
  | foreign => exact h.leave hrunning (.raised .foreign)

theorem Counted.consumed (h : delivery.Counted config) (hrunning : delivery.Running)
    {expectedMs : ℕ} {frame : ℕ × ℕ} (hdue : config.Due expectedMs) (hframe : config.Admits frame)
    (hlimit : delivery.deliveredFrames < config.maxFrames) (rest : List Item)
    (iterates flush : Bool) (answer : Except CalleeRaise Unit) :
    Inv config (delivery.consumed config frame rest iterates flush expectedMs answer) := by
  cases answer with
  | error raised => exact h.raise hrunning _ _
  | ok done =>
      obtain ⟨⟨hframes, hbytes, hspan⟩, ⟨-, hadmits⟩, hlast⟩ := h
      have haccepted : Counted config { delivery with
          deliveredFrames := delivery.deliveredFrames + 1
          deliveredBytes := delivery.deliveredBytes + frame.2
          sourceSpanMs := max delivery.sourceSpanMs frame.1
          accepted := delivery.accepted ++ [frame] } :=
        ⟨⟨by simp [hframes], by simp [hbytes], by simp [hspan]⟩,
          ⟨hlimit, List.forall_mem_append.2 ⟨hadmits, List.forall_mem_singleton.2 hframe⟩⟩, hlast⟩
      exact haccepted.emit hrunning hdue _ _ _

theorem Counted.constructed (h : delivery.Counted config)
    (hat : delivery.At config .construct) (result : Construction) :
    Inv config (delivery.constructed config result) := by
  obtain ⟨hstate, hdecoder, hcloses⟩ := hat
  cases result with
  | decoder => exact ⟨h, hstate, rfl, hcloses⟩
  | failure | incomplete | fatal =>
      exact ⟨h, fun _ => ⟨hstate, hcloses⟩,
        fun hinitialized => absurd (hdecoder.symm.trans hinitialized) Bool.false_ne_true⟩

theorem Counted.closed (h : delivery.Counted config) {exit : Exit}
    (hat : delivery.At config (.closing exit)) (answer : Except CalleeRaise Unit) :
    Inv config (delivery.closed config exit answer) := by
  obtain ⟨hstate, hdecoder, hcloses⟩ := hat
  have hended (state : PlaybackDecodeState) (hnone : delivery.decoderInitialized = false) :
      state = .running ∧ delivery.closes = 0 :=
    absurd (hnone.symm.trans hdecoder) Bool.false_ne_true
  unfold Delivery.closed
  split
  · exact ⟨h, hended _, fun _ => ⟨hcloses, fun _ => hstate⟩⟩
  · exact ⟨h, hended _, fun _ => ⟨hcloses, fun hforeign => absurd rfl hforeign⟩⟩
  · split_ifs
    · exact ⟨h, hended _, fun _ => ⟨hcloses, fun _ => hstate⟩⟩
    · exact ⟨h, hended _, fun _ => ⟨hcloses, fun _ => rfl⟩⟩
    · exact ⟨h, hended _, fun _ => ⟨hcloses, fun _ => rfl⟩⟩

theorem Inv.step (h : Inv config delivery) (event : Event) :
    Inv config (delivery.step config event) := by
  have hcounted := h.counted
  have hat := h.phase
  unfold Delivery.step
  split <;> rename_i hphase <;> try rw [hphase] at hat
  · exact hcounted.constructed hat _
  · exact hcounted.packet hat _ _
  · exact hcounted.sourceEnds hat _
  · exact hcounted.emitFrames hat.1 hat.2 _ _
  · exact hcounted.raise hat.1 _ _
  · exact hcounted.consumed hat.1 hat.2.1 hat.2.2.1 hat.2.2.2 _ _ _ _
  · exact hcounted.flushed hat _
  · exact hcounted.raise hat _ _
  · exact hcounted.closed hat _
  · exact h

theorem create_inv : Inv config .create :=
  ⟨⟨⟨rfl, rfl, rfl⟩, ⟨Nat.zero_le _, List.forall_mem_nil _⟩, fun _ => Nat.zero_le _⟩,
    rfl, rfl, rfl⟩

theorem run_inv (config : Config) (events : List Event) : Inv config (run config events) :=
  List.foldlRecOn events (step config) create_inv fun _ h event _ => h.step event

/-- Whatever the source, the decoder and the consumer do, the counters are those of the frames that
the consumer has accepted, which are no more than there may be and each within the limits; and where
`run` ends, a decoder that was constructed has been closed once, with the state of the exit unless
that is an exception that nothing translates.  Without a decoder the state stays `running`. -/
theorem delivery_exits (config : Config) (events : List Event) :
    let delivery := run config events
    (delivery.deliveredFrames = delivery.accepted.length ∧
      delivery.deliveredBytes = (delivery.accepted.map Prod.snd).sum ∧
      delivery.sourceSpanMs = (delivery.accepted.map Prod.fst).foldl max 0) ∧
    (delivery.deliveredFrames ≤ config.maxFrames ∧
      ∀ frame ∈ delivery.accepted, config.Admits frame) ∧
    ∀ exit, delivery.phase = .ended exit →
      (delivery.decoderInitialized = false → delivery.state = .running ∧ delivery.closes = 0) ∧
      (delivery.decoderInitialized = true → delivery.closes = 1 ∧
        (exit ≠ .raised .foreign → delivery.state = exit.state)) := by
  intro delivery
  obtain ⟨hcounted, hphase⟩ : Inv config delivery := run_inv config events
  refine ⟨hcounted.1, hcounted.2.1, fun exit hexit => ?_⟩
  rw [hexit] at hphase
  exact hphase

/-- A frame is delivered, and the decoder flushed and closed. -/
example : (run ⟨.playback, 1, 1, 8, 96, 90000, 0⟩ [.constructed .decoder, .packet [] 40,
    .frames (.ok ⟨some 1, [.frame 40 8], true⟩), .answer (.ok ()), .source .returned,
    .frames (.ok ⟨some 0, [], true⟩), .answer (.ok ())]).state = .complete := rfl

end Delivery

end K5Vision.Media.PresentationDelivery
