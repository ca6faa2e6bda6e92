import K5Vision.Library.Outcomes
import K5Vision.Media.PlaybackDecode
import Mathlib.Algebra.BigOperators.Group.List.Basic

/-!
# How a decode run ends

When the methods of the bridge return, and when an exception of foreign code gets through them,
said of what the decoder and the consumer do.  A cancellation that gets through is meant to.
-/

namespace K5Vision.Media

open Library

/-- The exceptions that nothing has translated and nothing expects. -/
def DecodeRaised.escape : DecodeRaised → Option CalleeRaise
  | .decode _ | .pump _ | .raised .cancelled => none
  | .raised .timeout => some .timeout
  | .raised .failure => some .failure
  | .raised .fatal => some .fatal

theorem escape_raised_iff {raised other : CalleeRaise} :
    (DecodeRaised.raised raised).escape = some other ↔ raised = other ∧ raised ≠ .cancelled := by
  cases raised <;> cases other <;> simp [DecodeRaised.escape]

/-! ## Frames -/

namespace FrameValue

def sourceMs : FrameValue → ℚ
  | .frame (.ok ms) _ _ => ms
  | .frame (.error _) _ _ | .other => 0

def bytes : FrameValue → ℕ
  | .frame _ (.ok size) _ => size
  | .frame _ (.error _) _ | .other => 0

/-- A frame within the bounds that the consumer takes. -/
def Consumed (limits : PlaybackDecodeLimits) : FrameValue → Prop
  | .frame (.ok ms) (.ok size) (.ok ()) =>
      (0 ≤ ms ∧ ms ≤ maxSourceElapsedMs) ∧ 1 ≤ size ∧ size ≤ limits.maxFrameBytes
  | _ => False

/-- A `DecodedVideoFrame` with a field of a wrong type, or whose consumer raises no `Exception`. -/
def Raises (limits : PlaybackDecodeLimits) (raised : CalleeRaise) (room : Prop) : FrameValue → Prop
  | .other => False
  | .frame (.error timing) _ _ => timing = raised ∧ raised ≠ .cancelled
  | .frame (.ok ms) (.error payload) _ =>
      (0 ≤ ms ∧ ms ≤ maxSourceElapsedMs) ∧ payload = raised ∧ raised ≠ .cancelled
  | .frame (.ok ms) (.ok size) (.error consumer) =>
      (0 ≤ ms ∧ ms ≤ maxSourceElapsedMs) ∧ (1 ≤ size ∧ size ≤ limits.maxFrameBytes) ∧ room ∧
        consumer = .fatal ∧ raised = .fatal
  | .frame (.ok _) (.ok _) (.ok _) => False

end FrameValue

def DecodeRun.takeFrame (run : DecodeRun) (frame : FrameValue) : DecodeRun :=
  run.take frame.sourceMs frame.bytes

namespace PlaybackDecode

variable {α : Type} {limits : PlaybackDecodeLimits} {run after : DecodeRun} {raised : CalleeRaise}

variable {a : α} {outcome : Except CalleeRaise α}

theorem returns_untranslated_iff :
    (untranslated outcome).Returns run a after ↔ outcome = .ok a ∧ after = run := by
  rw [untranslated, Handler.returns_read_iff]
  cases outcome with
  | ok b => simp [Except.mapError]
  | error other => simp [Except.mapError]

theorem escapes_untranslated_iff : (untranslated outcome).Escapes DecodeRaised.escape run raised ↔
      outcome = .error raised ∧ raised ≠ .cancelled := by
  rw [untranslated, Handler.escapes_read_iff]
  cases outcome with
  | ok b => simp [Except.mapError]
  | error other =>
      simp only [Except.mapError, Except.error.injEq, exists_eq_left', escape_raised_iff]
      constructor
      · rintro ⟨rfl, hne⟩
        exact ⟨rfl, hne⟩
      · rintro ⟨rfl, hne⟩
        exact ⟨rfl, hne⟩

theorem returns_translated_iff {timeout failure : PlaybackDecodeError} :
    (translated outcome timeout failure).Returns run a after ↔ outcome = .ok a ∧ after = run := by
  rw [translated, Handler.returns_read_iff]
  cases outcome with
  | ok b => simp [Except.mapError]
  | error other => simp [Except.mapError]

theorem escapes_translated_iff {timeout failure : PlaybackDecodeError} :
    (translated outcome timeout failure).Escapes DecodeRaised.escape run raised ↔
      outcome = .error .fatal ∧ raised = .fatal := by
  rw [translated, Handler.escapes_read_iff]
  cases outcome with
  | ok b => simp [Except.mapError]
  | error other =>
      cases other <;> cases raised <;> simp [Except.mapError, DecodeRaised.escape]

theorem not_returns_throwing {error : DecodeRaised} : ¬ (throwing error).Returns run a after := by
  rw [throwing, Handler.returns_read_iff]
  rintro ⟨h, -⟩
  cases h

theorem escapes_throwing_iff {error : DecodeRaised} :
    (throwing error : Method α).Escapes DecodeRaised.escape run raised ↔
      error.escape = some raised := by
  rw [throwing, Handler.escapes_read_iff]
  simp

theorem returns_checkRoom_iff {done : Unit} : (checkRoom limits).Returns run done after ↔
      run.bridge.decodedFrames < limits.maxFrames ∧ after = run := by
  rw [checkRoom, Handler.returns_read_iff]
  by_cases h : limits.maxFrames ≤ run.bridge.decodedFrames
  · simp [h, not_lt.2 h]
  · simp [h, not_le.1 h]

theorem not_escapes_checkRoom : ¬ (checkRoom limits).Escapes DecodeRaised.escape run raised := by
  rw [checkRoom, Handler.escapes_read_iff]
  rintro ⟨error, hread, hescape⟩
  split at hread
  · cases hread
    cases hescape
  · cases hread

theorem returns_emitFrame_iff {frame : FrameValue} {done : Unit} :
    (emitFrame limits frame).Returns run done after ↔
      (run.bridge.decodedFrames < limits.maxFrames ∧ frame.Consumed limits) ∧
        after = run.takeFrame frame := by
  cases frame with
  | other =>
      refine iff_of_false not_returns_throwing ?_
      rintro ⟨⟨-, h⟩, -⟩
      exact h
  | frame sourceElapsedMs payload consumer =>
      simp only [emitFrame, Handler.returns_bind_iff, returns_untranslated_iff,
        Handler.returns_require_iff, returns_checkRoom_iff, returns_translated_iff,
        Handler.returns_modify_iff, decide_eq_true_eq]
      constructor
      · rintro ⟨ms, _, ⟨rfl, rfl⟩, _, _, ⟨hms, rfl⟩, size, _, ⟨rfl, rfl⟩, _, _, ⟨hsize, rfl⟩,
          _, _, ⟨hroom, rfl⟩, ⟨⟩, _, ⟨rfl, rfl⟩, rfl⟩
        exact ⟨⟨hroom, hms, hsize⟩, rfl⟩
      rintro ⟨⟨hroom, hconsumed⟩, rfl⟩
      cases sourceElapsedMs with
      | error timing => exact hconsumed.elim
      | ok ms =>
          cases payload with
          | error other => exact hconsumed.elim
          | ok size =>
              cases consumer with
              | error other => exact hconsumed.elim
              | ok done =>
                  exact ⟨ms, run, ⟨rfl, rfl⟩, (), run, ⟨hconsumed.1, rfl⟩, size, run, ⟨rfl, rfl⟩,
                    (), run, ⟨hconsumed.2, rfl⟩, (), run, ⟨hroom, rfl⟩, (), run, ⟨rfl, rfl⟩, rfl⟩

theorem escapes_emitFrame_iff {frame : FrameValue} :
    (emitFrame limits frame).Escapes DecodeRaised.escape run raised ↔
      frame.Raises limits raised (run.bridge.decodedFrames < limits.maxFrames) := by
  cases frame with
  | other =>
      refine iff_of_false ?_ id
      rw [emitFrame, escapes_throwing_iff]
      nofun
  | frame sourceElapsedMs payload consumer =>
      simp only [emitFrame, Handler.escapes_bind_iff, escapes_untranslated_iff,
        Handler.escapes_require_iff, returns_untranslated_iff, Handler.returns_require_iff,
        returns_checkRoom_iff, not_escapes_checkRoom, escapes_translated_iff, invalidFrame,
        DecodeRaised.escape, Handler.not_escapes_modify, reduceCtorEq, and_false, false_or,
        exists_const, decide_eq_true_eq]
      cases sourceElapsedMs with
      | error timing => simp [FrameValue.Raises]
      | ok ms =>
          cases payload with
          | error other => simp [FrameValue.Raises]
          | ok size => cases consumer <;> simp [FrameValue.Raises]

end PlaybackDecode

/-! ## What the decoder returns -/

/-- The consumer takes all of the frames, behind so many others. -/
structure FramesFit (limits : PlaybackDecodeLimits) (count : ℕ) (frames : List FrameValue) :
    Prop where
  consumed : ∀ frame ∈ frames, frame.Consumed limits
  room : frames = [] ∨ count + frames.length ≤ limits.maxFrames

namespace FramesValue

def items : FramesValue → List FrameValue
  | .unsized _ => []
  | .sized _ items _ => items

/-- A sequence of frames that are all consumed. -/
def Emitted (limits : PlaybackDecodeLimits) (count : ℕ) : FramesValue → Prop
  | .unsized _ => False
  | .sized length items ends =>
      length ≤ limits.maxFramesPerPacket ∧ FramesFit limits count items ∧ ends = .ok ()

/-- It is no sequence, or the first frame that is not consumed is malformed. -/
def Raises (limits : PlaybackDecodeLimits) (raised : CalleeRaise) (count : ℕ) : FramesValue → Prop
  | .unsized other => other = raised ∧ raised ≠ .cancelled
  | .sized length items ends =>
      length ≤ limits.maxFramesPerPacket ∧
        ((∃ before frame rest, items = before ++ frame :: rest ∧ FramesFit limits count before ∧
          frame.Raises limits raised (count + before.length < limits.maxFrames)) ∨
        (FramesFit limits count items ∧ ends = .error raised ∧ raised ≠ .cancelled))

end FramesValue

theorem decodedFrames_takeAll (run : DecodeRun) (frames : List FrameValue) :
    (frames.foldl DecodeRun.takeFrame run).bridge.decodedFrames =
      run.bridge.decodedFrames + frames.length := by
  induction frames generalizing run with
  | nil => rfl
  | cons frame rest ih =>
      rw [List.foldl_cons, ih, List.length_cons]
      change run.bridge.decodedFrames + 1 + rest.length = _
      omega

namespace PlaybackDecode

variable {limits : PlaybackDecodeLimits} {run after : DecodeRun} {raised : CalleeRaise}

theorem allOk_frames_iff {frames : List FrameValue} :
    Handler.AllOk (fun run frame => run.bridge.decodedFrames < limits.maxFrames ∧
      frame.Consumed limits) DecodeRun.takeFrame run frames ↔
        FramesFit limits run.bridge.decodedFrames frames := by
  constructor
  · intro h
    constructor
    · intro frame hframe
      obtain ⟨before, rest, rfl⟩ := List.append_of_mem hframe
      exact (h before frame rest rfl).2
    rcases List.eq_nil_or_concat frames with rfl | ⟨before, last, rfl⟩
    · exact .inl rfl
    · have hlast := (h before last [] (List.concat_eq_append ..)).1
      rw [decodedFrames_takeAll] at hlast
      right
      rw [List.concat_eq_append, List.length_append, List.length_singleton]
      omega
  · rintro ⟨hconsumed, hroom⟩ before frame rest rfl
    refine ⟨?_, hconsumed frame (by simp)⟩
    rw [decodedFrames_takeAll]
    rcases hroom with hnil | hroom
    · simp at hnil
    · simp only [List.length_append, List.length_cons] at hroom
      omega

variable {value : FramesValue}

theorem returns_emitFrames_iff {done : Unit} : (emitFrames limits value).Returns run done after ↔
      value.Emitted limits run.bridge.decodedFrames ∧
        after = value.items.foldl DecodeRun.takeFrame run := by
  cases value with
  | unsized other =>
      refine iff_of_false not_returns_throwing ?_
      rintro ⟨h, -⟩
      exact h
  | sized length items ends =>
      simp only [emitFrames, Handler.returns_bind_iff, Handler.returns_require_iff,
        Handler.returns_forEach_iff (fun _ _ _ => returns_emitFrame_iff), allOk_frames_iff,
        returns_untranslated_iff, decide_eq_true_eq]
      constructor
      · rintro ⟨⟨⟩, _, ⟨hlength, rfl⟩, ⟨⟩, _, ⟨hfit, rfl⟩, rfl, rfl⟩
        exact ⟨⟨hlength, hfit, rfl⟩, rfl⟩
      · rintro ⟨⟨hlength, hfit, rfl⟩, rfl⟩
        exact ⟨(), run, ⟨hlength, rfl⟩, (), _, ⟨hfit, rfl⟩, rfl, rfl⟩

theorem escapes_emitFrames_iff : (emitFrames limits value).Escapes DecodeRaised.escape run raised ↔
      value.Raises limits raised run.bridge.decodedFrames := by
  cases value with
  | unsized other =>
      rw [emitFrames, escapes_throwing_iff, escape_raised_iff]
      constructor
      · rintro ⟨rfl, hne⟩
        exact ⟨rfl, hne⟩
      · rintro ⟨rfl, hne⟩
        exact ⟨rfl, hne⟩
  | sized length items ends =>
      simp only [emitFrames, Handler.escapes_bind_iff, Handler.escapes_require_iff,
        DecodeRaised.escape, reduceCtorEq, and_false, false_or, Handler.returns_require_iff,
        Handler.escapes_forEach_iff (fun _ _ _ => returns_emitFrame_iff), allOk_frames_iff,
        Handler.returns_forEach_iff (fun _ _ _ => returns_emitFrame_iff),
        escapes_emitFrame_iff, decodedFrames_takeAll, escapes_untranslated_iff,
        decide_eq_true_eq]
      constructor
      · rintro ⟨⟨⟩, _, ⟨hlength, rfl⟩, hframe | ⟨⟨⟩, _, ⟨hfit, -⟩, hends⟩⟩
        · exact ⟨hlength, .inl hframe⟩
        · exact ⟨hlength, .inr ⟨hfit, hends⟩⟩
      · rintro ⟨hlength, hframe | ⟨hfit, hends⟩⟩
        · exact ⟨(), run, ⟨hlength, rfl⟩, .inl hframe⟩
        · exact ⟨(), run, ⟨hlength, rfl⟩, .inr ⟨(), _, ⟨hfit, rfl⟩, hends⟩⟩

/-! ## Packets -/

variable {outcome : Except CalleeRaise FramesValue} {packet : ScheduledPlaybackPacket}

theorem returns_decode_iff : (decode packet outcome).Returns run value after ↔
      outcome = .ok value ∧ after = run.called (.decoded packet) := by
  simp only [decode, Handler.returns_bind_iff, returns_translated_iff, Handler.returns_modify_iff,
    Handler.returns_pure_iff]
  constructor
  · rintro ⟨_, _, ⟨rfl, rfl⟩, ⟨⟩, _, rfl, rfl, rfl⟩
    exact ⟨rfl, rfl⟩
  · rintro ⟨rfl, rfl⟩
    exact ⟨value, run, ⟨rfl, rfl⟩, ⟨⟩, _, rfl, rfl, rfl⟩

theorem escapes_decode_iff : (decode packet outcome).Escapes DecodeRaised.escape run raised ↔
      outcome = .error .fatal ∧ raised = .fatal := by
  simp only [decode, Handler.escapes_bind_iff, escapes_translated_iff,
    Handler.not_escapes_modify, Handler.not_escapes_pure, and_false, exists_false, or_false]

theorem returns_packetConsumer_iff {done : Unit} :
    (packetConsumer limits packet outcome).Returns run done after ↔
      ∃ value, outcome = .ok value ∧ value.Emitted limits run.bridge.decodedFrames ∧
        after = value.items.foldl DecodeRun.takeFrame (run.called (.decoded packet)) := by
  unfold packetConsumer
  rw [Handler.returns_recover_iff, Handler.returns_bind_iff]
  · simp only [returns_decode_iff, returns_emitFrames_iff]
    constructor
    · rintro ⟨value, _, ⟨rfl, rfl⟩, hemitted, rfl⟩
      exact ⟨value, rfl, hemitted, rfl⟩
    · rintro ⟨value, rfl, hemitted, rfl⟩
      exact ⟨value, _, ⟨rfl, rfl⟩, hemitted, rfl⟩
  · intro error state
    cases error <;> exact ⟨_, _, rfl⟩

theorem escapes_packetConsumer_iff :
    (packetConsumer limits packet outcome).Escapes DecodeRaised.escape run raised ↔
      (outcome = .error .fatal ∧ raised = .fatal) ∨ ∃ value, outcome = .ok value ∧
        value.Raises limits raised run.bridge.decodedFrames := by
  unfold packetConsumer
  have hraises : ∀ (error : DecodeRaised) (state : DecodeRun), ∃ other after,
      (keepBoundary error).exec state = (.error other, after) ∧
        other.escape = error.escape := by
    intro error state
    cases error <;> exact ⟨_, _, rfl, rfl⟩
  rw [Handler.escapes_recover_all_iff hraises, Handler.escapes_bind_iff, escapes_decode_iff]
  simp only [returns_decode_iff, escapes_emitFrames_iff]
  constructor
  · rintro (hfatal | ⟨value, _, ⟨rfl, rfl⟩, hraises⟩)
    · exact .inl hfatal
    · exact .inr ⟨value, rfl, hraises⟩
  · rintro (hfatal | ⟨value, rfl, hraises⟩)
    · exact .inl hfatal
    · exact .inr ⟨value, _, ⟨rfl, rfl⟩, hraises⟩

end PlaybackDecode

namespace PacketDelivery

/-- The frames of the packet. -/
def items (delivery : PacketDelivery) : List FrameValue :=
  match delivery.decoded with
  | .ok value => value.items
  | .error _ => []

/-- The packet is decoded, and its frames are consumed. -/
structure Delivered (limits : PlaybackDecodeLimits) (count : ℕ) (delivery : PacketDelivery) :
    Prop where
  pacing : delivery.pacing = .ok ()
  emitted : ∃ value, delivery.decoded = .ok value ∧ value.Emitted limits count

/-- Foreign code raises what is no `Exception`. -/
def Fatal (limits : PlaybackDecodeLimits) (count : ℕ) (delivery : PacketDelivery) : Prop :=
  delivery.pacing = .error .fatal ∨ (delivery.pacing = .ok () ∧
    (delivery.decoded = .error .fatal ∨
      ∃ value, delivery.decoded = .ok value ∧ value.Raises limits .fatal count))

end PacketDelivery

def DecodeRun.deliver (callees : PlaybackCallees) (run : DecodeRun)
    (packet : ScheduledPlaybackPacket) : DecodeRun :=
  ((callees.deliver packet).items.foldl DecodeRun.takeFrame
    (run.called (.decoded packet))).delivered

def PlaybackCallees.items (callees : PlaybackCallees) (packets : List ScheduledPlaybackPacket) :
    List FrameValue :=
  packets.flatMap fun packet => (callees.deliver packet).items

namespace PlaybackDecode

variable {limits : PlaybackDecodeLimits} {run after : DecodeRun} {raised : CalleeRaise}
  {callees : PlaybackCallees} {packet : ScheduledPlaybackPacket}

variable {done : Unit}

theorem returns_pace_iff {pacing : Except CalleeRaise Unit} :
    (pace pacing).Returns run done after ↔ pacing = .ok () ∧ after = run := by
  cases pacing with
  | ok done =>
      rw [pace, Handler.returns_pure_iff]
      simp
  | error other =>
      refine iff_of_false ?_ (by simp)
      intro h
      cases other <;> cases congrArg Prod.fst h

theorem escapes_pace_iff {pacing : Except CalleeRaise Unit} :
    (pace pacing).Escapes DecodeRaised.escape run raised ↔
      pacing = .error .fatal ∧ raised = .fatal := by
  cases pacing with
  | ok done =>
      refine iff_of_false Handler.not_escapes_pure (by simp)
  | error other =>
      constructor
      · rintro ⟨error, left, hexec, hescape⟩
        cases other <;> cases hexec <;> cases hescape
        exact ⟨rfl, rfl⟩
      · rintro ⟨heq, rfl⟩
        cases heq
        exact ⟨_, _, rfl, rfl⟩

theorem handleConsumer_raises (overdue : Bool) (error : DecodeRaised) (state : DecodeRun) :
    ∃ other after, (handleConsumer overdue error).exec state = (.error other, after) ∧
      ∀ raised, other.escape = some raised ↔ error.escape = some raised ∧ raised = .fatal := by
  cases error with
  | decode error => exact ⟨_, _, rfl, fun raised => by simp [DecodeRaised.escape]⟩
  | pump error => exact ⟨_, _, rfl, fun raised => by simp [DecodeRaised.escape]⟩
  | raised cause =>
      cases cause with
      | timeout => exact ⟨_, _, rfl, fun raised => by cases raised <;> simp [DecodeRaised.escape]⟩
      | failure => exact ⟨_, _, rfl, fun raised => by cases raised <;> simp [DecodeRaised.escape]⟩
      | fatal => exact ⟨_, _, rfl, fun raised => by cases raised <;> simp [DecodeRaised.escape]⟩
      | cancelled =>
          cases overdue with
          | false => exact ⟨_, _, rfl, fun raised => by simp [DecodeRaised.escape]⟩
          | true => exact ⟨_, _, rfl, fun raised => by simp [DecodeRaised.escape]⟩

theorem returns_deliverPacket_iff :
    (deliverPacket limits callees.deliver packet).Returns run done after ↔
      (callees.deliver packet).Delivered limits run.bridge.decodedFrames ∧
        after = run.deliver callees packet := by
  have hraises : ∀ error state, ∃ other after,
      (handleConsumer (callees.deliver packet).overdue error).exec state =
        (.error other, after) := by
    intro error state
    obtain ⟨other, left, hexec, -⟩ :=
      handleConsumer_raises (callees.deliver packet).overdue error state
    exact ⟨other, left, hexec⟩
  simp only [deliverPacket, Handler.returns_bind_iff, returns_pace_iff,
    Handler.returns_recover_iff hraises, returns_packetConsumer_iff, Handler.returns_modify_iff]
  constructor
  · rintro ⟨⟨⟩, _, ⟨hpacing, rfl⟩, ⟨⟩, _, ⟨value, hvalue, hemitted, rfl⟩, rfl⟩
    refine ⟨⟨hpacing, value, hvalue, hemitted⟩, ?_⟩
    rw [DecodeRun.deliver, PacketDelivery.items, hvalue]
  · rintro ⟨⟨hpacing, value, hvalue, hemitted⟩, rfl⟩
    refine ⟨(), run, ⟨hpacing, rfl⟩, (), _, ⟨value, hvalue, hemitted, rfl⟩, ?_⟩
    rw [DecodeRun.deliver, PacketDelivery.items, hvalue]

theorem escapes_deliverPacket_iff :
    (deliverPacket limits callees.deliver packet).Escapes DecodeRaised.escape run raised ↔
      (callees.deliver packet).Fatal limits run.bridge.decodedFrames ∧ raised = .fatal := by
  simp only [deliverPacket, Handler.escapes_bind_iff, escapes_pace_iff, returns_pace_iff,
    Handler.escapes_recover_iff (handleConsumer_raises _), escapes_packetConsumer_iff,
    Handler.not_escapes_modify, and_false, exists_false, or_false]
  constructor
  · rintro (⟨hpacing, rfl⟩ | ⟨⟨⟩, _, ⟨hpacing, rfl⟩, hfatal | hvalue, rfl⟩)
    · exact ⟨.inl hpacing, rfl⟩
    · exact ⟨.inr ⟨hpacing, .inl hfatal.1⟩, rfl⟩
    · exact ⟨.inr ⟨hpacing, .inr hvalue⟩, rfl⟩
  · rintro ⟨hpacing | ⟨hpacing, hfatal | hvalue⟩, rfl⟩
    · exact .inl ⟨hpacing, rfl⟩
    · exact .inr ⟨(), run, ⟨hpacing, rfl⟩, .inl ⟨hfatal, rfl⟩, rfl⟩
    · exact .inr ⟨(), run, ⟨hpacing, rfl⟩, .inr hvalue, rfl⟩

/-! ## The pump -/

theorem returns_startClock_iff {clock : Except CalleeRaise Unit} :
    (startClock clock).Returns run done after ↔ clock = .ok () ∧ after = run := by
  cases clock with
  | ok done =>
      rw [startClock, Handler.returns_pure_iff]
      simp
  | error other =>
      refine iff_of_false ?_ (by simp)
      intro h
      cases other <;> cases congrArg Prod.fst h

theorem escapes_startClock_iff {clock : Except CalleeRaise Unit} :
    (startClock clock).Escapes DecodeRaised.escape run raised ↔
      clock = .error .fatal ∧ raised = .fatal := by
  cases clock with
  | ok done =>
      refine iff_of_false Handler.not_escapes_pure (by simp)
  | error other =>
      constructor
      · rintro ⟨error, left, hexec, hescape⟩
        cases other <;> cases hexec <;> cases hescape
        exact ⟨rfl, rfl⟩
      · rintro ⟨heq, rfl⟩
        cases heq
        exact ⟨_, _, rfl, rfl⟩

theorem returns_endSource_iff {error : Option PlaybackScheduleError} {verified : Bool}
    {snapshot : PlaybackPumpSnapshot} :
    (endSource error verified).Returns run snapshot after ↔ error = none ∧
      snapshot = ⟨run.bridge.pump.deliveredPackets, verified⟩ ∧ after = run.pumped verified := by
  cases error with
  | some error =>
      refine iff_of_false ?_ (by simp)
      intro h
      cases congrArg Prod.fst h
  | none =>
      simp only [endSource, Handler.returns_bind_iff, Handler.returns_modify_iff,
        Handler.returns_read_iff, true_and]
      constructor
      · rintro ⟨⟨⟩, _, rfl, heq, rfl⟩
        cases heq
        exact ⟨rfl, rfl⟩
      · rintro ⟨rfl, rfl⟩
        exact ⟨⟨⟩, _, rfl, rfl, rfl⟩

theorem not_escapes_endSource {error : Option PlaybackScheduleError} {verified : Bool} :
    ¬ (endSource error verified).Escapes DecodeRaised.escape run raised := by
  rintro ⟨other, left, hexec, hescape⟩
  cases error with
  | some error =>
      cases hexec
      cases hescape
  | none => cases hexec

theorem decodedFrames_deliver (callees : PlaybackCallees) (run : DecodeRun)
    (packet : ScheduledPlaybackPacket) :
    (run.deliver callees packet).bridge.decodedFrames =
      run.bridge.decodedFrames + (callees.deliver packet).items.length :=
  decodedFrames_takeAll (run.called (.decoded packet)) _

theorem items_cons (callees : PlaybackCallees) (packet : ScheduledPlaybackPacket)
    (rest : List ScheduledPlaybackPacket) : callees.items (packet :: rest) =
      (callees.deliver packet).items ++ callees.items rest := rfl

theorem decodedFrames_deliverAll (callees : PlaybackCallees) (run : DecodeRun)
    (packets : List ScheduledPlaybackPacket) :
    (packets.foldl (DecodeRun.deliver callees) run).bridge.decodedFrames =
      run.bridge.decodedFrames + (callees.items packets).length := by
  induction packets generalizing run with
  | nil => rfl
  | cons packet rest ih =>
      rw [List.foldl_cons, ih, decodedFrames_deliver, items_cons, List.length_append]
      omega

end PlaybackDecode

/-- The packets of a list are delivered one after the other. -/
def AllDelivered (limits : PlaybackDecodeLimits) (callees : PlaybackCallees)
    (packets : List ScheduledPlaybackPacket) : Prop :=
  ∀ before packet rest, packets = before ++ packet :: rest →
    (callees.deliver packet).Delivered limits (callees.items before).length

/-- The pump gets through. -/
structure Pumped (limits : PlaybackDecodeLimits) (callees : PlaybackCallees)
    (source : Trace PlaybackScheduleError ScheduledPlaybackPacket) : Prop where
  clock : callees.clock = .ok ()
  delivered : AllDelivered limits callees source.items
  complete : source.error = none

/-- Foreign code raises what is no `Exception` while the pump is running. -/
def PumpFatal (limits : PlaybackDecodeLimits) (callees : PlaybackCallees)
    (source : Trace PlaybackScheduleError ScheduledPlaybackPacket) : Prop :=
  callees.clock = .error .fatal ∨ (callees.clock = .ok () ∧
    ∃ before packet rest, source.items = before ++ packet :: rest ∧
      AllDelivered limits callees before ∧
        (callees.deliver packet).Fatal limits (callees.items before).length)

/-- The whole of the inner `try` gets through. -/
structure Played (limits : PlaybackDecodeLimits) (callees : PlaybackCallees)
    (source : Trace PlaybackScheduleError ScheduledPlaybackPacket) (value : FramesValue) :
    Prop where
  pumped : Pumped limits callees source
  flushed : callees.flush = .ok value
  emitted : value.Emitted limits (callees.items source.items).length

/-- An exception gets through that nothing translates: foreign code raises what is no `Exception`,
or the flush returns something malformed. -/
def EscapesBody (limits : PlaybackDecodeLimits) (callees : PlaybackCallees)
    (source : Trace PlaybackScheduleError ScheduledPlaybackPacket) (raised : CalleeRaise) : Prop :=
  (PumpFatal limits callees source ∧ raised = .fatal) ∨ (Pumped limits callees source ∧
    ((callees.flush = .error .fatal ∧ raised = .fatal) ∨ ∃ value, callees.flush = .ok value ∧
      value.Raises limits raised (callees.items source.items).length))

namespace PlaybackDecode

variable {limits : PlaybackDecodeLimits} {run after : DecodeRun} {raised : CalleeRaise}
  {callees : PlaybackCallees} {source : Trace PlaybackScheduleError ScheduledPlaybackPacket}
  {verified : Bool}

theorem allOk_packets_iff {packets : List ScheduledPlaybackPacket}
    (hzero : run.bridge.decodedFrames = 0) :
    Handler.AllOk (fun run packet => (callees.deliver packet).Delivered limits
      run.bridge.decodedFrames) (DecodeRun.deliver callees) run packets ↔
        AllDelivered limits callees packets := by
  unfold Handler.AllOk AllDelivered
  simp only [decodedFrames_deliverAll, hzero, Nat.zero_add]

def pumpedRun (callees : PlaybackCallees)
    (source : Trace PlaybackScheduleError ScheduledPlaybackPacket) (verified : Bool)
    (run : DecodeRun) : DecodeRun :=
  (source.items.foldl (DecodeRun.deliver callees) (run.withPump .running)).pumped verified

theorem returns_pumpSource_iff {snapshot : PlaybackPumpSnapshot}
    (hzero : run.bridge.decodedFrames = 0) :
    (pumpSource limits callees source verified).Returns run snapshot after ↔
      Pumped limits callees source ∧ after = pumpedRun callees source verified run ∧
        snapshot = ⟨after.bridge.pump.deliveredPackets, verified⟩ := by
  have hzero' : (run.withPump .running).bridge.decodedFrames = 0 := hzero
  simp only [pumpSource, Handler.returns_bind_iff, Handler.returns_modify_iff,
    returns_startClock_iff, Handler.returns_forEach_iff (fun _ _ _ => returns_deliverPacket_iff),
    returns_endSource_iff]
  constructor
  · rintro ⟨⟨⟩, _, rfl, ⟨⟩, _, ⟨hclock, rfl⟩, ⟨⟩, _, ⟨hall, rfl⟩, hcomplete, rfl, rfl⟩
    exact ⟨⟨hclock, (allOk_packets_iff hzero').1 hall, hcomplete⟩, rfl, rfl⟩
  · rintro ⟨hpumped, rfl, rfl⟩
    exact ⟨⟨⟩, _, rfl, (), _, ⟨hpumped.clock, rfl⟩, (), _,
      ⟨(allOk_packets_iff hzero').2 hpumped.delivered, rfl⟩, hpumped.complete, rfl, rfl⟩

theorem escapes_pumpSource_iff (hzero : run.bridge.decodedFrames = 0) :
    (pumpSource limits callees source verified).Escapes DecodeRaised.escape run raised ↔
      PumpFatal limits callees source ∧ raised = .fatal := by
  have hzero' : (run.withPump .running).bridge.decodedFrames = 0 := hzero
  simp only [pumpSource, Handler.escapes_bind_iff, Handler.returns_modify_iff,
    Handler.not_escapes_modify, false_or, escapes_startClock_iff, returns_startClock_iff,
    Handler.escapes_forEach_iff (fun _ _ _ => returns_deliverPacket_iff),
    escapes_deliverPacket_iff, not_escapes_endSource, and_false, exists_false, or_false]
  constructor
  · rintro ⟨⟨⟩, _, rfl, ⟨hclock, rfl⟩ | ⟨⟨⟩, _, ⟨hclock, rfl⟩, hpacket⟩⟩
    · exact ⟨.inl hclock, rfl⟩
    · obtain ⟨before, packet, rest, hsplit, hall, hfatal, rfl⟩ := hpacket
      rw [decodedFrames_deliverAll, hzero', Nat.zero_add] at hfatal
      exact ⟨.inr ⟨hclock, before, packet, rest, hsplit, (allOk_packets_iff hzero').1 hall,
        hfatal⟩, rfl⟩
  · rintro ⟨hclock | ⟨hclock, before, packet, rest, hsplit, hall, hfatal⟩, rfl⟩
    · exact ⟨⟨⟩, _, rfl, .inl ⟨hclock, rfl⟩⟩
    · refine ⟨⟨⟩, _, rfl, .inr ⟨(), _, ⟨hclock, rfl⟩, before, packet, rest, hsplit,
        (allOk_packets_iff hzero').2 hall, ?_, rfl⟩⟩
      rwa [decodedFrames_deliverAll, hzero', Nat.zero_add]

/-! ## The body -/

theorem exec_pumpRun (hcreated : run.bridge.pump.state = .created) :
    (pumpRun limits callees).exec run =
      (pumpSource limits callees run.bridge.pump.schedule.iterPackets.1
        run.bridge.pump.schedule.iterPackets.2.descriptorVerified).exec run := by
  rw [pumpRun, Handler.exec_of, if_neg (not_not.2 hcreated)]

theorem returns_flush_iff {outcome : Except CalleeRaise FramesValue} {done : Unit} :
    (flush limits outcome).Returns run done after ↔
      ∃ value, outcome = .ok value ∧ value.Emitted limits run.bridge.decodedFrames ∧
        after = (value.items.foldl DecodeRun.takeFrame run).called .flushed := by
  simp only [flush, Handler.returns_bind_iff, returns_translated_iff, returns_emitFrames_iff,
    Handler.returns_modify_iff]
  constructor
  · rintro ⟨value, _, ⟨hvalue, rfl⟩, ⟨⟩, _, ⟨hemitted, rfl⟩, rfl⟩
    exact ⟨value, hvalue, hemitted, rfl⟩
  · rintro ⟨value, hvalue, hemitted, rfl⟩
    exact ⟨value, run, ⟨hvalue, rfl⟩, (), _, ⟨hemitted, rfl⟩, rfl⟩

theorem escapes_flush_iff {outcome : Except CalleeRaise FramesValue} :
    (flush limits outcome).Escapes DecodeRaised.escape run raised ↔
      (outcome = .error .fatal ∧ raised = .fatal) ∨ ∃ value, outcome = .ok value ∧
        value.Raises limits raised run.bridge.decodedFrames := by
  simp only [flush, Handler.escapes_bind_iff, escapes_translated_iff, returns_translated_iff,
    escapes_emitFrames_iff, Handler.not_escapes_modify, and_false, exists_false, or_false]
  constructor
  · rintro (hfatal | ⟨value, _, ⟨hvalue, rfl⟩, hraises⟩)
    · exact .inl hfatal
    · exact .inr ⟨value, hvalue, hraises⟩
  · rintro (hfatal | ⟨value, hvalue, hraises⟩)
    · exact .inl hfatal
    · exact .inr ⟨value, run, ⟨hvalue, rfl⟩, hraises⟩

theorem decodedFrames_pumpedRun (hzero : run.bridge.decodedFrames = 0) :
    (pumpedRun callees source verified run).bridge.decodedFrames =
      (callees.items source.items).length := by
  have hcount := decodedFrames_deliverAll callees (run.withPump .running) source.items
  rw [show (run.withPump .running).bridge.decodedFrames = 0 from hzero, Nat.zero_add] at hcount
  exact hcount

def playedRun (callees : PlaybackCallees)
    (source : Trace PlaybackScheduleError ScheduledPlaybackPacket) (verified : Bool)
    (value : FramesValue) (run : DecodeRun) : DecodeRun :=
  ((value.items.foldl DecodeRun.takeFrame (pumpedRun callees source verified run)).called
    .flushed).completed
      ⟨(pumpedRun callees source verified run).bridge.pump.deliveredPackets, verified⟩

/-- A bridge before its run hands this out to the pump. -/
structure Fresh (run : DecodeRun) (source : Trace PlaybackScheduleError ScheduledPlaybackPacket)
    (verified : Bool) : Prop where
  created : run.bridge.pump.state = .created
  source : run.bridge.pump.schedule.iterPackets.1 = source
  verified : run.bridge.pump.schedule.iterPackets.2.descriptorVerified = verified
  empty : run.bridge.decodedFrames = 0

theorem returns_pumpRun_iff (hfresh : Fresh run source verified) {snapshot : PlaybackPumpSnapshot} :
    (pumpRun limits callees).Returns run snapshot after ↔
      Pumped limits callees source ∧ after = pumpedRun callees source verified run ∧
        snapshot = ⟨after.bridge.pump.deliveredPackets, verified⟩ := by
  rw [← returns_pumpSource_iff hfresh.empty, Handler.Returns, exec_pumpRun hfresh.created,
    hfresh.source, hfresh.verified]
  rfl

theorem escapes_pumpRun_iff (hfresh : Fresh run source verified) :
    (pumpRun limits callees).Escapes DecodeRaised.escape run raised ↔
      PumpFatal limits callees source ∧ raised = .fatal := by
  rw [← escapes_pumpSource_iff hfresh.empty, Handler.Escapes, exec_pumpRun hfresh.created,
    hfresh.source, hfresh.verified]
  rfl

theorem returns_body_iff (hfresh : Fresh run source verified) {done : Unit} :
    (body limits callees).Returns run done after ↔
      ∃ value, Played limits callees source value ∧
        after = playedRun callees source verified value run := by
  simp only [body, Handler.returns_bind_iff, returns_pumpRun_iff hfresh, returns_flush_iff,
    Handler.returns_modify_iff]
  constructor
  · rintro ⟨_, _, ⟨hpumped, rfl, rfl⟩, ⟨⟩, _, ⟨value, hvalue, hemitted, rfl⟩, rfl⟩
    rw [decodedFrames_pumpedRun hfresh.empty] at hemitted
    exact ⟨value, ⟨hpumped, hvalue, hemitted⟩, rfl⟩
  · rintro ⟨value, ⟨hpumped, hvalue, hemitted⟩, rfl⟩
    rw [← decodedFrames_pumpedRun hfresh.empty] at hemitted
    exact ⟨_, _, ⟨hpumped, rfl, rfl⟩, (), _, ⟨value, hvalue, hemitted, rfl⟩, rfl⟩

theorem escapes_body_iff (hfresh : Fresh run source verified) :
    (body limits callees).Escapes DecodeRaised.escape run raised ↔
      EscapesBody limits callees source raised := by
  simp only [body, Handler.escapes_bind_iff, escapes_pumpRun_iff hfresh,
    returns_pumpRun_iff hfresh, escapes_flush_iff, Handler.not_escapes_modify, and_false,
    exists_false, or_false, EscapesBody]
  refine or_congr Iff.rfl ?_
  constructor
  · rintro ⟨_, _, ⟨hpumped, rfl, rfl⟩, hflush⟩
    rw [decodedFrames_pumpedRun hfresh.empty] at hflush
    exact ⟨hpumped, hflush⟩
  · rintro ⟨hpumped, hflush⟩
    rw [← decodedFrames_pumpedRun hfresh.empty] at hflush
    exact ⟨_, _, ⟨hpumped, rfl, rfl⟩, hflush⟩

end PlaybackDecode

end K5Vision.Media
