import K5Vision.Media.DecodeEnds
import K5Vision.Media.PlaybackFrames
import K5Vision.Media.PlaybackSession

/-!
# Exits of a playback

Every exit of the `run` of a decode bridge and of a playback session: the decoder is closed once, a
run that is complete has decoded all and flushed, and the state is terminal where no exception gets
through that nothing translates.

While the body of the bridge is running, whatever it calls, nothing has been closed and no error has
been kept (`Open`).  What it ends with decides the rest, together with the cleanup.
-/

namespace K5Vision.Media

open Library

namespace PlaybackDecode

variable {α : Type} {limits : PlaybackDecodeLimits} {callees : PlaybackCallees}
  {run after : DecodeRun} {raised : CalleeRaise}

/-! ## The body keeps out of the end -/

/-- The run is under way. -/
structure Open (run : DecodeRun) : Prop where
  state : run.bridge.state = .running
  primaryError : run.primaryError = none
  calls : .closed ∉ run.calls

/-- A part of the body, however it ends. -/
abbrev Keeps (method : Method α) : Prop := Handler.Spec Open method (fun _ => Open) Open

theorem keeps_read (f : DecodeRun → Except DecodeRaised α) : Keeps (Handler.read f) :=
  Handler.Spec.read (fun _ _ h _ => h) fun _ h => h

theorem keeps_require (condition : Bool) (error : DecodeRaised) :
    Keeps (Handler.require condition error) :=
  Handler.Spec.require (fun _ _ h => h) fun _ h => h

theorem keeps_modify {change : DecodeRun → DecodeRun}
    (hstate : ∀ run, (change run).bridge.state = run.bridge.state)
    (hprimary : ∀ run, (change run).primaryError = run.primaryError)
    (hcalls : ∀ run, .closed ∈ (change run).calls → .closed ∈ run.calls) :
    Keeps (modify change : Method PUnit) :=
  Handler.Spec.modify fun run h =>
    ⟨(hstate run).trans h.state, (hprimary run).trans h.primaryError,
      fun hmem => h.calls (hcalls run hmem)⟩

theorem keeps_withPump (state : PlaybackPumpState) :
    Keeps (modify fun run => run.withPump state : Method PUnit) :=
  keeps_modify (fun _ => rfl) (fun _ => rfl) fun _ h => h

theorem keeps_called {call : DecoderCall} (hcall : call ≠ .closed) :
    Keeps (modify fun run => run.called call : Method PUnit) := by
  refine keeps_modify (fun _ => rfl) (fun _ => rfl) ?_
  intro run hmem
  rcases List.mem_append.1 hmem with hbefore | hlast
  · exact hbefore
  · exact absurd (List.mem_singleton.1 hlast).symm hcall

theorem keeps_pumpFailed (error : PlaybackPumpError) : Keeps (pumpFailed error : Method α) :=
  (keeps_withPump .failed).bind fun _ => keeps_read _

theorem keeps_pumpCancelled : Keeps (pumpCancelled : Method α) :=
  (keeps_withPump .cancelled).bind fun _ => keeps_read _

theorem keeps_emitFrame (frame : FrameValue) : Keeps (emitFrame limits frame) := by
  cases frame with
  | other => exact keeps_read _
  | frame sourceElapsedMs payload consumer =>
      refine (keeps_read _).bind fun elapsed => ?_
      refine (keeps_require _ _).bind fun _ => ?_
      refine (keeps_read _).bind fun frameBytes => ?_
      refine (keeps_require _ _).bind fun _ => ?_
      refine (keeps_read _).bind fun _ => ?_
      refine (keeps_read _).bind fun _ => ?_
      exact keeps_modify (fun _ => rfl) (fun _ => rfl) fun _ h => h

theorem keeps_emitFrames (value : FramesValue) : Keeps (emitFrames limits value) := by
  cases value with
  | unsized other => exact keeps_read _
  | sized length items ends =>
      refine (keeps_require _ _).bind fun _ => ?_
      refine (Handler.Spec.forEach keeps_emitFrame items).bind fun _ => ?_
      exact keeps_read _

theorem keeps_decode (packet : ScheduledPlaybackPacket)
    (outcome : Except CalleeRaise FramesValue) : Keeps (decode packet outcome) := by
  refine (keeps_read _).bind fun frames => ?_
  exact (keeps_called (by nofun)).bind fun _ => Handler.Spec.pure fun _ h => h

theorem keeps_keepBoundary (error : DecodeRaised) : Keeps (keepBoundary error) := by
  cases error with
  | decode error =>
      have hkept : Keeps (modify fun run => { run with boundaryError := some error } :
          Method PUnit) := keeps_modify (fun _ => rfl) (fun _ => rfl) fun _ h => h
      exact hkept.bind fun _ => keeps_read _
  | pump error => exact keeps_read _
  | raised cause => exact keeps_read _

theorem keeps_handleConsumer (overdue : Bool) (error : DecodeRaised) :
    Keeps (handleConsumer overdue error) := by
  cases error with
  | decode error => exact keeps_pumpFailed _
  | pump error => exact keeps_pumpFailed _
  | raised cause =>
      cases cause with
      | timeout => exact keeps_pumpFailed _
      | failure => exact keeps_pumpFailed _
      | fatal => exact keeps_read _
      | cancelled =>
          cases overdue with
          | false => exact keeps_pumpCancelled
          | true => exact keeps_pumpFailed _

theorem keeps_pace (pacing : Except CalleeRaise Unit) : Keeps (pace pacing) := by
  cases pacing with
  | ok done => exact Handler.Spec.pure fun _ h => h
  | error cause =>
      cases cause with
      | timeout => exact keeps_pumpFailed _
      | failure => exact keeps_pumpFailed _
      | fatal => exact keeps_read _
      | cancelled => exact keeps_pumpCancelled

theorem keeps_startClock (clock : Except CalleeRaise Unit) : Keeps (startClock clock) := by
  cases clock with
  | ok done => exact Handler.Spec.pure fun _ h => h
  | error cause =>
      cases cause with
      | timeout => exact keeps_pumpFailed _
      | failure => exact keeps_pumpFailed _
      | fatal => exact keeps_read _
      | cancelled => exact keeps_read _

theorem keeps_deliverPacket (packet : ScheduledPlaybackPacket) :
    Keeps (deliverPacket limits callees.deliver packet) := by
  have hdelivered : Keeps (modify DecodeRun.delivered : Method PUnit) :=
    keeps_modify (fun _ => rfl) (fun _ => rfl) fun _ h => h
  have hpacket : Keeps (packetConsumer limits packet (callees.deliver packet).decoded) :=
    ((keeps_decode packet _).bind keeps_emitFrames).recover keeps_keepBoundary
  exact (keeps_pace _).bind fun _ =>
    (hpacket.recover (keeps_handleConsumer _)).bind fun _ => hdelivered

theorem keeps_endSource (error : Option PlaybackScheduleError) (verified : Bool) :
    Keeps (endSource error verified) := by
  cases error with
  | some error => exact keeps_pumpFailed _
  | none =>
      have hpumped : Keeps (modify fun run => run.pumped verified : Method PUnit) :=
        keeps_modify (fun _ => rfl) (fun _ => rfl) fun _ h => h
      exact hpumped.bind fun _ => keeps_read _

theorem keeps_pumpRun : Keeps (pumpRun limits callees) := by
  constructor
  intro run hopen
  rw [pumpRun, Handler.exec_of]
  by_cases hstate : run.bridge.pump.state ≠ .created
  · rw [if_pos hstate]
    exact hopen
  rw [if_neg hstate]
  have hpump : Keeps (pumpSource limits callees run.bridge.pump.schedule.iterPackets.1
      run.bridge.pump.schedule.iterPackets.2.descriptorVerified) := by
    refine (keeps_withPump .running).bind fun _ => ?_
    refine (keeps_startClock _).bind fun _ => ?_
    exact (Handler.Spec.forEach keeps_deliverPacket _).bind fun _ => keeps_endSource _ _
  exact hpump.run run hopen

theorem keeps_flush (outcome : Except CalleeRaise FramesValue) : Keeps (flush limits outcome) := by
  refine (keeps_read _).bind fun value => ?_
  exact (keeps_emitFrames value).bind fun _ => keeps_called (by nofun)

theorem spec_body : Handler.Spec Open (body limits callees) (fun _ _ => True) Open := by
  refine keeps_pumpRun.bind fun snapshot => ?_
  refine (keeps_flush callees.flush).bind fun _ => ?_
  exact Handler.Spec.modify fun _ _ => trivial

/-! ## What a run that gets through leaves -/

theorem calls_takeAll (run : DecodeRun) (frames : List FrameValue) :
    (frames.foldl DecodeRun.takeFrame run).calls = run.calls := by
  induction frames generalizing run with
  | nil => rfl
  | cons frame rest ih => exact ih _

theorem calls_deliverAll (run : DecodeRun) (packets : List ScheduledPlaybackPacket) :
    (packets.foldl (DecodeRun.deliver callees) run).calls =
      run.calls ++ packets.map DecoderCall.decoded := by
  induction packets generalizing run with
  | nil => exact (List.append_nil _).symm
  | cons packet rest ih =>
      have hpacket : (run.deliver callees packet).calls = run.calls ++ [.decoded packet] :=
        calls_takeAll _ _
      rw [List.foldl_cons, ih, hpacket, List.append_assoc]
      rfl

theorem calls_playedRun (source : Trace PlaybackScheduleError ScheduledPlaybackPacket)
    (verified : Bool) (value : FramesValue) (run : DecodeRun) :
    (playedRun callees source verified value run).calls =
      run.calls ++ source.items.map DecoderCall.decoded ++ [.flushed] := by
  have hpumped : (pumpedRun callees source verified run).calls =
      run.calls ++ source.items.map DecoderCall.decoded := calls_deliverAll _ _
  change (value.items.foldl DecodeRun.takeFrame
    (pumpedRun callees source verified run)).calls ++ [.flushed] = _
  rw [calls_takeAll, hpumped]

theorem primaryError_takeAll (run : DecodeRun) (frames : List FrameValue) :
    (frames.foldl DecodeRun.takeFrame run).primaryError = run.primaryError := by
  induction frames generalizing run with
  | nil => rfl
  | cons frame rest ih => exact ih _

theorem primaryError_deliverAll (run : DecodeRun) (packets : List ScheduledPlaybackPacket) :
    (packets.foldl (DecodeRun.deliver callees) run).primaryError = run.primaryError := by
  induction packets generalizing run with
  | nil => rfl
  | cons packet rest ih =>
      rw [List.foldl_cons, ih]
      exact primaryError_takeAll _ _

theorem primaryError_playedRun (source : Trace PlaybackScheduleError ScheduledPlaybackPacket)
    (verified : Bool) (value : FramesValue) (run : DecodeRun) :
    (playedRun callees source verified value run).primaryError = run.primaryError :=
  (primaryError_takeAll _ _).trans (primaryError_deliverAll _ _)

/-! ## The end of the run -/

def finished (close : Except CalleeRaise Unit)
    (outcome : Except DecodeRaised PlaybackDecodeSnapshot) (run : DecodeRun) :
    Except DecodeRaised PlaybackDecodeSnapshot × DecodeRun :=
  match close with
  | .ok () => (outcome, run.called .closed)
  | .error .fatal => (.error (.raised .fatal), run.called .closed)
  | .error .cancelled =>
      if run.primaryError = none then
        (.error (.raised .cancelled), (run.called .closed).withState .cancelled)
      else (outcome, run.called .closed)
  | .error .timeout | .error .failure =>
      if run.primaryError = none then
        (.error (.decode ⟨.cleanupFailure, "playback decoder cleanup failed", none⟩),
          (run.called .closed).withState .failed)
      else (outcome, run.called .closed)

variable {outcome : Except DecodeRaised PlaybackDecodeSnapshot}

theorem exec_ensure_cleanUp {method : Method PlaybackDecodeSnapshot}
    (close : Except CalleeRaise Unit) (h : method.exec run = (outcome, after)) :
    (method.ensure (cleanUp close) fun _ late => late).exec run = finished close outcome after := by
  have hafter (state : PlaybackDecodeState) (raised : DecodeRaised) (run : DecodeRun) :
      (afterCleanup state raised).exec run =
        if run.primaryError = none then (.error raised, run.withState state)
        else (.ok (), run) := rfl
  have hcleanUp : (cleanUp close).exec after =
      match close with
      | .ok () => (.ok (), after.called .closed)
      | .error .fatal => (.error (.raised .fatal), after.called .closed)
      | .error .cancelled =>
          (afterCleanup .cancelled (.raised .cancelled)).exec (after.called .closed)
      | .error .timeout | .error .failure =>
          (afterCleanup .failed (.decode ⟨.cleanupFailure, "playback decoder cleanup failed",
            none⟩)).exec (after.called .closed) := by
    cases close with
    | ok done => rfl
    | error cause => cases cause <;> rfl
  rw [Handler.ensure, Handler.exec_of, h]
  simp only [hcleanUp, hafter]
  have hsame : (after.called .closed).primaryError = after.primaryError := rfl
  rw [hsame]
  unfold finished
  by_cases hnone : after.primaryError = none
  · simp only [if_pos hnone]
    cases close with
    | ok done => rfl
    | error cause => cases cause <;> cases outcome <;> rfl
  · simp only [if_neg hnone]
    cases close with
    | ok done => rfl
    | error cause => cases cause <;> cases outcome <;> rfl

theorem exec_run (hcreated : run.bridge.state = .created)
    (h : ((body limits callees).recover handleBody >>= fun _ => snapshot).exec
      (run.withState .running) = (outcome, after)) :
    (PlaybackDecode.run limits callees).exec run = finished callees.close outcome after := by
  rw [PlaybackDecode.run, Handler.exec_read_bind, if_neg (not_not.2 hcreated)]
  dsimp only
  rw [Handler.exec_modify_bind]
  exact exec_ensure_cleanUp callees.close h

structure Handled (error : DecodeRaised) (run : DecodeRun) (other : DecodeRaised)
    (after : DecodeRun) : Prop where
  calls : after.calls = run.calls
  escape : other.escape = error.escape
  kept : error.escape = none → after.bridge.state ≠ .complete ∧ after.bridge.state.Terminal ∧
    after.primaryError ≠ none
  same : error.escape ≠ none → after = run
  translated : ∀ pump, other ≠ .pump pump

theorem exec_handleBody (error : DecodeRaised) (run : DecodeRun) :
    ∃ other after, (handleBody error).exec run = (.error other, after) ∧
      Handled error run other after := by
  cases error with
  | decode error =>
      exact ⟨_, _, rfl, rfl, rfl, fun _ => ⟨nofun, trivial, nofun⟩, fun h => absurd rfl h, nofun⟩
  | pump error =>
      exact ⟨_, _, rfl, rfl, rfl, fun _ => ⟨nofun, trivial, nofun⟩, fun h => absurd rfl h, nofun⟩
  | raised cause =>
      cases cause with
      | timeout => exact ⟨_, _, rfl, rfl, rfl, nofun, fun _ => rfl, nofun⟩
      | failure => exact ⟨_, _, rfl, rfl, rfl, nofun, fun _ => rfl, nofun⟩
      | fatal => exact ⟨_, _, rfl, rfl, rfl, nofun, fun _ => rfl, nofun⟩
      | cancelled =>
          exact ⟨_, _, rfl, rfl, rfl, fun _ => ⟨nofun, trivial, nofun⟩, fun h => absurd rfl h,
        nofun⟩

theorem exec_inner (hopen : Open run) :
    ∃ outcome after, ((body limits callees).recover handleBody >>= fun _ => snapshot).exec run =
        (outcome, after) ∧
      (((body limits callees).Returns run () after ∧ (outcome, after) = snapshot.exec after) ∨
        ∃ error left other, (body limits callees).exec run = (.error error, left) ∧ Open left ∧
          outcome = .error other ∧ Handled error left other after) := by
  cases hbody : (body limits callees).exec run with
  | mk result left =>
      cases result with
      | ok done =>
          refine ⟨(snapshot.exec left).1, (snapshot.exec left).2, ?_, .inl ⟨?_, rfl⟩⟩
          · rw [Handler.exec_bind, Handler.recover, Handler.exec_of, hbody]
          · exact hbody
      | error error =>
          obtain ⟨other, after, hhandle, hhandled⟩ := exec_handleBody error left
          refine ⟨.error other, after, ?_, .inr ⟨error, left, other, rfl, ?_, rfl, hhandled⟩⟩
          · rw [Handler.exec_bind, Handler.recover, Handler.exec_of, hbody]
            simp only [hhandle]
          · exact spec_body.of_error hopen hbody

theorem calls_finished (close : Except CalleeRaise Unit)
    (outcome : Except DecodeRaised PlaybackDecodeSnapshot) (run : DecodeRun) :
    (finished close outcome run).2.calls = run.calls ++ [.closed] := by
  unfold finished
  split
  · rfl
  · rfl
  · split <;> rfl
  · split <;> rfl
  · split <;> rfl

theorem finished_of_kept (h : run.primaryError ≠ none) (close : Except CalleeRaise Unit) :
    (finished close outcome run).2.bridge.state = run.bridge.state := by
  unfold finished
  simp only [if_neg h]
  split <;> rfl

theorem finished_of_none (h : run.primaryError = none) (close : Except CalleeRaise Unit) :
    (finished close outcome run).2.bridge.state =
      match close with
      | .ok () | .error .fatal => run.bridge.state
      | .error .cancelled => .cancelled
      | .error .timeout | .error .failure => .failed := by
  unfold finished
  simp only [if_pos h]
  cases close with
  | ok done => rfl
  | error cause => cases cause <;> rfl

theorem fresh_create (schedule : BoundedPlaybackSchedule) :
    Fresh ((DecodeRun.create schedule).withState .running) schedule.iterPackets.1
      schedule.iterPackets.2.descriptorVerified := ⟨rfl, rfl, rfl, rfl⟩

theorem open_create (schedule : BoundedPlaybackSchedule) :
    Open ((DecodeRun.create schedule).withState .running) := ⟨rfl, rfl, nofun⟩

theorem not_escapesBody_of_returns (schedule : BoundedPlaybackSchedule)
    (h : (body limits callees).Returns ((DecodeRun.create schedule).withState .running) () after) :
    ¬ EscapesBody limits callees schedule.iterPackets.1 raised := by
  rw [← escapes_body_iff (fresh_create schedule)]
  rintro ⟨error, left, hexec, -⟩
  cases h.symm.trans hexec

theorem escapesBody_iff_of_error (schedule : BoundedPlaybackSchedule) {left : DecodeRun}
    {error : DecodeRaised}
    (h : (body limits callees).exec ((DecodeRun.create schedule).withState .running) =
      (.error error, left)) :
    EscapesBody limits callees schedule.iterPackets.1 raised ↔ error.escape = some raised := by
  rw [← escapes_body_iff (fresh_create schedule), Handler.Escapes, h]
  constructor
  · rintro ⟨_, _, heq, hescape⟩
    cases heq
    exact hescape
  · intro hescape
    exact ⟨error, left, rfl, hescape⟩

structure ExitsWell (limits : PlaybackDecodeLimits) (callees : PlaybackCallees)
    (source : Trace PlaybackScheduleError ScheduledPlaybackPacket) (final : DecodeRun) :
    Prop where
  closed : final.calls.count .closed = 1
  complete : final.bridge.state = .complete → source.error = none ∧
    final.calls = source.items.map DecoderCall.decoded ++ [.flushed, .closed]
  terminal : final.bridge.state.Terminal ↔
    ¬ ((∃ raised, EscapesBody limits callees source raised) ∧
      (callees.close = .ok () ∨ callees.close = .error .fatal))

theorem count_closed {calls : List DecoderCall} (h : DecoderCall.closed ∉ calls) :
    (calls ++ [DecoderCall.closed]).count .closed = 1 := by
  rw [List.count_append, List.count_eq_zero.2 h]
  rfl

theorem exitsWell_of_returns (schedule : BoundedPlaybackSchedule)
    (h : (body limits callees).Returns ((DecodeRun.create schedule).withState .running) () after) :
    ExitsWell limits callees schedule.iterPackets.1 (finished callees.close outcome after).2 := by
  have hescapes (raised : CalleeRaise) :
      ¬ EscapesBody limits callees schedule.iterPackets.1 raised :=
    not_escapesBody_of_returns schedule h
  obtain ⟨value, hplayed, rfl⟩ := (returns_body_iff (fresh_create schedule)).1 h
  have hcalls : (playedRun callees schedule.iterPackets.1
      schedule.iterPackets.2.descriptorVerified value
      ((DecodeRun.create schedule).withState .running)).calls =
        schedule.iterPackets.1.items.map DecoderCall.decoded ++ [.flushed] :=
    calls_playedRun _ _ _ _
  constructor
  case closed =>
    rw [calls_finished, hcalls]
    refine count_closed ?_
    intro hmem
    rcases List.mem_append.1 hmem with hdecoded | hflushed
    · obtain ⟨packet, -, hpacket⟩ := List.mem_map.1 hdecoded
      cases hpacket
    · cases List.mem_singleton.1 hflushed
  case complete =>
    intro _
    rw [calls_finished, hcalls, List.append_assoc]
    exact ⟨hplayed.pumped.complete, rfl⟩
  case terminal =>
    refine iff_of_true ?_ fun hescape => hescape.1.elim hescapes
    rw [finished_of_none (primaryError_playedRun _ _ _ _)]
    cases callees.close with
    | ok done => trivial
    | error cause => cases cause <;> trivial

theorem exitsWell_of_handled (schedule : BoundedPlaybackSchedule) {left : DecodeRun}
    {error other : DecodeRaised}
    (h : (body limits callees).exec ((DecodeRun.create schedule).withState .running) =
      (.error error, left)) (hopen : Open left) (hhandled : Handled error left other after) :
    ExitsWell limits callees schedule.iterPackets.1 (finished callees.close outcome after).2 := by
  have hescape (raised : CalleeRaise) := @escapesBody_iff_of_error limits callees raised schedule
    left error h
  have hclosed : (finished callees.close outcome after).2.calls.count .closed = 1 := by
    rw [calls_finished, hhandled.calls]
    exact count_closed hopen.calls
  cases hkind : error.escape with
  | none =>
      obtain ⟨hcomplete, hterminal, hkept⟩ := hhandled.kept hkind
      rw [← finished_of_kept hkept callees.close] at hcomplete hterminal
      refine ⟨hclosed, fun hstate => absurd hstate hcomplete, iff_of_true hterminal ?_⟩
      rintro ⟨⟨raised, hraised⟩, -⟩
      rw [hescape, hkind] at hraised
      cases hraised
  | some raised =>
      have hsame : after = left := hhandled.same (by rw [hkind]; nofun)
      subst hsame
      have hstate : (finished callees.close outcome after).2.bridge.state =
          match callees.close with
          | .ok () | .error .fatal => .running
          | .error .cancelled => .cancelled
          | .error .timeout | .error .failure => .failed := by
        rw [finished_of_none hopen.primaryError, hopen.state]
      have hescapes : ∃ raised, EscapesBody limits callees schedule.iterPackets.1 raised :=
        ⟨raised, (hescape raised).2 hkind⟩
      refine ⟨hclosed, ?_, ?_⟩
      · rw [hstate]
        cases callees.close with
        | ok done => nofun
        | error cause => cases cause <;> nofun
      rw [hstate, and_iff_right hescapes]
      cases callees.close with
      | ok done => exact iff_of_false id fun h => h (.inl rfl)
      | error cause =>
          cases cause with
          | fatal => exact iff_of_false id fun h => h (.inr rfl)
          | cancelled => exact iff_of_true trivial (by simp)
          | timeout => exact iff_of_true trivial (by simp)
          | failure => exact iff_of_true trivial (by simp)

theorem run_exits (limits : PlaybackDecodeLimits) (callees : PlaybackCallees)
    (schedule : BoundedPlaybackSchedule) :
    ExitsWell limits callees schedule.iterPackets.1
      ((PlaybackDecode.run limits callees).exec (.create schedule)).2 := by
  obtain ⟨outcome, after, hinner, hbody | hfailed⟩ := exec_inner (open_create schedule)
  · rw [exec_run rfl hinner]
    exact exitsWell_of_returns schedule hbody.1
  · obtain ⟨error, left, other, herror, hleft, -, hhandled⟩ := hfailed
    rw [exec_run rfl hinner]
    exact exitsWell_of_handled schedule herror hleft hhandled

/-! ## What leaves the run of a bridge -/

theorem length_items_le (packets : List ScheduledPlaybackPacket)
    (h : AllDelivered limits callees packets) :
    (callees.items packets).length ≤ limits.maxFrames := by
  induction packets using List.reverseRecOn with
  | nil => exact Nat.zero_le _
  | append_singleton before last ih =>
      have hbefore : AllDelivered limits callees before := by
        rintro first packet rest rfl
        exact h first packet (rest ++ [last]) (by simp)
      obtain ⟨value, hvalue, hemitted⟩ := (h before last [] rfl).emitted
      have hlast : (callees.deliver last).items = value.items := by
        rw [PacketDelivery.items, hvalue]
      have hitems : callees.items (before ++ [last]) = callees.items before ++ value.items := by
        simp [PlaybackCallees.items, hlast]
      rw [hitems, List.length_append]
      cases value with
      | unsized other => exact hemitted.elim
      | sized length items ends =>
          rcases hemitted.2.1.room with hnil | hroom
          · rw [FramesValue.items, hnil]
            exact ih hbefore
          · exact hroom

def sourceSpan (frames : List FrameValue) : ℚ := (frames.map FrameValue.sourceMs).foldl max 0

theorem sourceSpan_nonneg (frames : List FrameValue) : 0 ≤ sourceSpan frames := by
  have hle (start : ℚ) (times : List ℚ) : start ≤ times.foldl max start := by
    induction times generalizing start with
    | nil => exact le_rfl
    | cons time rest ih => exact (le_max_left start time).trans (ih _)
  exact hle 0 _

theorem sourceSpanMs_takeAll (run : DecodeRun) (frames : List FrameValue) :
    (frames.foldl DecodeRun.takeFrame run).bridge.sourceSpanMs =
      (frames.map FrameValue.sourceMs).foldl max run.bridge.sourceSpanMs := by
  induction frames generalizing run with
  | nil => rfl
  | cons frame rest ih => exact ih _

theorem sourceSpanMs_deliverAll (run : DecodeRun) (packets : List ScheduledPlaybackPacket) :
    (packets.foldl (DecodeRun.deliver callees) run).bridge.sourceSpanMs =
      ((callees.items packets).map FrameValue.sourceMs).foldl max run.bridge.sourceSpanMs := by
  induction packets generalizing run with
  | nil => rfl
  | cons packet rest ih =>
      have hpacket : (run.deliver callees packet).bridge.sourceSpanMs =
          ((callees.deliver packet).items.map FrameValue.sourceMs).foldl max
            run.bridge.sourceSpanMs := sourceSpanMs_takeAll _ _
      rw [List.foldl_cons, ih, hpacket, items_cons, List.map_append, List.foldl_append]

theorem sourceSpanMs_playedRun (schedule : BoundedPlaybackSchedule) (verified : Bool)
    (value : FramesValue) :
    (playedRun callees schedule.iterPackets.1 verified value
      ((DecodeRun.create schedule).withState .running)).bridge.sourceSpanMs =
        sourceSpan (callees.items schedule.iterPackets.1.items ++ value.items) := by
  have hpumped : (pumpedRun callees schedule.iterPackets.1 verified
      ((DecodeRun.create schedule).withState .running)).bridge.sourceSpanMs =
        ((callees.items schedule.iterPackets.1.items).map FrameValue.sourceMs).foldl max 0 :=
    sourceSpanMs_deliverAll _ _
  have hflushed := sourceSpanMs_takeAll (pumpedRun callees schedule.iterPackets.1 verified
    ((DecodeRun.create schedule).withState .running)) value.items
  rw [hpumped, ← List.foldl_append, ← List.map_append] at hflushed
  exact hflushed

theorem decodedFrames_playedRun (schedule : BoundedPlaybackSchedule) (verified : Bool)
    {value : FramesValue} (h : Played limits callees schedule.iterPackets.1 value) :
    (playedRun callees schedule.iterPackets.1 verified value
      ((DecodeRun.create schedule).withState .running)).bridge.decodedFrames ≤
        maxDecodedFrames := by
  have hflushed := decodedFrames_takeAll (pumpedRun callees schedule.iterPackets.1 verified
    ((DecodeRun.create schedule).withState .running)) value.items
  rw [decodedFrames_pumpedRun rfl] at hflushed
  refine hflushed.trans_le (le_trans ?_ limits.frames_mem.2)
  have hitems := length_items_le _ h.pumped.delivered
  have hemitted := h.emitted
  cases value with
  | unsized other => exact hemitted.elim
  | sized length items ends =>
      rcases hemitted.2.1.room with hnil | hroom
      · rw [FramesValue.items, hnil]
        exact hitems
      · exact hroom

theorem exec_snapshot_playedRun (schedule : BoundedPlaybackSchedule) (verified : Bool)
    {value : FramesValue} (h : Played limits callees schedule.iterPackets.1 value) :
    snapshot.exec (playedRun callees schedule.iterPackets.1 verified value
        ((DecodeRun.create schedule).withState .running)) =
      (if (sourceSpan (callees.items schedule.iterPackets.1.items ++ value.items)).isInt then
        .ok (observed (playedRun callees schedule.iterPackets.1 verified value
          ((DecodeRun.create schedule).withState .running)).bridge)
        else .error (.raised .failure),
      playedRun callees schedule.iterPackets.1 verified value
        ((DecodeRun.create schedule).withState .running)) := by
  have hframes := decodedFrames_playedRun schedule verified h
  by_cases hwhole :
      (sourceSpan (callees.items schedule.iterPackets.1.items ++ value.items)).isInt = true
  · rw [if_pos hwhole, snapshot, Handler.read, Handler.exec_of, sourceSpanMs_playedRun,
      if_pos ⟨hframes, sourceSpan_nonneg _, hwhole⟩]
  · rw [if_neg hwhole, snapshot, Handler.read, Handler.exec_of, sourceSpanMs_playedRun,
      if_neg fun hvalid => hwhole hvalid.2.2]

/-- An exception that nothing translates leaves the run of a bridge. -/
def EscapesRun (limits : PlaybackDecodeLimits) (callees : PlaybackCallees)
    (source : Trace PlaybackScheduleError ScheduledPlaybackPacket) (raised : CalleeRaise) : Prop :=
  (callees.close = .error .fatal ∧ raised = .fatal) ∨ (callees.close = .ok () ∧
    (EscapesBody limits callees source raised ∨ (raised = .failure ∧ ∃ value,
      Played limits callees source value ∧
        (sourceSpan (callees.items source.items ++ value.items)).isInt = false)))

inductive LeavesWith (limits : PlaybackDecodeLimits) (callees : PlaybackCallees)
    (source : Trace PlaybackScheduleError ScheduledPlaybackPacket) :
    Except DecodeRaised PlaybackDecodeSnapshot → DecodeRun → Prop
  | result {snapshot : PlaybackDecodeSnapshot} {final : DecodeRun}
      (hstate : final.bridge.state = .complete)
      (hnone : ∀ raised, ¬ EscapesRun limits callees source raised) :
      LeavesWith limits callees source (.ok snapshot) final
  | cancelled {final : DecodeRun} (hnone : ∀ raised, ¬ EscapesRun limits callees source raised) :
      LeavesWith limits callees source (.error (.raised .cancelled)) final
  | decode {error : PlaybackDecodeError} {final : DecodeRun}
      (hnone : ∀ raised, ¬ EscapesRun limits callees source raised) :
      LeavesWith limits callees source (.error (.decode error)) final
  | escaped {raised : CalleeRaise} {final : DecodeRun} (hraised : raised ≠ .cancelled)
      (hescapes : EscapesRun limits callees source raised) :
      LeavesWith limits callees source (.error (.raised raised)) final

variable {source : Trace PlaybackScheduleError ScheduledPlaybackPacket}
  {outcome : Except DecodeRaised PlaybackDecodeSnapshot}

theorem not_escapesRun_of_close (hok : callees.close ≠ .ok ())
    (hfatal : callees.close ≠ .error .fatal) : ¬ EscapesRun limits callees source raised := by
  rintro (⟨hclose, -⟩ | ⟨hclose, -⟩)
  · exact hfatal hclose
  · exact hok hclose

theorem leaves_of_none (hnone : run.primaryError = none)
    (hok : callees.close = .ok () → LeavesWith limits callees source outcome (run.called .closed)) :
    LeavesWith limits callees source (finished callees.close outcome run).1
      (finished callees.close outcome run).2 := by
  unfold finished
  simp only [if_pos hnone]
  have hother := @not_escapesRun_of_close limits callees
  cases hclose : callees.close with
  | ok done => exact hok hclose
  | error cause =>
      cases cause with
      | fatal => exact .escaped nofun (.inl ⟨hclose, rfl⟩)
      | cancelled => exact .cancelled fun _ => hother (by simp [hclose]) (by simp [hclose])
      | timeout => exact .decode fun _ => hother (by simp [hclose]) (by simp [hclose])
      | failure => exact .decode fun _ => hother (by simp [hclose]) (by simp [hclose])

theorem leaves_of_kept (hkept : run.primaryError ≠ none) (hother : callees.close ≠ .error .fatal →
      LeavesWith limits callees source outcome (run.called .closed)) :
    LeavesWith limits callees source (finished callees.close outcome run).1
      (finished callees.close outcome run).2 := by
  unfold finished
  simp only [if_neg hkept]
  cases hclose : callees.close with
  | ok done => exact hother (by simp [hclose])
  | error cause =>
      cases cause with
      | fatal => exact .escaped nofun (.inl ⟨hclose, rfl⟩)
      | cancelled => exact hother (by simp [hclose])
      | timeout => exact hother (by simp [hclose])
      | failure => exact hother (by simp [hclose])

theorem leaves_of_returns (schedule : BoundedPlaybackSchedule)
    (h : (body limits callees).Returns ((DecodeRun.create schedule).withState .running) () after)
    (houtcome : (outcome, after) = snapshot.exec after) :
    LeavesWith limits callees schedule.iterPackets.1 (finished callees.close outcome after).1
      (finished callees.close outcome after).2 := by
  have hbody (raised : CalleeRaise) :
      ¬ EscapesBody limits callees schedule.iterPackets.1 raised :=
    not_escapesBody_of_returns schedule h
  obtain ⟨value, hplayed, rfl⟩ := (returns_body_iff (fresh_create schedule)).1 h
  refine leaves_of_none (primaryError_playedRun _ _ _ _) fun hclose => ?_
  rw [exec_snapshot_playedRun schedule _ hplayed, Prod.mk.injEq] at houtcome
  rw [houtcome.1]
  by_cases hwhole :
      (sourceSpan (callees.items schedule.iterPackets.1.items ++ value.items)).isInt = true
  · rw [if_pos hwhole]
    refine .result rfl ?_
    rintro raised (⟨hfatal, -⟩ | ⟨-, hescapes | ⟨-, other, hother, hspan⟩⟩)
    · rw [hclose] at hfatal
      cases hfatal
    · exact hbody raised hescapes
    · cases hplayed.flushed.symm.trans hother.flushed
      rw [hwhole] at hspan
      cases hspan
  · rw [if_neg hwhole]
    exact .escaped nofun (.inr ⟨hclose, .inr ⟨rfl, value, hplayed, by simpa using hwhole⟩⟩)

theorem leaves_of_handled (schedule : BoundedPlaybackSchedule) {left : DecodeRun}
    {error other : DecodeRaised}
    (h : (body limits callees).exec ((DecodeRun.create schedule).withState .running) =
      (.error error, left)) (hopen : Open left) (hhandled : Handled error left other after) :
    LeavesWith limits callees schedule.iterPackets.1
      (finished callees.close (.error other) after).1
      (finished callees.close (.error other) after).2 := by
  have hescape (raised : CalleeRaise) := @escapesBody_iff_of_error limits callees raised schedule
    left error h
  have hplayed (value : FramesValue) :
      ¬ Played limits callees schedule.iterPackets.1 value := by
    intro hplayed
    have hreturns : (body limits callees).Returns _ () _ :=
      (returns_body_iff (fresh_create schedule)).2 ⟨value, hplayed, rfl⟩
    cases h.symm.trans hreturns
  cases hkind : error.escape with
  | none =>
      obtain ⟨-, -, hkept⟩ := hhandled.kept hkind
      refine leaves_of_kept hkept fun hfatal => ?_
      have hnone (raised : CalleeRaise) :
          ¬ EscapesRun limits callees schedule.iterPackets.1 raised := by
        rintro (⟨hclose, -⟩ | ⟨-, hescapes | ⟨-, value, hvalue, -⟩⟩)
        · exact hfatal hclose
        · rw [hescape, hkind] at hescapes
          cases hescapes
        · exact hplayed value hvalue
      have hother := hhandled.escape
      rw [hkind] at hother
      cases other with
      | decode error => exact .decode hnone
      | pump error => exact absurd rfl (hhandled.translated error)
      | raised cause =>
          cases cause with
          | cancelled => exact .cancelled hnone
          | timeout => cases hother
          | failure => cases hother
          | fatal => cases hother
  | some raised =>
      have hsame : after = left := hhandled.same (by rw [hkind]; nofun)
      subst hsame
      refine leaves_of_none hopen.primaryError fun hclose => ?_
      have hother := hhandled.escape
      rw [hkind] at hother
      cases other with
      | decode error => cases hother
      | pump error => cases hother
      | raised cause =>
          obtain ⟨rfl, hne⟩ := escape_raised_iff.1 hother
          exact .escaped hne (.inr ⟨hclose, .inl ((hescape cause).2 hkind)⟩)

theorem run_leaves (limits : PlaybackDecodeLimits) (callees : PlaybackCallees)
    (schedule : BoundedPlaybackSchedule) :
    LeavesWith limits callees schedule.iterPackets.1
      ((PlaybackDecode.run limits callees).exec (.create schedule)).1
      ((PlaybackDecode.run limits callees).exec (.create schedule)).2 := by
  obtain ⟨outcome, after, hinner, ⟨hbody, houtcome⟩ | hfailed⟩ := exec_inner (open_create schedule)
  · rw [exec_run rfl hinner]
    exact leaves_of_returns schedule hbody houtcome
  · obtain ⟨error, left, other, herror, hleft, rfl, hhandled⟩ := hfailed
    rw [exec_run rfl hinner]
    exact leaves_of_handled schedule herror hleft hhandled

end PlaybackDecode

/-! ## Sessions -/

namespace BoundedPlaybackSession

variable {limits : PlaybackDecodeLimits} {callees : SessionCallees}

structure ExitsWell (limits : PlaybackDecodeLimits) (callees : SessionCallees)
    (source : Trace PlaybackScheduleError ScheduledPlaybackPacket)
    (final : BoundedPlaybackSession) : Prop where
  closed : callees.factory = .ok true → final.decode.calls.count .closed = 1
  undecoded : callees.factory ≠ .ok true → final.decode.calls = []
  complete : final.snapshot.state = .complete → source.error = none ∧
    final.decode.calls = source.items.map DecoderCall.decoded ++ [.flushed, .closed]
  terminal : final.snapshot.state.Terminal ↔
    ¬ (callees.factory = .error .fatal ∨ (callees.factory = .ok true ∧ callees.composed = true ∧
      ∃ raised, PlaybackDecode.EscapesRun limits callees.decoder source raised))

def bound (schedule : BoundedPlaybackSchedule) : BoundedPlaybackSession :=
  ((create schedule).withState .running).initialized

theorem exec_run (schedule : BoundedPlaybackSchedule) :
    (run limits callees).exec (create schedule) =
      ((body limits callees).recover handleBody).exec ((create schedule).withState .running) := rfl

theorem exec_body_of_composed (schedule : BoundedPlaybackSchedule)
    (hfactory : callees.factory = .ok true) (hcomposed : callees.composed = true) :
    (body limits callees).exec ((create schedule).withState .running) =
      match (PlaybackDecode.run limits callees.decoder).exec (.create schedule) with
      | (.ok result, after) =>
          (.ok ({ bound schedule with decode := after }.completed result).snapshot,
            { bound schedule with decode := after }.completed result)
      | (.error raised, after) =>
          (.error (.inner raised), { bound schedule with decode := after }) := by
  unfold body
  rw [hfactory, hcomposed]
  change (runBridge limits callees.decoder >>= fun result =>
    ((modify fun session => session.completed result : Method PUnit) >>= fun _ =>
      Handler.read fun session => .ok session.snapshot)).exec (bound schedule) = _
  rw [Handler.exec_bind, runBridge, Handler.exec_of]
  have hdecode : (bound schedule).decode = .create schedule := rfl
  rw [hdecode]
  rcases hrun : (PlaybackDecode.run limits callees.decoder).exec (.create schedule) with
    ⟨outcome, after⟩
  cases outcome with
  | ok result => rfl
  | error raised => rfl

theorem exitsWell_of_composed (schedule : BoundedPlaybackSchedule)
    (hfactory : callees.factory = .ok true) (hcomposed : callees.composed = true) :
    ExitsWell limits callees schedule.iterPackets.1
      ((run limits callees).exec (create schedule)).2 := by
  have hexits := PlaybackDecode.run_exits limits callees.decoder schedule
  have hleaves := PlaybackDecode.run_leaves limits callees.decoder schedule
  rw [exec_run, Handler.recover, Handler.exec_of, exec_body_of_composed schedule hfactory hcomposed]
  rcases hrun : (PlaybackDecode.run limits callees.decoder).exec (.create schedule) with
    ⟨outcome, after⟩
  rw [hrun] at hexits hleaves
  have hnot : callees.factory ≠ .error .fatal := by
    rw [hfactory]
    nofun
  have hescapes : (callees.factory = .error .fatal ∨ (callees.factory = .ok true ∧
      callees.composed = true ∧ ∃ raised, PlaybackDecode.EscapesRun limits callees.decoder
        schedule.iterPackets.1 raised)) ↔
      ∃ raised, PlaybackDecode.EscapesRun limits callees.decoder schedule.iterPackets.1
        raised := by
    rw [or_iff_right hnot, and_iff_right hfactory, and_iff_right hcomposed]
  cases hleaves with
  | result hstate hnone =>
      refine ⟨fun _ => hexits.closed, fun h => absurd hfactory h, fun _ => hexits.complete hstate,
        ?_⟩
      rw [hescapes]
      exact iff_of_true trivial fun ⟨raised, hraised⟩ => hnone raised hraised
  | cancelled hnone =>
      refine ⟨fun _ => hexits.closed, fun h => absurd hfactory h, nofun, ?_⟩
      rw [hescapes]
      exact iff_of_true trivial fun ⟨raised, hraised⟩ => hnone raised hraised
  | decode hnone =>
      refine ⟨fun _ => hexits.closed, fun h => absurd hfactory h, nofun, ?_⟩
      rw [hescapes]
      exact iff_of_true trivial fun ⟨raised, hraised⟩ => hnone raised hraised
  | @escaped raised _ hraised hescape =>
      -- Neither clause of the session takes the exception.
      have hstuck : ∀ final : BoundedPlaybackSession, final.decode = after →
          final.snapshot.state = .running →
          ExitsWell limits callees schedule.iterPackets.1 final := by
        intro final hdecode hstate
        refine ⟨fun _ => hdecode ▸ hexits.closed, fun h => absurd hfactory h, ?_, ?_⟩
        · rw [hstate]
          nofun
        · rw [hescapes, hstate]
          exact iff_of_false id fun h => h ⟨raised, hescape⟩
      cases raised with
      | cancelled => exact absurd rfl hraised
      | timeout => exact hstuck _ rfl rfl
      | failure => exact hstuck _ rfl rfl
      | fatal => exact hstuck _ rfl rfl

theorem exitsWell_of_refused (schedule : BoundedPlaybackSchedule)
    (hfactory : callees.factory ≠ .ok true) :
    ExitsWell limits callees schedule.iterPackets.1
      ((run limits callees).exec (create schedule)).2 := by
  obtain ⟨factory, composed, decoder⟩ := callees
  have hends (state : PlaybackSessionState) (hcomplete : state ≠ .complete)
      (hterminal : state.Terminal ↔ factory ≠ .error .fatal) :
      ExitsWell limits ⟨factory, composed, decoder⟩ schedule.iterPackets.1
        ((create schedule).withState state) := by
    refine ⟨fun h => absurd h hfactory, fun _ => rfl, fun h => absurd h hcomplete,
      hterminal.trans (not_congr ?_)⟩
    exact ⟨.inl, fun h => h.elim id fun hmade => absurd hmade.1 hfactory⟩
  cases factory with
  | error cause =>
      cases cause with
      | timeout => exact hends .failed nofun (iff_of_true trivial nofun)
      | failure => exact hends .failed nofun (iff_of_true trivial nofun)
      | cancelled => exact hends .cancelled nofun (iff_of_true trivial nofun)
      | fatal => exact hends .running nofun (iff_of_false id fun h => h rfl)
  | ok callable =>
      cases callable with
      | true => exact absurd rfl hfactory
      | false => exact hends .failed nofun (iff_of_true trivial nofun)

theorem exitsWell_of_uncomposed (schedule : BoundedPlaybackSchedule)
    (hfactory : callees.factory = .ok true) (hcomposed : callees.composed = false) :
    ExitsWell limits callees schedule.iterPackets.1
      ((run limits callees).exec (create schedule)).2 := by
  obtain ⟨factory, composed, decoder⟩ := callees
  cases hfactory
  cases hcomposed
  refine ⟨fun _ => rfl, fun h => absurd rfl h, nofun, iff_of_true trivial ?_⟩
  rintro (hfatal | ⟨-, hcomposed, -⟩)
  · cases hfatal
  · cases hcomposed

theorem run_exits (limits : PlaybackDecodeLimits) (callees : SessionCallees)
    (schedule : BoundedPlaybackSchedule) :
    ExitsWell limits callees schedule.iterPackets.1
      ((run limits callees).exec (create schedule)).2 := by
  by_cases hfactory : callees.factory = .ok true
  · cases hcomposed : callees.composed with
    | true => exact exitsWell_of_composed schedule hfactory hcomposed
    | false => exact exitsWell_of_uncomposed schedule hfactory hcomposed
  · exact exitsWell_of_refused schedule hfactory

end BoundedPlaybackSession

/-- Every exit of a bridge and of a session: the decoder is closed once, nothing is complete that
has not been decoded and flushed, and the state is terminal where nothing escapes. -/
theorem playback_exits (limits : PlaybackDecodeLimits) (schedule : BoundedPlaybackSchedule) :
    (∀ callees : PlaybackCallees, PlaybackDecode.ExitsWell limits callees schedule.iterPackets.1
      ((PlaybackDecode.run limits callees).exec (.create schedule)).2) ∧
    ∀ callees : SessionCallees,
      BoundedPlaybackSession.ExitsWell limits callees schedule.iterPackets.1
        ((BoundedPlaybackSession.run limits callees).exec (.create schedule)).2 :=
  ⟨fun callees => PlaybackDecode.run_exits limits callees schedule,
    fun callees => BoundedPlaybackSession.run_exits limits callees schedule⟩

/-! ## A flush that returns nothing -/

def defaultDecodeLimits : PlaybackDecodeLimits :=
  ⟨1000000, 8, 32 * 1024 * 1024, by decide, by decide, by decide⟩

/-- A decoder that has no frames for a packet, and whose `flush` returns `None`. -/
def silentDecoder : PlaybackCallees where
  clock := .ok ()
  deliver _ := ⟨.ok (), .ok (.sized 0 [] (.ok ())), false⟩
  flush := .ok (.unsized .failure)
  close := .ok ()

def onePacketSchedule : BoundedPlaybackSchedule :=
  .start (some (recordingFile [barePacket 0])) (bareDescriptor [0] 0) 0 0
    PlaybackRate.normal.ratio .default

theorem onePacketSchedule_complete : onePacketSchedule.iterPackets.1.error = none := by
  have hlt : ∀ t ∈ [0], t < 2 ^ 32 := by decide
  have hforward : Forward (([0].map barePacket).map rtpTimestamp) := by
    rw [map_rtpTimestamp_barePacket hlt]
    decide
  have htrace := ((BoundedPlaybackSchedule.iterPackets_start 0 0 PlaybackRate.normal.ratio
    (matches_bareDescriptor hlt 0) (counts_bareDescriptor [0] 0)
    (fits_barePackets [0] (by decide))).1 hforward).1
  exact congrArg Trace.error htrace

theorem silentDecoder_escapes :
    EscapesBody defaultDecodeLimits silentDecoder onePacketSchedule.iterPackets.1 .failure := by
  have hdelivered : AllDelivered defaultDecodeLimits silentDecoder
      onePacketSchedule.iterPackets.1.items := by
    intro before packet rest _
    have hfit : FramesFit defaultDecodeLimits (silentDecoder.items before).length [] :=
      ⟨fun _ hframe => absurd hframe List.not_mem_nil, .inl rfl⟩
    exact ⟨rfl, _, rfl, Nat.zero_le _, hfit, rfl⟩
  exact .inr ⟨⟨rfl, hdelivered, onePacketSchedule_complete⟩, .inr ⟨_, rfl, rfl, nofun⟩⟩

/-- The bridge and the session are running when nothing runs any more. -/
theorem playback_exits_running : ¬ ((PlaybackDecode.run defaultDecodeLimits silentDecoder).exec
        (.create onePacketSchedule)).2.bridge.state.Terminal ∧
      ¬ ((BoundedPlaybackSession.run defaultDecodeLimits ⟨.ok true, true, silentDecoder⟩).exec
        (.create onePacketSchedule)).2.snapshot.state.Terminal := by
  constructor
  · rw [(PlaybackDecode.run_exits _ _ _).terminal, not_not]
    exact ⟨⟨.failure, silentDecoder_escapes⟩, .inl rfl⟩
  · rw [(BoundedPlaybackSession.run_exits _ _ _).terminal, not_not]
    exact .inr ⟨rfl, rfl, .failure, .inr ⟨rfl, .inl silentDecoder_escapes⟩⟩

end K5Vision.Media
