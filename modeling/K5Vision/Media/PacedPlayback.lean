import K5Vision.Media.PlaybackControl
import K5Vision.Media.PlaybackDecode
import K5Vision.Media.PlaybackFrames

/-!
# The pace of a playback

`BoundedPlaybackPump.run` over a bound `PlaybackPauseControl`, with its `wait_until_running` and its
`sleep`.  The task goes on from one await to the next, and a step begins with what it asks of the
control; the others pause and resume in between.  The readings of the clock come with a step, as
exact rationals, and so does what an await raises; the sleeper ends when it likes.
-/

namespace K5Vision.Media.PacedPlayback

open Library

/-! ## The pump -/

/-- How `run` ends; `fatal` stands for an exception that is neither an `Exception` nor a
cancellation. -/
inductive Exit
  | returned
  | cancelled
  | failed (error : PlaybackPumpError)
  | fatal
  deriving DecidableEq

/-- Where the task is: `waitRunning` and `waitAgain` are in front of `wait_until_running`, and so is
`sleep` inside of the loop of `sleep`, which then waits for its two tasks. -/
inductive Phase
  | start
  | next
  | waitRunning (packet : ScheduledPlaybackPacket)
  | sleep (packet : ScheduledPlaybackPacket) (target : ℚ)
  | wait (packet : ScheduledPlaybackPacket) (target : ℚ)
  | waitAgain (packet : ScheduledPlaybackPacket)
  | consume (packet : ScheduledPlaybackPacket)
  | ended (exit : Exit)
  deriving DecidableEq

/-- A packet as the consumer gets it, with the state of the control and the virtual time. -/
structure HandOver where
  packet : ScheduledPlaybackPacket
  control : PlaybackControlState
  time : ℚ

/-- `BoundedPlaybackPump`, its control with the clock, and the packets that are still to come. -/
structure Pump where
  log : PauseLog
  state : PlaybackPumpState
  started : ℚ
  phase : Phase
  rest : List ScheduledPlaybackPacket
  deliveredPackets : ℕ
  deliveredBytes : ℕ
  latePackets : ℕ
  scheduledSpanMs : ℕ
  handed : List HandOver

abbrev Schedule := Trace PlaybackScheduleError ScheduledPlaybackPacket

inductive Event
  | call (call : PauseCall)
  | goOn (first second : Option ℚ)
  | raises (raised : CalleeRaise)

namespace Pump

def create (clock : ℚ) (schedule : Schedule) : Pump :=
  ⟨.create clock, .running, 0, .start, schedule.items, 0, 0, 0, 0, []⟩

def finish (pump : Pump) (state : PlaybackPumpState) (exit : Exit) : Pump :=
  { pump with state := state, phase := .ended exit }

def fail (pump : Pump) (error : PlaybackPumpError) : Pump := pump.finish .failed (.failed error)

def pacingFailed (pump : Pump) : Pump :=
  pump.fail ⟨.pacingFailure, "playback pacing failed", none⟩

/-- `monotonic` of the control; `none` is its error. -/
def read (pump : Pump) (reading : Option ℚ) : Option (ℚ × Pump) :=
  match pump.log.control.monotonic reading with
  | .error _ => none
  | .ok time => some (time, { pump with log := pump.log.step (.monotonic reading) })

def dueTime (pump : Pump) (packet : ScheduledPlaybackPacket) : ℚ :=
  pump.started + packet.dueMs / 1000

/-- What is left to wait for, and `sleep` up to its loop. -/
def pace (pump : Pump) (packet : ScheduledPlaybackPacket) (first second : Option ℚ) : Pump :=
  match pump.read first with
  | none => pump.pacingFailed
  | some (now, pump) =>
      let remaining := pump.dueTime packet - now
      if 0 < remaining then
        match pump.read second with
        | none => pump.pacingFailed
        | some (now, pump) => { pump with phase := .sleep packet (now + remaining) }
      else
        { pump with
          phase := .waitAgain packet
          latePackets := pump.latePackets + if remaining < 0 then 1 else 0 }

/-- The call of the consumer, at an instant of the raw clock. -/
def handOver (pump : Pump) (packet : ScheduledPlaybackPacket) (instant : Option ℚ) : Pump :=
  let now := instant.getD pump.log.clock
  { pump with
    log := { pump.log with clock := now }
    phase := .consume packet
    handed := pump.handed ++ [⟨packet, pump.log.control.state, now - pump.log.pauses.time now⟩] }

/-- What `run` does behind its consumer. -/
def deliver (pump : Pump) (packet : ScheduledPlaybackPacket) : Pump :=
  { pump with
    phase := .next
    deliveredPackets := pump.deliveredPackets + 1
    deliveredBytes := pump.deliveredBytes + packet.packet.length
    scheduledSpanMs := packet.dueMs }

def goOn (schedule : Schedule) (pump : Pump) (first second : Option ℚ) : Pump :=
  match pump.phase with
  | .start =>
      match pump.read first with
      | none => pump.fail ⟨.pacingFailure, "playback pacing clock failed", none⟩
      | some (now, pump) => { pump with started := now, phase := .next }
  | .next =>
      match pump.rest, schedule.error with
      | packet :: rest, _ => { pump with phase := .waitRunning packet, rest := rest }
      | [], none => pump.finish .complete .returned
      | [], some error =>
          pump.fail ⟨.scheduleFailure, "playback schedule failed", some error.code⟩
  | .waitRunning packet =>
      if pump.log.control.state = .running then pump.pace packet first second else pump
  | .sleep packet target =>
      if pump.log.control.state = .running then
        match pump.read first with
        | none => pump.pacingFailed
        | some (now, pump) =>
            if target - now ≤ 0 then { pump with phase := .waitAgain packet }
            else { pump with phase := .wait packet target }
      else pump
  | .wait packet target => { pump with phase := .sleep packet target }
  | .waitAgain packet =>
      if pump.log.control.state = .running then pump.handOver packet first else pump
  | .consume packet => pump.deliver packet
  | .ended _ => pump

/-- An await of the task raises, as a task that is cancelled does. -/
def raises (pump : Pump) (raised : CalleeRaise) : Pump :=
  match pump.phase, raised with
  | .start, _ | .next, _ | .ended _, _ => pump
  | _, .cancelled => pump.finish .cancelled .cancelled
  | _, .fatal => { pump with phase := .ended .fatal }
  | .consume _, .timeout | .waitAgain _, .timeout =>
      pump.fail ⟨.consumerTimeout, "playback consumer timed out", none⟩
  | .consume _, .failure | .waitAgain _, .failure =>
      pump.fail ⟨.consumerFailure, "playback consumer failed", none⟩
  | _, _ => pump.pacingFailed

def step (schedule : Schedule) (pump : Pump) : Event → Pump
  | .call call => { pump with log := pump.log.step (.call call) }
  | .goOn first second => pump.goOn schedule first second
  | .raises raised => pump.raises raised

/-- All orders of steps, under a raw clock that does not go back. -/
def machine (schedule : Schedule) : Machine Pump Event where
  step := step schedule
  admissible pump
    | .call call => ∀ reading, call.reading = some reading → pump.log.clock ≤ reading
    | .goOn first second =>
        (∀ reading, first = some reading → pump.log.clock ≤ reading) ∧
          ∀ reading later, first = some reading → second = some later → reading ≤ later
    | .raises _ => True

/-! ## Runs -/

def now (pump : Pump) : ℚ := pump.log.clock - pump.log.pauses.time pump.log.clock

def packets (pump : Pump) : List ScheduledPlaybackPacket := pump.handed.map (·.packet)

/-- The counters are those of these packets. -/
def Counts (pump : Pump) (packets : List ScheduledPlaybackPacket) : Prop :=
  pump.deliveredPackets = packets.length ∧
    pump.deliveredBytes = (packets.map (·.packet.length)).sum ∧
    pump.scheduledSpanMs = (packets.getLast?.map (·.dueMs)).getD 0

def ExitsWell (schedule : Schedule) (pump : Pump) : Exit → Prop
  | .returned => pump.state = .complete ∧ schedule.error = none ∧ pump.packets = schedule.items ∧
      pump.Counts schedule.items
  | .cancelled => pump.state = .cancelled
  | .failed _ => pump.state = .failed
  | .fatal => True

/-- What is known in a phase: which packets are still to come, and what time it is for the packet at
hand.  The one that is with the consumer is not counted yet. -/
def At (schedule : Schedule) (pump : Pump) : Phase → Prop
  | .start => pump.handed = [] ∧ pump.packets ++ pump.rest = schedule.items ∧ pump.Counts []
  | .next => pump.packets ++ pump.rest = schedule.items ∧ pump.Counts pump.packets
  | .waitRunning packet =>
      pump.packets ++ packet :: pump.rest = schedule.items ∧ pump.Counts pump.packets
  | .sleep packet target | .wait packet target =>
      (pump.packets ++ packet :: pump.rest = schedule.items ∧ pump.Counts pump.packets) ∧
        pump.dueTime packet ≤ target
  | .waitAgain packet =>
      (pump.packets ++ packet :: pump.rest = schedule.items ∧ pump.Counts pump.packets) ∧
        pump.dueTime packet ≤ pump.now
  | .consume packet => pump.packets ++ pump.rest = schedule.items ∧
      ∃ before, pump.packets = before ++ [packet] ∧ pump.Counts before
  | .ended exit => pump.packets <+: schedule.items ∧ pump.ExitsWell schedule exit

structure Inv (schedule : Schedule) (pump : Pump) : Prop where
  log : pump.log.Inv
  admitted : ∀ handed ∈ pump.handed,
    handed.control = .running ∧ pump.dueTime handed.packet ≤ handed.time
  phase : pump.At schedule pump.phase

variable {schedule : Schedule} {pump : Pump} {reading first second : Option ℚ}

theorem At.packets_prefix {phase : Phase} (h : pump.At schedule phase) :
    pump.packets <+: schedule.items := by
  cases phase with
  | start => exact ⟨_, h.2.1⟩
  | next | waitRunning _ | consume _ | ended _ => first | exact h.1 | exact ⟨_, h.1⟩
  | sleep _ _ | wait _ _ | waitAgain _ => exact ⟨_, h.1.1⟩

theorem At.later {phase : Phase} (h : pump.At schedule phase) {log : PauseLog}
    (hnow : pump.now ≤ log.clock - log.pauses.time log.clock) :
    ({ pump with log := log } : Pump).At schedule phase := by
  cases phase with
  | waitAgain packet => exact ⟨h.1, h.2.trans hnow⟩
  | _ => exact h

theorem read_some (h : pump.log.Inv) (time : ℚ) : pump.read (some time) =
    some (time - pump.log.pauses.time time, { pump with log := { pump.log with
      clock := time
      shown := pump.log.shown ++ [time - pump.log.pauses.time time] } }) := by
  simp [read, PauseLog.step, PauseLog.Event.reading, h.monotonic_eq time]

/-- A reading of the clock raises, or it shows the time that it is then. -/
theorem read_cases (h : pump.log.Inv)
    (hclock : ∀ time, reading = some time → pump.log.clock ≤ time) :
    pump.read reading = none ∨ ∃ log : PauseLog, log.Inv ∧ reading = some log.clock ∧
      pump.now ≤ log.clock - log.pauses.time log.clock ∧ pump.read reading =
        some (log.clock - log.pauses.time log.clock, { pump with log := log }) := by
  cases reading with
  | none => exact .inl rfl
  | some time =>
      have hle := hclock time rfl
      refine .inr ⟨{ pump.log with
        clock := time
        shown := pump.log.shown ++ [time - pump.log.pauses.time time] }, ?_, rfl, ?_, ?_⟩
      · exact (h.advance hle).show
      · exact PauseLog.time_le hle _
      · exact read_some h time

theorem now_le_call {call : PauseCall}
    (hclock : ∀ time, call.reading = some time → pump.log.clock ≤ time) :
    pump.now ≤ ({ pump with log := pump.log.step (.call call) } : Pump).now := by
  cases hreading : call.reading with
  | none => rw [PauseLog.step_of_none _ hreading]
  | some time =>
      have hle := PauseLog.time_le (hclock time hreading) pump.log.pauses
      simpa [now, PauseLog.step, PauseLog.Event.reading, hreading,
        PauseLog.time_call _ _ hreading] using hle

theorem Inv.ends (h : Inv schedule pump) {state : PlaybackPumpState} {exit : Exit}
    (hexit : (pump.finish state exit).ExitsWell schedule exit) :
    Inv schedule (pump.finish state exit) :=
  ⟨h.log, h.admitted, h.phase.packets_prefix, hexit⟩

theorem Inv.raises (h : Inv schedule pump) (raised : CalleeRaise) :
    Inv schedule (pump.raises raised) := by
  unfold Pump.raises
  split
  any_goals exact h
  all_goals exact h.ends (by trivial)

theorem Inv.pace (h : Inv schedule pump) {packet : ScheduledPlaybackPacket}
    (hat : pump.At schedule (.waitRunning packet))
    (hadmissible : (machine schedule).admissible pump (.goOn first second)) :
    Inv schedule (pump.pace packet first second) := by
  unfold Pump.pace
  rcases read_cases h.log hadmissible.1 with hread | ⟨log, hlog, hfirst, hnow, hread⟩
  · rw [hread]
    exact h.ends rfl
  rw [hread]
  dsimp only
  have hlater : Inv schedule { pump with log := log } := ⟨hlog, h.admitted, h.phase.later hnow⟩
  split
  · have hsecond := fun time => hadmissible.2 log.clock time hfirst
    rcases @read_cases { pump with log := log } second hlog hsecond with
      hread | ⟨last, hlast, -, hle, hread⟩
    · rw [hread]
      exact hlater.ends rfl
    rw [hread]
    refine ⟨hlast, h.admitted, hat, ?_⟩
    change pump.dueTime packet ≤ _ + (pump.dueTime packet - _)
    rw [add_sub_left_comm]
    exact le_add_of_nonneg_right (sub_nonneg.2 hle)
  · rename_i hremaining
    exact ⟨hlog, h.admitted, hat, sub_nonpos.1 (not_lt.1 hremaining)⟩

theorem Inv.handOver (h : Inv schedule pump) {packet : ScheduledPlaybackPacket}
    (hat : pump.At schedule (.waitAgain packet)) (hrunning : pump.log.control.state = .running)
    (hfirst : ∀ time, first = some time → pump.log.clock ≤ time) :
    Inv schedule (pump.handOver packet first) := by
  have hclock : pump.log.clock ≤ first.getD pump.log.clock := by
    cases first with
    | none => exact le_rfl
    | some time => exact hfirst time rfl
  refine ⟨h.log.advance hclock, ?_, ?_, pump.packets, ?_, hat.1.2⟩
  · rw [Pump.handOver, List.forall_mem_append, List.forall_mem_singleton]
    exact ⟨h.admitted, hrunning, hat.2.trans (PauseLog.time_le hclock _)⟩
  all_goals simp [Pump.handOver, packets, ← hat.1.1]

theorem Inv.deliver (h : Inv schedule pump) {packet : ScheduledPlaybackPacket}
    (hat : pump.At schedule (.consume packet)) : Inv schedule (pump.deliver packet) := by
  obtain ⟨hitems, before, hbefore, hcounts⟩ := hat
  refine ⟨h.log, h.admitted, hitems, ?_⟩
  change Counts _ pump.packets
  rw [hbefore]
  simp [Counts, Pump.deliver, hcounts.1, hcounts.2.1]

theorem Inv.goOn (h : Inv schedule pump)
    (hadmissible : (machine schedule).admissible pump (.goOn first second)) :
    Inv schedule (pump.goOn schedule first second) := by
  have hat := h.phase
  unfold Pump.goOn
  split <;> rename_i hphase <;> rw [hphase] at hat
  · rcases read_cases h.log hadmissible.1 with hread | ⟨log, hlog, -, -, hread⟩
    · rw [hread]
      exact h.ends rfl
    · rw [hread]
      refine ⟨hlog, by simp [hat.1], hat.2.1, ?_⟩
      change Counts _ pump.packets
      rw [packets, hat.1]
      exact hat.2.2
  · cases hrest : pump.rest with
    | cons packet rest =>
        rw [At, hrest] at hat
        exact ⟨h.log, h.admitted, hat⟩
    | nil =>
        rw [At, hrest, List.append_nil] at hat
        cases herror : schedule.error with
        | none => exact h.ends ⟨rfl, herror, hat.1, hat.1 ▸ hat.2⟩
        | some error => exact h.ends rfl
  · split_ifs
    · exact h.pace hat hadmissible
    · exact h
  · split
    · rcases read_cases h.log hadmissible.1 with hread | ⟨log, hlog, -, -, hread⟩
      · rw [hread]
        exact h.ends rfl
      rw [hread]
      dsimp only
      split <;> rename_i hremaining
      · exact ⟨hlog, h.admitted, hat.1, hat.2.trans (sub_nonpos.1 hremaining)⟩
      · exact ⟨hlog, h.admitted, hat⟩
    · exact h
  · exact ⟨h.log, h.admitted, hat⟩
  · split_ifs with hrunning
    · exact h.handOver hat hrunning hadmissible.1
    · exact h
  · exact h.deliver hat
  · exact h

theorem Inv.step (h : Inv schedule pump) {event : Event}
    (hadmissible : (machine schedule).admissible pump event) :
    Inv schedule (pump.step schedule event) := by
  cases event with
  | call call =>
      exact ⟨h.log.step (.call call) hadmissible, h.admitted,
        h.phase.later (now_le_call hadmissible)⟩
  | goOn first second => exact h.goOn hadmissible
  | raises raised => exact h.raises raised

theorem inv_of_reaches {clock : ℚ} {events : List Event}
    (hrun : (machine schedule).Reaches (create clock schedule) events pump) :
    Inv schedule pump :=
  hrun.invariant (fun _ _ h hadmissible => h.step hadmissible)
    ⟨PauseLog.inv_create clock, by simp [create], rfl, rfl, rfl, rfl, rfl⟩

theorem Inv.exitsWell (h : Inv schedule pump) {exit : Exit} (hexit : pump.phase = .ended exit) :
    pump.ExitsWell schedule exit := by
  have hphase := h.phase
  rw [hexit] at hphase
  exact hphase.2

/-- In every run the packets are handed over in their order, each while the control runs and no
sooner than it is due; a pump that returns has delivered and counted all of them, and one that
raises an `Exception` or is cancelled says so by its state. -/
theorem playback_paced {clock : ℚ} {events : List Event}
    (hrun : (machine schedule).Reaches (create clock schedule) events pump) :
    pump.packets <+: schedule.items ∧
      (∀ handed ∈ pump.handed,
        handed.control = .running ∧ pump.dueTime handed.packet ≤ handed.time) ∧
      ∀ exit, pump.phase = .ended exit → pump.ExitsWell schedule exit :=
  have hinv := inv_of_reaches hrun
  ⟨hinv.phase.packets_prefix, hinv.admitted, fun _ hexit => hinv.exitsWell hexit⟩

def onePacket : Schedule := ⟨[⟨[], 0, 0, 40⟩], none⟩

/-- The packet is handed over when its time is over. -/
theorem playback_paced_once :
    let pump := [.goOn (some 0) none, .goOn none none, .goOn (some 1) none,
      .goOn (some 1) none].foldl (step onePacket) (create 0 onePacket)
    pump.packets = onePacket.items ∧ ∀ handed ∈ pump.handed, handed.control = .running ∧
      pump.dueTime handed.packet ≤ handed.time := by
  have hone {pump : Pump} (hclock : pump.log.clock ≤ 1) :
      (machine onePacket).admissible pump (.goOn (some 1) none) :=
    ⟨by simpa using hclock, by simp⟩
  have hrun : (machine onePacket).Reaches (create 0 onePacket)
      [.goOn (some 0) none, .goOn none none, .goOn (some 1) none, .goOn (some 1) none] _ :=
    ⟨by simp [machine, create, PauseLog.create], by simp [machine], hone (by decide +kernel),
      hone (by decide +kernel), rfl⟩
  exact ⟨by decide +kernel, (playback_paced hrun).2.1⟩

/-- A consumer that raises what is no `Exception` leaves a pump that is running. -/
theorem running_behind_exit :
    let pump := [.goOn (some 0) none, .goOn none none, .goOn (some 1) none, .goOn (some 1) none,
      .raises .fatal].foldl (step onePacket) (create 0 onePacket)
    pump.phase = .ended .fatal ∧ pump.state = .running := by
  decide +kernel

/-! ## From a recording to its consumer -/

/-- The packet at hand, and the time until which the task sleeps. -/
def awaited (pump : Pump) : Option (ScheduledPlaybackPacket × ℚ) :=
  match pump.phase with
  | .waitRunning packet | .waitAgain packet => some (packet, pump.dueTime packet)
  | .sleep packet target | .wait packet target => some (packet, target)
  | _ => none

/-- A packet at hand is not lost to the pauses: once the control runs and the time is over, the task
hands it over in three steps at most. -/
theorem hand_over_comes {clock time : ℚ} {events : List Event}
    (hrun : (machine schedule).Reaches (create clock schedule) events pump)
    {packet : ScheduledPlaybackPacket} {target : ℚ}
    (hawaited : pump.awaited = some (packet, target))
    (hcontrol : pump.log.control.state = .running)
    (htarget : target ≤ time - pump.log.pauses.time time) :
    ∃ n ≤ 3, ((List.replicate n (.goOn (some time) none)).foldl (step schedule) pump).packets =
      pump.packets ++ [packet] := by
  have hlog := (inv_of_reaches hrun).log
  have hlast (later : Pump) (hphase : later.phase = .waitAgain packet)
      (hrunning : later.log.control.state = .running) :
      (later.goOn schedule (some time) none).packets = later.packets ++ [packet] := by
    simp [Pump.goOn, hphase, hrunning, Pump.handOver, packets]
  have hsleep (later : Pump) (hphase : later.phase = .sleep packet target)
      (hsame : later.log = pump.log) :
      ((later.goOn schedule (some time) none).goOn schedule (some time) none).packets =
        later.packets ++ [packet] := by
    have hread := @read_some later (hsame ▸ hlog) time
    rw [hlast] <;> simp [Pump.goOn, hphase, hsame, hcontrol, hread, htarget, packets]
  unfold awaited at hawaited
  split at hawaited <;> cases hawaited <;> rename_i hphase
  · refine ⟨2, by omega, ?_⟩
    simp only [dueTime] at htarget
    change ((pump.goOn schedule (some time) none).goOn schedule (some time) none).packets = _
    rw [hlast] <;> simp [Pump.goOn, hphase, hcontrol, Pump.pace, read_some hlog, packets,
      dueTime, htarget.not_gt]
  · exact ⟨1, by omega, hlast pump hphase hcontrol⟩
  · exact ⟨2, by omega, hsleep pump hphase rfl⟩
  · refine ⟨3, le_rfl, ?_⟩
    have hwoken : pump.goOn schedule (some time) none =
        { pump with phase := .sleep packet target } := by
      simp [Pump.goOn, hphase]
    change (((pump.goOn schedule (some time) none).goOn schedule (some time) none).goOn schedule
      (some time) none).packets = _
    rw [hwoken]
    exact hsleep _ rfl rfl

/-- The task has taken its packet, and the time of the packet is over. -/
theorem hand_over_comes_once :
    ∃ n ≤ 3, ((List.replicate n (.goOn (some 1) none)).foldl (step onePacket)
        ([.goOn (some 0) none, .goOn none none].foldl (step onePacket)
          (create 0 onePacket))).packets = [⟨[], 0, 0, 40⟩] := by
  have hrun : (machine onePacket).Reaches (create 0 onePacket)
      [.goOn (some 0) none, .goOn none none] _ :=
    ⟨by simp [machine, create, PauseLog.create], by simp [machine], rfl⟩
  have htime : ([.goOn (some 0) none, .goOn none none].foldl (step onePacket)
      (create 0 onePacket)).awaited = some (⟨[], 0, 0, 40⟩, 1 / 25) := by
    decide +kernel
  exact hand_over_comes hrun htime rfl (by decide +kernel)

end Pump

end K5Vision.Media.PacedPlayback
