import K5Vision.Library.Handler
import K5Vision.Library.Machine
import K5Vision.Library.Rounding
import Mathlib.Algebra.BigOperators.Group.List.Basic
import Mathlib.Data.Rat.Floor

/-!
# The pause control of a playback

`PlaybackPauseControl` of `media/playback_control.py`: its `pause` and `resume`, and the clock that
it shows, which stands still while the playback is paused.  A method has no await under the lock, so
that calls come one after the other; each carries the reading of the raw clock that it would get,
where the clock does not raise.  Times are exact rationals.

Beside the control its pauses are recorded as the calls and the raw clock make them (`Pauses`), and
what the clock has shown.  The clock is right in every run (`ClockSound`).  A snapshot bounds its
counters, and is only made when they have changed: `Fits` says of a call that it does not get there.
-/

namespace K5Vision.Media

open Library

inductive PlaybackControlState
  | running
  | paused
  deriving DecidableEq, Repr

inductive PlaybackControlErrorCode
  | clockFailure
  | sleepFailure
  deriving DecidableEq, Repr

structure PlaybackControlError where
  code : PlaybackControlErrorCode
  message : String
  deriving DecidableEq, Repr

inductive PauseRaised
  | control (error : PlaybackControlError)
  | validation
  | assertion
  deriving DecidableEq, Repr

structure PlaybackControlSnapshot where
  state : PlaybackControlState
  pauseCount : ℕ
  resumeCount : ℕ
  pausedTotalMs : ℤ
  deriving DecidableEq, Repr

/-- `PlaybackPauseControl`; `runningEvent` and `pausedEvent` are the flags that its sleepers wait
for. -/
structure PlaybackPauseControl where
  state : PlaybackControlState
  pauseCount : ℕ
  resumeCount : ℕ
  pausedTotalSeconds : ℚ
  pausedAt : Option ℚ
  runningEvent : Bool
  pausedEvent : Bool
  deriving DecidableEq

def maxPauseCount : ℕ := 1000000

def maxPausedTotalMs : ℤ := 2147483647

namespace PlaybackPauseControl

def create : PlaybackPauseControl := ⟨.running, 0, 0, 0, none, true, false⟩

def rawNow : Option ℚ → Except PauseRaised ℚ
  | some reading => .ok reading
  | none => .error (.control ⟨.clockFailure, "playback control clock failed"⟩)

def snapshot (control : PlaybackPauseControl) : Except PauseRaised PlaybackControlSnapshot :=
  if control.pauseCount ≤ maxPauseCount ∧ control.resumeCount ≤ maxPauseCount then
    .ok
      { state := control.state
        pauseCount := control.pauseCount
        resumeCount := control.resumeCount
        pausedTotalMs := min maxPausedTotalMs
          (max 0 (roundHalfEven (control.pausedTotalSeconds * 1000))) }
  else .error .validation

def monotonic (control : PlaybackPauseControl) (reading : Option ℚ) : Except PauseRaised ℚ :=
  match rawNow reading with
  | .error raised => .error raised
  | .ok now => .ok (control.pausedAt.getD now - control.pausedTotalSeconds)

abbrev Method := Handler PlaybackPauseControl PauseRaised PlaybackControlSnapshot

/-- What `pause` does to a control that runs. -/
def beginPause (reading : Option ℚ) : Method := do
  let pausedAt ← Handler.read fun _ => rawNow reading
  modify fun control => { control with pausedAt := some pausedAt }
  modify fun control => { control with state := .paused }
  modify fun control => { control with pauseCount := control.pauseCount + 1 }
  modify fun control => { control with runningEvent := false }
  modify fun control => { control with pausedEvent := true }
  Handler.read snapshot

def pause (reading : Option ℚ) : Method :=
  Handler.of fun control =>
    if control.state = .paused then (Handler.read snapshot).exec control
    else (beginPause reading).exec control

/-- What `resume` does to a control that is paused. -/
def endPause (reading : Option ℚ) : Method := do
  let resumedAt ← Handler.read fun _ => rawNow reading
  let pausedAt ← Handler.read fun control =>
    match control.pausedAt with
    | none => .error .assertion
    | some pausedAt => .ok pausedAt
  modify fun control => { control with
    pausedTotalSeconds := control.pausedTotalSeconds + max 0 (resumedAt - pausedAt) }
  modify fun control => { control with pausedAt := none }
  modify fun control => { control with state := .running }
  modify fun control => { control with resumeCount := control.resumeCount + 1 }
  modify fun control => { control with pausedEvent := false }
  modify fun control => { control with runningEvent := true }
  Handler.read snapshot

def resume (reading : Option ℚ) : Method :=
  Handler.of fun control =>
    if control.state = .running then (Handler.read snapshot).exec control
    else (endPause reading).exec control

end PlaybackPauseControl

/-- A call of one of the methods, with the reading of the raw clock. -/
inductive PauseCall
  | pause (reading : Option ℚ)
  | resume (reading : Option ℚ)

def PauseCall.method : PauseCall → PlaybackPauseControl.Method
  | .pause reading => PlaybackPauseControl.pause reading
  | .resume reading => PlaybackPauseControl.resume reading

def PauseCall.reading : PauseCall → Option ℚ
  | .pause reading | .resume reading => reading

/-! ## Pauses -/

/-- The pauses of a playback: those that are over, and the beginning of one that is not. -/
structure Pauses where
  completed : List (ℚ × ℚ)
  current : Option ℚ

namespace Pauses

/-- A call at an instant of the raw clock. -/
def call (pauses : Pauses) : PauseCall → Pauses
  | .pause (some now) => { pauses with current := some (pauses.current.getD now) }
  | .resume (some now) =>
      match pauses.current with
      | none => pauses
      | some began => ⟨pauses.completed ++ [(began, now)], none⟩
  | .pause none | .resume none => pauses

def completedTime (pauses : Pauses) : ℚ :=
  (pauses.completed.map fun pause => pause.2 - pause.1).sum

def time (pauses : Pauses) (now : ℚ) : ℚ :=
  pauses.completedTime +
    match pauses.current with
    | none => 0
    | some began => now - began

end Pauses

/-! ## Runs -/

/-- The control, the last reading of the raw clock, the pauses, and what the clock has shown. -/
structure PauseLog where
  control : PlaybackPauseControl
  clock : ℚ
  pauses : Pauses
  shown : List ℚ

namespace PauseLog

inductive Event
  | call (call : PauseCall)
  | monotonic (reading : Option ℚ)

def create (clock : ℚ) : PauseLog := ⟨.create, clock, ⟨[], none⟩, []⟩

def Event.reading : Event → Option ℚ
  | .call made => made.reading
  | .monotonic reading => reading

def step (log : PauseLog) (event : Event) : PauseLog :=
  let clock := event.reading.getD log.clock
  match event with
  | .call call => { log with
      control := (call.method.exec log.control).2
      clock := clock
      pauses := log.pauses.call call }
  | .monotonic reading =>
      match log.control.monotonic reading with
      | .error _ => log
      | .ok time => { log with clock := clock, shown := log.shown ++ [time] }

/-- Calls and readings, under a raw clock that does not go back. -/
def machine : Machine PauseLog Event where
  step := step
  admissible log event := ∀ reading, event.reading = some reading → log.clock ≤ reading

end PauseLog

/-! ## What a call does -/

namespace PlaybackPauseControl

variable {control : PlaybackPauseControl} {now began : ℚ}

def paused (control : PlaybackPauseControl) (now : ℚ) : PlaybackPauseControl :=
  { control with
    state := .paused
    pauseCount := control.pauseCount + 1
    pausedAt := some now
    runningEvent := false
    pausedEvent := true }

def resumed (control : PlaybackPauseControl) (began now : ℚ) : PlaybackPauseControl :=
  { control with
    state := .running
    resumeCount := control.resumeCount + 1
    pausedTotalSeconds := control.pausedTotalSeconds + max 0 (now - began)
    pausedAt := none
    runningEvent := true
    pausedEvent := false }

theorem exec_snapshot (control : PlaybackPauseControl) :
    (Handler.read snapshot : Method).exec control = (control.snapshot, control) := rfl

theorem exec_pause_of_paused (h : control.state = .paused) (reading : Option ℚ) :
    (pause reading).exec control = (control.snapshot, control) := by
  rw [pause, Handler.exec_of, if_pos h]
  rfl

theorem exec_resume_of_running (h : control.state = .running) (reading : Option ℚ) :
    (resume reading).exec control = (control.snapshot, control) := by
  rw [resume, Handler.exec_of, if_pos h]
  rfl

theorem exec_pause_of_running (h : control.state = .running) (now : ℚ) :
    (pause (some now)).exec control = ((control.paused now).snapshot, control.paused now) := by
  rw [pause, Handler.exec_of, if_neg (by rw [h]; nofun), beginPause, Handler.exec_read_bind]
  rfl

theorem exec_resume_of_paused (h : control.state = .paused) (hbegan : control.pausedAt = some began)
    (now : ℚ) : (resume (some now)).exec control =
      ((control.resumed began now).snapshot, control.resumed began now) := by
  rw [resume, Handler.exec_of, if_neg (by rw [h]; nofun), endPause, Handler.exec_read_bind]
  simp only [rawNow]
  rw [Handler.exec_read_bind, hbegan]
  rfl

/-- Where the raw clock raises, a call that would read it raises and does nothing else. -/
theorem exec_of_none (control : PlaybackPauseControl) {call : PauseCall}
    (hnone : call.reading = none) :
    call.method.exec control = (control.snapshot, control) ∨
      ∃ raised, call.method.exec control = (.error raised, control) := by
  cases call with
  | pause reading =>
      cases hnone
      change (pause none).exec control = _ ∨ ∃ raised, (pause none).exec control = _
      cases h : control.state with
      | paused => exact .inl (exec_pause_of_paused h none)
      | running =>
          rw [pause, Handler.exec_of, if_neg (by rw [h]; nofun), beginPause,
            Handler.exec_read_bind]
          exact .inr ⟨_, rfl⟩
  | resume reading =>
      cases hnone
      change (resume none).exec control = _ ∨ ∃ raised, (resume none).exec control = _
      cases h : control.state with
      | running => exact .inl (exec_resume_of_running h none)
      | paused =>
          rw [resume, Handler.exec_of, if_neg (by rw [h]; nofun), endPause,
            Handler.exec_read_bind]
          exact .inr ⟨_, rfl⟩

end PlaybackPauseControl

/-! ## The clock -/

namespace PauseLog

/-- The control has the pauses as they are, and the clock has not shown more than it does. -/
structure Inv (log : PauseLog) : Prop where
  current : log.control.pausedAt = log.pauses.current
  state : log.control.state = .paused ↔ log.pauses.current.isSome
  total : log.control.pausedTotalSeconds = log.pauses.completedTime
  began : ∀ began, log.pauses.current = some began → began ≤ log.clock
  pauseCount : log.control.pauseCount =
    log.pauses.completed.length + log.pauses.current.toList.length
  resumeCount : log.control.resumeCount = log.pauses.completed.length
  shown : ∀ time ∈ log.shown, time ≤ log.clock - log.pauses.time log.clock
  sorted : log.shown.Pairwise (· ≤ ·)

variable {log : PauseLog}

theorem inv_create (clock : ℚ) : Inv (create clock) where
  current := rfl
  state := ⟨nofun, nofun⟩
  total := rfl
  began _ := nofun
  pauseCount := rfl
  resumeCount := rfl
  shown _ := nofun
  sorted := .nil

/-- The time that the clock shows is the raw time without the pauses. -/
theorem Inv.monotonic_eq (h : Inv log) (now : ℚ) :
    log.control.monotonic (some now) = .ok (now - log.pauses.time now) := by
  change Except.ok (log.control.pausedAt.getD now - log.control.pausedTotalSeconds) = _
  rw [h.current, h.total, Pauses.time]
  cases log.pauses.current with
  | none => rw [Option.getD_none, add_zero]
  | some began =>
      rw [Option.getD_some]
      congr 1
      ring

theorem time_le {first second : ℚ} (hle : first ≤ second) (pauses : Pauses) :
    first - pauses.time first ≤ second - pauses.time second := by
  unfold Pauses.time
  cases pauses.current with
  | none => linarith
  | some began =>
      dsimp only
      linarith

theorem call_pause_of_current {pauses : Pauses} {began : ℚ} (h : pauses.current = some began)
    (reading : Option ℚ) : pauses.call (.pause reading) = pauses := by
  rcases pauses with ⟨completed, current⟩
  cases h
  cases reading <;> rfl

theorem time_call (pauses : Pauses) (call : PauseCall) {now : ℚ}
    (hreading : call.reading = some now) : (pauses.call call).time now = pauses.time now := by
  cases call with
  | pause reading =>
      cases hreading
      change pauses.completedTime + (now - pauses.current.getD now) = _
      unfold Pauses.time
      cases pauses.current with
      | none => exact congrArg (pauses.completedTime + ·) (sub_self now)
      | some began => rfl
  | resume reading =>
      cases hreading
      unfold Pauses.call Pauses.time
      cases hcurrent : pauses.current with
      | none => simp only [hcurrent]
      | some began => simp [Pauses.completedTime]

theorem Inv.advance (h : Inv log) {now : ℚ} (hclock : log.clock ≤ now) :
    Inv { log with clock := now } where
  __ := h
  began began hcurrent := (h.began began hcurrent).trans hclock
  shown time htime := (h.shown time htime).trans (time_le hclock log.pauses)

theorem Inv.show (h : Inv log) :
    Inv { log with shown := log.shown ++ [log.clock - log.pauses.time log.clock] } where
  __ := h
  shown time htime := by
    rw [List.mem_append, List.mem_singleton] at htime
    rcases htime with hbefore | rfl
    · exact h.shown time hbefore
    · exact le_rfl
  sorted := by
    refine List.pairwise_append.2 ⟨h.sorted, List.pairwise_singleton _ _, ?_⟩
    intro time htime shown hshown
    cases List.mem_singleton.1 hshown
    exact h.shown time htime

theorem Inv.paused (h : Inv log) (hstate : log.control.state = .running) : Inv { log with
      control := log.control.paused log.clock
      pauses := log.pauses.call (.pause (some log.clock)) } := by
  have hnone : log.pauses.current = none := by
    rw [← Option.not_isSome_iff_eq_none, ← h.state, hstate]
    nofun
  have hcall : log.pauses.call (.pause (some log.clock)) =
      { log.pauses with current := some log.clock } := by
    unfold Pauses.call
    rw [hnone]
    rfl
  have htime := time_call log.pauses (.pause (some log.clock)) rfl
  constructor
  case current => rw [hcall]; rfl
  case state => rw [hcall]; exact ⟨fun _ => rfl, fun _ => rfl⟩
  case total => rw [hcall]; exact h.total
  case began =>
    intro began hbegan
    rw [hcall] at hbegan
    cases hbegan
    exact le_rfl
  case pauseCount =>
    have hcount := h.pauseCount
    rw [hnone] at hcount
    rw [hcall]
    exact congrArg (· + 1) hcount
  case resumeCount => rw [hcall]; exact h.resumeCount
  case shown =>
    intro time hshown
    rw [htime]
    exact h.shown time hshown
  case sorted => exact h.sorted

theorem Inv.resumed (h : Inv log) {began : ℚ} (hcurrent : log.pauses.current = some began) :
    Inv { log with
      control := log.control.resumed began log.clock
      pauses := log.pauses.call (.resume (some log.clock)) } := by
  have hcall : log.pauses.call (.resume (some log.clock)) =
      ⟨log.pauses.completed ++ [(began, log.clock)], none⟩ := by
    unfold Pauses.call
    rw [hcurrent]
  have htime := time_call log.pauses (.resume (some log.clock)) rfl
  have hlength := h.began began hcurrent
  constructor
  case current => rw [hcall]; rfl
  case state => rw [hcall]; exact ⟨nofun, nofun⟩
  case total =>
    -- The raw clock has not gone back since the pause began, so that nothing is cut off.
    rw [hcall]
    change log.control.pausedTotalSeconds + max 0 (log.clock - began) = _
    rw [h.total, max_eq_right (sub_nonneg.2 hlength)]
    simp [Pauses.completedTime]
  case began => rw [hcall]; nofun
  case pauseCount =>
    have hcount := h.pauseCount
    rw [hcurrent] at hcount
    rw [hcall]
    change log.control.pauseCount = _
    rw [hcount, List.length_append]
    rfl
  case resumeCount =>
    rw [hcall]
    change log.control.resumeCount + 1 = _
    rw [h.resumeCount, List.length_append]
    rfl
  case shown =>
    intro time hshown
    rw [htime]
    exact h.shown time hshown
  case sorted => exact h.sorted

theorem Inv.current_of_running (h : Inv log) (hstate : log.control.state = .running) :
    log.pauses.current = none := by
  rw [← Option.not_isSome_iff_eq_none, ← h.state, hstate]
  nofun

theorem Inv.current_of_paused (h : Inv log) (hstate : log.control.state = .paused) :
    ∃ began, log.pauses.current = some began :=
  Option.isSome_iff_exists.1 (h.state.1 hstate)

theorem Inv.step_pause (h : Inv log) {now : ℚ} (hclock : log.clock ≤ now) :
    Inv (log.step (.call (.pause (some now)))) := by
  have hnow := h.advance hclock
  unfold PauseLog.step Event.reading
  simp only [PauseCall.method, PauseCall.reading, Option.getD_some]
  cases hstate : log.control.state with
  | running =>
      rw [PlaybackPauseControl.exec_pause_of_running hstate now]
      exact hnow.paused hstate
  | paused =>
      -- The pause that is under way stays as it is.
      have hpauses : log.pauses.call (.pause (some now)) = log.pauses := by
        obtain ⟨began, hbegan⟩ := h.current_of_paused hstate
        exact call_pause_of_current hbegan (some now)
      rw [PlaybackPauseControl.exec_pause_of_paused hstate (some now), hpauses]
      exact hnow

theorem Inv.step_resume (h : Inv log) {now : ℚ} (hclock : log.clock ≤ now) :
    Inv (log.step (.call (.resume (some now)))) := by
  have hnow := h.advance hclock
  unfold PauseLog.step Event.reading
  simp only [PauseCall.method, PauseCall.reading, Option.getD_some]
  cases hstate : log.control.state with
  | running =>
      have hpauses : log.pauses.call (.resume (some now)) = log.pauses := by
        unfold Pauses.call
        rw [h.current_of_running hstate]
      rw [PlaybackPauseControl.exec_resume_of_running hstate (some now), hpauses]
      exact hnow
  | paused =>
      obtain ⟨began, hbegan⟩ := h.current_of_paused hstate
      rw [PlaybackPauseControl.exec_resume_of_paused hstate (h.current.trans hbegan) now]
      exact hnow.resumed hbegan

theorem step_of_none (log : PauseLog) {call : PauseCall} (hnone : call.reading = none) :
    log.step (.call call) = log := by
  have hcontrol : (call.method.exec log.control).2 = log.control := by
    rcases PlaybackPauseControl.exec_of_none log.control hnone with hexec | ⟨raised, hexec⟩
    · rw [hexec]
    · rw [hexec]
  have hpauses : log.pauses.call call = log.pauses := by
    cases call with
    | pause reading => cases hnone; rfl
    | resume reading => cases hnone; rfl
  unfold PauseLog.step Event.reading
  simp only [hcontrol, hpauses, hnone, Option.getD_none]

theorem Inv.step (h : Inv log) (event : Event) (hevent : machine.admissible log event) :
    Inv (log.step event) := by
  cases event with
  | monotonic reading =>
      cases reading with
      | none => exact h
      | some now =>
          change Inv (match log.control.monotonic (some now) with
            | .error _ => log
            | .ok time => { log with clock := now, shown := log.shown ++ [time] })
          rw [h.monotonic_eq now]
          exact (h.advance (hevent now rfl)).show
  | call call =>
      cases hreading : call.reading with
      | none =>
          rw [step_of_none log hreading]
          exact h
      | some now =>
          have hclock := hevent now hreading
          cases call with
          | pause reading => cases hreading; exact h.step_pause hclock
          | resume reading => cases hreading; exact h.step_resume hclock

theorem inv_of_reaches {events : List Event} {clock : ℚ}
    (h : machine.Reaches (create clock) events log) : Inv log := by
  have hstep : ∀ before event, Inv before → machine.admissible before event →
      Inv (before.step event) := fun _ event hbefore hevent => hbefore.step event hevent
  exact h.invariant hstep (inv_create clock)

theorem current_of_step {began : ℚ} (hcurrent : log.pauses.current = some began) {event : Event}
    (hevent : ∀ reading, event ≠ .call (.resume reading)) :
    (log.step event).pauses = log.pauses := by
  cases event with
  | monotonic reading =>
      unfold PauseLog.step
      dsimp only
      cases log.control.monotonic reading <;> rfl
  | call call =>
      change log.pauses.call call = log.pauses
      cases call with
      | resume reading => exact absurd rfl (hevent reading)
      | pause reading => exact call_pause_of_current hcurrent reading

/-- As `current_of_step`, along a run. -/
theorem pauses_of_reaches {began : ℚ} {events : List Event} {later : PauseLog}
    (h : machine.Reaches log events later) (hcurrent : log.pauses.current = some began)
    (hevents : ∀ reading, .call (.resume reading) ∉ events) : later.pauses = log.pauses := by
  induction events generalizing log with
  | nil => cases h; rfl
  | cons event rest ih =>
      have hstep : (log.step event).pauses = log.pauses := by
        refine current_of_step hcurrent ?_
        rintro reading rfl
        exact hevents reading List.mem_cons_self
      have hrest : later.pauses = (log.step event).pauses := by
        refine ih h.2 (by rw [hstep, hcurrent]) ?_
        intro reading hmem
        exact hevents reading (List.mem_cons_of_mem event hmem)
      rw [hrest, hstep]

structure ClockSound (log : PauseLog) : Prop where
  /-- It is the raw time without the pauses. -/
  virtual : ∀ now, log.control.monotonic (some now) = .ok (now - log.pauses.time now)
  sorted : log.shown.Pairwise (· ≤ ·)
  onward : ∀ now time, log.clock ≤ now → log.control.monotonic (some now) = .ok time →
    ∀ earlier ∈ log.shown, earlier ≤ time
  /-- It stands still while the playback is paused. -/
  frozen : log.control.state = .paused → ∀ events later, machine.Reaches log events later →
    (∀ reading, .call (.resume reading) ∉ events) → ∀ first second,
      later.control.monotonic (some second) = log.control.monotonic (some first)

theorem Inv.clockSound (h : Inv log) : ClockSound log where
  virtual := h.monotonic_eq
  sorted := h.sorted
  onward now time hclock htime earlier hearlier := by
    rw [h.monotonic_eq now] at htime
    cases htime
    exact (h.shown earlier hearlier).trans (time_le hclock log.pauses)
  frozen hstate events later hlater hevents first second := by
    have hstep : ∀ before event, Inv before → machine.admissible before event →
        Inv (before.step event) := fun _ event hbefore hevent => hbefore.step event hevent
    obtain ⟨began, hbegan⟩ := h.current_of_paused hstate
    have hsame : later.pauses = log.pauses := pauses_of_reaches hlater hbegan hevents
    rw [(hlater.invariant hstep h).monotonic_eq, h.monotonic_eq, hsame]
    unfold Pauses.time
    rw [hbegan]
    congr 1
    ring

end PauseLog

/-! ## Counters -/

/-- A call returns the snapshot of what it leaves, or it raises and leaves what it has found. -/
def PauseCall.Clean (call : PauseCall) (control : PlaybackPauseControl) : Prop :=
  match call.method.exec control with
  | (.ok snapshot, after) => after.snapshot = .ok snapshot
  | (.error _, after) => after = control

/-- A call that changes the control leaves counters that a snapshot can hold. -/
def PauseCall.Fits (control : PlaybackPauseControl) : PauseCall → Prop
  | .pause (some _) => control.state = .running → control.pauseCount < maxPauseCount
  | .resume (some _) => control.state = .paused → control.pauseCount ≤ maxPauseCount
  | .pause none | .resume none => True

namespace PlaybackPauseControl

variable {control after : PlaybackPauseControl} {call : PauseCall}

theorem snapshot_isOk (control : PlaybackPauseControl) :
    (∃ snapshot, control.snapshot = .ok snapshot) ↔
      control.pauseCount ≤ maxPauseCount ∧ control.resumeCount ≤ maxPauseCount := by
  unfold snapshot
  by_cases h : control.pauseCount ≤ maxPauseCount ∧ control.resumeCount ≤ maxPauseCount
  · rw [if_pos h]
    exact ⟨fun _ => h, fun _ => ⟨_, rfl⟩⟩
  · rw [if_neg h]
    exact ⟨nofun, fun hcount => absurd hcount h⟩

theorem clean_of_idle (hexec : call.method.exec control = (control.snapshot, control)) :
    call.Clean control := by
  rw [PauseCall.Clean, hexec]
  cases hsnapshot : control.snapshot with
  | ok snapshot => exact hsnapshot
  | error raised => rfl

theorem clean_of_error {raised : PauseRaised}
    (hexec : call.method.exec control = (.error raised, control)) : call.Clean control := by
  rw [PauseCall.Clean, hexec]

theorem clean_of_none (hnone : call.reading = none) : call.Clean control := by
  rcases exec_of_none control hnone with hidle | ⟨raised, herror⟩
  · exact clean_of_idle hidle
  · exact clean_of_error herror

theorem clean_iff_of_exec (hexec : call.method.exec control = (after.snapshot, after))
    (hafter : after ≠ control) : call.Clean control ↔
      after.pauseCount ≤ maxPauseCount ∧ after.resumeCount ≤ maxPauseCount := by
  rw [← snapshot_isOk after, PauseCall.Clean, hexec]
  cases hsnapshot : after.snapshot with
  | ok snapshot => exact ⟨fun _ => ⟨snapshot, rfl⟩, fun _ => hsnapshot⟩
  | error raised => exact ⟨fun h => absurd h hafter, nofun⟩

end PlaybackPauseControl

namespace PauseLog

variable {log : PauseLog}

theorem Inv.clean_pause_iff (h : Inv log) (now : ℚ) :
    (PauseCall.pause (some now)).Clean log.control ↔
      (PauseCall.pause (some now)).Fits log.control := by
  cases hstate : log.control.state with
  | paused =>
      have hidle := PlaybackPauseControl.exec_pause_of_paused hstate (some now)
      refine iff_of_true (PlaybackPauseControl.clean_of_idle hidle) ?_
      intro hrunning
      exact absurd (hstate.symm.trans hrunning) nofun
  | running =>
      have hexec : (PauseCall.pause (some now)).method.exec log.control =
          ((log.control.paused now).snapshot, log.control.paused now) :=
        PlaybackPauseControl.exec_pause_of_running hstate now
      have hchanged : log.control.paused now ≠ log.control := by
        intro hsame
        exact absurd (hstate.symm.trans (congrArg (·.state) hsame.symm)) nofun
      have hfits : (PauseCall.pause (some now)).Fits log.control ↔
          log.control.pauseCount < maxPauseCount := ⟨fun h => h hstate, fun h _ => h⟩
      have hpauses := h.pauseCount
      rw [h.current_of_running hstate] at hpauses
      have hsame : log.control.pauseCount = log.control.resumeCount :=
        hpauses.trans h.resumeCount.symm
      rw [PlaybackPauseControl.clean_iff_of_exec hexec hchanged, hfits]
      change log.control.pauseCount + 1 ≤ _ ∧ log.control.resumeCount ≤ _ ↔ _
      omega

theorem Inv.clean_resume_iff (h : Inv log) (now : ℚ) :
    (PauseCall.resume (some now)).Clean log.control ↔
      (PauseCall.resume (some now)).Fits log.control := by
  cases hstate : log.control.state with
  | running =>
      have hidle := PlaybackPauseControl.exec_resume_of_running hstate (some now)
      refine iff_of_true (PlaybackPauseControl.clean_of_idle hidle) ?_
      intro hpaused
      exact absurd (hstate.symm.trans hpaused) nofun
  | paused =>
      obtain ⟨began, hbegan⟩ := h.current_of_paused hstate
      have hexec : (PauseCall.resume (some now)).method.exec log.control =
          ((log.control.resumed began now).snapshot, log.control.resumed began now) :=
        PlaybackPauseControl.exec_resume_of_paused hstate (h.current.trans hbegan) now
      have hchanged : log.control.resumed began now ≠ log.control := by
        intro hsame
        exact absurd (hstate.symm.trans (congrArg (·.state) hsame.symm)) nofun
      have hfits : (PauseCall.resume (some now)).Fits log.control ↔
          log.control.pauseCount ≤ maxPauseCount := ⟨fun h => h hstate, fun h _ => h⟩
      have hpauses := h.pauseCount
      rw [hbegan] at hpauses
      -- The pause that ends here has been counted when it began.
      have hsame : log.control.pauseCount = log.control.resumeCount + 1 :=
        hpauses.trans (congrArg (· + 1) h.resumeCount.symm)
      rw [PlaybackPauseControl.clean_iff_of_exec hexec hchanged, hfits]
      change log.control.pauseCount ≤ _ ∧ log.control.resumeCount + 1 ≤ _ ↔ _
      omega

theorem Inv.clean_iff (h : Inv log) (call : PauseCall) :
    call.Clean log.control ↔ call.Fits log.control := by
  cases call with
  | pause reading =>
      cases reading with
      | none => exact iff_of_true (PlaybackPauseControl.clean_of_none rfl) trivial
      | some now => exact h.clean_pause_iff now
  | resume reading =>
      cases reading with
      | none => exact iff_of_true (PlaybackPauseControl.clean_of_none rfl) trivial
      | some now => exact h.clean_resume_iff now

/-- The clock is right in every run, and a call is clean while there are snapshots. -/
theorem playback_paused {clock : ℚ} {events : List Event}
    (h : machine.Reaches (create clock) events log) :
    ClockSound log ∧ ∀ call : PauseCall, call.Clean log.control ↔ call.Fits log.control := by
  have hinv := inv_of_reaches h
  exact ⟨hinv.clockSound, hinv.clean_iff⟩

def pausedOnce : List Event :=
  [.call (.pause (some 1)), .monotonic (some 3), .call (.resume (some 4)), .monotonic (some 5)]

theorem reaches_pausedOnce :
    machine.Reaches (create 0) pausedOnce (pausedOnce.foldl step (create 0)) := by
  refine ⟨?_, ?_, ?_, ?_, rfl⟩
  · rintro _ ⟨⟩
    change (0 : ℚ) ≤ 1
    norm_num
  · rintro _ ⟨⟩
    change (1 : ℚ) ≤ 3
    norm_num
  · rintro _ ⟨⟩
    change (3 : ℚ) ≤ 4
    norm_num
  · rintro _ ⟨⟩
    change (4 : ℚ) ≤ 5
    norm_num

theorem playback_paused_once : ClockSound (pausedOnce.foldl step (create 0)) ∧
      (pausedOnce.foldl step (create 0)).shown = [1, 2] :=
  ⟨(playback_paused reaches_pausedOnce).1, by decide +kernel⟩

def alternation (count : ℕ) : List Event :=
  (List.replicate count [.call (.pause (some 0)), .call (.resume (some 0))]).flatten

/-- What `alternation` leaves. -/
def alternated (count : ℕ) : PauseLog where
  control := { PlaybackPauseControl.create with pauseCount := count, resumeCount := count }
  clock := 0
  pauses := ⟨List.replicate count (0, 0), none⟩
  shown := []

theorem alternated_step (count : ℕ) :
    ((alternated count).step (.call (.pause (some 0)))).step (.call (.resume (some 0))) =
      alternated (count + 1) := by
  have hpauses : List.replicate count ((0 : ℚ), (0 : ℚ)) ++ [(0, 0)] =
      List.replicate (count + 1) (0, 0) := List.replicate_succ'.symm
  have htotal : (0 : ℚ) + max 0 (0 - 0) = 0 := by norm_num
  have hstep : ((alternated count).step (.call (.pause (some 0)))).step
      (.call (.resume (some 0))) =
        { alternated (count + 1) with
          control := { (alternated (count + 1)).control with
            pausedTotalSeconds := 0 + max 0 (0 - 0) }
          pauses := ⟨List.replicate count (0, 0) ++ [(0, 0)], none⟩ } := rfl
  rw [hstep, htotal, hpauses]
  rfl

theorem reaches_alternated (count : ℕ) :
    machine.Reaches (create 0) (alternation count) (alternated count) := by
  induction count with
  | zero => rfl
  | succ count ih =>
      have hevents : alternation (count + 1) =
          alternation count ++ [.call (.pause (some 0)), .call (.resume (some 0))] := by
        unfold alternation
        rw [List.replicate_succ', List.flatten_append]
        rfl
      rw [hevents]
      refine ih.append ⟨?_, ?_, (alternated_step count).symm⟩
      · intro reading hreading
        cases hreading
        exact le_rfl
      · intro reading hreading
        cases hreading
        exact le_rfl

/-- The pause behind a million pauses raises, and the playback is paused. -/
theorem playback_paused_not_clean :
    machine.Reaches (create 0) (alternation 1000000) (alternated 1000000) ∧
      ¬ (PauseCall.pause (some 0)).Clean (alternated 1000000).control := by
  refine ⟨reaches_alternated 1000000, ?_⟩
  have hinv := inv_of_reaches (reaches_alternated 1000000)
  rw [hinv.clean_iff]
  intro hfits
  exact lt_irrefl 1000000 (hfits rfl)

end PauseLog

end K5Vision.Media
