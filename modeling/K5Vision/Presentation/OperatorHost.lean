import K5Vision.Presentation.OperatorRuntime

/-!
# The operator host

`BoundedWindowsOperatorHost` of `media/windows_operator_host.py`, over its generations: any number
of calls at once.  Before the host's `_lock` a call stops also where the lock is free, and whoever
waits for it gets it in any order.  `start`, `replace`, `relayout` and `close` keep the lock while
they await the runtime, `wait` and `stop` do not.

The runtimes are numbered by their generations.  Kept beside the host is the generation that a
`wait` has found.  No caller cancels its call, and the runtime answers in time; the factory is
the runtime's own, which admits what the host has validated.
-/

namespace K5Vision.Presentation.Operator

open Library

inductive HostState
  | ready
  | running
  | complete
  | stopped
  | failed
  | closed
  deriving DecidableEq, Repr

inductive HostErrorCode
  | invalidConfiguration
  | invalidState
  | generationLimit
  | assemblyFailure
  | startFailure
  | executionFailure
  | controlFailure
  | cleanupFailure
  deriving DecidableEq, Repr

/-- `WindowsOperatorHostError`. -/
structure HostError where
  code : HostErrorCode
  message : String
  deriving DecidableEq, Repr

/-- `WindowsOperatorHostSnapshot`, without the counters of its children. -/
structure HostSnapshot where
  state : HostState
  generation : ℕ
  generationLimit : ℕ
  completedGenerations : ℕ
  stoppedGenerations : ℕ
  failures : ℕ
  viewportCount : ℕ
  deriving DecidableEq, Repr

inductive Outcome
  | returned (snapshot : HostSnapshot)
  | raised (error : HostError)
  deriving DecidableEq, Repr

namespace Host

/-- The methods of the host; `none` is no `ViewportLayout`. -/
inductive Method
  | start (layout : Option Layout)
  | replace (layout : Option Layout)
  | relayout (layout : Option Layout)
  | wait
  | stop
  | close
  deriving DecidableEq, Repr

inductive Purpose
  | start
  /-- `_release_current` awaits `runtime.stop()`; `next` is what `replace` starts behind it. -/
  | releaseStop (next : Option Layout)
  | releaseClose (next : Option Layout)
  | relayout
  | wait
  | stop
  /-- `_close_runtime_after_failure`, with the error that is raised behind it. -/
  | failure (error : HostError)
  deriving DecidableEq, Repr

def Purpose.locks : Purpose → Bool
  | .wait | .stop => false
  | .start | .releaseStop _ | .releaseClose _ | .relayout | .failure _ => true

inductive Phase
  | idle
  | entering
  | inner (generation : ℕ) (purpose : Purpose) (place : Place)
  /-- `wait` or `stop` is before the lock again; `none` where the runtime has raised. -/
  | reporting (generation : ℕ) (waits : Bool) (result : Option RuntimeState)
  | ended (outcome : Outcome)
  deriving DecidableEq, Repr

end Host

/-- `BoundedWindowsOperatorHost`; `lock` has the call that is inside its lock, `runtime` the
generation of `_runtime`. -/
structure Host where
  state : HostState
  maxGenerations : ℕ
  generation : ℕ
  completedGenerations : ℕ
  stoppedGenerations : ℕ
  failures : ℕ
  runtime : Option ℕ
  accountedGeneration : ℕ
  lock : Option ℕ
  runtimes : ℕ → Runtime
  methods : ℕ → Option Host.Method
  phases : ℕ → Host.Phase
  waited : ℕ → Option ℕ

namespace Host

/-- `__init__`, with a generation bound that it admits. -/
def create (maxGenerations : ℕ) : Host where
  state := .ready
  maxGenerations := maxGenerations
  generation := 0
  completedGenerations := 0
  stoppedGenerations := 0
  failures := 0
  runtime := none
  accountedGeneration := 0
  lock := none
  runtimes := fun _ => .create []
  methods := fun _ => none
  phases := fun _ => .idle
  waited := fun _ => none

def snapshot (host : Host) : HostSnapshot where
  state := host.state
  generation := host.generation
  generationLimit := host.maxGenerations
  completedGenerations := host.completedGenerations
  stoppedGenerations := host.stoppedGenerations
  failures := host.failures
  viewportCount :=
    match host.runtime with
    | none => 0
    | some generation => (host.runtimes generation).layout.length

def setState (state : HostState) (host : Host) : Host := { host with state := state }

def setPhase (call : ℕ) (phase : Phase) (host : Host) : Host :=
  { host with phases := Function.update host.phases call phase }

def setRuntime (generation : ℕ) (runtime : Runtime) (host : Host) : Host :=
  { host with runtimes := Function.update host.runtimes generation runtime }

def fail (host : Host) : Host := { host with state := .failed, failures := host.failures + 1 }

/-- `_account_current`. -/
def account (host : Host) : Host :=
  if host.runtime = none ∨ host.accountedGeneration = host.generation then host
  else
    { host with
      completedGenerations := host.completedGenerations + if host.state = .complete then 1 else 0
      stoppedGenerations := host.stoppedGenerations + if host.state = .stopped then 1 else 0
      accountedGeneration := host.generation }

/-! ## The end of a call -/

def giveSnapshot (call : ℕ) (host : Host) : Host :=
  { host with lock := none }.setPhase call (.ended (.returned host.snapshot))

def raise (call : ℕ) (code : HostErrorCode) (message : String) (host : Host) : Host :=
  { host with lock := none }.setPhase call (.ended (.raised ⟨code, message⟩))

/-- `_close_runtime_after_failure`, before it `_fail`s and raises. -/
def failWith (call generation : ℕ) (code : HostErrorCode) (message : String) (host : Host) : Host :=
  { host with lock := some call }.setPhase call
    (.inner generation (.failure ⟨code, message⟩) (.lock .close))

/-! ## `_start_generation` and `_release_current` -/

/-- `_start_generation`, up to where it awaits the windows. -/
def startGeneration (call : ℕ) (layout : Layout) (host : Host) : Host :=
  if host.maxGenerations ≤ host.generation then
    host.raise call .generationLimit "operator host generation limit reached"
  else
    let generation := host.generation + 1
    { host with
      generation := generation
      runtime := some generation }.setRuntime generation ((Runtime.create layout).start call)
      |>.setPhase call (.inner generation .start .opening)

/-- What `replace` or `close` does behind `_release_current`. -/
def released (call : ℕ) (next : Option Layout) (host : Host) : Host :=
  match next with
  | some layout => host.startGeneration call layout
  | none => (host.setState .closed).giveSnapshot call

/-- `_release_current` from behind `runtime.stop()`. -/
def closeRuntime (call generation : ℕ) (next : Option Layout) (host : Host) : Host :=
  host.account.setPhase call (.inner generation (.releaseClose next) (.lock .close))

def releaseCurrent (call : ℕ) (next : Option Layout) (host : Host) : Host :=
  match host.runtime with
  | none => host.released call next
  | some generation =>
      if host.state = .running then
        host.setPhase call (.inner generation (.releaseStop next) (.lock .stop))
      else host.closeRuntime call generation next

/-! ## The methods behind the lock -/

def validLayout : Option Layout → Bool
  | none => false
  | some layout => decide (2 ≤ layout.length ∧ layout.length ≤ 16)

def Method.layout : Method → Option (Option Layout)
  | .start layout | .replace layout | .relayout layout => some layout
  | .wait | .stop | .close => none

/-- A call is made; its layout is checked before it comes to the lock. -/
def begin (call : ℕ) (method : Method) (host : Host) : Host :=
  let named := { host with methods := Function.update host.methods call (some method) }
  match method.layout with
  | some layout =>
      if validLayout layout then named.setPhase call .entering
      else named.setPhase call (.ended
        (.raised ⟨.invalidConfiguration, "operator host viewport layout is invalid"⟩))
  | none => named.setPhase call .entering

def enter (call : ℕ) (method : Method) (host : Host) : Host :=
  let entered := { host with lock := some call }
  match method with
  | .start layout =>
      if host.state ≠ .ready then
        host.raise call .invalidState "operator host cannot start from current state"
      else entered.startGeneration call (layout.getD [])
  | .replace layout =>
      if host.state ≠ .running ∧ host.state ≠ .complete ∧ host.state ≠ .stopped then
        host.raise call .invalidState "operator host cannot replace from current state"
      else if host.maxGenerations ≤ host.generation then
        host.raise call .generationLimit "operator host generation limit reached"
      else entered.releaseCurrent call layout
  | .relayout layout =>
      match host.state, host.runtime with
      | .running, some generation =>
          entered.setPhase call
            (.inner generation .relayout (.lock (.relayout (layout.getD []))))
      | _, _ =>
          host.raise call .invalidState "operator host has no running generation to relayout"
  | .wait =>
      match host.state, host.runtime with
      | .running, some generation =>
          { host with
            waited := Function.update host.waited call (some generation) }.setPhase call
              (.inner generation .wait (.lock .wait))
      | _, _ => host.raise call .invalidState "operator host has no running generation"
  | .stop =>
      match host.state, host.runtime with
      | .closed, _ => host.giveSnapshot call
      | .running, some generation =>
          host.setPhase call (.inner generation .stop (.lock .stop))
      | _, _ => host.raise call .invalidState "operator host has no running generation"
  | .close =>
      match host.state with
      | .closed => host.giveSnapshot call
      | .ready => (host.setState .closed).giveSnapshot call
      | _ => entered.releaseCurrent call none

/-! ## Behind the runtime -/

/-- A method of the runtime has come to its end. -/
def finish (call generation : ℕ) (purpose : Purpose) (result : Option RuntimeState) (host : Host) :
    Host :=
  match purpose, result with
  | .start, some _ => (host.setState .running).giveSnapshot call
  | .start, none =>
      host.failWith call generation .startFailure "operator host generation failed to start"
  | .releaseStop next, some .complete => (host.setState .complete).closeRuntime call generation next
  | .releaseStop next, some .stopped => (host.setState .stopped).closeRuntime call generation next
  | .releaseStop _, some _ =>
      host.failWith call generation .cleanupFailure
        "operator host prior generation did not stop safely"
  | .releaseStop _, none =>
      host.failWith call generation .cleanupFailure
        "operator host could not stop the prior generation"
  | .releaseClose next, some _ => { host with runtime := none }.released call next
  | .releaseClose _, none =>
      { host with runtime := none }.fail.raise call .cleanupFailure
        "operator host could not release the prior generation"
  | .relayout, some .running => host.giveSnapshot call
  | .relayout, some _ =>
      host.failWith call generation .controlFailure
        "operator host relayout did not preserve running state"
  | .relayout, none =>
      host.failWith call generation .controlFailure "operator host relayout failed"
  | .wait, result => host.setPhase call (.reporting generation true result)
  | .stop, result => host.setPhase call (.reporting generation false result)
  | .failure error, _ =>
      { host with runtime := none }.fail.raise call error.code error.message

def turn (call generation : ℕ) (purpose : Purpose) (turn : Turn) (host : Host) : Host :=
  let host := host.setRuntime generation turn.1
  match turn.2 with
  | .awaits place => host.setPhase call (.inner generation purpose place)
  | .returned state => host.finish call generation purpose (some state)
  | .raised => host.finish call generation purpose none

/-- `wait` and `stop` take the lock again. -/
def report (call generation : ℕ) (waits : Bool) (result : Option RuntimeState) (host : Host) :
    Host :=
  let code : HostErrorCode := if waits then .executionFailure else .controlFailure
  let message := if waits then "operator host generation failed" else "operator host stop failed"
  if host.runtime = some generation then
    match result with
    | some .complete => (host.setState .complete).account.giveSnapshot call
    | some .stopped => (host.setState .stopped).account.giveSnapshot call
    | _ => host.failWith call generation code message
  else
    match result with
    | none => host.raise call code message
    | some _ =>
        host.raise call .invalidState
          (if waits then "operator host generation changed during wait"
          else "operator host generation changed during stop")

def resume (call : ℕ) (answer : Answer) (host : Host) : Host :=
  match host.phases call with
  | .entering =>
      match host.methods call with
      | none => host
      | some method => if host.lock.isSome then host else host.enter call method
  | .inner generation purpose place =>
      match (host.runtimes generation).resume call answer place with
      | none => host
      | some turn => host.turn call generation purpose turn
  | .reporting generation waits result =>
      if host.lock.isSome then host else host.report call generation waits result
  | .idle | .ended _ => host

inductive Event
  | begin (call : ℕ) (method : Method)
  | resume (call : ℕ) (answer : Answer)
  | media (generation : ℕ) (taskEnd : TaskEnd)

def step (host : Host) : Event → Host
  | .begin call method => if host.phases call = .idle then host.begin call method else host
  | .resume call answer => host.resume call answer
  | .media generation taskEnd =>
      host.setRuntime generation ((host.runtimes generation).endTask taskEnd)

def machine (admissible : Host → Event → Prop) : Machine Host Event := ⟨step, admissible⟩

end Host

end K5Vision.Presentation.Operator
