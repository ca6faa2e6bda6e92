import K5Vision.Presentation.PresentationHost

/-!
# The presentation supervisor

`BoundedPresentationSupervisor` of `media/presentation_supervisor.py`, and how its calls run among
each other.  The calls are the threads of one event loop; each takes the supervisor's lock, drives
the host, and gives the lock back however it ends.
-/

namespace K5Vision.Presentation

open Library Routine

def supervisorStateOf : HostState → SupervisorState
  | .ready => .ready
  | .running => .running
  | .complete => .complete
  | .stopped => .stopped
  | .failed => .failed
  | .closed => .closed

structure SupervisorSnapshot where
  state : SupervisorState
  generation : ℕ
  replacements : ℕ
  replacementLimit : ℕ
  completedGenerations : ℕ
  stoppedGenerations : ℕ
  failures : ℕ
  plan : Plan
  totals : Totals
  deriving DecidableEq, Repr

namespace Supervisor

def create (maxReplacements : ℕ) : Supervisor := ⟨maxReplacements, .ready, 0⟩

end Supervisor

def Control.snapshot (control : Control) : SupervisorSnapshot :=
  let child := control.host.snapshot
  { state := control.supervisor.state
    generation := child.generation
    replacements := control.supervisor.replacements
    replacementLimit := control.supervisor.maxReplacements
    completedGenerations := child.completedGenerations
    stoppedGenerations := child.stoppedGenerations
    failures := child.failures
    plan := child.plan
    totals := child.totals }

namespace Supervisor

def raise {α : Type} (code : SupervisorErrorCode) (message : String) : Call α :=
  Routine.raise (.supervisor ⟨code, message⟩)

def failWith {α : Type} (code : SupervisorErrorCode) (message : String) : Call α := do
  update fun control => control.setState .failed
  raise code message

def locked {α : Type} (body : Call α) : Call α := do
  Routine.call (I := interface) .acquire
  body.ensure (Routine.call (I := interface) .release)

/-- `asyncio.wait_for`: the `CancelledError` of the time-out becomes a `TimeoutError`. -/
def waitFor {α : Type} (routine : Call α) : Call α :=
  routine.recover fun raised =>
    match raised with
    | .timedOut => Routine.raise .timeout
    | raised => Routine.raise raised

def currentSnapshot : Call SupervisorSnapshot := do
  let control ← look
  pure control.snapshot

def startHost (code : SupervisorErrorCode) (message : String) : Call Unit := do
  let child ← onException (waitFor Host.start) (failWith code message)
  if child.state ≠ .running then failWith code message

/-- The host ends its generation, or the supervisor fails. -/
def endHost (routine : Call HostSnapshot) (code : SupervisorErrorCode) (message : String) :
    Call HostSnapshot := do
  let child ← onException routine (failWith code message)
  if child.state ≠ .complete ∧ child.state ≠ .stopped then failWith code message
  else pure child

def present : Call SupervisorSnapshot := locked do
  let control ← look
  if control.supervisor.state ≠ .ready then
    raise .invalidState "presentation supervisor cannot present from current state"
  else
    startHost .startFailure "presentation supervisor failed to start presentation"
    update fun control => control.setState .running
    currentSnapshot

def replace : Call SupervisorSnapshot := locked do
  let control ← look
  if control.supervisor.state = .ready ∨ control.supervisor.state = .closed then
    raise .invalidState "presentation supervisor cannot replace from current state"
  else if control.supervisor.maxReplacements ≤ control.supervisor.replacements then
    raise .replacementLimit "presentation supervisor replacement limit reached"
  else
    if control.host.state = .running then
      let _ ← endHost (waitFor Host.stop) .replacementFailure
        "presentation supervisor could not stop active presentation"
    startHost .replacementFailure "presentation supervisor failed to start replacement"
    update fun control =>
      { control with
        supervisor :=
          { control.supervisor with
            replacements := control.supervisor.replacements + 1
            state := .running } }
    currentSnapshot

def wait : Call SupervisorSnapshot := locked do
  let control ← look
  if control.supervisor.state ≠ .running then
    raise .invalidState "presentation supervisor has no running presentation"
  else
    let child ← endHost Host.wait .executionFailure "presentation supervisor presentation failed"
    update fun control => control.setState (supervisorStateOf child.state)
    currentSnapshot

def stop : Call SupervisorSnapshot := locked do
  let control ← look
  if control.supervisor.state = .ready then
    raise .invalidState "presentation supervisor has no presentation to stop"
  else if control.supervisor.state ≠ .running then currentSnapshot
  else
    let child ← endHost (waitFor Host.stop) .controlFailure "presentation supervisor stop failed"
    update fun control => control.setState (supervisorStateOf child.state)
    currentSnapshot

def close : Call SupervisorSnapshot := locked do
  let control ← look
  if control.supervisor.state = .closed then currentSnapshot
  else
    let child ← onException (waitFor Host.close)
      (failWith .cleanupFailure "presentation supervisor cleanup failed")
    if child.state ≠ .closed then
      failWith .cleanupFailure "presentation supervisor cleanup failed"
    else
      update fun control => control.setState .closed
      currentSnapshot

inductive Method
  | present
  | replace
  | wait
  | stop
  | close
  deriving DecidableEq, Repr

def run : Method → Call SupervisorSnapshot
  | .present => present
  | .replace => replace
  | .wait => wait
  | .stop => stop
  | .close => close

end Supervisor

/-! ## Calls among each other -/

inductive AwaitEnd
  | returned
  | raised
  | cancelled
  /-- The time of the supervisor's `wait_for` is up. -/
  | timedOut
  deriving DecidableEq, Repr

structure Choice where
  awaitEnd : AwaitEnd
  snapshot : RuntimeSnapshot
  isRuntime : Bool

/-- The supervisor with its host, and who has its lock. -/
structure State (ι : Type) where
  control : Control
  holder : Option ι

def Host.observe (snapshot : RuntimeSnapshot) (host : Host) : Host :=
  { host with runtime := host.runtime.map fun runtime => { runtime with snapshot := snapshot } }

variable {ι : Type}

/-- The snapshot of the runtime is as it is by now. -/
def State.observe (snapshot : RuntimeSnapshot) (state : State ι) : State ι :=
  { state with control := state.control.mapHost (Host.observe snapshot) }

def serve (i : ι) (choice : Choice) (request : Request) (state : State ι) :
    Except Raised (interface.Answer request) × State ι :=
  match request with
  | .acquire =>
      if choice.awaitEnd = .cancelled then (.error .cancelled, state)
      else (.ok (), { state with holder := some i })
  | .release => (.ok (), { state with holder := none })
  | .look =>
      let now := state.observe choice.snapshot
      (.ok now.control, now)
  | .update f => (.ok (), { state with control := f state.control })
  | .assemble =>
      if choice.awaitEnd = .raised then (.error .runtime, state)
      else (.ok (if choice.isRuntime then some choice.snapshot else none), state)
  | .await _ =>
      let now := state.observe choice.snapshot
      match choice.awaitEnd with
      | .returned => (.ok choice.snapshot, now)
      | .raised => (.error .runtime, now)
      | .cancelled => (.error .cancelled, now)
      | .timedOut => (.error .timedOut, now)

/-- The lock is given to one call at a time, and `wait` has no time-out. -/
def possible (choice : Choice) (request : Request) (state : State ι) : Prop :=
  match request with
  | .acquire => choice.awaitEnd ≠ .cancelled → state.holder = none
  | .await .wait => choice.awaitEnd ≠ .timedOut
  | _ => True

/-- The calls, where some condition holds of every answer. -/
def server (condition : Choice → Request → Control → Prop) (i : ι) :
    Server interface Raised (State ι) Choice where
  serve := serve i
  permits choice request state :=
    possible choice request state ∧ condition choice request state.control

/-- All calls before their first step, of a supervisor and a host that are new. -/
def fresh (maxReplacements maxGenerations : ℕ) (calls : ι → Supervisor.Method) :
    Threads interface Raised SupervisorSnapshot (State ι) ι where
  state := ⟨⟨.create maxReplacements, .create maxGenerations⟩, none⟩
  routine i := Supervisor.run (calls i)

end K5Vision.Presentation
