import K5Vision.Library.Routine

/-!
# The presentation host

`BoundedPresentationHost` of `media/presentation_host.py`, as far as the supervisor of
`media/presentation_supervisor.py` drives it, and what the two of them ask of their surroundings.

A call suspends where it waits for the supervisor's lock, and where it awaits a call of the
runtime; there it can be cancelled.  The host's own lock is never contended: the supervisor holds
its lock while it drives the host.  `asyncio.wait_for` runs what it awaits in the task of its
caller, so a time-out arrives in the host as a `CancelledError` too, and turns into a
`TimeoutError` only in the `wait_for` whose time it was.

The runtime is code behind a boundary: what it returns or raises, and its snapshot at any time, are
left open.  Stream plans are only handed on to it.
-/

namespace K5Vision.Presentation

open Library Routine

/-! ## Snapshots and errors -/

inductive RuntimeState
  | created
  | running
  | complete
  | stopped
  | failed
  | closed
  deriving DecidableEq, Repr

structure Totals where
  deliveredFrames : ℕ
  deliveredFrameBytes : ℕ
  maxSourceSpanMs : ℕ
  deriving DecidableEq, Repr

def Totals.add (first second : Totals) : Totals where
  deliveredFrames := first.deliveredFrames + second.deliveredFrames
  deliveredFrameBytes := first.deliveredFrameBytes + second.deliveredFrameBytes
  maxSourceSpanMs := max first.maxSourceSpanMs second.maxSourceSpanMs

structure Plan where
  streamCount : ℕ
  liveStreams : ℕ
  playbackStreams : ℕ
  viewportCount : ℕ
  deriving DecidableEq, Repr

structure RuntimeSnapshot where
  state : RuntimeState
  plan : Plan
  totals : Totals
  deriving DecidableEq, Repr

inductive HostState
  | ready
  | running
  | complete
  | stopped
  | failed
  | closed
  deriving DecidableEq, Repr

inductive HostErrorCode
  | invalidState
  | generationLimit
  | assemblyFailure
  | startFailure
  | executionFailure
  | controlFailure
  | cleanupFailure
  deriving DecidableEq, Repr

structure HostError where
  code : HostErrorCode
  message : String
  deriving DecidableEq, Repr

structure HostSnapshot where
  state : HostState
  generation : ℕ
  generationLimit : ℕ
  completedGenerations : ℕ
  stoppedGenerations : ℕ
  failures : ℕ
  plan : Plan
  totals : Totals
  deriving DecidableEq, Repr

structure Runtime where
  generation : ℕ
  snapshot : RuntimeSnapshot
  deriving DecidableEq, Repr

structure Host where
  maxGenerations : ℕ
  state : HostState
  generation : ℕ
  completedGenerations : ℕ
  stoppedGenerations : ℕ
  failures : ℕ
  runtime : Option Runtime
  accountedGeneration : ℕ
  totals : Totals
  deriving DecidableEq, Repr

namespace Host

def create (maxGenerations : ℕ) : Host := ⟨maxGenerations, .ready, 0, 0, 0, 0, none, 0, ⟨0, 0, 0⟩⟩

def previewTotals (host : Host) : Totals :=
  match host.runtime with
  | some runtime =>
      if host.accountedGeneration ≠ host.generation then host.totals.add runtime.snapshot.totals
      else host.totals
  | none => host.totals

def snapshot (host : Host) : HostSnapshot where
  state := host.state
  generation := host.generation
  generationLimit := host.maxGenerations
  completedGenerations := host.completedGenerations
  stoppedGenerations := host.stoppedGenerations
  failures := host.failures
  plan := (host.runtime.map fun runtime => runtime.snapshot.plan).getD ⟨0, 0, 0, 0⟩
  totals := host.previewTotals

def accountCurrent (host : Host) : Host :=
  match host.runtime with
  | none => host
  | some runtime =>
      if host.accountedGeneration = host.generation then host
      else
        { host with
          totals := host.totals.add runtime.snapshot.totals
          completedGenerations :=
            if host.state = .complete then host.completedGenerations + 1
            else host.completedGenerations
          stoppedGenerations :=
            if host.state = .stopped then host.stoppedGenerations + 1 else host.stoppedGenerations
          accountedGeneration := host.generation }

def fail (host : Host) : Host := { host with state := .failed, failures := host.failures + 1 }

def isCurrent (host : Host) (runtime : Runtime) : Bool :=
  host.runtime.any fun current => current.generation = runtime.generation

/-- The state of a generation that was stopped. -/
def stoppedState (child : RuntimeSnapshot) : HostState :=
  if child.state = .complete then .complete else .stopped

end Host

/-! ## The supervisor's state -/

inductive SupervisorState
  | ready
  | running
  | complete
  | stopped
  | failed
  | closed
  deriving DecidableEq, Repr

inductive SupervisorErrorCode
  | invalidState
  | replacementLimit
  | startFailure
  | replacementFailure
  | executionFailure
  | controlFailure
  | cleanupFailure
  deriving DecidableEq, Repr

structure SupervisorError where
  code : SupervisorErrorCode
  message : String
  deriving DecidableEq, Repr

structure Supervisor where
  maxReplacements : ℕ
  state : SupervisorState
  replacements : ℕ
  deriving DecidableEq, Repr

/-- The supervisor and the host that it drives. -/
structure Control where
  supervisor : Supervisor
  host : Host
  deriving DecidableEq, Repr

def Control.setState (control : Control) (state : SupervisorState) : Control :=
  { control with supervisor := { control.supervisor with state := state } }

def Control.mapHost (control : Control) (f : Host → Host) : Control :=
  { control with host := f control.host }

/-! ## Requests -/

/-- A call of the runtime. -/
inductive RuntimeCall
  | start
  | wait
  | stop
  | close
  deriving DecidableEq, Repr

inductive Request
  | acquire
  | release
  /-- What the supervisor and the host remember, and the snapshot of the runtime. -/
  | look
  | update (f : Control → Control)
  | assemble
  | await (call : RuntimeCall)

def interface : Interface where
  Request := Request
  Answer
    | .acquire => Unit
    | .release => Unit
    | .look => Control
    | .update _ => Unit
    | .assemble => Option RuntimeSnapshot
    | .await _ => RuntimeSnapshot

inductive Raised
  | cancelled
  /-- The `CancelledError` of a `wait_for` of the supervisor, whose time is up. -/
  | timedOut
  | timeout
  | runtime
  | host (error : HostError)
  | supervisor (error : SupervisorError)
  deriving DecidableEq, Repr

def Raised.isCancelledError : Raised → Bool
  | .cancelled => true
  | .timedOut => true
  | _ => false

abbrev Call := Routine interface Raised

def look : Call Control := Routine.call (I := interface) .look

def update (f : Control → Control) : Call Unit := Routine.call (I := interface) (.update f)

def await (call : RuntimeCall) : Call RuntimeSnapshot := Routine.call (I := interface) (.await call)

/-- `except asyncio.CancelledError: raise`, `except Exception`. -/
def onException {α : Type} (routine : Call α) (handle : Call α) : Call α :=
  routine.recover fun raised =>
    if raised.isCancelledError then Routine.raise raised else handle

/-! ## The calls of the host -/

namespace Host

def raise {α : Type} (code : HostErrorCode) (message : String) : Call α :=
  Routine.raise (.host ⟨code, message⟩)

def failWith {α : Type} (code : HostErrorCode) (message : String) : Call α := do
  update fun control => control.mapHost fail
  raise code message

def closePrevious : Call Unit := do
  let control ← look
  if control.host.runtime.isSome then
    update fun control => control.mapHost accountCurrent
    let _ ← onException (await .close)
      (failWith .cleanupFailure "presentation host could not release the prior generation")
    update fun control => control.mapHost fun host => { host with runtime := none }

def assembleRuntime : Call RuntimeSnapshot := do
  let made ← onException (Routine.call (I := interface) .assemble)
    (failWith .assemblyFailure "presentation host runtime assembly failed")
  match made with
  | none => failWith .assemblyFailure "presentation host runtime assembly failed"
  | some snapshot => pure snapshot

def start : Call HostSnapshot := do
  let control ← look
  if control.host.state = .running ∨ control.host.state = .closed then
    raise .invalidState "presentation host cannot start from current state"
  else if control.host.maxGenerations ≤ control.host.generation then
    raise .generationLimit "presentation host generation limit reached"
  else
    closePrevious
    let made ← assembleRuntime
    update fun control => control.mapHost fun host =>
      { host with
        generation := host.generation + 1
        runtime := some ⟨host.generation + 1, made⟩ }
    let _ ← (await .start).recover fun raised => do
      update fun control => control.mapHost fail
      if raised.isCancelledError then Routine.raise raised
      else raise .startFailure "presentation host generation failed to start"
    update fun control => control.mapHost fun host => { host with state := .running }
    let control ← look
    pure control.host.snapshot

def wait : Call HostSnapshot := do
  let control ← look
  match control.host.runtime with
  | none => raise .invalidState "presentation host has no running generation"
  | some runtime =>
      if control.host.state ≠ .running then
        raise .invalidState "presentation host has no running generation"
      else
        let child ← onException (await .wait) (do
          update fun control => control.mapHost fun host =>
            if host.isCurrent runtime then host.fail.accountCurrent else host
          raise .executionFailure "presentation host generation failed")
        let control ← look
        if !control.host.isCurrent runtime then
          raise .invalidState "presentation host generation changed during wait"
        else if control.host.state = .closed then pure control.host.snapshot
        else if child.state = .complete then
          update fun control => control.mapHost fun host =>
            { host with state := .complete }.accountCurrent
          let control ← look
          pure control.host.snapshot
        else if child.state = .stopped then
          update fun control => control.mapHost fun host =>
            { host with state := .stopped }.accountCurrent
          let control ← look
          pure control.host.snapshot
        else
          update fun control => control.mapHost fun host => host.fail.accountCurrent
          raise .executionFailure "presentation host generation failed"

def stop : Call HostSnapshot := do
  let control ← look
  if control.host.state = .ready then
    raise .invalidState "presentation host has no generation to stop"
  else if control.host.state ≠ .running then pure control.host.snapshot
  else
    match control.host.runtime with
    | none => failWith .controlFailure "presentation host active runtime is unavailable"
    | some runtime =>
        let child ← onException (await .stop) (do
          update fun control => control.mapHost fun host =>
            if host.isCurrent runtime then host.fail.accountCurrent else host
          raise .controlFailure "presentation host stop failed")
        let control ← look
        if control.host.isCurrent runtime then
          if child.state ≠ .stopped ∧ child.state ≠ .complete then
            update fun control => control.mapHost fun host => host.fail.accountCurrent
            raise .controlFailure "presentation host stop failed"
          else
            update fun control => control.mapHost fun host =>
              { host with state := stoppedState child }.accountCurrent
            let control ← look
            pure control.host.snapshot
        else pure control.host.snapshot

/-- The part of `close` that stops a running generation. -/
def stopRunning (runtime : Runtime) : Call Unit := do
  let child ← onException (await .stop) (do
    update fun control => control.mapHost fun host =>
      if host.isCurrent runtime then host.fail.accountCurrent else host
    raise .cleanupFailure "presentation host cleanup failed")
  update fun control => control.mapHost fun host =>
    if host.isCurrent runtime then { host with state := stoppedState child }.accountCurrent
    else host

/-- The part of `close` that closes the runtime. -/
def closeRuntime (runtime : Runtime) : Call Unit := do
  update fun control => control.mapHost fun host =>
    if host.isCurrent runtime then host.accountCurrent else host
  let _ ← onException (await .close) (do
    update fun control => control.mapHost fun host =>
      if host.isCurrent runtime then host.fail else host
    raise .cleanupFailure "presentation host cleanup failed")

/-- `close`, up to the state that it leaves. -/
def releaseRuntime (control : Control) : Call Unit :=
  match control.host.runtime with
  | none => pure ()
  | some runtime => do
      if control.host.state = .running then stopRunning runtime
      closeRuntime runtime

def close : Call HostSnapshot := do
  let control ← look
  if control.host.state = .closed then pure control.host.snapshot
  else
    releaseRuntime control
    update fun control => control.mapHost fun host =>
      { host with runtime := none, state := .closed }
    let control ← look
    pure control.host.snapshot

end Host

end K5Vision.Presentation
