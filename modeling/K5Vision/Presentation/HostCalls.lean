import K5Vision.Presentation.PresentationHost

/-!
# Calls of the host that overlap

`BoundedPresentationHost` of `media/presentation_host.py` without the supervisor: any number of
calls at once, under the host's own lock.  A call goes in one step from where it awaits its runtime,
or may have to wait for the lock, to the next such place.  Who waits for the lock gets it in any
order.  `start` has the lock while it awaits; the other calls only have it within a step.

The runtime is code behind a boundary, so each await returns, raises or is cancelled as it likes,
and `asyncio.wait_for` adds a `TimeoutError`, which is an exception too.  The snapshot of the
current runtime changes at any time.

What a run has done is kept beside the host: the generations that run, what was added to the totals
for each, and what each has shown last.  A generation counts as running from the call of its `start`
until its `close` has returned, even if it was stopped before.
-/

namespace K5Vision.Presentation.HostCalls

open Library

inductive Method
  | start
  | wait
  | stop
  | close
  deriving DecidableEq, Repr

inductive Outcome
  | returned (snapshot : HostSnapshot)
  | raised (error : HostError)
  | cancelled
  deriving DecidableEq, Repr

inductive Phase
  | idle
  | closingPrevious (runtime : Runtime)
  | starting (runtime : Runtime)
  | waiting (runtime : Runtime)
  | stopping (runtime : Runtime)
  | closeStopping (runtime : Runtime)
  /-- `close` is to account for the runtime before it closes it. -/
  | closeAccounting (runtime : Runtime)
  | closeClosing (runtime : Runtime)
  /-- `close` is to take its last section. -/
  | closeDropping (runtime : Option Runtime)
  | ended (outcome : Outcome)
  deriving DecidableEq, Repr

/-- `start` has the lock across its awaits. -/
def Phase.locks : Phase → Bool
  | .closingPrevious _ | .starting _ => true
  | _ => false

inductive Answer
  | returned (child : RuntimeSnapshot)
  | raised
  | cancelled
  deriving DecidableEq, Repr

/-- The host, with what was done so far. -/
structure Watched where
  host : Host
  running : List ℕ
  accounted : List (ℕ × Totals)
  shown : ℕ → Totals
  /-- The generations that have shown other totals after they were accounted for. -/
  late : List ℕ

abbrev Turn := Watched × Phase

namespace Watched

def mapHost (f : Host → Host) (watched : Watched) : Watched :=
  { watched with host := f watched.host }

def setState (state : HostState) : Watched → Watched :=
  mapHost fun host => { host with state := state }

def fail : Watched → Watched := mapHost Host.fail

/-- `_account_current`, and the entry that it makes. -/
def account (watched : Watched) : Watched :=
  { watched with
    host := watched.host.accountCurrent
    accounted :=
      match watched.host.runtime with
      | none => watched.accounted
      | some runtime =>
          if watched.host.accountedGeneration = watched.host.generation then watched.accounted
          else (watched.host.generation, runtime.snapshot.totals) :: watched.accounted }

def release (runtime : Runtime) (watched : Watched) : Watched :=
  { watched with running := watched.running.filter (· ≠ runtime.generation) }

/-- `self._runtime = None`. -/
def drop : Watched → Watched := mapHost fun host => { host with runtime := none }

def raise (code : HostErrorCode) (message : String) (watched : Watched) : Turn :=
  (watched, .ended (.raised ⟨code, message⟩))

def giveSnapshot (watched : Watched) : Turn := (watched, .ended (.returned watched.host.snapshot))

/-- `start` behind `_close_previous`: a runtime is made, and started. -/
def launch (made : Option RuntimeSnapshot) (watched : Watched) : Turn :=
  match made with
  | none => watched.fail.raise .assemblyFailure "presentation host runtime assembly failed"
  | some snapshot =>
      let generation := watched.host.generation + 1
      let runtime : Runtime := ⟨generation, snapshot⟩
      ({ watched with
          host := { watched.host with generation := generation, runtime := some runtime }
          running := generation :: watched.running
          shown := Function.update watched.shown generation snapshot.totals },
        .starting runtime)

/-- The current runtime shows something else. -/
def shows (snapshot : RuntimeSnapshot) (watched : Watched) : Watched :=
  match watched.host.runtime with
  | none => watched
  | some runtime =>
      { watched with
        host := { watched.host with runtime := some ⟨runtime.generation, snapshot⟩ }
        shown := Function.update watched.shown runtime.generation snapshot.totals
        late :=
          if watched.host.accountedGeneration = watched.host.generation ∧
              snapshot.totals ≠ runtime.snapshot.totals then
            runtime.generation :: watched.late
          else watched.late }

/-! ## The first sections -/

def start (made : Option RuntimeSnapshot) (watched : Watched) : Turn :=
  if watched.host.state = .running ∨ watched.host.state = .closed then
    watched.raise .invalidState "presentation host cannot start from current state"
  else if watched.host.maxGenerations ≤ watched.host.generation then
    watched.raise .generationLimit "presentation host generation limit reached"
  else
    match watched.host.runtime with
    | none => watched.launch made
    | some runtime => (watched.account, .closingPrevious runtime)

def wait (watched : Watched) : Turn :=
  match watched.host.runtime with
  | none => watched.raise .invalidState "presentation host has no running generation"
  | some runtime =>
      if watched.host.state ≠ .running then
        watched.raise .invalidState "presentation host has no running generation"
      else (watched, .waiting runtime)

def stop (watched : Watched) : Turn :=
  if watched.host.state = .ready then
    watched.raise .invalidState "presentation host has no generation to stop"
  else if watched.host.state ≠ .running then watched.giveSnapshot
  else
    match watched.host.runtime with
    | none =>
        watched.fail.raise .controlFailure "presentation host active runtime is unavailable"
    | some runtime => (watched, .stopping runtime)

def close (watched : Watched) : Turn :=
  if watched.host.state = .closed then watched.giveSnapshot
  else
    match watched.host.runtime with
    | none => (watched, .closeDropping none)
    | some runtime =>
        if watched.host.state = .running then (watched, .closeStopping runtime)
        else (watched, .closeAccounting runtime)

def begin (method : Method) (made : Option RuntimeSnapshot) (watched : Watched) : Turn :=
  match method with
  | .start => watched.start made
  | .wait => watched.wait
  | .stop => watched.stop
  | .close => watched.close

/-! ## The sections behind an await -/

def ifCurrent (runtime : Runtime) (f : Watched → Watched) (watched : Watched) : Watched :=
  if watched.host.isCurrent runtime then f watched else watched

/-- `wait` behind its await. -/
def waited (runtime : Runtime) (child : RuntimeSnapshot) (watched : Watched) : Turn :=
  if !watched.host.isCurrent runtime then
    watched.raise .invalidState "presentation host generation changed during wait"
  else if watched.host.state = .closed then watched.giveSnapshot
  else if child.state = .complete then (watched.setState .complete).account.giveSnapshot
  else if child.state = .stopped then (watched.setState .stopped).account.giveSnapshot
  else watched.fail.account.raise .executionFailure "presentation host generation failed"

/-- `stop` behind its await. -/
def stopped (runtime : Runtime) (child : RuntimeSnapshot) (watched : Watched) : Turn :=
  if watched.host.isCurrent runtime then
    if child.state ≠ .stopped ∧ child.state ≠ .complete then
      watched.fail.account.raise .controlFailure "presentation host stop failed"
    else (watched.setState (Host.stoppedState child)).account.giveSnapshot
  else watched.giveSnapshot

/-- A call goes on.  Where it has to wait for the lock only, `returned` says that it gets it. -/
def resume (phase : Phase) (answer : Answer) (made : Option RuntimeSnapshot) (watched : Watched) :
    Turn :=
  match phase, answer with
  | .closingPrevious runtime, .returned _ => (watched.release runtime).drop.launch made
  | .closingPrevious _, .raised =>
      watched.fail.raise .cleanupFailure "presentation host could not release the prior generation"
  | .starting _, .returned _ => (watched.setState .running).giveSnapshot
  | .starting _, .raised =>
      watched.fail.raise .startFailure "presentation host generation failed to start"
  | .starting _, .cancelled => (watched.fail, .ended .cancelled)
  | .waiting runtime, .returned child => watched.waited runtime child
  | .waiting runtime, .raised =>
      (watched.ifCurrent runtime fun current => current.fail.account).raise .executionFailure
        "presentation host generation failed"
  | .stopping runtime, .returned child => watched.stopped runtime child
  | .stopping runtime, .raised =>
      (watched.ifCurrent runtime fun current => current.fail.account).raise .controlFailure
        "presentation host stop failed"
  | .closeStopping runtime, .returned child =>
      (watched.ifCurrent runtime fun current =>
        (current.setState (Host.stoppedState child)).account, .closeAccounting runtime)
  | .closeStopping runtime, .raised =>
      (watched.ifCurrent runtime fun current => current.fail.account).raise .cleanupFailure
        "presentation host cleanup failed"
  | .closeAccounting runtime, .returned _ =>
      (watched.ifCurrent runtime account, .closeClosing runtime)
  | .closeClosing runtime, .returned _ => (watched.release runtime, .closeDropping (some runtime))
  | .closeClosing runtime, .raised =>
      (watched.ifCurrent runtime fail).raise .cleanupFailure "presentation host cleanup failed"
  -- the last section does not ask whether the runtime is still the one that was closed
  | .closeDropping _, .returned _ => (watched.drop.setState .closed).giveSnapshot
  | .closeAccounting _, .raised | .closeDropping _, .raised => (watched, phase)
  | .closingPrevious _, .cancelled | .waiting _, .cancelled | .stopping _, .cancelled
  | .closeStopping _, .cancelled | .closeAccounting _, .cancelled | .closeClosing _, .cancelled
  | .closeDropping _, .cancelled => (watched, .ended .cancelled)
  | .idle, _ | .ended _, _ => (watched, phase)

end Watched

/-! ## The machine -/

structure System (ι : Type) where
  watched : Watched
  phases : ι → Phase
  /-- Who has the lock across steps. -/
  holder : Option ι

inductive Event (ι : Type)
  | begin (call : ι) (made : Option RuntimeSnapshot)
  | resume (call : ι) (answer : Answer) (made : Option RuntimeSnapshot)
  /-- The current runtime shows something else. -/
  | shows (snapshot : RuntimeSnapshot)

variable {ι : Type} [DecidableEq ι]

/-- No section follows where a call is cancelled, and where `close` has closed the runtime. -/
def needsLock : Phase → Answer → Bool
  | .closingPrevious _, _ | .starting _, _ => true
  | .closeClosing _, .returned _ => false
  | _, .cancelled => false
  | _, _ => true

namespace System

def create (ι : Type) (maxGenerations : ℕ) : System ι :=
  ⟨⟨.create maxGenerations, [], [], fun _ => ⟨0, 0, 0⟩, []⟩, fun _ => .idle, none⟩

def isFree (system : System ι) (call : ι) : Prop := system.holder = none ∨ system.holder = some call

def turn (call : ι) (after : Turn) (system : System ι) : System ι where
  watched := after.1
  phases := Function.update system.phases call after.2
  holder :=
    if after.2.locks then some call
    else if system.holder = some call then none else system.holder

def step (methods : ι → Method) (system : System ι) : Event ι → System ι
  | .begin call made =>
      if system.phases call = .idle then
        system.turn call (system.watched.begin (methods call) made)
      else system
  | .resume call answer made =>
      system.turn call (system.watched.resume (system.phases call) answer made)
  | .shows snapshot => { system with watched := system.watched.shows snapshot }

def possible (system : System ι) : Event ι → Prop
  | .begin call _ => system.isFree call
  | .resume call answer _ =>
      needsLock (system.phases call) answer = true → system.isFree call
  | .shows _ => True

def machine (methods : ι → Method) (condition : System ι → Event ι → Prop) :
    Machine (System ι) (Event ι) where
  step := step methods
  admissible system event := system.possible event ∧ condition system event

end System

end K5Vision.Presentation.HostCalls
