import K5Vision.Presentation.PresentationController

/-!
# The operator runtime

`BoundedWindowsOperatorRuntime` of `media/windows_operator_runtime.py`, one generation of the
operator host.  It has the windows, and a presentation, which it runs and ends through the
controller of `media/presentation_controller.py`.

A method goes in one step from one await to the next (`Place`), and what becomes of it is a
`Progress`.  Before the runtime's `_lock` a method stops also where the lock is free, and whoever
waits for it gets it in any order; nothing is awaited under the controller's lock.  The windows and
the session are code behind a boundary, which answers in time, or raises.  What a runtime raises its
host replaces by an error of its own, so that only the raising is kept; the counters of the
snapshots are left out.
-/

namespace K5Vision.Presentation.Operator

open Controller (ControllerState)

/-! ## States -/

inductive RuntimeState
  | ready
  | running
  | complete
  | stopped
  | failed
  | closed
  deriving DecidableEq, Repr

/-- The placements of a `ViewportLayout`, by their logical slots. -/
abbrev Layout := List ℕ

inductive TaskEnd
  | returned
  | cancelled
  | failed
  deriving DecidableEq, Repr

inductive Task
  | absent
  | running
  | ended (taskEnd : TaskEnd)
  deriving DecidableEq, Repr

/-- `BoundedPresentationController`. -/
structure Control where
  state : ControllerState
  hasTask : Bool
  task : Task
  cancelling : Bool
  deriving DecidableEq, Repr

/-- `BoundedWindowsOperatorRuntime`; `lock` has the call that is inside its lock. -/
structure Runtime where
  state : RuntimeState
  layout : Layout
  windows : Bool
  presentation : Bool
  control : Control
  lock : Option ℕ
  /-- Whether a `stop` has come to the presentation. -/
  halted : Bool
  deriving DecidableEq, Repr

def Runtime.create (layout : Layout) : Runtime where
  state := .ready
  layout := layout
  windows := false
  presentation := false
  control := ⟨.created, false, .absent, false⟩
  lock := none
  halted := false

/-! ## Places -/

/-- What `_cleanup` is called for. -/
inductive Cleanup
  | stop
  | close
  | failure
  deriving DecidableEq, Repr

/-- Who has called `stop` of the controller: `presentation.stop()`, or `presentation.close()` in a
cleanup. -/
inductive Stopper
  | stop
  | close (cleanup : Cleanup)
  deriving DecidableEq, Repr

inductive Method
  | wait
  | stop
  | relayout (layout : Layout)
  | close
  deriving DecidableEq, Repr

inductive Place
  | lock (method : Method)
  | opening
  | media
  /-- `wait` is before the lock again, with the state of its child, or behind an exception. -/
  | relock (child : Option ControllerState)
  | relayouting (layout : Layout)
  | stoppingTask (stopper : Stopper)
  | stoppingSession (stopper : Stopper)
  | closingSession (cleanup : Cleanup)
  /-- It awaits `windows.close()`; `failed` is the flag of `_cleanup`. -/
  | closingWindows (cleanup : Cleanup) (failed : Bool)
  deriving DecidableEq, Repr

inductive Progress
  | awaits (place : Place)
  /-- The method returns a snapshot with this state. -/
  | returned (state : RuntimeState)
  | raised
  deriving DecidableEq, Repr

abbrev Turn := Runtime × Progress

inductive Answer
  | returned
  | raised
  | refused
  deriving DecidableEq, Repr

namespace Runtime

/-! ## `_cleanup` -/

def leave (progress : Progress) (runtime : Runtime) : Turn :=
  ({ runtime with lock := none }, progress)

def setState (state : RuntimeState) (runtime : Runtime) : Runtime := { runtime with state := state }

/-- A verdict of the controller, with `_task = None`. -/
def conclude (state : ControllerState) (runtime : Runtime) : Runtime :=
  { runtime with control := { runtime.control with state := state, hasTask := false } }

def failControl (runtime : Runtime) : Runtime :=
  { runtime with control := { runtime.control with state := .failed } }

/-- What follows `_cleanup`. -/
def cleaned (cleanup : Cleanup) (failed : Bool) (runtime : Runtime) : Turn :=
  match cleanup with
  | .failure => (runtime.setState .failed).leave .raised
  | .stop =>
      if failed then (runtime.setState .failed).leave .raised
      else (runtime.setState .stopped).leave (.returned .stopped)
  | .close =>
      if failed then (runtime.setState .failed).leave .raised
      else (runtime.setState .closed).leave (.returned .closed)

/-- `_cleanup` from behind the presentation. -/
def closeWindows (cleanup : Cleanup) (failed : Bool) (runtime : Runtime) : Turn :=
  if runtime.windows then
    ({ runtime with windows := false }, .awaits (.closingWindows cleanup failed))
  else runtime.cleaned cleanup failed

/-- `stop` of the controller goes on behind its task. -/
def taskStopped (stopper : Stopper) (raised : Runtime → Turn) (taskEnd : TaskEnd)
    (runtime : Runtime) : Turn :=
  match taskEnd with
  | .failed => raised runtime.failControl
  | .returned | .cancelled => (runtime, .awaits (.stoppingSession stopper))

/-- `stop` of a controller that is running. -/
def stopTask (stopper : Stopper) (raised : Runtime → Turn) (runtime : Runtime) : Turn :=
  if !runtime.control.hasTask then raised runtime.failControl
  else
    match runtime.control.task with
    | .ended taskEnd => runtime.taskStopped stopper raised taskEnd
    | .absent | .running =>
        ({ runtime with control := { runtime.control with cancelling := true } },
          .awaits (.stoppingTask stopper))

def closeController (cleanup : Cleanup) (runtime : Runtime) : Turn :=
  match runtime.control.state with
  | .closed => runtime.closeWindows cleanup false
  | .running => runtime.stopTask (.close cleanup) (closeWindows cleanup true)
  | _ => (runtime, .awaits (.closingSession cleanup))

def clean (cleanup : Cleanup) (runtime : Runtime) : Turn :=
  if runtime.presentation then
    { runtime with presentation := false }.closeController cleanup
  else runtime.closeWindows cleanup false

/-- `stop` of the controller has raised. -/
def stopRaised : Stopper → Runtime → Turn
  | .stop => clean .failure
  | .close cleanup => closeWindows cleanup true

/-! ## The methods behind the lock -/

/-- `windows.open()`, of a runtime that nobody else knows yet. -/
def start (call : ℕ) (runtime : Runtime) : Runtime :=
  { runtime with windows := true, lock := some call }

/-- `start` from behind `windows.open()`. -/
def opened (answer : Answer) (runtime : Runtime) : Turn :=
  match answer with
  | .raised => runtime.clean .failure
  | .refused => { runtime with presentation := true }.clean .failure
  | .returned =>
      { runtime with
        presentation := true
        control := ⟨.running, true, .running, false⟩
        state := .running }.leave (.returned .running)

/-- `wait` of the controller goes on behind its task. -/
def settle (taskEnd : TaskEnd) (runtime : Runtime) : Turn :=
  let state := runtime.control.state
  match taskEnd with
  | .returned =>
      let state := if state = .running then .complete else state
      (runtime.conclude state, .awaits (.relock (some state)))
  | .cancelled =>
      let state := if state = .running then .stopped else state
      (runtime.conclude state, .awaits (.relock (some state)))
  | .failed => (runtime.conclude .failed, .awaits (.relock none))

def awaitMedia (runtime : Runtime) : Turn :=
  if runtime.control.state = .created then (runtime, .awaits (.relock none))
  else if !runtime.control.hasTask then
    (runtime, .awaits (.relock (some runtime.control.state)))
  else
    match runtime.control.task with
    | .ended taskEnd => runtime.settle taskEnd
    | .absent | .running => (runtime, .awaits .media)

def stopMedia (runtime : Runtime) : Turn :=
  match runtime.control.state with
  | .created => runtime.clean .failure
  | .running => runtime.stopTask .stop (clean .failure)
  | _ => runtime.clean .stop

def enter (call : ℕ) (method : Method) (runtime : Runtime) : Turn :=
  let entered := { runtime with lock := some call }
  match method with
  | .wait =>
      if runtime.state ≠ .running then (runtime, .raised)
      else if !runtime.presentation then entered.clean .failure
      else runtime.awaitMedia
  | .stop =>
      if runtime.state ≠ .running then (runtime, .raised)
      else if !runtime.presentation then entered.clean .failure
      else { entered with halted := true }.stopMedia
  | .relayout layout =>
      if runtime.state ≠ .running then (runtime, .raised)
      else if ¬ (2 ≤ layout.length ∧ layout.length ≤ 16) then (runtime, .raised)
      else if layout.toFinset ≠ runtime.layout.toFinset then (runtime, .raised)
      else if !runtime.windows then entered.clean .failure
      else (entered, .awaits (.relayouting layout))
  | .close =>
      if runtime.state = .closed then (runtime, .returned .closed) else entered.clean .close

def reenter (call : ℕ) (child : Option ControllerState) (runtime : Runtime) : Turn :=
  if !runtime.presentation then (runtime, .raised)
  else
    match child with
    | none | some .failed => { runtime with lock := some call }.clean .failure
    | some .complete => (runtime.setState .complete, .returned .complete)
    | some .stopped => (runtime.setState .stopped, .returned .stopped)
    | some _ => (runtime, .returned runtime.state)

/-! ## The methods behind their other awaits -/

/-- `stop` of the controller goes on behind `session.close()`. -/
def sessionStopped (stopper : Stopper) (answer : Answer) (runtime : Runtime) : Turn :=
  match answer, stopper with
  | .returned, .stop => (runtime.conclude .stopped).clean .stop
  | .returned, .close cleanup => (runtime.conclude .stopped, .awaits (.closingSession cleanup))
  | _, _ => stopRaised stopper (runtime.conclude .failed)

/-- `close` of the controller goes on behind `session.close()`. -/
def sessionClosed (cleanup : Cleanup) (answer : Answer) (runtime : Runtime) : Turn :=
  match answer with
  | .returned => (runtime.conclude .closed).closeWindows cleanup false
  | _ => (runtime.conclude .failed).closeWindows cleanup true

/-- A call goes on in a method of the runtime; `none` where it has to wait. -/
def resume (call : ℕ) (answer : Answer) (place : Place) (runtime : Runtime) : Option Turn :=
  match place with
  | .lock method => if runtime.lock.isSome then none else some (runtime.enter call method)
  | .opening => some (runtime.opened answer)
  | .media =>
      match runtime.control.task with
      | .ended taskEnd => some (runtime.settle taskEnd)
      | _ => none
  | .relock child => if runtime.lock.isSome then none else some (runtime.reenter call child)
  | .relayouting layout =>
      match answer with
      | .returned => some ({ runtime with layout := layout }.leave (.returned runtime.state))
      | _ => some (runtime.clean .failure)
  | .stoppingTask stopper =>
      match runtime.control.task with
      | .ended taskEnd => some (runtime.taskStopped stopper (stopRaised stopper) taskEnd)
      | _ => none
  | .stoppingSession stopper => some (runtime.sessionStopped stopper answer)
  | .closingSession cleanup => some (runtime.sessionClosed cleanup answer)
  | .closingWindows cleanup failed =>
      some (runtime.cleaned cleanup (failed || answer != .returned))

/-- The session's task ends; cancelled only where it was asked to. -/
def endTask (taskEnd : TaskEnd) (runtime : Runtime) : Runtime :=
  if runtime.control.task = .running ∧
      (taskEnd = .cancelled → runtime.control.cancelling = true) then
    { runtime with control := { runtime.control with task := .ended taskEnd } }
  else runtime

end Runtime

end K5Vision.Presentation.Operator
