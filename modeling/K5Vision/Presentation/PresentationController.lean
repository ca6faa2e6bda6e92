import K5Vision.Presentation.MixedPresentation
import K5Vision.Presentation.PresentationHost

/-!
# The presentation controller

`BoundedPresentationController` of `media/presentation_controller.py`, over
`BoundedPresentationSession` of `media/presentation_session.py`.

A step goes from one suspension of a call, or of the session's task, to its next one.  Nothing is
awaited under the controller's `_lock`, so that lock is free whenever a call comes to it.  The
session's `_run_lock` is held by `run` to the end of the task, and by `close` while the dispatcher
is closed.  An await of a task that is done, and of a lock that is free, does not suspend.  The task
takes its first step before anybody goes on who awaits it, for the event loop takes up what is
ready in order.

The coordinator and the dispatcher are code behind a boundary.  Closing the dispatcher suspends
while a frame is being dispatched, which cannot be before the session runs.  `asyncio.wait_for`
awaits within its caller, so that a time-out ends what the caller awaits; the session's task is
shielded from it.
-/

namespace K5Vision.Presentation.Controller

open Library

/-! ## States, errors and snapshots -/

inductive ControllerState
  | created
  | running
  | complete
  | stopped
  | failed
  | closed
  deriving DecidableEq, Repr

inductive ControllerErrorCode
  | invalidState
  | sessionFailure
  | stopTimeout
  | cleanupFailure
  deriving DecidableEq, Repr

/-- `PresentationControllerError`. -/
structure ControllerError where
  code : ControllerErrorCode
  message : String
  deriving DecidableEq, Repr

inductive SessionState
  | created
  | running
  | complete
  | cancelled
  | failed
  | closed
  deriving DecidableEq, Repr

inductive SessionErrorCode
  | invalidState
  | presentationFailure
  | cleanupFailure
  deriving DecidableEq, Repr

def SessionErrorCode.value : SessionErrorCode → String
  | .invalidState => "invalid_state"
  | .presentationFailure => "presentation_failure"
  | .cleanupFailure => "cleanup_failure"

/-- `PresentationSessionError`. -/
structure SessionError where
  code : SessionErrorCode
  message : String
  deriving DecidableEq, Repr

structure Aggregate where
  plan : Plan
  completedStreams : ℕ
  totals : Totals
  deriving DecidableEq, Repr

structure Observed where
  mixed : Mixed.Snapshot
  viewportCount : ℕ
  viewport : Totals
  deriving DecidableEq, Repr

def Aggregate.capture (seen : Observed) (aggregate : Aggregate) : Aggregate where
  plan :=
    { streamCount := max aggregate.plan.streamCount seen.mixed.streamCount
      liveStreams := max aggregate.plan.liveStreams seen.mixed.liveStreams
      playbackStreams := max aggregate.plan.playbackStreams seen.mixed.playbackStreams
      viewportCount := seen.viewportCount }
  completedStreams := seen.mixed.completedStreams
  totals :=
    { seen.viewport with
      maxSourceSpanMs := max seen.mixed.maxSourceSpanMs seen.viewport.maxSourceSpanMs }

/-- The streams that a session is to run. -/
def Aggregate.select (streams : List Mixed.Stream) (aggregate : Aggregate) : Aggregate :=
  { aggregate with
    plan :=
      { aggregate.plan with
        streamCount := streams.length
        liveStreams := (streams.filter fun stream => stream.kind = .live).length
        playbackStreams := (streams.filter fun stream => stream.kind = .playback).length } }

/-- `PresentationControllerSnapshot`. -/
structure Snapshot where
  state : ControllerState
  aggregate : Aggregate
  deriving DecidableEq, Repr

/-! ## The session's task -/

inductive TaskEnd
  | returned
  | failed (error : SessionError)
  | cancelled
  deriving DecidableEq, Repr

/-- What `run` closes the dispatcher for. -/
inductive Ending
  | completed
  | cancelled
  | failed (message : String)
  deriving DecidableEq, Repr

inductive TaskPhase
  | absent
  | created (streams : List Mixed.Stream)
  | presenting
  | releasing (ending : Ending)
  | ended (taskEnd : TaskEnd)
  deriving DecidableEq, Repr

/-! ## Calls -/

inductive Method
  | start (streams : List Mixed.Stream)
  | wait
  | stop
  | close
  deriving DecidableEq, Repr

inductive Purpose
  | stop
  | stopFirst
  | close
  deriving DecidableEq, Repr

inductive CallEnd
  | returned (snapshot : Snapshot)
  | raised (error : ControllerError)
  /-- `asyncio.create_task` has raised. -/
  | broken
  | cancelled
  deriving DecidableEq, Repr

inductive CallPhase
  | idle
  | waiting
  /-- `stop` awaits the task, which it has cancelled. -/
  | stopping (purpose : Purpose)
  /-- `session.close()` awaits the session's lock. -/
  | acquiring (purpose : Purpose)
  /-- `session.close()` has the lock, and awaits the closing of the dispatcher. -/
  | releasing (purpose : Purpose)
  | ended (callEnd : CallEnd)
  deriving DecidableEq, Repr

structure Call where
  method : Method
  phase : CallPhase
  /-- Whether the caller was cancelled while the call awaited something. -/
  interrupted : Bool
  deriving DecidableEq, Repr

inductive Holder (κ : Type)
  | run
  | call (k : κ)
  deriving DecidableEq, Repr

/-- The controller and its session. -/
structure Control (κ : Type) where
  state : ControllerState
  hasTask : Bool
  task : TaskPhase
  session : SessionState
  aggregate : Aggregate
  runLock : Option (Holder κ)
  /-- Whether the dispatcher has let go of its consumers. -/
  released : Bool
  deriving DecidableEq

structure Around where
  seen : Observed
  busy : Bool
  made : Bool
  deriving DecidableEq, Repr

/-- What a step of a call makes of the controller and of the call. -/
abbrev Turn (κ : Type) := Control κ × Call

section

variable {κ : Type}

namespace Control

def create (viewportCount : ℕ) : Control κ where
  state := .created
  hasTask := false
  task := .absent
  session := .created
  aggregate := ⟨⟨0, 0, 0, viewportCount⟩, 0, ⟨0, 0, 0⟩⟩
  runLock := none
  released := false

def snapshot (c : Control κ) : Snapshot := ⟨c.state, c.aggregate⟩

/-- A verdict, with `_task = None`. -/
def decide (state : ControllerState) (c : Control κ) : Control κ :=
  { c with state := state, hasTask := false }

end Control

def Call.giveSnapshot (c : Control κ) (call : Call) : Turn κ :=
  (c, { call with phase := .ended (.returned c.snapshot) })

def Call.raise (code : ControllerErrorCode) (message : String) (c : Control κ) (call : Call) :
    Turn κ :=
  (c, { call with phase := .ended (.raised ⟨code, message⟩) })

def Call.cancel (c : Control κ) (call : Call) : Turn κ :=
  (c, { call with phase := .ended .cancelled, interrupted := true })

/-- The `except Exception` behind `session.close()`. -/
def Call.failCleanup (c : Control κ) (call : Call) : Turn κ :=
  call.raise .cleanupFailure "presentation controller cleanup failed" (c.decide .failed)

/-! ## `session.close()` -/

/-- The dispatcher is closed, and `session.close()` returns. -/
def Control.release (seen : Observed) (c : Control κ) : Control κ :=
  { c with
    released := true
    aggregate := c.aggregate.capture seen
    runLock := none
    session := if c.session = .created then .closed else c.session }

/-- `session.close()` ends in another way while it closes the dispatcher. -/
def Control.leave (seen : Observed) (c : Control κ) : Control κ :=
  { c with aggregate := c.aggregate.capture seen, runLock := none }

/-- `session.close()`, and what a call does behind it. -/
def Call.closeSession (finish : Control κ → Call → Turn κ) (purpose : Purpose) (k : κ)
    (around : Around) (c : Control κ) (call : Call) : Turn κ :=
  if c.runLock.isSome then (c, { call with phase := .acquiring purpose })
  else if c.session = .running then call.failCleanup c
  -- nobody dispatches before the session runs
  else if around.busy && c.session ≠ .created then
    ({ c with runLock := some (.call k) }, { call with phase := .releasing purpose })
  else finish (c.release around.seen) call

/-- What a call does behind `session.close()`. -/
def Call.finish (k : κ) (around : Around) : Purpose → Control κ → Call → Turn κ
  | .stop => fun c call => call.giveSnapshot (c.decide .stopped)
  | .close => fun c call => call.giveSnapshot (c.decide .closed)
  | .stopFirst => fun c call =>
      call.closeSession (fun c call => call.giveSnapshot (c.decide .closed)) .close k around
        (c.decide .stopped)

/-! ## The calls, up to their first suspension -/

def Call.start (streams : List Mixed.Stream) (around : Around) (c : Control κ) (call : Call) :
    Turn κ :=
  if c.state ≠ .created then
    call.raise .invalidState "presentation controller cannot start from current state" c
  else if !around.made then
    ({ c with state := .running }, { call with phase := .ended .broken })
  else
    call.giveSnapshot { c with state := .running, hasTask := true, task := .created streams }

/-- `wait` goes on behind the task. -/
def Call.settle (taskEnd : TaskEnd) (c : Control κ) (call : Call) : Turn κ :=
  match taskEnd with
  | .returned =>
      call.giveSnapshot (c.decide (if c.state = .running then .complete else c.state))
  | .cancelled =>
      call.giveSnapshot (c.decide (if c.state = .running then .stopped else c.state))
  | .failed error =>
      call.raise .sessionFailure
        ("presentation controller session failed at " ++ error.code.value ++ ": " ++ error.message)
        (c.decide .failed)

def Call.wait (c : Control κ) (call : Call) : Turn κ :=
  if c.state = .created then
    call.raise .invalidState "presentation controller has not started" c
  else if !c.hasTask then call.giveSnapshot c
  else
    match c.task with
    | .ended taskEnd => call.settle taskEnd c
    | _ => (c, { call with phase := .waiting })

/-- `stop` goes on behind the task. -/
def Call.stopped (purpose : Purpose) (taskEnd : TaskEnd) (k : κ) (around : Around) (c : Control κ)
    (call : Call) : Turn κ :=
  match taskEnd with
  | .failed _ =>
      call.raise .sessionFailure "presentation controller session failed while stopping"
        { c with state := .failed }
  | _ => call.closeSession (Call.finish k around purpose) purpose k around c

/-- `stop` of a controller that is running. -/
def Call.stopTask (purpose : Purpose) (k : κ) (around : Around) (c : Control κ) (call : Call) :
    Turn κ :=
  if !c.hasTask then
    call.raise .sessionFailure "presentation controller task is unavailable"
      { c with state := .failed }
  else
    match c.task with
    | .ended taskEnd => call.stopped purpose taskEnd k around c
    | _ => (c, { call with phase := .stopping purpose })

def Call.stop (k : κ) (around : Around) (c : Control κ) (call : Call) : Turn κ :=
  if c.state = .created then
    call.raise .invalidState "presentation controller is not running" c
  else if c.state ≠ .running then call.giveSnapshot c
  else call.stopTask .stop k around c

def Call.close (k : κ) (around : Around) (c : Control κ) (call : Call) : Turn κ :=
  if c.state = .closed then call.giveSnapshot c
  else if c.state = .running then call.stopTask .stopFirst k around c
  else call.closeSession (Call.finish k around .close) .close k around c

def Call.begin (k : κ) (around : Around) (c : Control κ) (call : Call) : Turn κ :=
  match call.method with
  | .start streams => call.start streams around c
  | .wait => call.wait c
  | .stop => call.stop k around c
  | .close => call.close k around c

/-! ## The calls behind an await -/

inductive Answer
  /-- What it waits for has come. -/
  | arrived
  | raised
  | timedOut
  | cancelled
  deriving DecidableEq, Repr

def Call.resume (k : κ) (answer : Answer) (around : Around) (c : Control κ) (call : Call) :
    Turn κ :=
  match call.phase, answer with
  | .waiting, .arrived =>
      match c.task with
      | .ended taskEnd => call.settle taskEnd c
      | _ => (c, call)
  | .waiting, .cancelled =>
      -- `task.cancelled()` is asked, whoever was cancelled
      if c.task = .ended .cancelled then { call with interrupted := true }.settle .cancelled c
      else call.cancel c
  | .stopping purpose, .arrived =>
      match c.task with
      | .ended taskEnd => call.stopped purpose taskEnd k around c
      | _ => (c, call)
  | .stopping purpose, .cancelled =>
      -- `except asyncio.CancelledError: pass`
      { call with interrupted := true }.closeSession (Call.finish k around purpose) purpose k around
        c
  | .stopping _, .timedOut =>
      call.raise .stopTimeout "presentation controller stop timed out" { c with state := .failed }
  | .acquiring purpose, .arrived =>
      if c.runLock.isSome then (c, call)
      else call.closeSession (Call.finish k around purpose) purpose k around c
  | .acquiring _, .timedOut => call.failCleanup c
  | .acquiring _, .cancelled => call.cancel c
  | .releasing purpose, .arrived => Call.finish k around purpose (c.release around.seen) call
  | .releasing _, .raised | .releasing _, .timedOut => call.failCleanup (c.leave around.seen)
  | .releasing _, .cancelled => call.cancel (c.leave around.seen)
  | _, _ => (c, call)

/-! ## `session.run` -/

inductive Presented
  | returned
  | cancelled
  /-- `MixedPresentationError`, with the value of its code. -/
  | mixedError (code message : String)
  | otherError
  deriving DecidableEq, Repr

inductive Closing
  | closed
  | raised
  | cancelled
  deriving DecidableEq, Repr

namespace Control

/-- The task takes its first step, or is cancelled before. -/
def beginTask (cancelled : Bool) (c : Control κ) : Control κ :=
  match c.task with
  | .created streams =>
      if cancelled then { c with task := .ended .cancelled }
      else if c.runLock.isSome then c
      else if c.session ≠ .created then
        { c with task := .ended (.failed
          ⟨.invalidState, "presentation session cannot run from current state"⟩) }
      else
        { c with
          session := .running
          aggregate := c.aggregate.select streams
          runLock := some .run
          task := .presenting }
  | _ => c

/-- The coordinator ends. -/
def presented (answer : Presented) (c : Control κ) : Control κ :=
  match c.task with
  | .presenting =>
      let ending := match answer with
        | .returned => Ending.completed
        | .cancelled => .cancelled
        | .mixedError code message =>
            .failed ("presentation session failed at " ++ code ++ ": " ++ message)
        | .otherError => .failed "presentation session failed"
      { c with task := .releasing ending }
  | _ => c

def endTask (session : SessionState) (taskEnd : TaskEnd) (c : Control κ) : Control κ :=
  { c with session := session, runLock := none, task := .ended taskEnd }

/-- The closing of the dispatcher ends for `run`. -/
def taskReleased (answer : Closing) (seen : Observed) (c : Control κ) : Control κ :=
  let captured := { c with aggregate := c.aggregate.capture seen }
  let cleanup : TaskEnd := .failed ⟨.cleanupFailure, "presentation session cleanup failed"⟩
  match c.task, answer with
  | .releasing .completed, .closed => { captured with released := true }.endTask .complete .returned
  | .releasing .completed, .raised => captured.endTask .failed cleanup
  | .releasing .cancelled, .closed =>
      { captured with released := true }.endTask .cancelled .cancelled
  | .releasing .cancelled, .raised => captured.endTask .cancelled cleanup
  | .releasing .cancelled, .cancelled => captured.endTask .cancelled .cancelled
  | .releasing (.failed message), .closed =>
      { captured with released := true }.endTask .failed (.failed ⟨.presentationFailure, message⟩)
  | .releasing (.failed _), .raised => captured.endTask .failed cleanup
  -- only a `PresentationSessionError` of the closing is handled: the session stays as it is
  | .releasing _, .cancelled => captured.endTask c.session .cancelled
  | _, _ => c

end Control

/-! ## The machine -/

/-- A controller with the calls `κ`. -/
structure System (κ : Type) where
  control : Control κ
  calls : κ → Call

def System.create (viewportCount : ℕ) (methods : κ → Method) : System κ :=
  ⟨.create viewportCount, fun k => ⟨methods k, .idle, false⟩⟩

inductive Event (κ : Type)
  | call (k : κ) (around : Around)
  | resume (k : κ) (answer : Answer) (around : Around)
  | beginTask (cancelled : Bool)
  | presented (answer : Presented)
  | taskReleased (answer : Closing) (seen : Observed)

variable [DecidableEq κ]

def System.turn (k : κ) (turn : Turn κ) (s : System κ) : System κ :=
  ⟨turn.1, Function.update s.calls k turn.2⟩

def System.step (s : System κ) : Event κ → System κ
  | .call k around =>
      if (s.calls k).phase = .idle then s.turn k ((s.calls k).begin k around s.control) else s
  | .resume k answer around => s.turn k ((s.calls k).resume k answer around s.control)
  | .beginTask cancelled => { s with control := s.control.beginTask cancelled }
  | .presented answer => { s with control := s.control.presented answer }
  | .taskReleased answer seen => { s with control := s.control.taskReleased answer seen }

/-- The task has not taken its first step. -/
def TaskPhase.isFresh : TaskPhase → Bool
  | .created _ => true
  | _ => false

/-- There is no task, or it has ended. -/
def TaskPhase.isOver : TaskPhase → Bool
  | .absent => true
  | .ended _ => true
  | _ => false

/-- Who awaits the task goes on behind its first step. -/
def possible (s : System κ) : Event κ → Prop
  | .resume k _ _ =>
      match (s.calls k).phase with
      | .waiting | .stopping _ => s.control.task.isFresh = false
      | _ => True
  | _ => True

def machine (condition : System κ → Event κ → Prop) : Machine (System κ) (Event κ) where
  step := System.step
  admissible s event := possible s event ∧ condition s event

end

end K5Vision.Presentation.Controller
