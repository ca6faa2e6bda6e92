import K5Vision.Identity.Users
import K5Vision.Library.Machine

/-!
# Person views of the operator

`OperatorAnalyticsBroker` of `operator_analytics.py`: any number of calls of `infer`, `close_owner`,
`expire_idle` and `aclose` at once, on one event loop.  A call goes in one step from where it awaits
something to where it awaits the next thing.  `infer` runs its provider in a task of its own, the
operation, and awaits that; `_dispose` cancels it, and awaits it too.

A call or an operation that is cancelled while it awaits a task passes the request on to the task;
where nothing is left to wait for, its own await raises.  A provider is code behind a boundary: it
answers, raises (a timeout is an exception too), or ends cancelled if it was asked to, and it may
also overlook that.  Who waits for a lock gets it in any order.

Views, operations and providers are numbered as they are made.  Kept beside them are the key that a
view was made for, who asked to cancel an operation, and the uses and the closes of the providers.
Times are rationals.
-/

namespace K5Vision.Analytics.Views

open Library
open Function (update)

/-! ## Frames and boxes -/

/-- `PresentationVideoFrame`, which no instance gets past `__post_init__` without.  `BGRX` is the
only pixel format there is. -/
structure VideoFrame where
  payload : List UInt8
  width : ℕ
  height : ℕ
  strideBytes : ℕ
  sourceElapsedMs : ℕ
  timing : sourceElapsedMs ≤ 2147483647
  geometry : (1 ≤ width ∧ width ≤ 16384) ∧ 1 ≤ height ∧ height ≤ 16384
  stride : width * 4 ≤ strideBytes ∧ strideBytes ≤ 128 * 1024 * 1024
  length : (1 ≤ strideBytes * height ∧ strideBytes * height ≤ 128 * 1024 * 1024) ∧
    payload.length = strideBytes * height

def VideoFrame.transient (frame : VideoFrame) (elapsed : ℕ) (h : elapsed ≤ 2147483647) :
    VideoFrame :=
  { frame with sourceElapsedMs := elapsed, timing := h }

/-- A tracked detection of the producer; `none` stands for an attribute of another type, or a
number that is not finite. -/
structure Tracked where
  trackId : Option String
  category : Option String
  confidence : Option ℚ
  xMin : Option ℚ
  yMin : Option ℚ
  xMax : Option ℚ
  yMax : Option ℚ

/-- `DetectionOverlayObservation`. -/
structure Observation where
  category : String
  confidence : ℚ
  xMin : ℚ
  yMin : ℚ
  xMax : ℚ
  yMax : ℚ
  deriving DecidableEq

def unit (value : Option ℚ) : Option ℚ :=
  value.bind fun value => if 0 ≤ value ∧ value ≤ 1 then some value else none

/-- One turn of `adapt_analytics_tracked_detections`; `none` where it raises, and for a value that
has not the attributes. -/
def observation (value : Option Tracked) : Option Observation := do
  let tracked ← value
  let trackId ← tracked.trackId
  if trackId.isEmpty || decide (128 < trackId.length) then none
  else
    let category ← tracked.category
    let category := Identity.strip category
    if category.isEmpty || decide (64 < category.length) then none
    else
      let confidence ← unit tracked.confidence
      let xMin ← unit tracked.xMin
      let yMin ← unit tracked.yMin
      let xMax ← unit tracked.xMax
      let yMax ← unit tracked.yMax
      if xMax ≤ xMin ∨ yMax ≤ yMin then none
      else some ⟨category, confidence, xMin, yMin, xMax, yMax⟩

def maxViewBoxes : ℕ := 32

def adapt (values : List (Option Tracked)) : Option (List Observation) :=
  if maxViewBoxes < values.length then none else values.mapM observation

inductive Status
  | active
  | busy
  | unavailable
  deriving DecidableEq, Repr

/-- `OperatorAnalyticsResult`. -/
structure Result where
  status : Status
  frameId : ℕ
  observations : List Observation
  deriving DecidableEq

def Result.without (status : Status) (frameId : ℕ) : Result := ⟨status, frameId, []⟩

/-! ## The arguments of `infer` -/

variable {ω γ : Type}

/-- What is given for the frame; `none` is no frame at all.  `exactInts` says that the geometry is
of type `int`. -/
structure FrameArgument where
  frame : VideoFrame
  exactInts : Bool
  itemsize : ℕ
  ndim : ℕ
  cContiguous : Bool

/-- The arguments of `infer`, where `none` is a value of another type. -/
structure Arguments (ω γ : Type) where
  ownerId : Option ω
  cameraId : Option γ
  frameId : Option ℤ
  frame : Option FrameArgument

/-- Arguments that have been validated. -/
structure Submission (ω γ : Type) where
  key : ω × γ
  frameId : ℕ
  frame : VideoFrame

/-- `frame` without the geometry and the bytes that a view admits. -/
def FrameArgument.refused (argument : FrameArgument) : Bool :=
  !argument.exactInts || decide (960 < argument.frame.width) ||
    decide (960 < argument.frame.height) ||
    decide (640 * 640 < argument.frame.width * argument.frame.height) ||
    argument.frame.strideBytes != argument.frame.width * 4 || argument.itemsize != 1 ||
    argument.ndim != 1 || !argument.cContiguous ||
    decide (640 * 640 * 4 < argument.itemsize * argument.frame.payload.length)

def Arguments.validate (arguments : Arguments ω γ) : Except String (Submission ω γ) :=
  match arguments.ownerId, arguments.cameraId with
  | some owner, some camera =>
      match arguments.frameId with
      | some frameId =>
          if 0 ≤ frameId ∧ frameId ≤ 2147483647 then
            match arguments.frame with
            | some argument =>
                if argument.refused then .error "Analytics view frame was refused"
                else .ok ⟨(owner, camera), frameId.toNat, argument.frame⟩
            | none => .error "Analytics view frame was refused"
          else .error "Analytics frame identifier was refused"
      | none => .error "Analytics frame identifier was refused"
  | _, _ => .error "Analytics view identity was refused"

/-! ## The state -/

/-- `__init__`, behind its checks.  The timeout of an inference is not kept: an operation may raise
at any time. -/
structure Config where
  maxViews : ℕ
  interval : ℚ
  idle : ℚ
  views : 1 ≤ maxViews ∧ maxViews ≤ 4
  timing : (1 / 4 ≤ interval ∧ interval ≤ 5) ∧ 1 ≤ idle ∧ idle ≤ 120

/-- `_View`.  `lastSubmission` is `none` for minus infinity; `lock` has the call that is inside
`dispose_lock`, and `waiters` counts those before it. -/
structure View (ω γ : Type) where
  key : Option (ω × γ)
  created : ℚ
  lastUsed : ℚ
  lastSubmission : Option ℚ
  provider : Option ℕ
  operation : Option ℕ
  closed : Bool
  lock : Option ℕ
  waiters : ℕ

inductive OperationEnd
  | returned (result : Result)
  | raised
  | cancelled
  deriving DecidableEq

inductive OperationState
  | created
  | factory
  | inferring (provider : ℕ)
  | done (ending : OperationEnd)
  deriving DecidableEq

/-- The task of `run()`, with the variables that it is closed over.  `cancelling` says that it is to
see a `CancelledError`, and `cancels` who asked for that. -/
structure Operation (ω γ : Type) where
  call : ℕ
  view : ℕ
  submission : Submission ω γ
  now : ℚ
  state : OperationState
  cancelling : Bool
  cancels : List ℕ

def Operation.done (operation : Operation ω γ) : Bool :=
  match operation.state with
  | .done _ => true
  | _ => false

inductive Method (ω γ : Type)
  | infer (arguments : Arguments ω γ)
  | closeOwner (owner : Option ω)
  | expireIdle
  | aclose

inductive Outcome
  | result (result : Result)
  | nothing
  | valueError (message : String)
  | cancelled
  deriving DecidableEq

/-- Where a call is.  `rest` has the views that it still has to dispose of, and `outcome` is what it
ends with behind that. -/
inductive Phase
  | idle
  | running
  | awaiting (operation : ℕ)
  | locking (view : ℕ) (rest : List ℕ) (outcome : Outcome)
  /-- It awaits the operation that it has cancelled. -/
  | joining (operation view : ℕ) (rest : List ℕ) (outcome : Outcome)
  | closing (view : ℕ) (rest : List ℕ) (outcome : Outcome)
  | ended (outcome : Outcome)
  deriving DecidableEq

structure Use (ω γ : Type) where
  provider : ℕ
  key : ω × γ
  frame : VideoFrame

/-- `OperatorAnalyticsBroker`, the calls and the operations.  `requested` marks the calls whose
caller has asked to cancel them, and `flagged` those whose own await is to raise for it. -/
structure Broker (ω γ : Type) where
  config : Config
  closed : Bool
  views : Table (ω × γ) ℕ
  viewCount : ℕ
  objects : ℕ → View ω γ
  operationCount : ℕ
  operations : ℕ → Option (Operation ω γ)
  providerCount : ℕ
  providerViews : ℕ → ℕ
  uses : List (Use ω γ)
  closes : List ℕ
  methods : ℕ → Option (Method ω γ)
  phases : ℕ → Phase
  requested : ℕ → Bool
  flagged : ℕ → Bool

inductive Answer
  | provider
  | values (values : List (Option Tracked))
  | returned
  | raised
  | cancelled

namespace Broker

def create (config : Config) : Broker ω γ where
  config := config
  closed := false
  views := .empty
  viewCount := 0
  objects := fun _ => ⟨none, 0, 0, none, none, none, false, none, 0⟩
  operationCount := 0
  operations := fun _ => none
  providerCount := 0
  providerViews := fun _ => 0
  uses := []
  closes := []
  methods := fun _ => none
  phases := fun _ => .idle
  requested := fun _ => false
  flagged := fun _ => false

def setPhase (call : ℕ) (phase : Phase) (broker : Broker ω γ) : Broker ω γ :=
  { broker with phases := update broker.phases call phase }

def setView (number : ℕ) (view : View ω γ) (broker : Broker ω γ) : Broker ω γ :=
  { broker with objects := update broker.objects number view }

def setOperation (number : ℕ) (operation : Operation ω γ) (broker : Broker ω γ) : Broker ω γ :=
  { broker with operations := update broker.operations number (some operation) }

def setFlag (call : ℕ) (flag : Bool) (broker : Broker ω γ) : Broker ω γ :=
  { broker with flagged := update broker.flagged call flag }

/-- The operation of a view that is not done. -/
def running (number : ℕ) (broker : Broker ω γ) : Option (ℕ × Operation ω γ) :=
  match (broker.objects number).operation with
  | none => none
  | some operation =>
      match broker.operations operation with
      | none => none
      | some task => if task.done then none else some (operation, task)

/-! ### `_dispose` -/

/-- `operation.cancel()`, of an operation that is not done. -/
def cancelOperation (call operation : ℕ) (task : Operation ω γ) : Broker ω γ → Broker ω γ :=
  setOperation operation { task with cancelling := true, cancels := task.cancels ++ [call] }

def unlock (number : ℕ) (broker : Broker ω γ) : Broker ω γ :=
  broker.setView number { broker.objects number with lock := none }

/-- The end of `_dispose`, from where the operation is done: the provider is taken and closed.
`next` goes on behind a view without one. -/
def takeProvider (call number : ℕ) (rest : List ℕ) (outcome : Outcome)
    (next : Broker ω γ → Broker ω γ) (broker : Broker ω γ) : Broker ω γ :=
  match (broker.objects number).provider with
  | none => next (broker.unlock number)
  | some provider =>
      { broker.setView number { broker.objects number with provider := none } with
        closes := broker.closes ++ [provider] }.setPhase call (.closing number rest outcome)

/-- `_dispose` with the lock in hand. -/
def enter (call number : ℕ) (rest : List ℕ) (outcome : Outcome)
    (next : Broker ω γ → Broker ω γ) (broker : Broker ω γ) : Broker ω γ :=
  let entered :=
    broker.setView number { broker.objects number with closed := true, lock := some call }
  match broker.running number with
  | some (operation, task) =>
      (entered.cancelOperation call operation task).setPhase call
        (.joining operation number rest outcome)
  | none => entered.takeProvider call number rest outcome next

/-- `_dispose` of one view after the other.  A lock that is free, and that nobody waits for, is
taken at once. -/
def disposeAll (call : ℕ) (outcome : Outcome) : List ℕ → Broker ω γ → Broker ω γ
  | [], broker => broker.setPhase call (.ended outcome)
  | number :: rest, broker =>
      if (broker.objects number).lock.isSome || decide (0 < (broker.objects number).waiters) then
        (broker.setView number { broker.objects number with
          waiters := (broker.objects number).waiters + 1 }).setPhase call
            (.locking number rest outcome)
      else broker.enter call number rest outcome (disposeAll call outcome rest)

/-! ### `infer` -/

/-- `now - view.last_submission < self._interval`. -/
def tooSoon (now : ℚ) (view : View ω γ) (broker : Broker ω γ) : Bool :=
  match view.lastSubmission with
  | none => false
  | some last => decide (now - last < broker.config.interval)

/-- `infer` from where it has its view. -/
def submit (call : ℕ) (submission : Submission ω γ) (number : ℕ) (now : ℚ)
    (broker : Broker ω γ) : Broker ω γ :=
  let view := broker.objects number
  if view.closed then
    broker.setPhase call (.ended (.result (.without .unavailable submission.frameId)))
  else if view.operation.isSome || broker.tooSoon now view then
    broker.setPhase call (.ended (.result (.without .busy submission.frameId)))
  else
    let operation := broker.operationCount
    { (broker.setView number { view with
          lastUsed := now
          lastSubmission := some now
          operation := some operation }).setOperation operation
        ⟨call, number, submission, now, .created, false, []⟩ with
      operationCount := operation + 1 }.setPhase call (.awaiting operation)

variable [DecidableEq ω] [DecidableEq γ]

def addView (key : ω × γ) (now : ℚ) (broker : Broker ω γ) : Broker ω γ :=
  { broker.setView broker.viewCount ⟨some key, now, now, none, none, none, false, none, 0⟩ with
    views := broker.views.upsert key broker.viewCount
    viewCount := broker.viewCount + 1 }

def infer (call : ℕ) (arguments : Arguments ω γ) (now : ℚ) (broker : Broker ω γ) : Broker ω γ :=
  match arguments.validate with
  | .error message => broker.setPhase call (.ended (.valueError message))
  | .ok submission =>
      if broker.closed then
        broker.setPhase call (.ended (.result (.without .unavailable submission.frameId)))
      else
        match broker.views.find? submission.key with
        | some number => broker.submit call submission number now
        | none =>
            if broker.config.maxViews ≤ broker.views.rows.length then
              broker.setPhase call (.ended (.result (.without .busy submission.frameId)))
            else
              (broker.addView submission.key now).submit call submission broker.viewCount now

/-- What `infer` goes on with behind its await: whether it has failed, and what it ends with. -/
def settle (flagged : Bool) (frameId : ℕ) (ending : OperationEnd) : Bool × Outcome :=
  if flagged then (true, .cancelled)
  else
    match ending with
    | .returned result => (false, .result result)
    | .raised => (true, .result (.without .unavailable frameId))
    | .cancelled => (true, .cancelled)

def finishInfer (call : ℕ) (operation : ℕ) (task : Operation ω γ) (ending : OperationEnd) (now : ℚ)
    (broker : Broker ω γ) : Broker ω γ :=
  let (failed, outcome) := settle (broker.flagged call) task.submission.frameId ending
  let view := broker.objects task.view
  let left := (broker.setView task.view { view with
    operation := if view.operation = some operation then none else view.operation
    lastUsed := now }).setFlag call false
  if failed || view.closed then
    disposeAll call outcome [task.view]
      (if left.views.find? task.submission.key = some task.view then
        { left with views := left.views.erase task.submission.key }
      else left)
  else left.setPhase call (.ended outcome)

/-! ### The other methods -/

/-- Views leave the dictionary; `mark` says whether they are marked as closed at once. -/
def drop (mark : Bool) (dropped : (ω × γ) × ℕ → Bool) (broker : Broker ω γ) : Broker ω γ :=
  let numbers := (broker.views.rows.filter dropped).map Prod.snd
  { broker with
    views := broker.views.keep fun row => !dropped row
    objects := fun number =>
      if mark = true ∧ number ∈ numbers then { broker.objects number with closed := true }
      else broker.objects number }

def closeOwner (call : ℕ) (owner : Option ω) (broker : Broker ω γ) : Broker ω γ :=
  match owner with
  | none => broker.setPhase call (.ended (.valueError "Analytics view identity was refused"))
  | some owner =>
      let selected : (ω × γ) × ℕ → Bool := fun row => decide (row.1.1 = owner)
      disposeAll call .nothing ((broker.views.rows.filter selected).map Prod.snd)
        (broker.drop true selected)

def expireIdle (call : ℕ) (now : ℚ) (broker : Broker ω γ) : Broker ω γ :=
  let expired : (ω × γ) × ℕ → Bool := fun row =>
    (broker.objects row.2).operation.isNone &&
      decide (broker.config.idle ≤ now - (broker.objects row.2).lastUsed)
  disposeAll call .nothing ((broker.views.rows.filter expired).map Prod.snd)
    (broker.drop false expired)

def aclose (call : ℕ) (broker : Broker ω γ) : Broker ω γ :=
  disposeAll call .nothing ((broker.views.rows.filter fun _ => true).map Prod.snd)
    { broker.drop true fun _ => true with closed := true }

def begin (call : ℕ) (method : Method ω γ) (now : ℚ) (broker : Broker ω γ) : Broker ω γ :=
  let named := { broker with methods := update broker.methods call (some method) }
  let broker := named.setPhase call .running
  match method with
  | .infer arguments => broker.infer call arguments now
  | .closeOwner owner => broker.closeOwner call owner
  | .expireIdle => broker.expireIdle call now
  | .aclose => broker.aclose call

/-! ### The steps -/

def resume (call : ℕ) (answer : Answer) (now : ℚ) (broker : Broker ω γ) : Broker ω γ :=
  let started := broker.setPhase call .running
  match broker.phases call with
  | .awaiting operation =>
      match broker.operations operation with
      | none => broker
      | some task =>
          match task.state with
          | .done ending => started.finishInfer call operation task ending now
          | _ => broker
  | .locking number rest outcome =>
      let left := (started.setView number { started.objects number with
        waiters := (started.objects number).waiters - 1 }).setFlag call false
      if broker.flagged call then left.setPhase call (.ended .cancelled)
      else if (broker.objects number).lock.isSome then broker
      else left.enter call number rest outcome (disposeAll call outcome rest)
  | .joining operation number rest outcome =>
      match broker.operations operation with
      | none => broker
      | some task =>
          if task.done then
            (started.setFlag call false).takeProvider call number rest outcome
              (disposeAll call outcome rest)
          else broker
  | .closing number rest outcome =>
      match answer with
      | .cancelled =>
          if broker.flagged call then
            ((started.setFlag call false).unlock number).setPhase call (.ended .cancelled)
          else broker
      | _ => disposeAll call outcome rest ((started.setFlag call false).unlock number)
  | .idle | .running | .ended _ => broker

def cancel (call : ℕ) (broker : Broker ω γ) : Broker ω γ :=
  let asked := { broker with requested := update broker.requested call true }
  match broker.phases call with
  | .awaiting operation | .joining operation _ _ _ =>
      match broker.operations operation with
      | none => broker
      | some task =>
          if task.done then asked.setFlag call true
          else asked.cancelOperation call operation task
  | .locking _ _ _ | .closing _ _ _ => asked.setFlag call true
  | .idle | .running | .ended _ => broker

def elapsedMs (now created : ℚ) : ℕ := min 2147483647 (max 0 ⌊(now - created) * 1000⌋).toNat

def finishOperation (number : ℕ) (task : Operation ω γ) (ending : OperationEnd) :
    Broker ω γ → Broker ω γ :=
  setOperation number { task with state := .done ending, cancelling := false }

/-- `run` from where the view has a provider, up to the await of the inference. -/
def callProvider (number : ℕ) (task : Operation ω γ) (broker : Broker ω γ) : Broker ω γ :=
  let view := broker.objects task.view
  if view.closed || broker.closed then
    broker.finishOperation number task
      (.returned (.without .unavailable task.submission.frameId))
  else
    match view.provider with
    | none => broker.finishOperation number task .raised
    | some provider =>
        let frame := task.submission.frame.transient (elapsedMs task.now view.created)
          (min_le_left _ _)
        { broker.setOperation number { task with
            state := .inferring provider, cancelling := false } with
          uses := broker.uses ++ [⟨provider, task.submission.key, frame⟩] }

/-- `run` behind the inference. -/
def finishInference (number : ℕ) (task : Operation ω γ) (values : List (Option Tracked))
    (broker : Broker ω γ) : Broker ω γ :=
  match adapt values with
  | none => broker.finishOperation number task .raised
  | some observations =>
      let selected := observations.filter fun item =>
        decide (item.category = "person") && decide (1 / 2 ≤ item.confidence)
      broker.finishOperation number task (.returned
        (if (broker.objects task.view).closed || broker.closed then
          .without .unavailable task.submission.frameId
        else ⟨.active, task.submission.frameId, selected⟩))

def operate (number : ℕ) (answer : Answer) (broker : Broker ω γ) : Broker ω γ :=
  match broker.operations number with
  | none => broker
  | some task =>
      match task.state, answer with
      | .created, _ =>
          if task.cancelling then broker.finishOperation number task .cancelled
          else if (broker.objects task.view).provider.isNone then
            broker.setOperation number { task with state := .factory }
          else broker.callProvider number task
      | .factory, .provider =>
          let provider := broker.providerCount
          { broker.setView task.view { broker.objects task.view with
              provider := some provider } with
            providerCount := provider + 1
            providerViews := update broker.providerViews provider
              task.view }.callProvider number task
      | .inferring _, .values values => broker.finishInference number task values
      | .factory, .raised | .inferring _, .raised => broker.finishOperation number task .raised
      | .factory, .cancelled | .inferring _, .cancelled =>
          if task.cancelling then broker.finishOperation number task .cancelled else broker
      | _, _ => broker

end Broker

inductive Event (ω γ : Type)
  | begin (call : ℕ) (method : Method ω γ) (now : ℚ)
  | resume (call : ℕ) (answer : Answer) (now : ℚ)
  | cancel (call : ℕ)
  | operate (operation : ℕ) (answer : Answer)

variable [DecidableEq ω] [DecidableEq γ]

def Broker.step (broker : Broker ω γ) : Event ω γ → Broker ω γ
  | .begin call method now =>
      match broker.phases call with
      | .idle => broker.begin call method now
      | _ => broker
  | .resume call answer now => broker.resume call answer now
  | .cancel call => broker.cancel call
  | .operate operation answer => broker.operate operation answer

def Broker.machine (admissible : Broker ω γ → Event ω γ → Prop) :
    Machine (Broker ω γ) (Event ω γ) where
  step := Broker.step
  admissible := admissible

end K5Vision.Analytics.Views
