import K5Vision.Library.Machine
import Mathlib.Algebra.GroupWithZero.Nat
import Mathlib.Logic.Function.Iterate

/-!
# Native analytics sessions

`_AnalyticsSession` of `analytics_runtime.py`, which `_PersonSession` only gives another detector,
and the two factories that bound how many of them there are.

Two threads share a session.  The event loop runs the tasks, from one `await` to the next; the one
worker of the executor runs the native calls, and the callbacks of a future that it has finished.
They meet in the futures, in `_pending` and in `_release_completed`.  Where the loop calls
`_release_completed` it is one step, as nobody else can take the lock meanwhile.  Where the worker
calls it there is one step for each statement, since the loop reads `_pending` without the lock.
`_release_lock` is not reentrant.

A future counts how often `_release_completed` is among its callbacks; its other callbacks only
wake tasks.  Futures are numbered as they are made.  An await that is over in the source may go on
for a while in the model, and any two steps of a close may have others in between.
-/

namespace K5Vision.Analytics

variable {β : Type*}

/-! ## Futures, the worker and the tasks -/

inductive Job
  | initialization
  | infer
  /-- The future that `_release_completed` makes; no work belongs to it. -/
  | completed
  deriving DecidableEq, Repr

/-- What a future holds; `infer` answers `none` for a native call that has failed. -/
inductive Result (β : Type*)
  | ready (value : Bool)
  | inferred (detections : Option β)
  | nothing
  deriving DecidableEq, Repr

inductive FutureState (β : Type*)
  | pending
  | running
  | cancelled
  | finished (result : Result β)
  deriving DecidableEq, Repr

structure Future (β : Type*) where
  job : Job
  state : FutureState β
  /-- How often `_release_completed` has been added as a callback. -/
  callbacks : ℕ
  deriving DecidableEq, Repr

def Future.done (future : Future β) : Bool :=
  match future.state with
  | .cancelled | .finished _ => true
  | .pending | .running => false

/-- Where the worker thread is.  `left` counts the callbacks behind the present one. -/
inductive Worker
  | idle
  /-- It has the work item, but has not looked at the future. -/
  | taken (future : ℕ)
  | native (future : ℕ)
  /-- It is to enter `_release_completed`. -/
  | notifying (left : ℕ)
  /-- It has the lock, and the session is marked as released. -/
  | marked (left : ℕ)
  | published (future left : ℕ)
  | completed (left : ℕ)
  | deadlocked
  deriving DecidableEq, Repr

def Worker.holdsLock : Worker → Bool
  | .marked _ | .published _ _ | .completed _ | .deadlocked => true
  | .idle | .taken _ | .native _ | .notifying _ => false

def Worker.before : ℕ → Worker
  | 0 => .idle
  | left + 1 => .notifying left

inductive Outcome (β : Type*)
  | provider
  | detections (value : β)
  | nothing
  | runtimeError (message : String)
  | valueError (message : String)
  | timeoutError
  | cancelled
  deriving DecidableEq, Repr

/-- Where a task is.  `outcome` is what the task ends with, behind its `finally`. -/
inductive Task (β : Type*)
  | idle
  | starting (future : ℕ)
  | calling (future : ℕ)
  /-- `aclose` awaits the future that was pending when it began. -/
  | closing (future : ℕ) (outcome : Outcome β)
  /-- The executor is shut down; so many callbacks of futures that this cancelled are left. -/
  | shutDown (left : ℕ) (outcome : Outcome β)
  /-- `aclose` has read `_pending`. -/
  | attaching (future : ℕ) (outcome : Outcome β)
  | closed (outcome : Outcome β)
  | ended (outcome : Outcome β)
  deriving DecidableEq, Repr

inductive Wake
  | done
  | timeout
  | cancelled
  deriving DecidableEq, Repr

/-- The frame that is given to `__call__`. -/
structure Frame where
  isPresentationVideoFrame : Bool
  itemsize : ℕ
  ndim : ℕ
  cContiguous : Bool
  nbytes : ℕ
  height : ℕ
  strideBytes : ℕ
  deriving DecidableEq, Repr

def maxFrameBytes : ℕ := 16 * 1024 * 1024

def Frame.refused (frame : Frame) : Bool :=
  !frame.isPresentationVideoFrame ||
    (frame.itemsize != 1 || frame.ndim != 1 || !frame.cContiguous ||
      frame.nbytes != frame.height * frame.strideBytes || decide (maxFrameBytes < frame.nbytes))

/-! ## The session -/

/-- `_AnalyticsSession`.  `count` numbers the next future, and `releases` counts the calls of
`self._release()`. -/
structure Session (β : Type*) where
  released : Bool
  closed : Bool
  interrupted : Bool
  backend : Bool
  count : ℕ
  futures : ℕ → Future β
  pending : ℕ
  queue : List ℕ
  shutdown : Bool
  worker : Worker
  tasks : ℕ → Task β
  releases : ℕ

namespace Session

def setTask (task : ℕ) (point : Task β) (session : Session β) : Session β :=
  { session with tasks := Function.update session.tasks task point }

def setFuture (number : ℕ) (future : Future β) (session : Session β) : Session β :=
  { session with futures := Function.update session.futures number future }

/-- A new future takes the place of `_pending`. -/
def addFuture (job : Job) (session : Session β) : Session β :=
  { session with
    count := session.count + 1
    futures := Function.update session.futures session.count ⟨job, .pending, 0⟩
    pending := session.count }

def submit (job : Job) (session : Session β) : Session β :=
  { session.addFuture job with queue := session.queue ++ [session.count] }

/-- `__init__`, in the task of the factory that goes on to `start`. -/
def create : Session β :=
  { submit .initialization
      { released := false
        closed := false
        interrupted := false
        backend := false
        count := 0
        futures := fun _ => ⟨.completed, .pending, 0⟩
        pending := 0
        queue := []
        shutdown := false
        worker := .idle
        tasks := fun _ => .idle
        releases := 0 } with
    tasks := Function.update (fun _ => .idle) 0 (.starting 0) }

/-! ### `_release_completed` -/

def mark (session : Session β) : Session β := { session with released := true, backend := false }

def publish (session : Session β) : Session β := session.addFuture .completed

/-- `self._pending.set_result(None)`, without the callbacks. -/
def complete (number : ℕ) (session : Session β) : Session β :=
  session.setFuture number { session.futures number with state := .finished .nothing }

/-- `self._release()`. -/
def giveBack (session : Session β) : Session β := { session with releases := session.releases + 1 }

/-- `_release_completed` on the event loop. -/
def releaseCompleted (session : Session β) : Session β :=
  if session.released then session
  else (session.mark.publish.complete session.count).giveBack

/-! ### The tasks -/

def beginClose (task : ℕ) (outcome : Outcome β) (session : Session β) : Session β :=
  { session with closed := true }.setTask task (.closing session.pending outcome)

def unavailable : Outcome β := .runtimeError "Analytics session is unavailable."

def call (task : ℕ) (frame : Frame) (session : Session β) : Session β :=
  if session.closed || session.interrupted || !(session.futures session.pending).done then
    session.setTask task (.ended unavailable)
  else if frame.refused then
    session.setTask task (.ended (.valueError "Analytics frame exceeds the supported boundary."))
  else if !session.backend then
    session.setTask task (.ended unavailable)
  else if session.shutdown then
    session.setTask task
      (.ended (.runtimeError "cannot schedule new futures after shutdown"))
  else (session.submit .infer).setTask task (.calling session.count)

/-- What an await of a future gives; `none` where it goes on. -/
inductive Awaited (β : Type*)
  | finished (result : Result β)
  | timeout
  | cancelled

def awaited (number : ℕ) (session : Session β) : Wake → Option (Awaited β)
  | .timeout => some .timeout
  | .cancelled => some .cancelled
  | .done =>
      match (session.futures number).state with
      | .finished result => some (.finished result)
      | .cancelled => some .cancelled
      | .pending | .running => none

/-- `self._executor.shutdown(wait=False, cancel_futures=True)`. -/
def shutdownExecutor (session : Session β) : Session β :=
  { session with
    shutdown := true
    queue := []
    futures := fun number =>
      if number ∈ session.queue then { session.futures number with state := .cancelled }
      else session.futures number }

/-- The callbacks of the futures that `shutdownExecutor` cancels. -/
def cancelledCallbacks (session : Session β) : ℕ :=
  (session.queue.map fun number => (session.futures number).callbacks).sum

/-- `start` is over, in the task of the factory. -/
def startEnds (task : ℕ) (session : Session β) : Awaited β → Session β
  | .finished (.ready true) => session.setTask task (.ended .provider)
  | .finished _ =>
      session.beginClose task (.runtimeError "Analytics session initialization failed.")
  | .timeout => session.beginClose task .timeoutError
  | .cancelled => session.beginClose task .cancelled

/-- The await of `__call__` is over; it has no timeout. -/
def callEnds (task : ℕ) (session : Session β) : Awaited β → Session β
  | .finished (.inferred (some value)) => session.setTask task (.ended (.detections value))
  | .finished _ =>
      session.setTask task (.ended (.runtimeError "Analytics inference failed."))
  | .timeout => session
  | .cancelled => { session with interrupted := true }.setTask task (.ended .cancelled)

/-- What `aclose` ends with; what it raises goes before the error it was called for. -/
def closeOutcome (outcome : Outcome β) : Awaited β → Outcome β
  | .finished _ => outcome
  | .timeout => .runtimeError "Analytics native cleanup is incomplete."
  | .cancelled => .cancelled

/-- The await of `aclose` is over, and its `finally` begins. -/
def closeWakes (task : ℕ) (outcome : Outcome β) (session : Session β) (answer : Awaited β) :
    Session β :=
  session.shutdownExecutor.setTask task
    (.shutDown session.cancelledCallbacks (closeOutcome outcome answer))

def wake (task : ℕ) (how : Wake) (session : Session β) : Session β :=
  match session.tasks task with
  | .starting number => ((session.awaited number how).map (session.startEnds task)).getD session
  | .calling number => ((session.awaited number how).map (session.callEnds task)).getD session
  | .closing number outcome =>
      ((session.awaited number how).map (session.closeWakes task outcome)).getD session
  | _ => session

/-- `add_done_callback(self._release_completed)`: a future that is done calls it at once.  While
the worker has the lock the event loop waits for it. -/
def attach (task number : ℕ) (outcome : Outcome β) (session : Session β) : Session β :=
  if (session.futures number).done then
    if session.worker.holdsLock then session
    else session.releaseCompleted.setTask task (.closed outcome)
  else
    (session.setFuture number { session.futures number with
      callbacks := (session.futures number).callbacks + 1 }).setTask task (.closed outcome)

/-- The next statement in the `finally` of `aclose`. -/
def proceed (task : ℕ) (session : Session β) : Session β :=
  match session.tasks task with
  | .shutDown (left + 1) outcome =>
      if session.worker.holdsLock then session
      else session.releaseCompleted.setTask task (.shutDown left outcome)
  | .shutDown 0 outcome => session.setTask task (.attaching session.pending outcome)
  | .attaching number outcome => session.attach task number outcome
  | _ => session

/-! ### The worker -/

def answer (ready : Bool) (detections : Option β) : Job → Result β
  | .initialization => .ready ready
  | .infer => .inferred detections
  | .completed => .nothing

def setWorker (worker : Worker) (session : Session β) : Session β :=
  { session with worker := worker }

/-- The native call returns: its future is done. -/
def finish (number : ℕ) (ready : Bool) (detections : Option β) (session : Session β) : Session β :=
  let future := session.futures number
  { session.setFuture number { future with state := .finished (answer ready detections future.job) }
    with backend := session.backend || (decide (future.job = .initialization) && ready) }

/-- The next step of the worker; a native call answers as it likes. -/
def work (ready : Bool) (detections : Option β) (session : Session β) : Session β :=
  match session.worker with
  | .idle =>
      match session.queue with
      | [] => session
      | number :: rest => { session with queue := rest, worker := .taken number }
  | .taken number =>
      match (session.futures number).state with
      | .pending =>
          (session.setFuture number { session.futures number with state := .running }).setWorker
            (.native number)
      | _ => session.setWorker .idle
  | .native number =>
      (session.finish number ready detections).setWorker
        (.before (session.futures number).callbacks)
  | .notifying left =>
      if session.released then session.setWorker (.before left)
      else session.mark.setWorker (.marked left)
  | .marked left => session.publish.setWorker (.published session.count left)
  | .published number left =>
      -- The callbacks of the new future are called while the lock is held.
      (session.complete number).setWorker
        (if (session.futures number).callbacks = 0 then .completed left else .deadlocked)
  | .completed left => session.giveBack.setWorker (.before left)
  | .deadlocked => session

end Session

inductive Event (β : Type*)
  | call (task : ℕ) (frame : Frame)
  | aclose (task : ℕ)
  | wake (task : ℕ) (how : Wake)
  | proceed (task : ℕ)
  | work (ready : Bool) (detections : Option β)

def Session.step (session : Session β) : Event β → Session β
  | .call task frame =>
      match session.tasks task with
      | .idle => session.call task frame
      | _ => session
  | .aclose task =>
      match session.tasks task with
      | .idle => session.beginClose task .nothing
      | _ => session
  | .wake task how => session.wake task how
  | .proceed task => session.proceed task
  | .work ready detections => session.work ready detections

/-! ## The factories -/

structure Factory where
  permits : ℕ
  capacityMessage : String
  initializationMessage : String

/-- `AnalyticsProviderFactory`, with `_MAX_NATIVE_SESSIONS`. -/
def AnalyticsProviderFactory : Factory where
  permits := 4
  capacityMessage := "Analytics native capacity is unavailable."
  initializationMessage := "Analytics session initialization failed."

def PersonProviderFactory : Factory where
  permits := 4
  capacityMessage := "Person native capacity is unavailable."
  initializationMessage := "Person session initialization failed."

/-- A factory with its `BoundedSemaphore` and the sessions that it made.  `refused` has the errors
of the calls that made none. -/
structure Pool (β : Type*) where
  available : ℕ
  sessions : List (Session β)
  refused : List String

namespace Pool

variable (factory : Factory)

def empty : Pool β := ⟨factory.permits, [], []⟩

/-- `BoundedSemaphore.release`; the `ValueError` of one release too many only reaches the log of
the future that has called it. -/
def release (available : ℕ) : ℕ := if available < factory.permits then available + 1 else available

/-- A call of the factory up to the await of `start`.  `built` says whether the constructor of the
session returns. -/
def create (built : Bool) (pool : Pool β) : Pool β :=
  if pool.available = 0 then { pool with refused := pool.refused ++ [factory.capacityMessage] }
  else if built then
    { pool with available := pool.available - 1, sessions := pool.sessions ++ [.create] }
  else
    { pool with
      available := release factory (pool.available - 1)
      refused := pool.refused ++ [factory.initializationMessage] }

inductive Event (β : Type*)
  | create (built : Bool)
  | session (index : ℕ) (event : Analytics.Event β)

def step (pool : Pool β) : Event β → Pool β
  | .create built => pool.create factory built
  | .session index event =>
      match pool.sessions[index]? with
      | none => pool
      | some session =>
          let next := session.step event
          { pool with
            available := (release factory)^[next.releases - session.releases] pool.available
            sessions := pool.sessions.set index next }

def held (pool : Pool β) : ℕ := pool.sessions.countP fun session => session.releases = 0

def machine (admissible : Pool β → Event β → Prop) : Library.Machine (Pool β) (Event β) where
  step := step factory
  admissible := admissible

end Pool

end K5Vision.Analytics
