import K5Vision.Library.Machine
import Mathlib.Data.Finset.Card
import Mathlib.Data.Fintype.Card
import Mathlib.Logic.Function.Basic

/-!
# The mixed presentation

`BoundedMixedPresentation` of `media/mixed_presentation.py`: `run` with its stream tasks, and the
frame consumers that the tasks hand to their deliveries.

A delivery is code behind a boundary.  It may call its frame consumer at any time, several times at
once, and even after it has returned; it may return, raise or be cancelled when it likes, whether
or not a frame consumer has raised within it.  Every await of a task or of a frame consumer can end
with `CancelledError`, for `task.cancel()` is not the only source of one.  So the frame consumers
under way (the calls of `_deliver_frame`) are indexed on their own, apart from the stream tasks.

`run` awaits `asyncio.gather` twice.  The first one ends with the first task that does not return,
or when all have returned; a cancellation of the caller is handed to the tasks, and at the latest
raised when all of them have returned.  The second one, of `_cancel_tasks`, ends when all tasks have
ended, and raises if the caller was cancelled in the meantime.  `asyncio.wait_for` runs the consumer
within the frame consumer's own task; the consumer accepts a frame by returning from it.
-/

namespace K5Vision.Presentation

open Library

namespace Mixed

/-! ## Streams, frames and errors -/

inductive StreamKind
  | live
  | playback
  /-- Neither a `MixedLiveStream` nor a `MixedPlaybackStream`. -/
  | foreign
  deriving DecidableEq, Repr

structure Stream where
  slot : ℕ
  kind : StreamKind
  deriving DecidableEq, Repr

/-- What is used of a `PresentationVideoFrame`. -/
structure Frame where
  payloadBytes : ℕ
  sourceElapsedMs : ℕ
  deriving DecidableEq, Repr

inductive MixedState
  | created
  | running
  | complete
  | cancelled
  | failed
  deriving DecidableEq, Repr

inductive ErrorCode
  | invalidState
  | invalidStreamSet
  | streamFailure
  | frameLimit
  | byteLimit
  | consumerTimeout
  | consumerFailure
  deriving DecidableEq, Repr

/-- `MixedPresentationError`. -/
structure MixedError where
  code : ErrorCode
  message : String
  deriving DecidableEq, Repr

structure Config where
  maxStreams : ℕ
  maxTotalFrames : ℕ
  maxTotalFrameBytes : ℕ
  allowAllLive : Bool
  streams_valid : (if allowAllLive then 1 else 2) ≤ maxStreams ∧ maxStreams ≤ 16
  frames_valid : 1 ≤ maxTotalFrames ∧ maxTotalFrames ≤ 1000000
  bytes_valid : 1 ≤ maxTotalFrameBytes ∧ maxTotalFrameBytes ≤ 16 * 1024 * 1024 * 1024

structure Snapshot where
  state : MixedState
  streamCount : ℕ
  liveStreams : ℕ
  playbackStreams : ℕ
  completedStreams : ℕ
  deliveredFrames : ℕ
  deliveredFrameBytes : ℕ
  maxSourceSpanMs : ℕ
  deriving DecidableEq, Repr

def Snapshot.create : Snapshot := ⟨.created, 0, 0, 0, 0, 0, 0, 0⟩

def validateStreams (config : Config) (streams : List Stream) : Except MixedError Unit :=
  let live := (streams.filter fun stream => stream.kind = .live).length
  if ¬((if config.allowAllLive then 1 else 2) ≤ streams.length ∧
      streams.length ≤ config.maxStreams) then
    .error ⟨.invalidStreamSet, "mixed presentation stream count is outside the configured bound"⟩
  else if streams.any fun stream => stream.kind = .foreign then
    .error ⟨.invalidStreamSet, "mixed presentation stream set is invalid"⟩
  else if ¬(streams.map Stream.slot).Nodup then
    .error ⟨.invalidStreamSet, "mixed presentation stream slots must be unique"⟩
  else if live = 0 ∨ (streams.length - live = 0 ∧ !config.allowAllLive) then
    .error ⟨.invalidStreamSet, "mixed presentation requires live and playback streams"⟩
  else .ok ()

/-! ## Tasks and frame consumers -/

inductive DeliveryError
  /-- `LivePresentationError`, with the value of its code. -/
  | live (code : String)
  | playback
  | other
  deriving DecidableEq, Repr

inductive DeliveryEnd
  | returned (sourceSpanMs : Option ℕ)
  | raised (error : DeliveryError)
  | cancelled
  deriving DecidableEq, Repr

inductive TaskEnd
  | returned
  | cancelled
  | failed (error : MixedError)
  | broken
  deriving DecidableEq, Repr

inductive TaskPhase
  /-- `_run_live` or `_run_playback` awaits its delivery. -/
  | delivering
  /-- It waits for the lock, to count its stream. -/
  | finishing (sourceSpanMs : Option ℕ)
  | done (taskEnd : TaskEnd)
  deriving DecidableEq, Repr

inductive CallEnd
  | accepted
  | raised (error : MixedError)
  | cancelled
  deriving DecidableEq, Repr

/-- A frame consumer, called by the delivery of the task `i`. -/
inductive CallPhase (n : ℕ)
  | idle
  | waiting (i : Fin n) (frame : Frame)
  | consuming (i : Fin n) (frame : Frame)
  | ended (callEnd : CallEnd)
  deriving DecidableEq, Repr

inductive ConsumerEnd
  | accepted
  | timedOut
  | failed
  | cancelled
  deriving DecidableEq, Repr

/-- Why `run` cancels its tasks. -/
inductive Verdict
  | cancelled
  | failed (error : MixedError)
  deriving DecidableEq, Repr

inductive RunEnd
  | returned (snapshot : Snapshot)
  | cancelled
  | failed (error : MixedError)
  deriving DecidableEq, Repr

inductive RunPhase
  /-- The first `gather`: what the first task raised that did not return, and whether the caller
  was cancelled. -/
  | gathering (first : Option Verdict) (cancelled : Bool)
  /-- `_cancel_tasks`: what it is for, and whether the caller was cancelled meanwhile. -/
  | cleaning (verdict : Verdict) (interrupted : Bool)
  | ended (runEnd : RunEnd)
  deriving DecidableEq, Repr

/-- An entry into the consumer, with what was delivered by then. -/
structure Entry where
  frame : Frame
  deliveredFrames : ℕ
  deliveredFrameBytes : ℕ
  deriving DecidableEq, Repr

/-- A presentation whose `run` has been called with some streams. -/
structure System (κ : Type) (streams : List Stream) where
  presentation : Snapshot
  lock : Option κ
  calls : κ → CallPhase streams.length
  tasks : Fin streams.length → TaskPhase
  /-- `boundary_error` of each task. -/
  boundaryErrors : Fin streams.length → Option MixedError
  run : RunPhase
  entries : List Entry
  accepted : List Frame

section

variable {κ : Type} [DecidableEq κ] {streams : List Stream}

/-- `run`, up to its first await. -/
def start (config : Config) (presentation : Snapshot) (streams : List Stream) :
    Except MixedError (System κ streams) :=
  if presentation.state ≠ .created then
    .error ⟨.invalidState, "mixed presentation cannot be reused"⟩
  else
    match validateStreams config streams with
    | .error error => .error error
    | .ok () =>
        let live := (streams.filter fun stream => stream.kind = .live).length
        .ok
          { presentation :=
              { presentation with
                state := .running
                streamCount := streams.length
                liveStreams := live
                playbackStreams := streams.length - live }
            lock := none
            calls := fun _ => .idle
            tasks := fun _ => .delivering
            boundaryErrors := fun _ => none
            run := .gathering none false
            entries := []
            accepted := [] }

/-! ## `_deliver_frame` -/

def setCall (k : κ) (phase : CallPhase streams.length) (s : System κ streams) : System κ streams :=
  { s with calls := Function.update s.calls k phase }

/-- A frame consumer raises a `MixedPresentationError`, which its task remembers. -/
def raiseCall (k : κ) (i : Fin streams.length) (error : MixedError) (s : System κ streams) :
    System κ streams :=
  { setCall k (.ended (.raised error)) s with
    boundaryErrors := Function.update s.boundaryErrors i (some error) }

/-- A delivery calls its frame consumer; `none` is no `PresentationVideoFrame`. -/
def emit (k : κ) (i : Fin streams.length) (frame : Option Frame) (s : System κ streams) :
    System κ streams :=
  match s.calls k, frame with
  | .idle, some frame => setCall k (.waiting i frame) s
  | .idle, none => raiseCall k i ⟨.streamFailure,
      "mixed presentation stream emitted an invalid presentation frame"⟩ s
  | _, _ => s

/-- A frame consumer gets the lock, and goes on to the consumer within the limits. -/
def enterConsumer (config : Config) (k : κ) (s : System κ streams) : System κ streams :=
  match s.calls k, s.lock with
  | .waiting i frame, none =>
      if config.maxTotalFrames ≤ s.presentation.deliveredFrames then
        raiseCall k i ⟨.frameLimit, "mixed presentation aggregate frame limit exceeded"⟩ s
      else if config.maxTotalFrameBytes <
          s.presentation.deliveredFrameBytes + frame.payloadBytes then
        raiseCall k i ⟨.byteLimit, "mixed presentation aggregate frame-byte limit exceeded"⟩ s
      else
        { setCall k (.consuming i frame) s with
          lock := some k
          entries := s.entries ++
            [⟨frame, s.presentation.deliveredFrames, s.presentation.deliveredFrameBytes⟩] }
  | _, _ => s

/-- A frame is delivered. -/
def Snapshot.deliver (frame : Frame) (presentation : Snapshot) : Snapshot :=
  { presentation with
    deliveredFrames := presentation.deliveredFrames + 1
    deliveredFrameBytes := presentation.deliveredFrameBytes + frame.payloadBytes
    maxSourceSpanMs := max presentation.maxSourceSpanMs frame.sourceElapsedMs }

/-- The await of the consumer ends, and with it the lock is given back. -/
def consume (k : κ) (answer : ConsumerEnd) (s : System κ streams) : System κ streams :=
  match s.calls k with
  | .consuming i frame =>
      let unlocked := { s with lock := none }
      match answer with
      | .accepted =>
          { setCall k (.ended .accepted) unlocked with
            presentation := s.presentation.deliver frame
            accepted := s.accepted ++ [frame] }
      | .timedOut =>
          raiseCall k i ⟨.consumerTimeout, "mixed presentation frame consumer timed out"⟩ unlocked
      | .failed =>
          raiseCall k i ⟨.consumerFailure, "mixed presentation frame consumer failed"⟩ unlocked
      | .cancelled => setCall k (.ended .cancelled) unlocked
  | _ => s

/-- A frame consumer is cancelled while it waits for the lock. -/
def withdraw (k : κ) (s : System κ streams) : System κ streams :=
  match s.calls k with
  | .waiting _ _ => setCall k (.ended .cancelled) s
  | _ => s

/-! ## `_run_live` and `_run_playback` -/

/-- What a task that ends means for `gather`. -/
def TaskEnd.verdict : TaskEnd → Option Verdict
  | .returned => none
  | .cancelled => some .cancelled
  | .failed error => some (.failed error)
  | .broken => some (.failed ⟨.streamFailure, "mixed presentation failed"⟩)

/-- The first `gather` keeps the first exception. -/
def RunPhase.taskDone (taskEnd : TaskEnd) : RunPhase → RunPhase
  | .gathering none cancelled => .gathering taskEnd.verdict cancelled
  | phase => phase

def endTask (i : Fin streams.length) (taskEnd : TaskEnd) (s : System κ streams) :
    System κ streams :=
  { s with
    tasks := Function.update s.tasks i (.done taskEnd)
    run := s.run.taskDone taskEnd }

/-- The error of a task whose delivery has raised. -/
def streamFailure (kind : StreamKind) (error : DeliveryError) : MixedError :=
  match kind, error with
  | .live, .live code =>
      ⟨.streamFailure, "mixed live presentation stream failed at " ++ code⟩
  | .live, _ => ⟨.streamFailure, "mixed live presentation stream failed"⟩
  | _, _ => ⟨.streamFailure, "mixed playback presentation stream failed"⟩

/-- The delivery of a task ends. -/
def deliveryEnds (i : Fin streams.length) (answer : DeliveryEnd) (s : System κ streams) :
    System κ streams :=
  match s.tasks i with
  | .delivering =>
      match answer with
      | .returned span => { s with tasks := Function.update s.tasks i (.finishing span) }
      | .raised error =>
          endTask i (.failed ((s.boundaryErrors i).getD (streamFailure streams[i].kind error))) s
      | .cancelled => endTask i .cancelled s
  | _ => s

/-- A stream is complete. -/
def Snapshot.countStream (span : Option ℕ) (presentation : Snapshot) : Snapshot :=
  { presentation with
    completedStreams := presentation.completedStreams + 1
    maxSourceSpanMs := max presentation.maxSourceSpanMs (span.getD 0) }

/-- A task gets the lock, counts its stream and gives the lock back. -/
def finish (i : Fin streams.length) (s : System κ streams) : System κ streams :=
  match s.tasks i, s.lock with
  | .finishing span, none =>
      endTask i (if span.isSome then .returned else .broken)
        { s with presentation := s.presentation.countStream span }
  | _, _ => s

/-- A task is cancelled while it waits for the lock. -/
def abandon (i : Fin streams.length) (s : System κ streams) : System κ streams :=
  match s.tasks i with
  | .finishing _ => endTask i .cancelled s
  | _ => s

/-! ## `run` -/

def TaskPhase.isDone : TaskPhase → Bool
  | .done _ => true
  | _ => false

def allDone (s : System κ streams) : Prop := ∀ i, (s.tasks i).isDone = true

instance (s : System κ streams) : Decidable (allDone s) :=
  inferInstanceAs (Decidable (∀ i, (s.tasks i).isDone = true))

def cancelCaller (s : System κ streams) : System κ streams :=
  match s.run with
  | .gathering first _ => { s with run := .gathering first true }
  | .cleaning verdict _ => { s with run := .cleaning verdict true }
  | .ended _ => s

def Snapshot.setState (state : MixedState) (presentation : Snapshot) : Snapshot :=
  { presentation with state := state }

def Verdict.state : Verdict → MixedState
  | .cancelled => .cancelled
  | .failed _ => .failed

def Verdict.runEnd : Verdict → RunEnd
  | .cancelled => .cancelled
  | .failed error => .failed error

/-- `run` goes on behind its await.  Where the caller was cancelled and `gather` has ended in its
own way as well, either can come first. -/
def resume (byCancellation : Bool) (s : System κ streams) : System κ streams :=
  match s.run with
  | .gathering first cancelled =>
      if byCancellation then
        if cancelled ∧ (first.isSome ∨ allDone s) then
          { s with run := .cleaning .cancelled false }
        else s
      else
        match first with
        | some verdict => { s with run := .cleaning verdict false }
        | none =>
            if allDone s ∧ !cancelled then
              let completed := s.presentation.setState .complete
              { s with presentation := completed, run := .ended (.returned completed) }
            else s
  | .cleaning verdict interrupted =>
      if allDone s then
        if interrupted then { s with run := .ended .cancelled }
        else
          { s with
            presentation := s.presentation.setState verdict.state
            run := .ended verdict.runEnd }
      else s
  | .ended _ => s

inductive Event (κ : Type) (n : ℕ)
  | emit (k : κ) (i : Fin n) (frame : Option Frame)
  | enterConsumer (k : κ)
  | consume (k : κ) (answer : ConsumerEnd)
  | withdraw (k : κ)
  | deliveryEnds (i : Fin n) (answer : DeliveryEnd)
  | finish (i : Fin n)
  | abandon (i : Fin n)
  | cancelCaller
  | resume (byCancellation : Bool)

/-- The presentation and its tasks, where some condition holds of every step. -/
def machine (config : Config) (condition : System κ streams → Event κ streams.length → Prop) :
    Machine (System κ streams) (Event κ streams.length) where
  step s
    | .emit k i frame => emit k i frame s
    | .enterConsumer k => enterConsumer config k s
    | .consume k answer => consume k answer s
    | .withdraw k => withdraw k s
    | .deliveryEnds i answer => deliveryEnds i answer s
    | .finish i => finish i s
    | .abandon i => abandon i s
    | .cancelCaller => cancelCaller s
    | .resume byCancellation => resume byCancellation s
  admissible := condition

end

end Mixed

end K5Vision.Presentation
