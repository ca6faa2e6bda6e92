import K5Vision.Library.Routine
import K5Vision.Library.Table
import K5Vision.Media.OperatorRecording
import Mathlib.Data.Fintype.Card

/-!
# Calls of the coordinators and their capacity

`record` and `record_continuous` of `operator_recording.py` and `play` of
`operator_playback.py`, as coroutines: what a call awaits, what its `finally` clause awaits,
and where it takes and gives back its slot.  An await ends with a value, with an exception,
or with the cancellation of the call, whatever it waits for.

No coroutine awaits anything while it holds a `_state_lock` (`control` calls `pause` and
`resume` under it, which hold their own lock in the same way), so the lock is free whenever a
call comes to it, and `_reserve` and `_release` are one step each.
-/

namespace K5Vision.Media

open Library

inductive OperatorPlaybackErrorCode
  | unauthorized
  | recordingNotFound
  | recordingInvalid
  | deviceNotFound
  | unsupportedDevice
  | sourceUnavailable
  | sourceScopeMismatch
  | windowInvalid
  | playbackBusy
  | controlConflict
  | controlNotFound
  | controlForbidden
  | playbackFailure
  | registryUnavailable
  deriving DecidableEq, Repr

namespace Coordinators

inductive Raised
  | cancelled
  | recording (code : OperatorRecordingErrorCode)
  | playback (code : OperatorPlaybackErrorCode)
  | other
  deriving DecidableEq, Repr

inductive Call
  | record
  | recordContinuous
  | play (controlId : Option ℕ)
  deriving DecidableEq, Repr

def Call.isRecording : Call → Bool
  | .record => true
  | .recordContinuous => true
  | .play _ => false

inductive Await
  | loadRecordingPair
  | resolve
  | start
  | deliver
  | finalize
  | writeDescriptor
  | run
  /-- `recorder.abort()` in a `finally` clause. -/
  | abort
  /-- `_delete_recording_pair_best_effort` in a `finally` clause. -/
  | deleteRecordingPair
  deriving DecidableEq, Repr

/-- The variables that the `finally` clause of a recording reads. -/
structure Locals where
  finalized : Bool
  /-- The state of `recorder`, where it is not `None`. -/
  recorder : Option RecordingState
  /-- `recording_id is not None`. -/
  recordingId : Bool
  deriving DecidableEq, Repr

inductive Request
  /-- Code between two awaits that can raise. -/
  | check
  | await (point : Await)
  /-- An await of `record_continuous` that goes on with its segments: these are what its
  variables are about. -/
  | segments (point : Await)
  | reserve
  | release
  | assign (locals : Locals)
  | locals
  deriving DecidableEq, Repr

def interface : Interface where
  Request := Request
  Answer
    | .locals => Locals
    | _ => Unit

abbrev Coroutine := Routine interface Raised Unit

/-! ## The calls -/

section Calls

open Routine

def check : Coroutine := call (I := interface) .check

def await (point : Await) : Coroutine := call (I := interface) (.await point)

def segments (point : Await) : Coroutine := call (I := interface) (.segments point)

def reserve : Coroutine := call (I := interface) .reserve

def release : Coroutine := call (I := interface) .release

def assign (locals : Locals) : Coroutine := call (I := interface) (.assign locals)

def withLocals (next : Locals → Coroutine) : Coroutine := call (I := interface) .locals >>= next

/-- `except Exception`: what is not a cancellation becomes another exception. -/
def translated (routine : Coroutine) (error : Raised) : Coroutine :=
  routine.recover fun raised => if raised = .cancelled then raise raised else raise error

/-- The same behind `except OperatorRecordingError: raise`. -/
def recordingErrors (routine : Coroutine) (error : Raised) : Coroutine :=
  routine.recover fun raised =>
    match raised with
    | .cancelled => raise .cancelled
    | .recording code => raise (.recording code)
    | _ => raise error

/-- The same behind `except OperatorPlaybackError: raise`. -/
def playbackErrors (routine : Coroutine) (error : Raised) : Coroutine :=
  routine.recover fun raised =>
    match raised with
    | .cancelled => raise .cancelled
    | .playback code => raise (.playback code)
    | _ => raise error

/-- `_resolve_source`: the resolver, then the checks of what it found. -/
def resolveSource (error : Raised) : Coroutine := do
  translated (await .resolve) error
  check

def recordBody : Coroutine := do
  resolveSource (.recording .sourceUnavailable)
  assign ⟨false, some .created, true⟩
  check
  await .start
  recordingErrors (do await .deliver; await .finalize) (.recording .recordingFailure)
  check
  translated (await .writeDescriptor) (.recording .recordingFailure)
  assign ⟨true, some .finalized, true⟩
  check

/-- `except Exception: pass` around the abort of a recorder that is neither finalized nor
aborted. -/
def abortRecorder (recorder : Option RecordingState) : Coroutine :=
  if recorder = none ∨ recorder = some .finalized ∨ recorder = some .aborted then pure ()
  else (await .abort).recover fun raised =>
    if raised = .cancelled then raise raised else pure ()

/-- The part of the `finally` clause of `record` before the release. -/
def removeUnfinalized (locals : Locals) : Coroutine :=
  if locals.finalized then pure ()
  else do
    abortRecorder locals.recorder
    await .deleteRecordingPair

def record : Coroutine := do
  check
  reserve
  recordBody.ensure do
    withLocals removeUnfinalized
    release

/-- The body of the `try` statement of `record_continuous`. -/
def recordContinuousBody : Coroutine := do
  resolveSource (.recording .sourceUnavailable)
  check
  recordingErrors (do segments .deliver; segments .finalize) (.recording .recordingFailure)
  check

/-- `await` the deletion if there is a recording to delete. -/
def deleteActive (recordingId : Bool) : Coroutine :=
  if recordingId then await .deleteRecordingPair else pure ()

def abortActiveSegment (locals : Locals) : Coroutine := do
  abortRecorder locals.recorder
  deleteActive locals.recordingId

/-- The part of the `finally` clause of `record_continuous` before the release. -/
def removeActive (locals : Locals) : Coroutine :=
  if locals.recorder.isSome || locals.recordingId then abortActiveSegment locals else pure ()

def recordContinuous : Coroutine := do
  check
  reserve
  recordContinuousBody.ensure do
    withLocals removeActive
    release

def playBody : Coroutine := do
  resolveSource (.playback .sourceUnavailable)
  playbackErrors (await .run) (.playback .playbackFailure)
  check

def play : Coroutine := do
  check
  await .loadRecordingPair
  check
  reserve
  playBody.ensure release

def Call.coroutine : Call → Coroutine
  | .record => Coordinators.record
  | .recordContinuous => Coordinators.recordContinuous
  | .play _ => Coordinators.play

end Calls

/-! ## The coordinators -/

variable {ι : Type} [DecidableEq ι]

/-- The two coordinators with the calls `ι`. -/
structure State (ι : Type) where
  maxActiveRecordings : ℕ
  maxActivePlaybacks : ℕ
  activeRecordings : ℕ
  activePlaybacks : ℕ
  /-- `_controls`, each with the call whose principal, recording and pause control it holds. -/
  controls : Table ℕ ι
  locals : ι → Locals
  /-- How often a call took its slot, and how often it gave it back. -/
  reserved : ι → ℕ
  released : ι → ℕ

def State.idle (maxActiveRecordings maxActivePlaybacks : ℕ) : State ι where
  maxActiveRecordings := maxActiveRecordings
  maxActivePlaybacks := maxActivePlaybacks
  activeRecordings := 0
  activePlaybacks := 0
  controls := .empty
  locals _ := ⟨false, none, false⟩
  reserved _ := 0
  released _ := 0

namespace State

variable (state : State ι) (i : ι)

def noteReserved : State ι :=
  { state with reserved := Function.update state.reserved i (state.reserved i + 1) }

def noteReleased : State ι :=
  { state with released := Function.update state.released i (state.released i + 1) }

def setLocals (locals : Locals) : State ι :=
  { state with locals := Function.update state.locals i locals }

def reserveRecording : Except Raised Unit × State ι :=
  if state.maxActiveRecordings ≤ state.activeRecordings then
    (.error (.recording .recordingBusy), state)
  else
    (.ok (), { state with activeRecordings := state.activeRecordings + 1 }.noteReserved i)

def releaseRecording : Except Raised Unit × State ι :=
  (.ok (), { state with activeRecordings := state.activeRecordings - 1 }.noteReleased i)

def reservePlayback (controlId : Option ℕ) : Except Raised Unit × State ι :=
  if state.maxActivePlaybacks ≤ state.activePlaybacks then
    (.error (.playback .playbackBusy), state)
  else
    match controlId with
    | none =>
        (.ok (), { state with activePlaybacks := state.activePlaybacks + 1 }.noteReserved i)
    | some id =>
        match state.controls.insert? id i with
        | none => (.error (.playback .controlConflict), state)
        | some controls =>
            (.ok (), { state with
              controls := controls
              activePlaybacks := state.activePlaybacks + 1 }.noteReserved i)

def releasePlayback (controlId : Option ℕ) : Except Raised Unit × State ι :=
  let controls := match controlId with
    | none => state.controls
    | some id => state.controls.erase id
  (.ok (), { state with
    controls := controls
    activePlaybacks := state.activePlaybacks - 1 }.noteReleased i)

def reserve : Call → Except Raised Unit × State ι
  | .play controlId => state.reservePlayback i controlId
  | _ => state.reserveRecording i

def release : Call → Except Raised Unit × State ι
  | .play controlId => state.releasePlayback i controlId
  | _ => state.releaseRecording i

end State

structure AwaitEnd where
  outcome : Except Raised Unit
  /-- The state of the recorder afterwards, if there is one. -/
  recorder : RecordingState
  /-- The variables after an await that goes on with segments. -/
  locals : Locals

def serve (calls : ι → Call) (i : ι) (awaited : AwaitEnd) :
    (request : Request) → State ι → Except Raised (interface.Answer request) × State ι
  | .check, state => (awaited.outcome, state)
  | .await _, state =>
      (awaited.outcome, state.setLocals i
        { state.locals i with recorder := (state.locals i).recorder.map fun _ => awaited.recorder })
  | .segments _, state => (awaited.outcome, state.setLocals i awaited.locals)
  | .reserve, state => state.reserve i (calls i)
  | .release, state => state.release i (calls i)
  | .assign locals, state => (.ok (), state.setLocals i locals)
  | .locals, state => (.ok (state.locals i), state)

def possible (awaited : AwaitEnd) : Request → Prop
  | .check => awaited.outcome ≠ .error .cancelled
  | _ => True

/-- No await of a `finally` clause is cancelled, and the deletion does not fail. -/
def undisturbed (awaited : AwaitEnd) : Request → Prop
  | .await .abort => awaited.outcome ≠ .error .cancelled
  | .await .deleteRecordingPair => awaited.outcome = .ok ()
  | request => possible awaited request

/-- The calls among each other, each with the ends of its awaits that are allowed. -/
def server (calls : ι → Call) (permits : AwaitEnd → Request → Prop) (i : ι) :
    Routine.Server interface Raised (State ι) AwaitEnd where
  serve := serve calls i
  permits awaited request _ := permits awaited request

def begin (calls : ι → Call) (maxActiveRecordings maxActivePlaybacks : ℕ) :
    Routine.Threads interface Raised Unit (State ι) ι where
  state := .idle maxActiveRecordings maxActivePlaybacks
  routine i := (calls i).coroutine

end Coordinators

end K5Vision.Media
