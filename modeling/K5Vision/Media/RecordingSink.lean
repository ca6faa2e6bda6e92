import K5Vision.Media.FramedRecording
import K5Vision.Media.RecordingAttempt

/-!
# The sink, its worker and cancellations

`FramedAtomicRecordingSink` of `media/framed_recording.py` over the files of its attempt.  A
call hands its file work to a worker thread, awaits it behind a shield, and awaits it again
when it is cancelled.  The worker runs to its end all the same, so cancellations do not change
what it does but only what comes behind it: they are inputs of a call, by the await that they
arrive at.

The calls of one sink are made one after the other, each when the worker of the one before has
ended.
-/

namespace K5Vision.Media.Sinks

open Library Routine Attempts

/-- A raw file object. -/
structure BinaryFile where
  inode : Inode
  closed : Bool
  deriving DecidableEq, Repr

/-- The variables of a sink. -/
structure Sink where
  limits : FramedLimits
  state : FramedRecordingState
  file : Option BinaryFile
  packets : ℕ
  payloadBytes : ℕ
  fileBytes : ℕ

def Sink.create (limits : FramedLimits) : Sink where
  limits := limits
  state := .created
  file := none
  packets := 0
  payloadBytes := 0
  fileBytes := 0

inductive CallEnd
  | returned
  | error (error : FramedRecordingError)
  /-- With an exception of its worker that no clause is about. -/
  | raised
  | cancelled
  deriving DecidableEq, Repr

/-- What a cancellation does to the deletion behind a failed `finalize`, which has no shield. -/
inductive Deletion
  | undisturbed
  /-- The call ends, and the deletion goes on. -/
  | left
  /-- The call ends, and the deletion is not begun. -/
  | dropped
  deriving DecidableEq, Repr

/-- The cancellations of a call. -/
structure Cancellations where
  /-- How many arrive while the worker is awaited. -/
  awaiting : ℕ
  deletion : Deletion
  deriving DecidableEq, Repr

def Sink.fail (sink : Sink) (code : FramedRecordingErrorCode) (message : String) : Sink × CallEnd :=
  ({ sink with state := .failed }, .error ⟨code, message⟩)

def Sink.refuse (sink : Sink) (message : String) : Sink × CallEnd :=
  (sink, .error ⟨.invalidState, message⟩)

/-- The end of the cancellation branches: aborted, or a cleanup that failed. -/
def Sink.afterCleanup (sink : Sink) : Except Raised Unit → Sink × CallEnd
  | .ok () => ({ sink with state := .aborted }, .cancelled)
  | .error .base => (sink, .raised)
  | .error _ => sink.fail .ioFailure "framed recording cleanup failed"

/-! ## The file work -/

section Workers

variable (token : Token)

/-- `close` of a file object, which is nothing when it is closed. -/
def BinaryFile.close (file : BinaryFile) : Method Unit :=
  if file.closed then pure () else Attempts.close file.inode

/-- `_write_to_file_sync`; a closed file raises a `ValueError`. -/
def BinaryFile.write (file : BinaryFile) (data : List UInt8) : Method Unit :=
  if file.closed then raise .base else writeAll file.inode data

/-- `flush` and `fsync`. -/
def BinaryFile.sync (file : BinaryFile) : Method Unit :=
  if file.closed then raise .base else do touch; touch

def openSync : Method Inode := do
  let present ← pathExists .final
  if present then raise .fileExists
  else do
    let file ← acquireStaging token
    onRaise (writeAll file magic)
      ((Attempts.close file).ensure (ignoringOsErrors (cleanup token)))
    pure file

/-- `_cleanup_open_result_sync`; the file is not the sink's yet. -/
def cleanupOpenResultSync : Option Inode → Method Unit
  | none => cleanup token
  | some file => do Attempts.close file; cleanup token

def writeAllSync (file : Option BinaryFile) (data : List UInt8) : Method Unit :=
  match file with
  | none => raise .os
  | some file => file.write data

def writeRecordSync (file : Option BinaryFile) (packet : Packet) : Method Unit := do
  writeAllSync file (toBigEndian 4 packet.length ++ toBigEndian 4 (crc32 packet).toNat)
  writeAllSync file packet

/-- `_abort_sync`; the sink has no file behind it. -/
def abortSync : Option BinaryFile → Method Unit
  | none => cleanup token
  | some file => do file.close; cleanup token

/-- `_finalize_sync`, with the file that the sink has behind it. -/
def finalizeSync : Option BinaryFile → Method (Option BinaryFile × Except Raised Inode)
  | none => pure (none, .error .os)
  | some file => file.sync.follow fun synced =>
      match synced with
      | .error raised => pure (some file, .error raised)
      | .ok () => file.close.follow fun closed =>
          match closed with
          | .error raised => pure (some { file with closed := true }, .error raised)
          | .ok () => (publish token).follow fun outcome => pure (none, outcome)

/-- The cancellation branch of `finalize`. -/
def withdrawSync (file : Option BinaryFile) (outcome : Except Raised Inode) : Method Unit :=
  match outcome with
  | .ok identity => do rollbackPublished identity; abortSync token file
  | .error _ => abortSync token file

end Workers

/-! ## The calls -/

section Calls

variable (token : Token) (cancellations : Cancellations) (sink : Sink)

def openCall : Method (Sink × CallEnd) :=
  if sink.state = .opened then pure (sink, .returned)
  else if sink.state ≠ .created then
    pure (sink.refuse "framed recording cannot open from current state")
  else (openSync token).follow fun outcome =>
    match cancellations.awaiting with
    | 0 => match outcome with
      | .ok file => pure ({ sink with
          file := some ⟨file, false⟩, fileBytes := magic.length, state := .opened }, .returned)
      | .error .fileExists =>
          pure (sink.fail .conflict "framed recording identifier already exists")
      | .error .base => pure (sink, .raised)
      | .error _ => pure (sink.fail .ioFailure "framed recording failed to open")
    | 1 => (cleanupOpenResultSync token outcome.toOption).follow fun cleaned =>
        pure (sink.afterCleanup cleaned)
    -- `except Exception` lets the second cancellation through
    | _ + 2 => pure (sink, .cancelled)

def writeCall (packet : Packet) : Method (Sink × CallEnd) :=
  if sink.state ≠ .opened then pure (sink.refuse "framed recording is not open for writes")
  else if sink.limits.maxPacketBytes < packet.length || !isRtpV2 packet then
    pure (sink.fail .invalidRecord "framed recording packet is invalid")
  else if sink.limits.maxPackets < sink.packets + 1 ||
      sink.limits.maxPayloadBytes < sink.payloadBytes + packet.length then
    pure (sink.fail .limitExceeded "framed recording limit exceeded")
  else (writeRecordSync sink.file packet).follow fun outcome =>
    match cancellations.awaiting with
    | 0 => match outcome with
      | .ok () => pure ({ sink with
          packets := sink.packets + 1
          payloadBytes := sink.payloadBytes + packet.length
          fileBytes := sink.fileBytes + (recordHeaderSize + packet.length) }, .returned)
      | .error .base => pure (sink, .raised)
      | .error _ => pure (sink.fail .ioFailure "framed recording write failed")
    | 1 => (abortSync token sink.file).follow fun cleaned =>
        pure ({ sink with file := none }.afterCleanup cleaned)
    | _ + 2 => pure (sink, .cancelled)

/-- `_delete_part_best_effort` of a failed sink, and the error behind it. -/
def deletePart (code : FramedRecordingErrorCode) (message : String) : Method (Sink × CallEnd) :=
  let failed := { sink with state := .failed }
  match cancellations.deletion with
  | .undisturbed => (abortSync token sink.file).follow fun deleted =>
      match deleted with
      | .error .base => pure ({ failed with file := none }, .raised)
      | _ => pure ({ failed with file := none }, .error ⟨code, message⟩)
  | .left => (abortSync token sink.file).follow fun _ =>
      pure ({ failed with file := none }, .cancelled)
  | .dropped => pure (failed, .cancelled)

def finalizeCall : Method (Sink × CallEnd) :=
  if sink.state = .finalized then pure (sink, .returned)
  else if sink.state ≠ .opened then
    pure (sink.refuse "framed recording cannot finalize from current state")
  else finalizeSync token sink.file >>= fun worked =>
    let sink := { sink with file := worked.1 }
    match cancellations.awaiting with
    | 0 => match worked.2 with
      | .ok _ => pure ({ sink with state := .finalized }, .returned)
      | .error .fileExists => deletePart token cancellations sink .conflict
          "framed recording identifier already exists"
      | .error .base => pure (sink, .raised)
      | .error _ => deletePart token cancellations sink .ioFailure
          "framed recording failed to finalize"
    | 1 => (withdrawSync token sink.file worked.2).follow fun cleaned =>
        pure ({ sink with file := none }.afterCleanup cleaned)
    | _ + 2 => pure (sink, .cancelled)

def abortCall : Method (Sink × CallEnd) :=
  if sink.state = .aborted then pure (sink, .returned)
  else if sink.state = .finalized then
    pure (sink.refuse "finalized framed recording cannot be aborted")
  else (abortSync token sink.file).follow fun outcome =>
    let sink := { sink with file := none }
    match cancellations.awaiting with
    | 0 => match outcome with
      | .ok () => pure ({ sink with state := .aborted }, .returned)
      | .error .base => pure (sink, .raised)
      | .error _ => pure (sink.fail .ioFailure "framed recording cleanup failed")
    | 1 => pure (sink.afterCleanup outcome)
    | _ + 2 => pure (sink, .cancelled)

end Calls

/-- A call of a sink. -/
inductive SinkMethod
  | open
  | write (packet : Packet)
  | finalize
  | abort
  deriving DecidableEq, Repr

structure SinkCall where
  method : SinkMethod
  cancellations : Cancellations
  deriving DecidableEq, Repr

def sinkCall (token : Token) (sink : Sink) (made : SinkCall) : Method (Sink × CallEnd) :=
  match made.method with
  | .open => openCall token made.cancellations sink
  | .write packet => writeCall token made.cancellations sink packet
  | .finalize => finalizeCall token made.cancellations sink
  | .abort => abortCall token made.cancellations sink

/-- The last call that was made, and how it ended. -/
abbrev Ended := Option (SinkCall × CallEnd)

/-- The calls of a sink, one after the other. -/
def sinkCalls (token : Token) (sink : Sink) (last : Ended) : List SinkCall → Method (Sink × Ended)
  | [] => pure (sink, last)
  | made :: rest => sinkCall token sink made >>= fun ended =>
      sinkCalls token ended.1 (some (made, ended.2)) rest

variable {ι : Type} [DecidableEq ι]

/-- Sinks that make any calls, beside files that were there before. -/
def begin (tokens : ι → Token) (limits : ι → FramedLimits) (calls : ι → List SinkCall)
    (links : Name → Option Inode) (content : Inode → List UInt8) :
    Threads interface Raised (Sink × Ended) (State ι) ι where
  state := .initial links content
  routine i := sinkCalls (tokens i) (Sink.create (limits i)) none (calls i)

end K5Vision.Media.Sinks
