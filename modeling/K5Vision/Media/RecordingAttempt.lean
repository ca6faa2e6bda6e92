import K5Vision.Library.Routine
import Mathlib.Logic.Function.Basic

/-!
# Attempts at one recording

`RecordingAttempt` of `media/recording_attempt.py`: a marker that is created exclusively, a
staging file of the attempt's own, and its publication by a hard link.  Every method is a
routine that asks for one file operation at a time, so any number of attempts, in any
processes, is an interleaving of these routines.

An operation and the assignment to `_owns_lock` or `_owns_staging` behind it are one step,
since no other attempt sees the assignment.
-/

namespace K5Vision.Media.Attempts

open Library

abbrev Token := List UInt8

abbrev Inode := ℕ

/-- The files of one recording identifier. -/
inductive Name
  | marker
  | staging (token : Token)
  | final
  deriving DecidableEq, Repr

/-- The exceptions of a method. -/
inductive Raised
  | fileExists
  | fileNotFound
  | os
  | base
  deriving DecidableEq, Repr

def Raised.isOsError : Raised → Bool
  | .base => false
  | _ => true

inductive Request
  /-- `_root.mkdir`, `fsync`, `fdopen`: operations that can fail and change no file. -/
  | touch
  /-- `os.open` with `_exclusive_flags`. -/
  | create (name : Name)
  /-- `os.write` and `write` of a raw file. -/
  | write (file : Inode) (data : List UInt8)
  | close (file : Inode)
  | readBytes (name : Name)
  | exists (name : Name)
  | stat (name : Name)
  | link (source target : Name)
  | unlink (name : Name)
  /-- `_owns_lock` and `_owns_staging`. -/
  | owned
  /-- `_owns_lock = False`, without an operation before it. -/
  | disownLock
  | disownStaging
  deriving DecidableEq, Repr

def interface : Interface where
  Request := Request
  Answer
    | .create _ => Inode
    | .write _ _ => ℕ
    | .readBytes _ => List UInt8
    | .exists _ => Bool
    | .stat _ => Inode
    | .owned => Bool × Bool
    | _ => Unit

abbrev Method (α : Type) := Routine interface Raised α

/-! ## The methods -/

section Methods

open Routine

def touch : Method Unit := call (I := interface) .touch

def create (name : Name) : Method Inode := call (I := interface) (.create name)

def writeSome (file : Inode) (data : List UInt8) : Method ℕ :=
  call (I := interface) (.write file data)

def close (file : Inode) : Method Unit := call (I := interface) (.close file)

def readBytes (name : Name) : Method (List UInt8) := call (I := interface) (.readBytes name)

def pathExists (name : Name) : Method Bool := call (I := interface) (.exists name)

def stat (name : Name) : Method Inode := call (I := interface) (.stat name)

def link (source target : Name) : Method Unit := call (I := interface) (.link source target)

def unlink (name : Name) : Method Unit := call (I := interface) (.unlink name)

def owned : Method (Bool × Bool) := call (I := interface) .owned

def disownLock : Method Unit := call (I := interface) .disownLock

def disownStaging : Method Unit := call (I := interface) .disownStaging

def ignoringOsErrors (method : Method Unit) : Method Unit :=
  method.recover fun raised => if raised.isOsError then pure () else raise raised

def onNotFound {α : Type} (method handle : Method α) : Method α :=
  method.recover fun raised => if raised = .fileNotFound then handle else raise raised

def onRaise {α : Type} (method : Method α) (handle : Method Unit) : Method α :=
  method.recover fun raised => handle >>= fun _ => raise raised

/-- The turns of `_write_all`, which are at most one for each byte. -/
def writeTurns (file : Inode) : ℕ → List UInt8 → Method Unit
  | 0, _ => pure ()
  | turns + 1, data =>
      if data = [] then pure ()
      else writeSome file data >>= fun written =>
        if written = 0 then raise .os else writeTurns file turns (data.drop written)

/-- `_write_all`, and `_write_to_file_sync` of the sink. -/
def writeAll (file : Inode) (data : List UInt8) : Method Unit := writeTurns file data.length data

variable (token : Token)

/-- `_release_lock` of an attempt that owns the marker. -/
def releaseOwnedLock : Method Unit :=
  (readBytes .marker).follow fun outcome =>
    match outcome with
    | .error .fileNotFound => disownLock
    | .error raised => raise raised
    | .ok marker => if marker = token then unlink .marker else raise .os

def releaseLock : Method Unit :=
  owned >>= fun owns => if owns.1 then releaseOwnedLock token else pure ()

def removeStaging : Method Unit :=
  owned >>= fun owns =>
    if owns.2 then onNotFound (unlink (.staging token)) disownStaging else pure ()

/-- `cleanup`: both parts are tried, and the first `OSError` is raised. -/
def cleanup : Method Unit :=
  (removeStaging token).follow fun first =>
    match first with
    | .error .base => raise .base
    | .error error =>
        (releaseLock token).recover (fun raised =>
          if raised.isOsError then pure () else raise raised) >>= fun _ => raise error
    | .ok () => releaseLock token

/-- The marker, with the token in it. -/
def acquireLock : Method Unit := do
  let lock ← create .marker
  onRaise (do writeAll lock token; touch)
    ((close lock).ensure (ignoringOsErrors (releaseLock token)))
  close lock

def acquireStaging : Method Inode := do
  touch
  acquireLock token
  let file ← onRaise (create (.staging token)) (releaseLock token)
  onRaise touch (do close file; ignoringOsErrors (cleanup token))
  pure file

def rollbackPublished (identity : Inode) : Method Unit :=
  (stat .final).follow fun outcome =>
    match outcome with
    | .error .fileNotFound => pure ()
    | .error raised => raise raised
    | .ok current => if current = identity then unlink .final else raise .os

/-- `publish` of an attempt that owns the marker and its staging file. -/
def publishOwned : Method Inode := do
  let identity ← stat (.staging token)
  link (.staging token) .final
  onRaise (do unlink (.staging token); releaseLock token)
    (do ignoringOsErrors (rollbackPublished identity); ignoringOsErrors (cleanup token))
  pure identity

def publish : Method Inode :=
  owned >>= fun owns => if owns.1 && owns.2 then publishOwned token else raise .os

/-! ## What attempts do -/

/-- A call of the recording that makes an attempt. -/
inductive AttemptCall
  | acquire
  | write (data : List UInt8)
  | close
  | publish
  /-- `rollback_published` with the identity that `publish` returned. -/
  | rollback
  | cleanup
  deriving DecidableEq, Repr

/-- The file that `acquire_staging` returned, and the identity that `publish` did. -/
structure Handles where
  file : Option Inode
  identity : Option Inode
  deriving DecidableEq, Repr

/-- What a call leaves in the hands of its caller, who handles what it raises. -/
def attemptCall (handles : Handles) : AttemptCall → Method Handles
  | .acquire =>
      match handles.file with
      | some _ => pure handles
      | none => (acquireStaging token).follow fun outcome =>
          match outcome with
          | .ok file => pure { handles with file := some file }
          | .error _ => pure handles
  | .write data =>
      match handles.file with
      | none => pure handles
      | some file => (writeAll file data).follow fun _ => pure handles
  | .close =>
      match handles.file with
      | none => pure handles
      | some file => (Attempts.close file).follow fun _ => pure { handles with file := none }
  | .publish =>
      match handles.identity with
      | some _ => pure handles
      | none => (Attempts.publish token).follow fun outcome =>
          match outcome with
          | .ok identity => pure { handles with identity := some identity }
          | .error _ => pure handles
  | .rollback =>
      match handles.identity with
      | none => pure handles
      | some identity => (rollbackPublished identity).follow fun _ =>
          pure { handles with identity := none }
  | .cleanup => (Attempts.cleanup token).follow fun _ => pure handles

def attempt (handles : Handles) : List AttemptCall → Method Unit
  | [] => pure ()
  | next :: rest => attemptCall token handles next >>= fun handles => attempt handles rest

end Methods

/-! ## The file system -/

variable {ι : Type} [DecidableEq ι]

/-- The files, and the variables of the attempts. -/
structure State (ι : Type) where
  links : Name → Option Inode
  content : Inode → List UInt8
  /-- The attempt that created a file, and what it has written to it. -/
  creator : Inode → Option ι
  written : Inode → List UInt8
  opened : ι → List Inode
  ownsLock : ι → Bool
  ownsStaging : ι → Bool

/-- No attempt has begun; there may be files. -/
def State.initial (links : Name → Option Inode) (content : Inode → List UInt8) : State ι where
  links := links
  content := content
  creator _ := none
  written := content
  opened _ := []
  ownsLock _ := false
  ownsStaging _ := false

/-- What is left open at an operation: whether it fails, how much is written, the new inode. -/
structure Choice where
  failure : Option Raised
  count : ℕ
  inode : Inode

namespace State

variable (tokens : ι → Token) (i : ι) (state : State ι)

/-- `_owns_lock` or `_owns_staging` behind an operation on a name. -/
def own (name : Name) (value : Bool) : State ι :=
  if name = .marker then { state with ownsLock := Function.update state.ownsLock i value }
  else if name = .staging (tokens i) then
    { state with ownsStaging := Function.update state.ownsStaging i value }
  else state

/-- A new file, open for its creator. -/
def add (name : Name) (inode : Inode) : State ι :=
  { state with
    links := Function.update state.links name (some inode)
    content := Function.update state.content inode []
    creator := Function.update state.creator inode (some i)
    written := Function.update state.written inode []
    opened := Function.update state.opened i (inode :: state.opened i) }

def create (name : Name) (inode : Inode) : Except Raised Inode × State ι :=
  if (state.links name).isSome then (.error .fileExists, state)
  else (.ok inode, own tokens i (state.add i name inode) name true)

def write (file : Inode) (data : List UInt8) (count : ℕ) : Except Raised ℕ × State ι :=
  (.ok (min count data.length), { state with
    content := Function.update state.content file (state.content file ++ data.take count)
    written := if state.creator file = some i then
      Function.update state.written file (state.written file ++ data.take count)
      else state.written })

def close (file : Inode) : Except Raised Unit × State ι :=
  (.ok (), { state with opened := Function.update state.opened i ((state.opened i).erase file) })

def readBytes (name : Name) : Except Raised (List UInt8) × State ι :=
  match state.links name with
  | none => (.error .fileNotFound, state)
  | some inode => (.ok (state.content inode), state)

def stat (name : Name) : Except Raised Inode × State ι :=
  match state.links name with
  | none => (.error .fileNotFound, state)
  | some inode => (.ok inode, state)

def addLink (target : Name) (inode : Inode) : State ι :=
  { state with links := Function.update state.links target (some inode) }

def link (source target : Name) : Except Raised Unit × State ι :=
  match state.links source with
  | none => (.error .fileNotFound, state)
  | some inode =>
      if (state.links target).isSome then (.error .fileExists, state)
      else (.ok (), state.addLink target inode)

def drop (name : Name) : State ι := { state with links := Function.update state.links name none }

def unlink (name : Name) : Except Raised Unit × State ι :=
  match state.links name with
  | none => (.error .fileNotFound, state)
  | some _ => (.ok (), own tokens i (state.drop name) name false)

end State

def serve (tokens : ι → Token) (i : ι) (choice : Choice) (request : Request) (state : State ι) :
    Except Raised (interface.Answer request) × State ι :=
  match choice.failure, request with
  | _, .owned => (.ok (state.ownsLock i, state.ownsStaging i), state)
  | _, .disownLock => (.ok (), { state with ownsLock := Function.update state.ownsLock i false })
  | _, .disownStaging =>
      (.ok (), { state with ownsStaging := Function.update state.ownsStaging i false })
  | some raised, .close file => (.error raised, (state.close i file).2)
  | some raised, _ => (.error raised, state)
  | none, .touch => (.ok (), state)
  | none, .create name => state.create tokens i name choice.inode
  | none, .write file data => state.write i file data choice.count
  | none, .close file => state.close i file
  | none, .readBytes name => state.readBytes name
  | none, .exists name => (.ok (state.links name).isSome, state)
  | none, .stat name => state.stat name
  | none, .link source target => state.link source target
  | none, .unlink name => state.unlink tokens i name

/-- A new file gets an inode that is neither linked nor open. -/
def Free (state : State ι) (inode : Inode) : Prop :=
  (∀ name, state.links name ≠ some inode) ∧ ∀ i, inode ∉ state.opened i

/-- What can be left open: a failure is not about whether the file exists. -/
def permits (choice : Choice) (request : Request) (state : State ι) : Prop :=
  choice.failure ≠ some .fileExists ∧ choice.failure ≠ some .fileNotFound ∧
    ∀ name, request = .create name → Free state choice.inode

/-- The failures that are looked at. -/
structure Policy (ι : Type) where
  allowed : Choice → Request → State ι → Prop
  permitted : ∀ {choice request state}, allowed choice request state → permits choice request state

def Policy.any : Policy ι := ⟨permits, id⟩

/-- The attempts on one recording identifier. -/
def server (tokens : ι → Token) (policy : Policy ι) (i : ι) :
    Routine.Server interface Raised (State ι) Choice where
  serve := serve tokens i
  permits := policy.allowed

/-- Attempts that make any calls, beside files that were there before. -/
def begin (tokens : ι → Token) (calls : ι → List AttemptCall) (links : Name → Option Inode)
    (content : Inode → List UInt8) : Routine.Threads interface Raised Unit (State ι) ι where
  state := .initial links content
  routine i := attempt (tokens i) ⟨none, none⟩ (calls i)

end K5Vision.Media.Attempts
