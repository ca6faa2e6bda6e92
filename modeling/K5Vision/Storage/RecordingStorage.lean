import K5Vision.Identity.Users
import K5Vision.Library.Machine
import Mathlib.Data.String.Basic

/-!
# Retention of recordings

`RecordingStorage` of `operator_recording_storage.py`: a scan of the recording root
observes every segment and since when it has not changed, and `prune` deletes segments
that have not changed for long enough.  The bookkeeping of the recording progress, which
decides no deletion, is left out.

The root is what the calls read of the file system.  A call reads the clock in the order
of its ticks.
-/

namespace K5Vision.Storage

open Library Identity

def maxStorageEntries : ℕ := 100000

def maxStorageSeconds : ℚ := 5

def minClosedAgeSeconds : ℚ := 10

/-! ## Names -/

def pathName (name : String) : Bool :=
  name.startsWith "k5_" && name.length == 67 &&
    (name.toList.drop 3).all fun c => c.isDigit || ('a' ≤ c && c ≤ 'f')

/-- A number of digits at a place, if there are only digits. -/
def digitsAt (cs : List Char) (start count : ℕ) : Option ℕ :=
  let digits := (cs.drop start).take count
  if digits.length = count ∧ digits.all Char.isDigit then
    some (digits.foldl (fun n c => 10 * n + (c.toNat - 48)) 0)
  else none

def daysInMonth (year month : ℕ) : ℕ :=
  if month = 2 then
    if year % 4 = 0 ∧ (year % 100 ≠ 0 ∨ year % 400 = 0) then 29 else 28
  else if month ∈ [4, 6, 9, 11] then 30 else 31

/-- `%z`, behind the underscore: `none` if the pattern does not match. -/
def offsetIsValid (cs : List Char) : Option Bool :=
  match cs with
  | [] => some true
  | ['_', 'Z'] => some true
  | '_' :: sign :: digits =>
      if sign ≠ '+' ∧ sign ≠ '-' ∨ digits.length ≠ 4 then none
      else
        match digitsAt digits 0 2, digitsAt digits 2 2 with
        | some hours, some minutes => some (hours < 24 && minutes < 60)
        | _, _ => none
  | _ => none

/-- `_segment_name`; `none` if `strptime` raises. -/
def segmentName (name : String) : Option Bool :=
  let cs := name.toList
  let stem := cs.take (cs.length - 4)
  if cs.drop (cs.length - 4) ≠ ['.', 'm', 'p', '4'] ||
      [stem[4]?, stem[7]?, stem[10]?, stem[13]?, stem[16]?, stem[19]?] ≠
        [some '-', some '-', some '_', some '-', some '-', some '-'] then some false
  else
    match digitsAt stem 0 4, digitsAt stem 5 2, digitsAt stem 8 2, digitsAt stem 11 2,
        digitsAt stem 14 2, digitsAt stem 17 2, digitsAt stem 20 6, offsetIsValid (stem.drop 26) with
    | some year, some month, some day, some hour, some minute, some second, some _, some offset =>
        if 1 ≤ year && 1 ≤ month && month ≤ 12 && 1 ≤ day && day ≤ daysInMonth year month &&
            hour < 24 && minute < 60 && second < 60 && offset then some true
        else none
    | _, _, _, _, _, _, _, _ => some false

/-! ## The recording root -/

/-- The fields of `os.stat_result` that are read of a file. -/
structure FileInfo where
  device : ℕ
  inode : ℕ
  size : ℕ
  modified : ℤ
  changed : ℤ
  deriving DecidableEq

/-- A file and what `_file_info` returns of it; `none` if the file is not admitted. -/
structure RecordedFile where
  name : String
  info : Option FileInfo
  deriving DecidableEq

/-- An entry of the root, and the identity of the directory; `none` if it is not an
admitted directory. -/
structure Directory where
  name : String
  identity : Option (ℕ × ℕ)
  files : List RecordedFile
  names : (files.map (·.name)).Nodup

structure Root where
  admitted : Bool
  free : Option ℕ
  directories : List Directory
  names : (directories.map (·.name)).Nodup

abbrev Path := String × String

def Directory.unlink (directory : Directory) (name : String) : Directory :=
  { directory with
    files := directory.files.filter (·.name ≠ name)
    names := directory.names.sublist (List.filter_sublist.map _) }

def Root.unlink (root : Root) (path : Path) : Root :=
  { root with
    directories := root.directories.map fun directory =>
      if directory.name = path.1 then directory.unlink path.2 else directory
    names := by
      rw [List.map_map]
      have hname : (fun directory : Directory => directory.name) ∘ (fun directory =>
          if directory.name = path.1 then directory.unlink path.2 else directory) =
            (·.name) := by
        funext directory
        by_cases h : directory.name = path.1 <;> simp [h, Directory.unlink]
      rw [hname]
      exact root.names }

/-- `lstat` of a path: the file behind it. -/
def Root.file? (root : Root) (path : Path) : Option RecordedFile :=
  (root.directories.find? (·.name = path.1)).bind fun directory =>
    directory.files.find? (·.name = path.2)

/-! ## The storage -/

structure Signature where
  directory : ℕ × ℕ
  file : FileInfo
  deriving DecidableEq

/-- An `_Observation`. -/
structure Observation where
  signature : Signature
  stableSince : ℚ
  changeGeneration : ℕ
  deriving DecidableEq

/-- A `_Segment`. -/
structure Segment where
  path : Path
  directory : ℕ × ℕ
  info : FileInfo
  stableSince : ℚ

structure RecordingStorage where
  maxBytes : ℕ
  minFreeBytes : ℕ
  retentionSeconds : ℕ
  observations : Path → Option Observation
  scanGeneration : ℕ

/-- The clock as a call reads it. -/
structure Clock where
  read : ℕ → Reading
  monotone : ∀ first second, first ≤ second → (read first).seconds ≤ (read second).seconds

def elapsed (now since : ℚ) : ℚ := toFloat (now - since)

/-- A scan on its way. -/
structure Progress where
  tick : ℕ
  remaining : ℕ
  observed : Path → Option Observation
  total : ℕ
  candidates : List Segment

def Progress.budget (clock : Clock) (deadline : ℚ) (progress : Progress) : Option Progress :=
  if deadline ≤ (clock.read progress.tick).seconds then none
  else some { progress with tick := progress.tick + 1 }

def Progress.entry (progress : Progress) : Option Progress :=
  if progress.remaining = 0 then none
  else some { progress with remaining := progress.remaining - 1 }

/-- A `_Scan` that is complete. -/
structure Scan where
  total : ℕ
  free : ℕ
  candidates : List Segment

/-- The modification time, then the name. -/
def Older (first second : ℤ × String) : Prop :=
  first.1 < second.1 ∨ first.1 = second.1 ∧ first.2 < second.2

instance (first second : ℤ × String) : Decidable (Older first second) :=
  inferInstanceAs (Decidable (_ ∨ _))

def Segment.key (segment : Segment) : ℤ × String := (segment.info.modified, segment.path.2)

def newest : List Segment → Option Segment
  | [] => none
  | segment :: rest =>
      match newest rest with
      | none => some segment
      | some last => if Older segment.key last.key then some last else some segment

/-- The order of the candidates. -/
def Segment.before (segment other : Segment) : Bool :=
  segment.stableSince < other.stableSince ||
    (segment.stableSince == other.stableSince &&
      (segment.info.modified < other.info.modified ||
        (segment.info.modified == other.info.modified &&
          (segment.path.1 ++ "/" ++ segment.path.2 ≤ other.path.1 ++ "/" ++ other.path.2))))

/-- A `StorageStatus`. -/
structure StorageStatus where
  totalBytes : ℤ
  freeBytes : ℕ
  recordingAllowed : Bool
  deletedSegments : ℕ
  deriving DecidableEq

namespace RecordingStorage

variable (storage : RecordingStorage) (clock : Clock) (deadline : ℚ)

/-- The observation of a file with a signature. -/
def observe (path : Path) (signature : Signature) (now : ℚ) : Observation :=
  let fresh : Observation :=
    ⟨signature, now, if storage.scanGeneration = 0 then 0 else storage.scanGeneration + 1⟩
  match storage.observations path with
  | none => fresh
  | some previous =>
      if previous.signature = signature ∧ previous.stableSince ≤ now then previous else fresh

/-- The inner loop of `_scan`: the segments of a directory. -/
def scanFiles (directory : String) (identity : ℕ × ℕ) :
    List RecordedFile → Progress → Option (List Segment × Progress)
  | [], progress => some ([], progress)
  | file :: rest, progress =>
      match (progress.budget clock deadline).bind Progress.entry with
      | none => none
      | some counted =>
          match segmentName file.name, file.info with
          | none, _ => none
          | some false, _ => scanFiles directory identity rest counted
          | some true, none => none
          | some true, some info =>
              let path := (directory, file.name)
              let observation := storage.observe path ⟨identity, info⟩
                (clock.read counted.tick).seconds
              match scanFiles directory identity rest
                  { counted with
                    tick := counted.tick + 1
                    observed := Function.update counted.observed path (some observation)
                    total := counted.total + info.size } with
              | none => none
              | some (segments, scanned) =>
                  some (⟨path, identity, info, observation.stableSince⟩ :: segments, scanned)

def generation (observed : Path → Option Observation) (path : Path) : ℕ :=
  ((observed path).map (·.changeGeneration)).getD 0

def latestChange (observed : Path → Option Observation) (segments : List Segment) : ℕ :=
  (segments.map fun segment => generation observed segment.path).max?.getD 0

/-- The segments of a directory that may be deleted. -/
def closedSegments (observed : Path → Option Observation) (now : ℚ) (segments : List Segment) :
    List Segment :=
  segments.filter fun segment =>
    (newest segments).any (fun last => segment.path ≠ last.path) &&
      (latestChange observed segments == 0 ||
        generation observed segment.path < latestChange observed segments) &&
      minClosedAgeSeconds ≤ elapsed now segment.stableSince

/-- The outer loop of `_scan`. -/
def scanDirectories : List Directory → Progress → Option Progress
  | [], progress => some progress
  | directory :: rest, progress =>
      match (progress.budget clock deadline).bind Progress.entry with
      | none => none
      | some counted =>
          if !pathName directory.name then scanDirectories rest counted
          else
            match directory.identity with
            | none => none
            | some identity =>
                match storage.scanFiles clock deadline directory.name identity directory.files
                    counted with
                | none => none
                | some (segments, scanned) =>
                    scanDirectories rest
                      { scanned with
                        tick := scanned.tick + 1
                        candidates := scanned.candidates ++
                          closedSegments scanned.observed (clock.read scanned.tick).seconds
                            segments }

/-- A complete `_scan`, with what it has observed and where it leaves the clock and the
budget; `none` if it is not complete. -/
def scan (root : Root) (tick remaining : ℕ) : Option (Scan × Progress) :=
  match Progress.budget clock deadline ⟨tick, remaining, fun _ => none, 0, []⟩ with
  | none => none
  | some started =>
      if !root.admitted then none
      else
        match root.free with
        | none => none
        | some free =>
            match (storage.scanDirectories clock deadline root.directories started).bind
                (Progress.budget clock deadline) with
            | none => none
            | some scanned =>
                (scanned.budget clock deadline).map fun ended =>
                  (⟨ended.total, free, ended.candidates.mergeSort Segment.before⟩, ended)

def scanned (result : Option (Scan × Progress)) : RecordingStorage :=
  match result with
  | some (_, progress) =>
      { storage with
        observations := progress.observed
        scanGeneration := storage.scanGeneration + 1 }
  | none => { storage with observations := fun _ => none, scanGeneration := 0 }

def recordingAllowed (scan : Scan) : Bool :=
  scan.total ≤ storage.maxBytes && storage.minFreeBytes ≤ scan.free

/-- `_status` of a complete scan. -/
def status (scan : Scan) (deleted : ℕ) : StorageStatus :=
  ⟨scan.total, scan.free, storage.recordingAllowed scan, deleted⟩

end RecordingStorage

/-! ## Pruning -/

inductive UnlinkFault
  | none
  | os
  | other
  deriving DecidableEq

/-- The deletions of `prune` on their way. -/
structure Pruning where
  root : Root
  observations : Path → Option Observation
  total : ℤ
  free : ℕ
  tick : ℕ
  deleted : List Path

/-- What the file system answers to a pruning: the faults, the free bytes behind a
deletion, and those that the scan behind the deletions reads. -/
structure PruneEnvironment where
  clock : Clock
  fault : Path → UnlinkFault
  freed : Path → Option ℕ
  left : Option ℕ

/-- A candidate: the pruning goes on, or it ends with an error. -/
def pruneSegment (storage : RecordingStorage) (env : PruneEnvironment) (deadline : ℚ) (target : ℕ)
    (pruning : Pruning) (segment : Segment) : Except Pruning Pruning :=
  let now tick := (env.clock.read tick).seconds
  if deadline ≤ now pruning.tick then .error pruning
  else
    let aged := { pruning with tick := pruning.tick + 2 }
    let expired := 0 < storage.retentionSeconds &&
      storage.retentionSeconds ≤ elapsed (now (pruning.tick + 1)) segment.stableSince
    if !expired && pruning.total ≤ target && storage.minFreeBytes ≤ pruning.free then .ok aged
    else
      match env.fault segment.path, pruning.root.file? segment.path with
      | .os, _ => .ok aged
      | .other, _ => .error aged
      | .none, none => .ok aged
      | .none, some ⟨_, none⟩ => .error aged
      | .none, some ⟨_, some current⟩ =>
          if (pruning.observations segment.path).map (fun found =>
              (found.signature, found.stableSince)) ≠
                some (⟨segment.directory, current⟩, segment.stableSince) then
            .ok { aged with
              observations := Function.update pruning.observations segment.path none }
          else if elapsed (now (pruning.tick + 2)) segment.stableSince < minClosedAgeSeconds then
            .ok { aged with tick := pruning.tick + 3 }
          else if deadline ≤ now (pruning.tick + 3) then .error aged
          else
            let deleted := { aged with
              tick := pruning.tick + 4
              root := pruning.root.unlink segment.path
              total := pruning.total - current.size
              deleted := segment.path :: pruning.deleted }
            match env.freed segment.path with
            | none => .error deleted
            | some free => .ok { deleted with free := free }

def pruneSegments (storage : RecordingStorage) (env : PruneEnvironment) (deadline : ℚ)
    (target : ℕ) : List Segment → Pruning → Except Pruning Pruning
  | [], pruning => .ok pruning
  | segment :: rest, pruning =>
      match pruneSegment storage env deadline target pruning segment with
      | .error ended => .error ended
      | .ok next => pruneSegments storage env deadline target rest next

/-- A complete scan: what it read of the file system, what it has observed, and its clock
from where it began to read it to where it ended. -/
structure ScanRecord where
  root : Root
  observed : Path → Option Observation
  clock : Clock
  start : ℕ
  stop : ℕ

/-- The record of a scan; `none` if it is not complete. -/
def scanRecord (root : Root) (clock : Clock) (start : ℕ) (result : Option (Scan × Progress)) :
    Option ScanRecord :=
  result.map fun scanned => ⟨root, scanned.2.observed, clock, start, scanned.2.tick⟩

structure Pruned where
  storage : RecordingStorage
  root : Root
  deleted : List Path
  /-- `none` if it ends with a scan that is not complete, whose totals are partial. -/
  status : Option StorageStatus
  /-- The scans it has made, the newest first. -/
  scans : List (Option ScanRecord)

def prune (storage : RecordingStorage) (env : PruneEnvironment) (root : Root) : Pruned :=
  let deadline := floatAdd (env.clock.read 0).seconds maxStorageSeconds
  let first := storage.scan env.clock deadline root 1 maxStorageEntries
  let observed := storage.scanned first
  let record := scanRecord root env.clock 1 first
  match first with
  | none => ⟨observed, root, [], none, [record]⟩
  | some (scan, progress) =>
      let cutoff := elapsed (env.clock.read progress.tick).seconds storage.retentionSeconds
      if storage.recordingAllowed scan && (storage.retentionSeconds == 0 ||
          !scan.candidates.any fun segment => segment.stableSince ≤ cutoff) then
        ⟨observed, root, [], some (storage.status scan 0), [record]⟩
      else
        let target := if storage.maxBytes < scan.total then storage.maxBytes * 9 / 10
          else storage.maxBytes
        let started : Pruning :=
          ⟨root, observed.observations, scan.total, scan.free, progress.tick + 1, []⟩
        match pruneSegments storage env deadline target scan.candidates started with
        | .error ended =>
            ⟨{ observed with observations := ended.observations }, ended.root, ended.deleted,
              some ⟨ended.total, ended.free, false, ended.deleted.length⟩, [record]⟩
        | .ok ended =>
            let behind := { observed with observations := ended.observations }
            let left : Root := { ended.root with free := env.left }
            let second := behind.scan env.clock deadline left ended.tick progress.remaining
            ⟨behind.scanned second, left, ended.deleted,
              second.map fun found => storage.status found.1 ended.deleted.length,
              [scanRecord left env.clock ended.tick second, record]⟩

/-! ## Histories -/

/-- The storage, the root, and the scans since the process started, the newest first; `none`
is one that was not complete. -/
structure StorageState where
  storage : RecordingStorage
  root : Root
  history : List (Option ScanRecord)

inductive StorageEvent
  | inspect (clock : Clock)
  | prune (env : PruneEnvironment)
  | configurePolicy (maxBytes minFreeBytes retentionSeconds : ℕ)
  | change (root : Root)
  | restart

namespace StorageState

def opened (maxBytes minFreeBytes retentionSeconds : ℕ) (root : Root) : StorageState :=
  ⟨⟨maxBytes, minFreeBytes, retentionSeconds, fun _ => none, 0⟩, root, []⟩

def deadline (clock : Clock) : ℚ := floatAdd (clock.read 0).seconds maxStorageSeconds

def step (state : StorageState) : StorageEvent → StorageState
  | .inspect clock =>
      let result := state.storage.scan clock (deadline clock) state.root 1 maxStorageEntries
      { state with
        storage := state.storage.scanned result
        history := scanRecord state.root clock 1 result :: state.history }
  | .prune env =>
      let pruned := prune state.storage env state.root
      { storage := pruned.storage
        root := pruned.root
        history := pruned.scans ++ state.history }
  | .configurePolicy maxBytes minFreeBytes retentionSeconds =>
      { state with
        storage := { state.storage with
          maxBytes := maxBytes
          minFreeBytes := minFreeBytes
          retentionSeconds := retentionSeconds } }
  | .change root => { state with root := root }
  | .restart =>
      { state with
        storage := { state.storage with observations := fun _ => none, scanGeneration := 0 }
        history := [] }

def machine : Machine StorageState StorageEvent where
  step := step
  admissible _ _ := True

end StorageState

end K5Vision.Storage
