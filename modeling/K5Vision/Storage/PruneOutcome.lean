import K5Vision.Storage.PruneSafety
import Mathlib.Data.List.Flatten
import Mathlib.Data.Prod.Lex

/-!
# What a pass of pruning leaves

A call of `prune` that ends with a complete scan decides on every candidate once, in the
order of the candidates (`prunePass`).  It reads the free bytes of the disk again behind each
deletion, and no candidate it has passed over comes again.

## Strategy

* The bytes a scan reports are those of the segments of the root (`scan_bytes`), and a
  deletion takes the bytes of its file away (`bytes_unlink`), so the running total of the
  loop is what the root has left.
* The files do not change during a call, and no path is a candidate twice
  (`scan_paths_nodup`).  Where the loop comes to a candidate, the file is there with the
  signature that was observed, and it is old enough (`StillThere`); so only a fault of the file
  system keeps a candidate that is due (`pruneSegment_eq_ok`).
* By induction over the candidates the deleted files are those that were due at their turn
  (`pruneSegments_eq_ok`).
-/

namespace K5Vision.Storage

open Library Identity RecordingStorage

/-! ## Bytes and paths of the root -/

def RecordedFile.bytes (file : RecordedFile) : ℕ :=
  if segmentName file.name = some true then (file.info.map (·.size)).getD 0 else 0

def Directory.bytes (directory : Directory) : ℕ :=
  if pathName directory.name then (directory.files.map RecordedFile.bytes).sum else 0

def Root.bytes (root : Root) : ℕ := (root.directories.map Directory.bytes).sum

def Directory.paths (directory : Directory) : List Path :=
  directory.files.map fun file => (directory.name, file.name)

variable {storage : RecordingStorage} {clock : Clock} {deadline : ℚ}
  {progress scanned : Progress} {segments : List Segment} {root : Root} {path : Path}

theorem Directory.paths_nodup (directory : Directory) : directory.paths.Nodup := by
  have hpair : directory.paths = (directory.files.map (·.name)).map (Prod.mk directory.name) := by
    rw [List.map_map]
    rfl
  rw [hpair]
  exact directory.names.map (Prod.mk_right_injective _)

theorem Root.paths_nodup (root : Root) : (root.directories.flatMap Directory.paths).Nodup := by
  rw [List.nodup_flatMap]
  refine ⟨fun directory _ => directory.paths_nodup, ?_⟩
  -- the paths of two directories differ in the name of the directory
  have hnames : root.directories.Pairwise (fun first second => first.name ≠ second.name) :=
    List.pairwise_map.mp root.names
  refine hnames.imp ?_
  intro first second hne path hfirst hsecond
  obtain ⟨_, -, rfl⟩ := List.mem_map.mp hfirst
  obtain ⟨_, -, heq⟩ := List.mem_map.mp hsecond
  exact hne (congrArg Prod.fst heq).symm

/-! ## What a scan counts -/

theorem counted_total (h : (progress.budget clock deadline).bind Progress.entry = some scanned) :
    scanned.total = progress.total ∧ scanned.candidates = progress.candidates := by
  obtain ⟨middle, hbudget, hentry⟩ := Option.bind_eq_some_iff.mp h
  obtain ⟨-, rfl⟩ := budget_eq_some_iff.mp hbudget
  unfold Progress.entry at hentry
  split at hentry
  · cases hentry
  · cases hentry
    exact ⟨rfl, rfl⟩

theorem scanFiles_bytes {directory : String} {identity : ℕ × ℕ} {files : List RecordedFile}
    (h : storage.scanFiles clock deadline directory identity files progress =
      some (segments, scanned)) :
    scanned.total = progress.total + (files.map RecordedFile.bytes).sum ∧
      (segments.map (·.path)).Sublist (files.map fun file => (directory, file.name)) := by
  induction files generalizing progress scanned segments with
  | nil =>
      cases h
      exact ⟨rfl, List.Sublist.refl _⟩
  | cons file rest ih =>
      unfold RecordingStorage.scanFiles at h
      split at h
      · cases h
      rename_i counted hcounted
      obtain ⟨htotal, -⟩ := counted_total hcounted
      split at h
      · cases h
      · -- the file is no segment
        rename_i hname
        obtain ⟨hsum, hpaths⟩ := ih h
        have hbytes : file.bytes = 0 := by simp [RecordedFile.bytes, hname]
        refine ⟨?_, hpaths.cons _⟩
        rw [hsum, htotal, List.map_cons, List.sum_cons, hbytes, Nat.zero_add]
      · cases h
      rename_i info hname hinfo
      dsimp only at h
      split at h
      · cases h
      rename_i hscan
      cases h
      obtain ⟨hsum, hpaths⟩ := ih hscan
      have hbytes : file.bytes = info.size := by simp [RecordedFile.bytes, hname, hinfo]
      refine ⟨?_, hpaths.cons_cons _⟩
      dsimp only at hsum
      rw [hsum, htotal, List.map_cons, List.sum_cons, hbytes, Nat.add_assoc]

theorem scanDirectories_bytes {directories : List Directory}
    (h : storage.scanDirectories clock deadline directories progress = some scanned) :
    scanned.total = progress.total + (directories.map Directory.bytes).sum ∧
      ∃ fresh, scanned.candidates = progress.candidates ++ fresh ∧
        (fresh.map (·.path)).Sublist (directories.flatMap Directory.paths) ∧
        ∀ segment ∈ fresh, pathName segment.path.1 = true := by
  induction directories generalizing progress with
  | nil =>
      cases h
      refine ⟨rfl, [], (List.append_nil _).symm, List.Sublist.refl _, ?_⟩
      intro segment hsegment
      cases hsegment
  | cons directory rest ih =>
      unfold RecordingStorage.scanDirectories at h
      split at h
      · cases h
      rename_i counted hcounted
      obtain ⟨htotal, hcandidates⟩ := counted_total hcounted
      split at h
      · -- the directory is no camera's
        rename_i hname
        obtain ⟨hsum, fresh, hfresh, hpaths, hcameras⟩ := ih h
        have hbytes : directory.bytes = 0 := by
          unfold Directory.bytes
          rw [if_neg (by simpa using hname)]
        refine ⟨?_, fresh, hfresh.trans (by rw [hcandidates]), ?_, hcameras⟩
        · rw [hsum, htotal, List.map_cons, List.sum_cons, hbytes, Nat.zero_add]
        · rw [List.flatMap_cons]
          exact hpaths.trans (List.sublist_append_right _ _)
      rename_i hname
      split at h
      · cases h
      rename_i identity hidentity
      split at h
      · cases h
      rename_i segments middle hfiles
      obtain ⟨hfilesSum, hfilesPaths⟩ := scanFiles_bytes hfiles
      obtain ⟨hsum, fresh, hfresh, hpaths, hcameras⟩ := ih h
      have hfilesSpec := scanFiles_spec directory.names hfiles
      have hbytes : directory.bytes = (directory.files.map RecordedFile.bytes).sum := by
        unfold Directory.bytes
        rw [if_pos (by simpa using hname)]
      refine ⟨?_, closedSegments middle.observed (clock.read middle.tick).seconds segments ++
        fresh, ?_, ?_, ?_⟩
      · dsimp only at hsum
        rw [hsum, hfilesSum, htotal, List.map_cons, List.sum_cons, hbytes, Nat.add_assoc]
      · rw [hfresh, hfilesSpec.candidates, hcandidates, List.append_assoc]
      · rw [List.map_append, List.flatMap_cons]
        refine List.Sublist.append ?_ hpaths
        exact (List.filter_sublist.map _).trans hfilesPaths
      intro segment hmem
      rcases List.mem_append.mp hmem with hclosed | hmem
      · rw [(hfilesSpec.found segment (mem_closedSegments hclosed).1).home]
        simpa using hname
      · exact hcameras segment hmem

def Segment.order (segment : Segment) : ℚ ×ₗ ℤ ×ₗ String :=
  toLex (segment.stableSince,
    toLex (segment.info.modified, segment.path.1 ++ "/" ++ segment.path.2))

theorem before_iff {segment other : Segment} :
    segment.before other = true ↔ segment.order ≤ other.order := by
  unfold Segment.before Segment.order
  simp [Prod.Lex.toLex_le_toLex]

/-- The bytes that a complete scan reports, and its candidates. -/
structure ScanBytes (root : Root) (scan : Scan) : Prop where
  total : scan.total = root.bytes
  paths : (scan.candidates.map (·.path)).Nodup
  cameras : ∀ segment ∈ scan.candidates, pathName segment.path.1 = true
  ordered : scan.candidates.Pairwise fun segment other => segment.before other

theorem scan_bytes {scan : Scan} {tick remaining : ℕ}
    (h : storage.scan clock deadline root tick remaining = some (scan, scanned)) :
    ScanBytes root scan := by
  obtain ⟨free, last, -, -, -, hlast, -, -, rfl, rfl⟩ := scan_eq_some_iff.mp h
  obtain ⟨hsum, fresh, hfresh, hpaths, hcameras⟩ := scanDirectories_bytes hlast
  replace hfresh : last.candidates = fresh := hfresh
  constructor
  case total => exact hsum.trans (Nat.zero_add _)
  case paths =>
    have hnodup : (last.candidates.map (·.path)).Nodup := by
      rw [hfresh]
      exact root.paths_nodup.sublist hpaths
    exact ((List.mergeSort_perm _ _).map _).nodup_iff.mpr hnodup
  case cameras =>
    intro segment hsegment
    refine hcameras segment ?_
    rw [← hfresh]
    exact List.mem_mergeSort.mp hsegment
  case ordered =>
    refine List.pairwise_mergeSort ?_ ?_ _
    · intro first second third hfirst hsecond
      exact before_iff.mpr (le_trans (before_iff.mp hfirst) (before_iff.mp hsecond))
    · intro first second
      rw [Bool.or_eq_true, before_iff, before_iff]
      exact le_total _ _

/-! ## A deletion -/

theorem sum_filter_name {files : List RecordedFile} {file : RecordedFile}
    (hnames : (files.map (·.name)).Nodup) (h : file ∈ files) :
    ((files.filter (·.name ≠ file.name)).map RecordedFile.bytes).sum + file.bytes =
      (files.map RecordedFile.bytes).sum := by
  induction files with
  | nil => cases h
  | cons first rest ih =>
      obtain ⟨hname, hrest⟩ := List.nodup_cons.mp hnames
      rw [List.map_cons, List.sum_cons]
      rcases List.mem_cons.mp h with rfl | hmem
      · -- the other files have other names
        have hkept : rest.filter (·.name ≠ file.name) = rest := by
          refine List.filter_eq_self.mpr ?_
          intro other hother
          refine decide_eq_true ?_
          intro heq
          exact hname (List.mem_map.mpr ⟨other, hother, heq⟩)
        rw [List.filter_cons_of_neg (by simp), hkept, Nat.add_comm]
      · have hne : first.name ≠ file.name :=
          fun heq => hname (List.mem_map.mpr ⟨file, hmem, heq.symm⟩)
        rw [List.filter_cons_of_pos (by simpa using hne), List.map_cons, List.sum_cons,
          Nat.add_assoc, ih hrest hmem]

theorem Directory.bytes_unlink {directory : Directory} {file : RecordedFile}
    (hname : pathName directory.name = true) (h : file ∈ directory.files) :
    (directory.unlink file.name).bytes + file.bytes = directory.bytes := by
  unfold Directory.bytes
  rw [if_pos hname]
  exact (congrArg (· + file.bytes) (if_pos hname)).trans (sum_filter_name directory.names h)

theorem sum_unlink {directories : List Directory} {directory : Directory} {file : RecordedFile}
    (hnames : (directories.map (·.name)).Nodup) (hdirectory : directory ∈ directories)
    (hname : pathName directory.name = true) (hfile : file ∈ directory.files) :
    ((directories.map fun other =>
        if other.name = directory.name then other.unlink file.name else other).map
          Directory.bytes).sum + file.bytes = (directories.map Directory.bytes).sum := by
  induction directories with
  | nil => cases hdirectory
  | cons first rest ih =>
      obtain ⟨hfirst, hrest⟩ := List.nodup_cons.mp hnames
      simp only [List.map_cons, List.sum_cons]
      rcases List.mem_cons.mp hdirectory with rfl | hmem
      · -- the other directories have other names
        have hkept : (rest.map fun other =>
            if other.name = directory.name then other.unlink file.name else other) = rest := by
          refine (List.map_congr_left ?_).trans (List.map_id _)
          intro other hother
          exact if_neg fun heq => hfirst (List.mem_map.mpr ⟨other, hother, heq⟩)
        rw [if_pos rfl, hkept]
        have := Directory.bytes_unlink hname hfile
        omega
      · have hne : first.name ≠ directory.name :=
          fun heq => hfirst (List.mem_map.mpr ⟨directory, hmem, heq.symm⟩)
        rw [if_neg hne, Nat.add_assoc, ih hrest hmem]

theorem bytes_unlink {file : RecordedFile} (hname : pathName path.1 = true)
    (hfile : root.file? path = some file) :
    (root.unlink path).bytes + file.bytes = root.bytes := by
  obtain ⟨directory, hdirectory, hfound⟩ := Option.bind_eq_some_iff.mp hfile
  have hhome : directory.name = path.1 := by simpa using List.find?_some hdirectory
  have hfileName : file.name = path.2 := by simpa using List.find?_some hfound
  obtain rfl : path = (directory.name, file.name) := Prod.ext hhome.symm hfileName.symm
  exact sum_unlink root.names (List.mem_of_find?_eq_some hdirectory) hname
    (List.mem_of_find?_eq_some hfound)

/-! ## The turns of the candidates -/

/-- What `prune` finds of a candidate when it decides on it: whether it is expired, and the
bytes of the recordings and of the disk. -/
structure Turn where
  segment : Segment
  expired : Bool
  total : ℤ
  free : ℕ

/-- The bytes are no reason for a deletion. -/
def Turn.met (turn : Turn) (target minFreeBytes : ℕ) : Bool :=
  turn.total ≤ target && minFreeBytes ≤ turn.free

/-- The candidate is to be deleted. -/
def Turn.due (turn : Turn) (target minFreeBytes : ℕ) : Bool :=
  turn.expired || !turn.met target minFreeBytes

theorem Turn.due_eq {turn : Turn} {target minFreeBytes : ℕ} : turn.due target minFreeBytes =
    !(!turn.expired && turn.total ≤ target && minFreeBytes ≤ turn.free) := by
  simp only [Turn.due, Turn.met, Bool.not_and, Bool.not_not, Bool.or_assoc]

namespace RecordingStorage

variable (storage : RecordingStorage) (env : PruneEnvironment)

/-- The turn of a candidate in the loop. -/
def turn (pruning : Pruning) (segment : Segment) : Turn where
  segment := segment
  expired := 0 < storage.retentionSeconds &&
    storage.retentionSeconds ≤
      elapsed (env.clock.read (pruning.tick + 1)).seconds segment.stableSince
  total := pruning.total
  free := pruning.free

/-- The turn of a candidate if nothing is to be deleted. -/
def turnAtOnce (scan : Scan) (cutoff : ℚ) (segment : Segment) : Turn where
  segment := segment
  expired := 0 < storage.retentionSeconds && segment.stableSince ≤ cutoff
  total := scan.total
  free := scan.free

def turns (deadline : ℚ) (target : ℕ) : List Segment → Pruning → List Turn
  | [], _ => []
  | segment :: rest, pruning =>
      storage.turn env pruning segment ::
        match pruneSegment storage env deadline target pruning segment with
        | .error _ => []
        | .ok next => turns deadline target rest next

def target (scan : Scan) : ℕ :=
  if storage.maxBytes < scan.total then storage.maxBytes * 9 / 10 else storage.maxBytes

/-- The scan that a call of `prune` begins with. -/
def opening (root : Root) : Option (Scan × Progress) :=
  storage.scan env.clock (StorageState.deadline env.clock) root 1 maxStorageEntries

/-- A call of `prune` that ends with a complete scan: the scan it begins with, and the turns of
the candidates, which come at once if nothing is to be deleted. -/
def prunePass (root : Root) : Option (Scan × List Turn) :=
  let deadline := StorageState.deadline env.clock
  match storage.opening env root with
  | none => none
  | some (scan, progress) =>
      let cutoff := elapsed (env.clock.read progress.tick).seconds storage.retentionSeconds
      if storage.recordingAllowed scan && (storage.retentionSeconds == 0 ||
          !scan.candidates.any fun segment => segment.stableSince ≤ cutoff) then
        some (scan, scan.candidates.map (storage.turnAtOnce scan cutoff))
      else
        let started : Pruning :=
          ⟨root, progress.observed, scan.total, scan.free, progress.tick + 1, []⟩
        match pruneSegments storage env deadline (storage.target scan) scan.candidates started with
        | .error _ => none
        | .ok ended =>
            ({ storage.scanned (some (scan, progress)) with
                observations := ended.observations }.scan env.clock deadline
              { ended.root with free := env.left } ended.tick progress.remaining).map fun _ =>
                (scan, storage.turns env deadline (storage.target scan) scan.candidates started)

end RecordingStorage

variable {env : PruneEnvironment} {target : ℕ} {segment : Segment} {pruning next : Pruning}

/-- A candidate is where the scan has found it, and old enough from here on. -/
structure StillThere (env : PruneEnvironment) (pruning : Pruning) (segment : Segment) : Prop where
  file : pruning.root.file? segment.path = some ⟨segment.path.2, some segment.info⟩
  camera : pathName segment.path.1 = true
  name : segmentName segment.path.2 = some true
  observed : (pruning.observations segment.path).map (fun found =>
    (found.signature, found.stableSince)) =
      some (⟨segment.directory, segment.info⟩, segment.stableSince)
  age : ∀ tick, pruning.tick ≤ tick →
    minClosedAgeSeconds ≤ elapsed (env.clock.read tick).seconds segment.stableSince

/-- A candidate that is kept stays until it is deleted if it is not due, and is deleted if it
is. -/
theorem pruneSegment_eq_ok (hkept : StillThere env pruning segment)
    (hfault : (storage.turn env pruning segment).due target storage.minFreeBytes = true →
      env.fault segment.path = .none)
    (h : pruneSegment storage env deadline target pruning segment = .ok next) :
    (storage.turn env pruning segment).due target storage.minFreeBytes = false ∧
      next = { pruning with tick := pruning.tick + 2 } ∨
    (storage.turn env pruning segment).due target storage.minFreeBytes = true ∧
      ∃ free, next = { pruning with
        root := pruning.root.unlink segment.path
        total := pruning.total - segment.info.size
        free := free
        tick := pruning.tick + 4
        deleted := segment.path :: pruning.deleted } := by
  unfold pruneSegment at h
  dsimp only at h
  split at h
  · cases h
  split at h
  · -- the candidate is not due
    rename_i hidle
    refine .inl ⟨?_, (Except.ok.inj h).symm⟩
    rw [Turn.due_eq]
    exact congrArg (!·) hidle
  rename_i hbusy
  have hdue : (storage.turn env pruning segment).due target storage.minFreeBytes = true := by
    rw [Turn.due_eq]
    exact congrArg (!·) (eq_false_of_ne_true hbusy)
  rw [hfault hdue, hkept.file] at h
  dsimp only at h
  rw [if_neg (not_not.mpr hkept.observed),
    if_neg (not_lt.mpr (hkept.age _ (Nat.le_add_right _ _)))] at h
  split at h
  · cases h
  split at h
  · cases h
  · rename_i free hfree
    exact .inr ⟨hdue, free, (Except.ok.inj h).symm⟩

theorem StillThere.passed (h : StillThere env pruning segment) :
    StillThere env { pruning with tick := pruning.tick + 2 } segment :=
  { h with age := fun tick hle => h.age tick (by dsimp only at hle; omega) }

theorem StillThere.deleted {other : Segment} {total : ℤ} {free : ℕ}
    (h : StillThere env pruning segment)
    (hne : segment.path ≠ other.path) :
    StillThere env { pruning with
      root := pruning.root.unlink other.path
      total := total
      free := free
      tick := pruning.tick + 4
      deleted := other.path :: pruning.deleted } segment := by
  refine ⟨?_, h.camera, h.name, h.observed,
    fun tick hle => h.age tick (by dsimp only at hle; omega)⟩
  rw [file?_unlink, if_neg hne]
  exact h.file

/-! ## The loop -/

/-- What the loop leaves of candidates: those are deleted, in their order, that are due at
their turn. -/
structure PassSpec (storage : RecordingStorage) (target : ℕ) (segments : List Segment)
    (turns : List Turn) (pruning ended : Pruning) : Prop where
  decided : turns.map (·.segment) = segments
  deleted : ended.deleted =
    ((turns.filter (·.due target storage.minFreeBytes)).map (·.segment.path)).reverse ++
      pruning.deleted
  total : ended.total = ended.root.bytes
  less : ended.total ≤ pruning.total
  before : ∀ turn ∈ turns, ended.total ≤ turn.total

theorem pruneSegments_eq_ok {ended : Pruning} (hpaths : (segments.map (·.path)).Nodup)
    (hkept : ∀ segment ∈ segments, StillThere env pruning segment)
    (htotal : pruning.total = pruning.root.bytes)
    (hfaults : ∀ turn ∈ storage.turns env deadline target segments pruning,
      turn.due target storage.minFreeBytes = true → env.fault turn.segment.path = .none)
    (h : pruneSegments storage env deadline target segments pruning = .ok ended) :
    PassSpec storage target segments (storage.turns env deadline target segments pruning) pruning
      ended := by
  induction segments generalizing pruning with
  | nil =>
      cases h
      exact ⟨rfl, rfl, htotal, le_rfl, fun _ hturn => absurd hturn List.not_mem_nil⟩
  | cons segment rest ih =>
      obtain ⟨hpath, hrest⟩ := List.nodup_cons.mp hpaths
      unfold pruneSegments at h
      split at h
      · cases h
      rename_i next hnext
      have hturns : storage.turns env deadline target (segment :: rest) pruning =
          storage.turn env pruning segment :: storage.turns env deadline target rest next := by
        simp only [RecordingStorage.turns, hnext]
      rw [hturns] at hfaults ⊢
      have hstep := pruneSegment_eq_ok (hkept segment List.mem_cons_self)
        (hfaults _ List.mem_cons_self) hnext
      have hfaults' := fun turn hturn => hfaults turn (List.mem_cons_of_mem _ hturn)
      have hkept' := fun other hother => hkept other (List.mem_cons_of_mem _ hother)
      rcases hstep with ⟨hdue, rfl⟩ | ⟨hdue, free, rfl⟩
      · -- the candidate stays
        have hspec := ih hrest (fun other hother => (hkept' other hother).passed) htotal hfaults' h
        refine { hspec with decided := ?decided, deleted := ?deleted, before := ?before }
        case decided => exact congrArg (segment :: ·) hspec.decided
        case deleted =>
          rw [List.filter_cons_of_neg (by rw [hdue]; exact Bool.false_ne_true)]
          exact hspec.deleted
        case before =>
          intro turn hturn
          rcases List.mem_cons.mp hturn with rfl | hturn
          · exact hspec.less
          · exact hspec.before turn hturn
      · -- the candidate is deleted
        have hsegment := hkept segment List.mem_cons_self
        have hbytes := bytes_unlink hsegment.camera hsegment.file
        have hsize : (⟨segment.path.2, some segment.info⟩ : RecordedFile).bytes =
            segment.info.size := by
          simp [RecordedFile.bytes, hsegment.name]
        have hother : ∀ other ∈ rest, other.path ≠ segment.path :=
          fun other hmem heq => hpath (List.mem_map.mpr ⟨other, hmem, heq⟩)
        have hspec := ih hrest (fun other hmem => (hkept' other hmem).deleted (hother other hmem))
          (by dsimp only; omega) hfaults' h
        have hless : ended.total ≤ pruning.total := by
          have := hspec.less
          dsimp only at this
          omega
        constructor
        case decided => exact congrArg (segment :: ·) hspec.decided
        case deleted =>
          rw [List.filter_cons_of_pos (by exact hdue), List.map_cons, List.reverse_cons,
            List.append_assoc]
          exact hspec.deleted
        case total => exact hspec.total
        case less => exact hless
        case before =>
          intro turn hturn
          rcases List.mem_cons.mp hturn with rfl | hturn
          · exact hless
          · exact hspec.before turn hturn

/-! ## The pass -/

/-- What a call of `prune` leaves that ends with a complete scan. -/
structure PruneOutcome (storage : RecordingStorage) (root : Root) (scan : Scan)
    (turns : List Turn) (pruned : Pruned) : Prop where
  /-- Every candidate has one turn, the oldest first. -/
  decided : turns.map (·.segment) = scan.candidates
  oldestFirst : scan.candidates.Pairwise fun segment other => segment.before other
  /-- The files are deleted in the order of the candidates. -/
  deleted : pruned.deleted.reverse =
    (turns.filter (·.due (storage.target scan) storage.minFreeBytes)).map (·.segment.path)
  expired : ∀ turn ∈ turns, turn.expired = true → turn.segment.path ∈ pruned.deleted
  /-- Nothing is deleted without a reason. -/
  reason : ∀ turn ∈ turns, turn.segment.path ∈ pruned.deleted →
    turn.expired = true ∨ storage.target scan < turn.total ∨ turn.free < storage.minFreeBytes
  /-- At the turn of a candidate that is left the target was met. -/
  left : ∀ turn ∈ turns, turn.segment.path ∉ pruned.deleted →
    turn.total ≤ storage.target scan ∧ storage.minFreeBytes ≤ turn.free
  target : (∀ segment ∈ scan.candidates, segment.path ∈ pruned.deleted) ∨
    pruned.root.bytes ≤ storage.target scan
  files : ∀ path, pruned.root.file? path =
    if path ∈ pruned.deleted then none else root.file? path
  status : ∃ status, pruned.status = some status ∧ status.totalBytes = pruned.root.bytes ∧
    status.deletedSegments = pruned.deleted.length

variable {scan : Scan} {turns : List Turn} {started ended : Pruning}

theorem stillThere_of_candidate {total free : ℕ}
    (hscan : storage.opening env root = some (scan, scanned)) (h : segment ∈ scan.candidates) :
    StillThere env ⟨root, scanned.observed, total, free, scanned.tick + 1, []⟩ segment := by
  obtain ⟨directory, hdirectory, hspec⟩ := (scan_spec hscan).candidates segment h
  obtain ⟨observation, hfound, hsignature, hsince, -⟩ := hspec.observed
  obtain ⟨earlier, -, hlt, hage⟩ := hspec.age
  constructor
  case file =>
    have hpath : segment.path = (directory.name, segment.path.2) := Prod.ext hspec.home rfl
    dsimp only
    rw [hpath]
    exact file?_of_mem hdirectory hspec.file
  case camera => exact (scan_bytes hscan).cameras segment h
  case name => exact hspec.name
  case observed =>
    dsimp only
    rw [hfound, Option.map_some, hsignature, hsince]
  case age =>
    intro tick hle
    dsimp only at hle
    -- the difference grows with the clock
    have hclock : (env.clock.read earlier).seconds ≤ (env.clock.read tick).seconds :=
      env.clock.monotone _ _ (by omega)
    exact hage.trans (roundToPrecision_mono (by norm_num) (sub_le_sub_right hclock _))

theorem pruneOutcome_of_pass {pruned : Pruned} (hbytes : ScanBytes root scan)
    (hpass : PassSpec storage (storage.target scan) scan.candidates turns started ended)
    (hstarted : started.deleted = []) (hdeleted : pruned.deleted = ended.deleted)
    (hroot : pruned.root.bytes = ended.root.bytes)
    (hfiles : ∀ path, pruned.root.file? path =
      if path ∈ pruned.deleted then none else root.file? path)
    (hstatus : ∃ status, pruned.status = some status ∧ status.totalBytes = pruned.root.bytes ∧
      status.deletedSegments = pruned.deleted.length) :
    PruneOutcome storage root scan turns pruned := by
  have hreverse : pruned.deleted =
      ((turns.filter (·.due (storage.target scan) storage.minFreeBytes)).map
        (·.segment.path)).reverse := by
    rw [hdeleted, hpass.deleted, hstarted, List.append_nil]
  have hmem : ∀ turn ∈ turns, turn.due (storage.target scan) storage.minFreeBytes = true →
      turn.segment.path ∈ pruned.deleted := by
    intro turn hturn hdue
    rw [hreverse, List.mem_reverse]
    exact List.mem_map_of_mem (List.mem_filter.mpr ⟨hturn, hdue⟩)
  have hpaths : (turns.map (·.segment.path)).Nodup := by
    have hmap : turns.map (·.segment.path) = scan.candidates.map (·.path) := by
      rw [← hpass.decided, List.map_map]
      rfl
    rw [hmap]
    exact hbytes.paths
  have hleft : ∀ turn ∈ turns, turn.segment.path ∉ pruned.deleted →
      turn.total ≤ storage.target scan ∧ storage.minFreeBytes ≤ turn.free := by
    intro turn hturn hnot
    have hidle := eq_false_of_ne_true (mt (hmem turn hturn) hnot)
    simpa [Turn.due, Turn.met] using (Bool.or_eq_false_iff.mp hidle).2
  constructor
  case decided => exact hpass.decided
  case oldestFirst => exact hbytes.ordered
  case deleted => rw [hreverse, List.reverse_reverse]
  case expired =>
    intro turn hturn hexpired
    refine hmem turn hturn ?_
    rw [Turn.due, hexpired, Bool.true_or]
  case reason =>
    intro turn hturn hgone
    rw [hreverse, List.mem_reverse] at hgone
    obtain ⟨other, hother, hpath⟩ := List.mem_map.mp hgone
    obtain ⟨hother, hdue⟩ := List.mem_filter.mp hother
    obtain rfl := List.inj_on_of_nodup_map hpaths hother hturn hpath
    rcases Bool.or_eq_true _ _ ▸ hdue with hexpired | hnot
    · exact .inl hexpired
    · right
      simpa [Turn.met, imp_iff_not_or] using hnot
  case left => exact hleft
  case target =>
    by_cases hall : ∀ segment ∈ scan.candidates, segment.path ∈ pruned.deleted
    · exact .inl hall
    -- from the turn of a candidate that is left the total has not grown
    right
    push Not at hall
    obtain ⟨segment, hsegment, hnot⟩ := hall
    rw [← hpass.decided] at hsegment
    obtain ⟨turn, hturn, rfl⟩ := List.mem_map.mp hsegment
    have hmet := (hleft turn hturn hnot).1
    have hbefore := hpass.before turn hturn
    have htotal := hpass.total
    rw [hroot]
    omega
  case files => exact hfiles
  case status => exact hstatus

theorem passSpec_atOnce {cutoff : ℚ} {observed : Path → Option Observation} {tick : ℕ}
    (h : (storage.recordingAllowed scan && (storage.retentionSeconds == 0 ||
      !scan.candidates.any fun segment => segment.stableSince ≤ cutoff)) = true)
    (htotal : (scan.total : ℤ) = root.bytes) :
    PassSpec storage (storage.target scan) scan.candidates
      (scan.candidates.map (storage.turnAtOnce scan cutoff))
      ⟨root, observed, scan.total, scan.free, tick, []⟩
      ⟨root, observed, scan.total, scan.free, tick, []⟩ := by
  simp only [RecordingStorage.recordingAllowed, Bool.and_eq_true, Bool.or_eq_true,
    decide_eq_true_eq, beq_iff_eq, Bool.not_eq_true', List.any_eq_false] at h
  obtain ⟨⟨hmax, hfree⟩, hfresh⟩ := h
  have htarget : storage.target scan = storage.maxBytes := if_neg (not_lt.mpr hmax)
  have hexpired : ∀ segment ∈ scan.candidates,
      (storage.turnAtOnce scan cutoff segment).expired = false := by
    intro segment hsegment
    refine eq_false_of_ne_true ?_
    intro hexpired
    simp only [RecordingStorage.turnAtOnce, Bool.and_eq_true, decide_eq_true_eq] at hexpired
    rcases hfresh with hzero | hfresh
    · omega
    · exact hfresh segment hsegment hexpired.2
  constructor
  case decided =>
    rw [List.map_map]
    exact List.map_id _
  case deleted =>
    rw [List.filter_eq_nil_iff.mpr]
    · rfl
    intro turn hturn
    obtain ⟨segment, hsegment, rfl⟩ := List.mem_map.mp hturn
    rw [Turn.due, hexpired segment hsegment, htarget]
    simp [Turn.met, RecordingStorage.turnAtOnce, hmax, hfree]
  case total => exact htotal
  case less => exact le_rfl
  case before =>
    intro turn hturn
    obtain ⟨segment, -, rfl⟩ := List.mem_map.mp hturn
    exact le_rfl

/-- A call of `prune` that ends with a complete scan, with no fault at a candidate that is to be
deleted. -/
theorem prune_outcome (h : storage.prunePass env root = some (scan, turns))
    (hfaults : ∀ turn ∈ turns, turn.due (storage.target scan) storage.minFreeBytes = true →
      env.fault turn.segment.path = .none) :
    PruneOutcome storage root scan turns (prune storage env root) := by
  unfold RecordingStorage.prunePass at h
  dsimp only at h
  split at h
  · cases h
  rename_i first progress hopening
  have hscan : storage.scan env.clock (floatAdd (env.clock.read 0).seconds maxStorageSeconds) root 1
      maxStorageEntries = some (first, progress) := hopening
  have hbytes := scan_bytes hopening
  have htotal : (first.total : ℤ) = root.bytes := congrArg Nat.cast hbytes.total
  unfold prune
  dsimp only
  rw [hscan]
  dsimp only
  split at h
  · -- nothing is to be deleted
    rename_i hidle
    obtain ⟨rfl, rfl⟩ := Prod.mk.injEq .. ▸ Option.some.inj h
    rw [if_pos hidle]
    have hpass := @passSpec_atOnce storage root first _ progress.observed 0 hidle htotal
    refine pruneOutcome_of_pass hbytes hpass rfl rfl rfl ?_ ?_
    · intro path
      simp
    · exact ⟨_, rfl, htotal, rfl⟩
  · rename_i hbusy
    split at h
    · cases h
    rename_i ended hended
    obtain ⟨found, hfound, hpair⟩ := Option.map_eq_some_iff.mp h
    obtain ⟨rfl, rfl⟩ := Prod.mk.injEq .. ▸ hpair
    have hkept : ∀ segment ∈ first.candidates, StillThere env
        ⟨root, progress.observed, first.total, first.free, progress.tick + 1, []⟩ segment :=
      fun segment hsegment => stillThere_of_candidate hopening hsegment
    have hpass := pruneSegments_eq_ok hbytes.paths hkept htotal hfaults hended
    rw [if_neg hbusy]
    split
    · rename_i hended'
      cases hended.symm.trans hended'
    rename_i ended' hended'
    cases hended.symm.trans hended'
    have hspec : PruningSpec root progress.observed first.candidates ended := by
      have hstart : PruningSpec root progress.observed first.candidates
          ⟨root, progress.observed, first.total, first.free, progress.tick + 1, []⟩ := by
        refine ⟨fun path => ?_, fun _ hpath => absurd hpath List.not_mem_nil, fun _ _ h => h⟩
        simp
      have hspec := @pruneSegments_spec root storage env (StorageState.deadline env.clock)
        (storage.target first) progress.observed first.candidates first.candidates _ hstart
        fun _ h => h
      rw [hended] at hspec
      exact hspec
    refine pruneOutcome_of_pass hbytes hpass rfl rfl rfl hspec.files ?_
    obtain ⟨last, progress'⟩ := found
    refine ⟨_, congrArg (Option.map _) hfound, ?_, rfl⟩
    exact congrArg Nat.cast (scan_bytes hfound).total

/-! ## A camera with three clips -/

def thirdClip : String := "2024-01-01_00-02-00-000000.mp4"

def threeClips : Root where
  admitted := true
  free := some 100
  directories := [⟨cameraName, some (1, 1),
    [⟨firstClip, some ⟨1, 2, 5, 10, 10⟩⟩, ⟨secondClip, some ⟨1, 3, 5, 20, 20⟩⟩,
      ⟨thirdClip, some ⟨1, 4, 5, 30, 30⟩⟩], by decide⟩]
  names := by decide

def seenThreeClips : StorageState :=
  StorageState.machine.step (StorageState.opened 14 1 0 threeClips) (.inspect (.still zeroSeconds))

def pruneFilled : PruneEnvironment :=
  ⟨.still twelveSeconds, fun _ => .none, fun _ => some 105, some 0⟩

def threeFound : Progress :=
  (seenThreeClips.storage.scanDirectories pruneFilled.clock
    (StorageState.deadline pruneFilled.clock) threeClips.directories
      ⟨2, maxStorageEntries, fun _ => none, 0, []⟩).getD ⟨0, 0, fun _ => none, 0, []⟩

theorem opening_three : seenThreeClips.storage.opening pruneFilled seenThreeClips.root =
    some (⟨threeFound.total, 100, threeFound.candidates⟩,
      { threeFound with tick := threeFound.tick + 2 }) := by
  have hfound : seenThreeClips.storage.scanDirectories pruneFilled.clock
      (StorageState.deadline pruneFilled.clock) threeClips.directories
        ⟨2, maxStorageEntries, fun _ => none, 0, []⟩ = some threeFound := by
    have hsome : (seenThreeClips.storage.scanDirectories pruneFilled.clock
        (StorageState.deadline pruneFilled.clock) threeClips.directories
          ⟨2, maxStorageEntries, fun _ => none, 0, []⟩).isSome := by decide +kernel
    obtain ⟨last, hlast⟩ := Option.isSome_iff_exists.mp hsome
    rw [threeFound, hlast, Option.getD_some]
  have htime : twelveSeconds.seconds < StorageState.deadline pruneFilled.clock := by
    decide +kernel
  have hordered : threeFound.candidates.Pairwise fun segment other => segment.before other := by
    decide +kernel
  refine scan_eq_some_iff.mpr ⟨100, threeFound, htime, rfl, rfl, hfound, htime, htime, ?_, rfl⟩
  rw [List.mergeSort_of_pairwise hordered]

/-- The second clip is left, because there was room behind the first deletion; at the end the
disk is full. -/
theorem left_without_minimum :
    (∀ path, pruneFilled.fault path = .none) ∧ seenThreeClips.storage.minFreeBytes = 1 ∧
    (prune seenThreeClips.storage pruneFilled seenThreeClips.root).status =
      some ⟨10, 0, false, 1⟩ ∧
    (prune seenThreeClips.storage pruneFilled seenThreeClips.root).deleted =
      [(cameraName, firstClip)] ∧
    (seenThreeClips.storage.prunePass pruneFilled seenThreeClips.root).any fun pass =>
      pass.1.candidates.any fun segment => segment.path == (cameraName, secondClip) := by
  have hscan : seenThreeClips.storage.scan pruneFilled.clock
      (floatAdd (pruneFilled.clock.read 0).seconds maxStorageSeconds) seenThreeClips.root 1
        maxStorageEntries = some (⟨threeFound.total, 100, threeFound.candidates⟩,
          { threeFound with tick := threeFound.tick + 2 }) := opening_three
  refine ⟨fun _ => rfl, by decide +kernel, ?_⟩
  unfold prune RecordingStorage.prunePass
  rw [opening_three]
  dsimp only
  rw [hscan]
  decide +kernel

theorem prune_outcome_three_clips : ∃ scan turns,
    PruneOutcome seenThreeClips.storage seenThreeClips.root scan turns
      (prune seenThreeClips.storage pruneFilled seenThreeClips.root) := by
  have hsome : (seenThreeClips.storage.prunePass pruneFilled seenThreeClips.root).isSome := by
    unfold RecordingStorage.prunePass
    rw [opening_three]
    decide +kernel
  obtain ⟨⟨scan, turns⟩, hpass⟩ := Option.isSome_iff_exists.mp hsome
  exact ⟨scan, turns, prune_outcome hpass fun _ _ _ => rfl⟩

end K5Vision.Storage
