import K5Vision.Storage.RecordingScan

/-!
# Pruning is safe

An observation is carried from scan to scan as long as the file keeps its signature
(`Chain`).  A scan takes less than the age it asks of a segment, so a segment that is
old enough was observed by an earlier scan already.

Of the segments of a directory the newest is no candidate (`CandidateSpec.newest`), so a
directory that had a segment keeps one.
-/

namespace K5Vision.Storage

open Library Identity RecordingStorage

/-! ## Files of the root -/

variable {root : Root} {path other : Path}

theorem find?_name {α : Type*} (name : α → String) {values : List α} {value : α}
    (hnames : (values.map name).Nodup) (h : value ∈ values) :
    values.find? (fun other => name other = name value) = some value := by
  cases hfound : values.find? (fun other => name other = name value) with
  | none => simpa using List.find?_eq_none.mp hfound value h
  | some other =>
      have hname : name other = name value := by simpa using List.find?_some hfound
      rw [List.inj_on_of_nodup_map hnames (List.mem_of_find?_eq_some hfound) h hname]

theorem file?_of_mem {directory : Directory} {file : RecordedFile}
    (hdirectory : directory ∈ root.directories) (hfile : file ∈ directory.files) :
    root.file? (directory.name, file.name) = some file := by
  unfold Root.file?
  rw [find?_name (·.name) root.names hdirectory]
  exact find?_name (·.name) directory.names hfile

theorem file?_unlink :
    (root.unlink path).file? other = if other = path then none else root.file? other := by
  have hname : ((fun directory : Directory => decide (directory.name = other.1)) ∘
      fun directory => if directory.name = path.1 then directory.unlink path.2 else directory) =
        fun directory => decide (directory.name = other.1) := by
    funext directory
    by_cases h : directory.name = path.1 <;> simp [h, Directory.unlink]
  unfold Root.file? Root.unlink
  dsimp only
  rw [List.find?_map, hname]
  cases hfound : root.directories.find? (·.name = other.1) with
  | none => simp
  | some directory =>
      have hdirectory : directory.name = other.1 := by simpa using List.find?_some hfound
      simp only [Option.map_some, Option.bind_some]
      by_cases hhome : directory.name = path.1
      · rw [if_pos hhome]
        unfold Directory.unlink
        dsimp only
        rw [List.find?_filter]
        by_cases hsame : other.2 = path.2
        · rw [if_pos (Prod.ext (hdirectory.symm.trans hhome) hsame), List.find?_eq_none]
          intro file _
          simp only [hsame]
          simp
        · rw [if_neg fun heq => hsame (congrArg Prod.snd heq)]
          congr 1
          funext file
          by_cases hfile : file.name = other.2
          · simp [hfile, hsame]
          · simp [hfile]
      · rw [if_neg hhome, if_neg]
        rintro rfl
        exact hhome hdirectory

/-! ## The deletions -/

structure PruningSpec (root : Root) (observed : Path → Option Observation)
    (candidates : List Segment) (pruning : Pruning) : Prop where
  files : ∀ path, pruning.root.file? path =
    if path ∈ pruning.deleted then none else root.file? path
  deleted : ∀ path ∈ pruning.deleted, path ∈ candidates.map (·.path)
  observations : ∀ path observation, pruning.observations path = some observation →
    observed path = some observation

def pruningOf : Except Pruning Pruning → Pruning
  | .error pruning => pruning
  | .ok pruning => pruning

variable {storage : RecordingStorage} {env : PruneEnvironment} {deadline : ℚ} {target : ℕ}
  {observed : Path → Option Observation} {candidates segments : List Segment}
  {segment : Segment} {pruning : Pruning}

theorem pruneSegment_spec (h : PruningSpec root observed candidates pruning)
    (hmem : segment ∈ candidates) :
    PruningSpec root observed candidates
      (pruningOf (pruneSegment storage env deadline target pruning segment)) := by
  -- what is read of the clock does not count
  have hticks : ∀ tick, PruningSpec root observed candidates { pruning with tick := tick } :=
    fun _ => ⟨h.files, h.deleted, h.observations⟩
  unfold pruneSegment
  dsimp only
  split
  · exact h
  split
  · exact hticks _
  split
  · exact hticks _
  · exact hticks _
  · exact hticks _
  · exact hticks _
  split
  · constructor
    case files => exact h.files
    case deleted => exact h.deleted
    case observations =>
      intro path observation hfound
      dsimp only [pruningOf] at hfound
      refine h.observations path observation ?_
      by_cases heq : path = segment.path
      · subst heq
        rw [Function.update_self] at hfound
        cases hfound
      · rwa [Function.update_of_ne heq] at hfound
  split
  · exact hticks _
  split
  · exact hticks _
  -- the file is deleted
  have hdeleted : ∀ total free tick, PruningSpec root observed candidates
      ⟨pruning.root.unlink segment.path, pruning.observations, total, free, tick,
        segment.path :: pruning.deleted⟩ := by
    intro total free tick
    constructor
    case files =>
      intro path
      dsimp only
      rw [file?_unlink, h.files path]
      by_cases heq : path = segment.path
      · simp [heq]
      · simp [heq]
    case deleted =>
      intro path hpath
      rcases List.mem_cons.mp hpath with rfl | hpath
      · exact List.mem_map_of_mem hmem
      · exact h.deleted path hpath
    case observations => exact h.observations
  split
  · exact hdeleted _ _ _
  · exact hdeleted _ _ _

theorem pruneSegments_spec (h : PruningSpec root observed candidates pruning)
    (hmem : ∀ segment ∈ segments, segment ∈ candidates) :
    PruningSpec root observed candidates
      (pruningOf (pruneSegments storage env deadline target segments pruning)) := by
  induction segments generalizing pruning with
  | nil => exact h
  | cons segment rest ih =>
      have hstep := @pruneSegment_spec root storage env deadline target observed candidates
        segment pruning h (hmem segment List.mem_cons_self)
      unfold pruneSegments
      split
      · rename_i ended hended
        rw [hended] at hstep
        exact hstep
      · rename_i next hnext
        rw [hnext] at hstep
        exact ih hstep fun other hother => hmem other (List.mem_cons_of_mem _ hother)

/-! ## Histories -/

/-- Every scan of a history, back to the one that made an observation, found the file with
the signature of the observation. -/
def Chain : List (Option ScanRecord) → Path → Observation → Prop
  | some record :: older, path, observation =>
      record.root.Holds path observation.signature ∧
        ((∃ tick, record.start ≤ tick ∧ tick < record.stop ∧
          observation.stableSince = (record.clock.read tick).seconds) ∨
            Chain older path observation)
  | _, _, _ => False

/-- What the storage keeps, its history bears out. -/
def StorageSound (storage : RecordingStorage) (history : List (Option ScanRecord)) : Prop :=
  ∀ path observation, storage.observations path = some observation →
    Chain history path observation

variable {clock : Clock} {history : List (Option ScanRecord)} {tick remaining : ℕ}

theorem scanned_sound (h : StorageSound storage history) :
    StorageSound (storage.scanned (storage.scan clock deadline root tick remaining))
      (scanRecord root clock tick (storage.scan clock deadline root tick remaining) :: history) := by
  intro path observation hfound
  cases hscan : storage.scan clock deadline root tick remaining with
  | none =>
      rw [hscan] at hfound
      cases hfound
  | some result =>
      obtain ⟨scan, scanned⟩ := result
      rw [hscan] at hfound
      obtain ⟨hold, hholds⟩ := (scan_spec hscan).observed path observation hfound
      refine ⟨hholds, ?_⟩
      rcases hold with hold | hfresh
      · exact .inr (h path observation hold)
      · exact .inl hfresh

/-- What the deletion of a segment rests on: the scan of the call, and the scans before. -/
structure ClosedSegment (history : List (Option ScanRecord)) (record : ScanRecord) (path : Path)
    (observation : Observation) : Prop where
  unchanged : record.root.Holds path observation.signature
  /-- Earlier scans have found the file as it is. -/
  chain : Chain history path observation
  /-- The earliest of them was ten seconds ago. -/
  age : ∃ tick, record.start ≤ tick ∧ tick < record.stop ∧
    minClosedAgeSeconds ≤ elapsed (record.clock.read tick).seconds observation.stableSince
  /-- The directory has a segment that is newer, and is kept. -/
  notNewest : ∃ last signature, record.root.Holds (path.1, last) signature ∧
    segmentName last = some true ∧
    Older (observation.signature.file.modified, path.2) (signature.file.modified, last)
  /-- The directory has a segment of a later change generation, or only segments without one. -/
  notLatest : (∃ last signature, record.root.Holds (path.1, last) signature ∧
      segmentName last = some true ∧
      generation record.observed path < generation record.observed (path.1, last)) ∨
    ∀ last signature, record.root.Holds (path.1, last) signature →
      segmentName last = some true → generation record.observed (path.1, last) = 0

theorem closedSegment_of_candidate {scan : Scan} {scanned : Progress}
    (hsound : StorageSound storage history)
    (hscan : storage.scan clock (StorageState.deadline clock) root tick remaining =
      some (scan, scanned)) (h : segment ∈ scan.candidates) :
    ∃ observation, ClosedSegment history ⟨root, scanned.observed, clock, tick, scanned.tick⟩
      segment.path observation := by
  have hspec := scan_spec hscan
  obtain ⟨directory, hdirectory, hsegment⟩ := hspec.candidates segment h
  obtain ⟨observation, hfound, hsignature, hsince, hold⟩ := hsegment.observed
  have hage := hsegment.age
  rw [← hsince] at hage
  obtain ⟨last, info, hlastFile, hlastName, hlt, -⟩ := hsegment.newest
  refine ⟨observation, ?_⟩
  constructor
  case unchanged => exact (hspec.observed segment.path observation hfound).2
  case chain =>
    rcases hold with hold | ⟨other, -, -, hfresh⟩
    · exact hsound segment.path observation hold
    · -- what this call has observed is not old enough
      obtain ⟨now, -, hnow, helapsed⟩ := hage
      exact absurd hfresh (not_fresh_of_old (hspec.inTime now hnow) helapsed)
  case age => exact hage
  case notNewest =>
    refine ⟨last, ⟨segment.directory, info⟩,
      ⟨directory, hdirectory, hsegment.home, hsegment.admitted, hlastFile⟩, hlastName, ?_⟩
    rw [hsignature]
    exact hlt
  case notLatest =>
    rcases hsegment.changed with ⟨other, hother, hname, hlater⟩ | hzero
    · left
      obtain ⟨found, hother⟩ : ∃ found, scanned.observed (directory.name, other.name) =
          some found := by
        refine Option.ne_none_iff_exists'.mp ?_
        intro hnone
        unfold generation at hlater
        rw [hnone] at hlater
        exact Nat.not_lt_zero _ hlater
      refine ⟨other.name, found.signature, ?_, hname, ?_⟩
      · rw [hsegment.home]
        exact (hspec.observed _ found hother).2
      · dsimp only
        rw [hsegment.home]
        exact hlater
    · right
      rintro last signature ⟨home, hhome, hname, -, hfile⟩ hlastName
      have hsame : home = directory :=
        List.inj_on_of_nodup_map root.names hhome hdirectory (hname.symm.trans hsegment.home)
      subst hsame
      dsimp only at hname hfile ⊢
      rw [hname]
      exact hzero _ hfile hlastName

/-- A candidate's directory has a segment that is no candidate. -/
theorem exists_kept_of_candidate {scan : Scan} {scanned : Progress}
    (hscan : storage.scan clock deadline root tick remaining = some (scan, scanned))
    (h : segment ∈ scan.candidates) :
    ∃ last, (root.file? (segment.path.1, last)).isSome ∧ segmentName last = some true ∧
      (segment.path.1, last) ∉ scan.candidates.map (·.path) := by
  obtain ⟨directory, hdirectory, hsegment⟩ := (scan_spec hscan).candidates segment h
  obtain ⟨last, info, hfile, hname, -, hnot⟩ := hsegment.newest
  refine ⟨last, ?_, hname, ?_⟩
  · rw [hsegment.home]
    have hfound := file?_of_mem hdirectory hfile
    dsimp only at hfound
    rw [hfound]
    rfl
  · rw [hsegment.home]
    exact hnot

/-! ## Pruning -/

structure PruneSpec (history : List (Option ScanRecord)) (root : Root) (env : PruneEnvironment)
    (pruned : Pruned) : Prop where
  files : ∀ path, pruned.root.file? path =
    if path ∈ pruned.deleted then none else root.file? path
  /-- A file is deleted only behind a complete scan, as a closed segment. -/
  deleted : ∀ path ∈ pruned.deleted, ∃ record observation, some record ∈ pruned.scans ∧
    record.root = root ∧ record.clock = env.clock ∧ ClosedSegment history record path observation
  /-- A directory that had a segment keeps one. -/
  keeps : ∀ directory name, (root.file? (directory, name)).isSome → segmentName name = some true →
    ∃ kept, (pruned.root.file? (directory, kept)).isSome ∧ segmentName kept = some true
  incomplete : pruned.scans.getLast? = some none → pruned.deleted = [] ∧ pruned.root = root
  sound : StorageSound pruned.storage (pruned.scans ++ history)

theorem pruneSpec_of_deletions {scan : Scan} {progress : Progress} {ended : Pruning}
    {left : RecordingStorage} {last : Root} {status : Option StorageStatus}
    (later : List (Option ScanRecord)) (hlast : ∀ path, last.file? path = ended.root.file? path)
    (hsound : StorageSound storage history)
    (hscan : storage.scan env.clock (StorageState.deadline env.clock) root 1 maxStorageEntries =
      some (scan, progress))
    (hended : PruningSpec root progress.observed scan.candidates ended)
    (hleft : StorageSound left
      (later ++ scanRecord root env.clock 1 (some (scan, progress)) :: history)) :
    PruneSpec history root env ⟨left, last, ended.deleted, status,
      later ++ [scanRecord root env.clock 1 (some (scan, progress))]⟩ := by
  have hfiles : ∀ path, last.file? path =
      if path ∈ ended.deleted then none else root.file? path :=
    fun path => (hlast path).trans (hended.files path)
  constructor
  case files => exact hfiles
  case deleted =>
    intro path hpath
    obtain ⟨segment, hsegment, rfl⟩ := List.mem_map.mp (hended.deleted path hpath)
    obtain ⟨observation, hclosed⟩ := closedSegment_of_candidate hsound hscan hsegment
    exact ⟨_, observation, List.mem_append_right _ List.mem_cons_self, rfl, rfl, hclosed⟩
  case keeps =>
    intro directory name hfile hname
    by_cases hdeleted : (directory, name) ∈ ended.deleted
    · -- the newest segment is kept
      obtain ⟨segment, hsegment, hpath⟩ := List.mem_map.mp (hended.deleted _ hdeleted)
      obtain ⟨last, hlast, hlastName, hnot⟩ := exists_kept_of_candidate hscan hsegment
      rw [hpath] at hlast hnot
      refine ⟨last, ?_, hlastName⟩
      dsimp only
      rw [hfiles, if_neg fun hmem => hnot (hended.deleted _ hmem)]
      exact hlast
    · refine ⟨name, ?_, hname⟩
      dsimp only
      rw [hfiles, if_neg hdeleted]
      exact hfile
  case incomplete =>
    intro hnone
    rw [List.getLast?_concat] at hnone
    cases hnone
  case sound =>
    rw [List.append_assoc]
    exact hleft

theorem prune_spec (hsound : StorageSound storage history) :
    PruneSpec history root env (prune storage env root) := by
  have hdeadline : floatAdd (env.clock.read 0).seconds maxStorageSeconds =
      StorageState.deadline env.clock := rfl
  have hscanned := @scanned_sound root storage (StorageState.deadline env.clock) env.clock history
    1 maxStorageEntries hsound
  -- nothing is deleted
  have hquiet : ∀ observed status record, StorageSound observed (record :: history) →
      PruneSpec history root env ⟨observed, root, [], status, [record]⟩ := by
    intro observed allowed record h
    refine ⟨fun path => ?_, ?_, fun _ name hfile hname => ⟨name, hfile, hname⟩,
      fun _ => ⟨rfl, rfl⟩, h⟩
    · simp
    · intro path hpath
      cases hpath
  unfold prune
  rw [hdeadline]
  dsimp only
  cases hscan : storage.scan env.clock (StorageState.deadline env.clock) root 1
      maxStorageEntries with
  | none =>
      rw [hscan] at hscanned
      exact hquiet _ _ _ hscanned
  | some result =>
      obtain ⟨scan, progress⟩ := result
      rw [hscan] at hscanned
      dsimp only
      split
      · exact hquiet _ _ _ hscanned
      generalize hstarted : (⟨root, _, _, _, _, _⟩ : Pruning) = started
      have hstart : PruningSpec root progress.observed scan.candidates started := by
        subst hstarted
        refine ⟨fun path => ?_, ?_, fun _ _ h => h⟩
        · simp
        · intro path hpath
          cases hpath
      have hpruning : ∀ target, PruningSpec root progress.observed scan.candidates
          (pruningOf (pruneSegments storage env (StorageState.deadline env.clock) target
            scan.candidates started)) :=
        fun target => pruneSegments_spec hstart fun _ h => h
      -- an observation that is left was made by the scan
      have hkept : ∀ ended : Pruning, PruningSpec root progress.observed scan.candidates ended →
          StorageSound { storage.scanned (some (scan, progress)) with
            observations := ended.observations }
            (scanRecord root env.clock 1 (some (scan, progress)) :: history) :=
        fun ended hended path observation hfound =>
          hscanned path observation (hended.observations path observation hfound)
      split
      · rename_i ended hended
        have hspec := hpruning (if storage.maxBytes < scan.total then storage.maxBytes * 9 / 10
          else storage.maxBytes)
        rw [hended] at hspec
        exact pruneSpec_of_deletions [] (fun _ => rfl) hsound hscan hspec (hkept ended hspec)
      · rename_i ended hended
        have hspec := hpruning (if storage.maxBytes < scan.total then storage.maxBytes * 9 / 10
          else storage.maxBytes)
        rw [hended] at hspec
        exact pruneSpec_of_deletions [_] (fun _ => rfl) hsound hscan hspec
          (scanned_sound (hkept ended hspec))

/-! ## Runs -/

variable {state : StorageState} {events : List StorageEvent}
  {maxBytes minFreeBytes retentionSeconds : ℕ}

open StorageState

theorem step_sound (event : StorageEvent) (h : StorageSound state.storage state.history) :
    StorageSound (machine.step state event).storage (machine.step state event).history := by
  cases event with
  | inspect clock => exact scanned_sound h
  | prune env => exact (@prune_spec state.root state.storage env state.history h).sound
  | configurePolicy => exact h
  | change => exact h
  | restart =>
      intro path observation hfound
      cases hfound

theorem reaches_sound
    (h : machine.Reaches (opened maxBytes minFreeBytes retentionSeconds root) events state) :
    StorageSound state.storage state.history := by
  have hstep : ∀ state event, StorageSound state.storage state.history →
      machine.admissible state event →
      StorageSound (machine.step state event).storage (machine.step state event).history :=
    fun _ event hsound _ => step_sound event hsound
  refine @Machine.Reaches.invariant _ _ machine _ _ _
    (fun state => StorageSound state.storage state.history) hstep h ?_
  intro path observation hfound
  cases hfound

/-- Over any scans, prunes and changes of the files, `prune` deletes only closed segments,
and nothing else deletes. -/
theorem pruning_safe
    (h : machine.Reaches (opened maxBytes minFreeBytes retentionSeconds root) events state) :
    (∀ env, PruneSpec state.history state.root env (prune state.storage env state.root) ∧
      (machine.step state (.prune env)).root = (prune state.storage env state.root).root) ∧
    ∀ event, (machine.step state event).root ≠ state.root →
      (∃ env, event = .prune env) ∨ ∃ changed, event = .change changed := by
  refine ⟨fun env => ⟨prune_spec (reaches_sound h), rfl⟩, ?_⟩
  intro event hchanged
  cases event with
  | inspect => exact absurd rfl hchanged
  | prune env => exact .inl ⟨env, rfl⟩
  | configurePolicy => exact absurd rfl hchanged
  | change changed => exact .inr ⟨changed, rfl⟩
  | restart => exact absurd rfl hchanged

/-! ## A camera with two clips -/

def cameraName : String := "k5_0123456789abcdef0123456789abcdef0123456789abcdef0123456789abcdef"

def firstClip : String := "2024-01-01_00-00-00-000000.mp4"

def secondClip : String := "2024-01-01_00-01-00-000000.mp4"

/-- Two clips of five bytes, the second modified behind the first. -/
def twoClips : Root where
  admitted := true
  free := some 100
  directories := [⟨cameraName, some (1, 1),
    [⟨firstClip, some ⟨1, 2, 5, 10, 10⟩⟩, ⟨secondClip, some ⟨1, 3, 5, 20, 20⟩⟩], by decide⟩]
  names := by decide

theorem toFloat_noSeconds : toFloat (0 : ℕ) = (0 : ℕ) := by
  decide +kernel

theorem toFloat_twelve : toFloat (12 : ℕ) = (12 : ℕ) := by
  decide +kernel

def Clock.still (reading : Reading) : Clock := ⟨fun _ => reading, fun _ _ _ => le_rfl⟩

def zeroSeconds : Reading := secondsReading 0 toFloat_noSeconds

def twelveSeconds : Reading := secondsReading 12 toFloat_twelve

def seenTwoClips : StorageState :=
  machine.step (opened 1 0 0 twoClips) (.inspect (.still zeroSeconds))

def pruneTwelve : PruneEnvironment := ⟨.still twelveSeconds, fun _ => .none, fun _ => some 105, some 105⟩

/-- The first clip is deleted, though no segment of its camera has a later generation. -/
theorem deleted_in_latest_generation :
    machine.Reaches (opened 1 0 0 twoClips) [.inspect (.still zeroSeconds)] seenTwoClips ∧
    (prune seenTwoClips.storage pruneTwelve seenTwoClips.root).deleted =
      [(cameraName, firstClip)] ∧
    (seenTwoClips.storage.scan pruneTwelve.clock (StorageState.deadline pruneTwelve.clock)
      seenTwoClips.root 1 maxStorageEntries).any fun scanned =>
        seenTwoClips.root.directories.all fun directory => directory.files.all fun file =>
          generation scanned.2.observed (directory.name, file.name) ≤
            generation scanned.2.observed (cameraName, firstClip) := by
  refine ⟨⟨trivial, rfl⟩, ?_, ?_⟩
  · decide +kernel
  · decide +kernel

/-- The first clip is deleted as a closed segment. -/
theorem pruning_safe_two_clips : ∃ record observation,
    ClosedSegment seenTwoClips.history record (cameraName, firstClip) observation := by
  have hreach : machine.Reaches (opened 1 0 0 twoClips) [.inspect (.still zeroSeconds)]
      seenTwoClips := ⟨trivial, rfl⟩
  obtain ⟨hprune, -⟩ := pruning_safe hreach
  obtain ⟨record, observation, -, -, -, hclosed⟩ :=
    (hprune pruneTwelve).1.deleted (cameraName, firstClip) (by decide +kernel)
  exact ⟨record, observation, hclosed⟩

end K5Vision.Storage
