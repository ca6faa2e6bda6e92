import K5Vision.Storage.RecordingStorage
import K5Vision.Identity.LastAdministrator

/-!
# What a scan establishes

A complete scan observes the segments of the root (`ScanSpec.observed`); an observation
is one of the scan before, or it is made by a reading of this scan.  Its candidates are
unchanged, old enough, and none is the newest of its directory (`CandidateSpec`).
-/

namespace K5Vision.Storage

open Library Identity RecordingStorage

variable {storage : RecordingStorage} {clock : Clock} {deadline : ℚ}
  {progress scanned : Progress} {segments : List Segment}

/-! ## One directory -/

theorem budget_eq_some_iff : progress.budget clock deadline = some scanned ↔
    (clock.read progress.tick).seconds < deadline ∧
      scanned = { progress with tick := progress.tick + 1 } := by
  unfold Progress.budget
  by_cases hdeadline : deadline ≤ (clock.read progress.tick).seconds
  · rw [if_pos hdeadline]
    simp [not_lt.mpr hdeadline]
  · rw [if_neg hdeadline]
    simp [not_le.mp hdeadline, eq_comm]

theorem counted_eq_some (h : (progress.budget clock deadline).bind Progress.entry = some scanned) :
    scanned.tick = progress.tick + 1 ∧ scanned.observed = progress.observed ∧
      scanned.candidates = progress.candidates := by
  obtain ⟨middle, hbudget, hentry⟩ := Option.bind_eq_some_iff.mp h
  obtain ⟨-, rfl⟩ := budget_eq_some_iff.mp hbudget
  unfold Progress.entry at hentry
  split at hentry
  · cases hentry
  · cases hentry
    exact ⟨rfl, rfl, rfl⟩

/-- The observation was there before, or it was made between two ticks. -/
def OldOrFresh (storage : RecordingStorage) (clock : Clock) (start stop : ℕ) (path : Path)
    (observation : Observation) : Prop :=
  storage.observations path = some observation ∨
    ∃ tick, start ≤ tick ∧ tick < stop ∧ observation.stableSince = (clock.read tick).seconds

variable {start : ℕ}

theorem OldOrFresh.mono {stop start' stop' : ℕ} {path : Path} {observation : Observation}
    (h : OldOrFresh storage clock start stop path observation) (hstart : start' ≤ start)
    (hstop : stop ≤ stop') : OldOrFresh storage clock start' stop' path observation := by
  rcases h with hold | ⟨tick, hle, hlt, hsince⟩
  · exact .inl hold
  · exact .inr ⟨tick, hstart.trans hle, hlt.trans_le hstop, hsince⟩

theorem observe_spec (path : Path) (signature : Signature) (tick : ℕ) :
    (storage.observe path signature (clock.read tick).seconds).signature = signature ∧
      OldOrFresh storage clock tick (tick + 1) path
        (storage.observe path signature (clock.read tick).seconds) := by
  unfold RecordingStorage.observe
  dsimp only
  cases hprevious : storage.observations path with
  | none => exact ⟨rfl, .inr ⟨tick, le_rfl, Nat.lt_succ_self tick, rfl⟩⟩
  | some previous =>
      dsimp only
      split
      · rename_i hsame
        exact ⟨hsame.1, .inl hprevious⟩
      · exact ⟨rfl, .inr ⟨tick, le_rfl, Nat.lt_succ_self tick, rfl⟩⟩

/-- A directory has a file with a signature. -/
def Directory.Holds (directory : Directory) (path : Path) (signature : Signature) : Prop :=
  path.1 = directory.name ∧ directory.identity = some signature.directory ∧
    ⟨path.2, some signature.file⟩ ∈ directory.files

def Root.Holds (root : Root) (path : Path) (signature : Signature) : Prop :=
  ∃ directory ∈ root.directories, directory.Holds path signature

structure SegmentSpec (storage : RecordingStorage) (clock : Clock) (start : ℕ)
    (directory : String) (identity : ℕ × ℕ) (files : List RecordedFile) (scanned : Progress)
    (segment : Segment) : Prop where
  home : segment.path.1 = directory
  admitted : segment.directory = identity
  file : ⟨segment.path.2, some segment.info⟩ ∈ files
  name : segmentName segment.path.2 = some true
  observed : ∃ observation, scanned.observed segment.path = some observation ∧
    observation.signature = ⟨identity, segment.info⟩ ∧
    observation.stableSince = segment.stableSince ∧
    OldOrFresh storage clock start scanned.tick segment.path observation

structure FilesSpec (storage : RecordingStorage) (clock : Clock) (directory : String)
    (identity : ℕ × ℕ) (files : List RecordedFile) (progress scanned : Progress)
    (segments : List Segment) : Prop where
  tick : progress.tick ≤ scanned.tick
  candidates : scanned.candidates = progress.candidates
  frame : ∀ path : Path, path.1 ≠ directory ∨ path.2 ∉ files.map (·.name) →
    scanned.observed path = progress.observed path
  found : ∀ segment ∈ segments,
    SegmentSpec storage clock progress.tick directory identity files scanned segment
  complete : ∀ file ∈ files, segmentName file.name = some true →
    ∃ segment ∈ segments, segment.path = (directory, file.name)
  observed : ∀ path observation, scanned.observed path = some observation →
    progress.observed path = some observation ∨ ∃ segment ∈ segments, segment.path = path

theorem scanFiles_spec {directory : String} {identity : ℕ × ℕ} {files : List RecordedFile}
    (hnames : (files.map (·.name)).Nodup)
    (h : storage.scanFiles clock deadline directory identity files progress =
      some (segments, scanned)) :
    FilesSpec storage clock directory identity files progress scanned segments := by
  induction files generalizing progress scanned segments with
  | nil =>
      cases h
      refine ⟨le_rfl, rfl, fun _ _ => rfl, ?_, ?_, fun _ _ h => .inl h⟩
      · intro segment hsegment
        cases hsegment
      · intro file hfile
        cases hfile
  | cons file rest ih =>
      obtain ⟨hname, hrest⟩ := List.nodup_cons.mp hnames
      unfold RecordingStorage.scanFiles at h
      split at h
      · cases h
      rename_i counted hcounted
      obtain ⟨htick, hobserved, hcandidates⟩ := counted_eq_some hcounted
      split at h
      · cases h
      · -- the file is no segment
        rename_i hsegment
        have hspec := ih hrest h
        constructor
        case tick =>
          have := hspec.tick
          omega
        case candidates => exact hspec.candidates.trans hcandidates
        case frame =>
          intro path hpath
          rw [← hobserved]
          refine hspec.frame path (hpath.imp_right ?_)
          intro hnot hmem
          exact hnot (List.mem_cons_of_mem _ hmem)
        case found =>
          intro segment hmem
          have hsegment := hspec.found segment hmem
          obtain ⟨observation, hfound, hsignature, hsince, hold⟩ := hsegment.observed
          exact ⟨hsegment.home, hsegment.admitted, List.mem_cons_of_mem _ hsegment.file,
            hsegment.name, observation, hfound, hsignature, hsince,
            hold.mono (by omega) le_rfl⟩
        case complete =>
          intro other hother hotherSegment
          rcases List.mem_cons.mp hother with rfl | hother
          · rw [hsegment] at hotherSegment
            cases hotherSegment
          · exact hspec.complete other hother hotherSegment
        case observed =>
          rw [← hobserved]
          exact hspec.observed
      · cases h
      · -- the file is a segment
        rename_i info hsegment hinfo
        dsimp only at h
        split at h
        · cases h
        rename_i hscan
        cases h
        have hspec := ih hrest hscan
        obtain ⟨hsignature, hold⟩ := @observe_spec storage clock (directory, file.name)
          ⟨identity, info⟩ counted.tick
        -- the files behind this one have other names
        have hkept : scanned.observed (directory, file.name) =
            some (storage.observe (directory, file.name) ⟨identity, info⟩
              (clock.read counted.tick).seconds) := by
          rw [hspec.frame (directory, file.name) (.inr hname)]
          exact Function.update_self ..
        have hticks := hspec.tick
        dsimp only at hticks
        constructor
        case tick => omega
        case candidates => exact hspec.candidates.trans hcandidates
        case frame =>
          intro path hpath
          have hne : path ≠ (directory, file.name) := by
            rintro rfl
            rcases hpath with hdirectory | hnot
            · exact hdirectory rfl
            · exact hnot List.mem_cons_self
          rw [hspec.frame path (hpath.imp_right fun hnot hmem =>
            hnot (List.mem_cons_of_mem _ hmem)), ← hobserved]
          exact Function.update_of_ne hne ..
        case found =>
          intro segment hmem
          rcases List.mem_cons.mp hmem with rfl | hmem
          · refine ⟨rfl, rfl, ?_, hsegment, _, hkept, hsignature, rfl, ?_⟩
            · dsimp only
              rw [← hinfo]
              exact List.mem_cons_self
            · exact hold.mono (by omega) hticks
          · have hother := hspec.found segment hmem
            obtain ⟨observation, hfound, hsame, hsince, hotherOld⟩ := hother.observed
            exact ⟨hother.home, hother.admitted, List.mem_cons_of_mem _ hother.file,
              hother.name, observation, hfound, hsame, hsince,
              hotherOld.mono (by dsimp only; omega) le_rfl⟩
        case complete =>
          intro other hother hotherSegment
          rcases List.mem_cons.mp hother with rfl | hother
          · exact ⟨_, List.mem_cons_self, rfl⟩
          · obtain ⟨segment, hmem, hpath⟩ := hspec.complete other hother hotherSegment
            exact ⟨segment, List.mem_cons_of_mem _ hmem, hpath⟩
        case observed =>
          intro path observation hfound
          rcases hspec.observed path observation hfound with hbefore | ⟨segment, hmem, hpath⟩
          · dsimp only at hbefore
            by_cases heq : path = (directory, file.name)
            · exact .inr ⟨_, List.mem_cons_self, heq.symm⟩
            · rw [Function.update_of_ne heq, hobserved] at hbefore
              exact .inl hbefore
          · exact .inr ⟨segment, List.mem_cons_of_mem _ hmem, hpath⟩

/-! ## The candidates -/

structure CandidateSpec (storage : RecordingStorage) (clock : Clock) (start : ℕ)
    (directory : Directory) (scanned : Progress) (candidates : List Segment) (segment : Segment) :
    Prop where
  home : segment.path.1 = directory.name
  admitted : directory.identity = some segment.directory
  file : ⟨segment.path.2, some segment.info⟩ ∈ directory.files
  name : segmentName segment.path.2 = some true
  observed : ∃ observation, scanned.observed segment.path = some observation ∧
    observation.signature = ⟨segment.directory, segment.info⟩ ∧
    observation.stableSince = segment.stableSince ∧
    OldOrFresh storage clock start scanned.tick segment.path observation
  newest : ∃ last info, ⟨last, some info⟩ ∈ directory.files ∧ segmentName last = some true ∧
    Older segment.key (info.modified, last) ∧
    (directory.name, last) ∉ candidates.map (·.path)
  changed : (∃ other ∈ directory.files, segmentName other.name = some true ∧
      generation scanned.observed segment.path <
        generation scanned.observed (directory.name, other.name)) ∨
    ∀ other ∈ directory.files, segmentName other.name = some true →
      generation scanned.observed (directory.name, other.name) = 0
  age : ∃ tick, start ≤ tick ∧ tick < scanned.tick ∧
    minClosedAgeSeconds ≤ elapsed (clock.read tick).seconds segment.stableSince

theorem Older.trans {first second third : ℤ × String} (hfirst : Older first second)
    (hsecond : Older second third) : Older first third := by
  rcases hfirst with hlt | ⟨heq, hname⟩ <;> rcases hsecond with hlt' | ⟨heq', hname'⟩
  · exact .inl (hlt.trans hlt')
  · exact .inl (heq' ▸ hlt)
  · exact .inl (heq ▸ hlt')
  · exact .inr ⟨heq.trans heq', lt_trans hname hname'⟩

theorem older_or_eq_or_older (first second : ℤ × String) :
    Older first second ∨ first = second ∨ Older second first := by
  rcases lt_trichotomy first.1 second.1 with hlt | heq | hlt
  · exact .inl (.inl hlt)
  · rcases lt_trichotomy first.2 second.2 with hname | hname | hname
    · exact .inl (.inr ⟨heq, hname⟩)
    · exact .inr (.inl (Prod.ext heq hname))
    · exact .inr (.inr (.inr ⟨heq.symm, hname⟩))
  · exact .inr (.inr (.inl hlt))

theorem newest_spec {last : Segment} (h : newest segments = some last) :
    last ∈ segments ∧ ∀ segment ∈ segments, segment.key = last.key ∨ Older segment.key last.key := by
  induction segments generalizing last with
  | nil => cases h
  | cons segment rest ih =>
      unfold newest at h
      split at h
      · rename_i hrest
        cases h
        cases rest with
        | nil =>
            refine ⟨List.mem_cons_self, ?_⟩
            intro other hother
            rw [List.mem_singleton.mp hother]
            exact .inl rfl
        | cons first others =>
            unfold newest at hrest
            split at hrest
            · cases hrest
            · split at hrest <;> cases hrest
      · rename_i found hfound
        obtain ⟨hmem, hmax⟩ := ih hfound
        split at h
        · rename_i holder
          cases h
          refine ⟨List.mem_cons_of_mem _ hmem, ?_⟩
          intro other hother
          rcases List.mem_cons.mp hother with rfl | hother
          · exact .inr holder
          · exact hmax other hother
        · rename_i hnot
          cases h
          refine ⟨List.mem_cons_self, ?_⟩
          intro other hother
          rcases List.mem_cons.mp hother with rfl | hother
          · exact .inl rfl
          -- the newest of the rest is not behind this segment
          have hfoundLe : found.key = segment.key ∨ Older found.key segment.key := by
            rcases older_or_eq_or_older segment.key found.key with holder | heq | holder
            · exact absurd holder hnot
            · exact .inl heq.symm
            · exact .inr holder
          rcases hmax other hother with heq | holder
          · rw [heq]
            exact hfoundLe
          rcases hfoundLe with heq | hfoundOlder
          · rw [← heq]
            exact .inr holder
          · exact .inr (holder.trans hfoundOlder)

variable {observed : Path → Option Observation}

theorem le_latestChange {segment : Segment} (h : segment ∈ segments) :
    generation observed segment.path ≤ latestChange observed segments := by
  unfold latestChange
  cases hmax : (segments.map fun segment => generation observed segment.path).max? with
  | none =>
      rw [List.max?_eq_none_iff, List.map_eq_nil_iff] at hmax
      rw [hmax] at h
      cases h
  | some latest => exact (List.max?_eq_some_iff.mp hmax).2 _ (List.mem_map_of_mem h)

theorem exists_latestChange (h : latestChange observed segments ≠ 0) :
    ∃ segment ∈ segments, generation observed segment.path = latestChange observed segments := by
  unfold latestChange at h ⊢
  cases hmax : (segments.map fun segment => generation observed segment.path).max? with
  | none =>
      rw [hmax] at h
      exact absurd rfl h
  | some latest => exact List.mem_map.mp (List.max?_eq_some_iff.mp hmax).1

theorem mem_closedSegments {now : ℚ} {segment : Segment}
    (h : segment ∈ closedSegments observed now segments) :
    segment ∈ segments ∧ (∃ last, newest segments = some last ∧ segment.path ≠ last.path) ∧
      (latestChange observed segments = 0 ∨
        generation observed segment.path < latestChange observed segments) ∧
      minClosedAgeSeconds ≤ elapsed now segment.stableSince := by
  obtain ⟨hmem, hchecks⟩ := List.mem_filter.mp h
  simp only [Bool.and_eq_true, Bool.or_eq_true, decide_eq_true_eq, beq_iff_eq] at hchecks
  obtain ⟨⟨hnewest, hgeneration⟩, hage⟩ := hchecks
  cases hlast : newest segments with
  | none =>
      rw [hlast] at hnewest
      cases hnewest
  | some last =>
      rw [hlast] at hnewest
      refine ⟨hmem, ⟨last, rfl, ?_⟩, hgeneration, hage⟩
      simpa using hnewest

theorem candidateSpec_of_files {directory : Directory} {identity : ℕ × ℕ} {segment : Segment}
    (hidentity : directory.identity = some identity) (hstart : start ≤ progress.tick)
    (hspec : FilesSpec storage clock directory.name identity directory.files progress scanned
      segments)
    (h : segment ∈ closedSegments scanned.observed (clock.read scanned.tick).seconds segments) :
    CandidateSpec storage clock start directory { scanned with tick := scanned.tick + 1 }
      (closedSegments scanned.observed (clock.read scanned.tick).seconds segments) segment := by
  obtain ⟨hmem, ⟨last, hlast, hne⟩, hgeneration, hage⟩ := mem_closedSegments h
  have hsegment := hspec.found segment hmem
  have hlastSpec := hspec.found last (newest_spec hlast).1
  have hlastPath : last.path = (directory.name, last.path.2) := Prod.ext hlastSpec.home rfl
  have hticks := hspec.tick
  -- every segment of the directory has been found
  have hpath : ∀ other ∈ directory.files, segmentName other.name = some true →
      ∃ found ∈ segments, found.path = (directory.name, other.name) := hspec.complete
  constructor
  case home => exact hsegment.home
  case admitted =>
    rw [hsegment.admitted]
    exact hidentity
  case file => exact hsegment.file
  case name => exact hsegment.name
  case observed =>
    obtain ⟨observation, hfound, hsignature, hsince, hold⟩ := hsegment.observed
    rw [← hsegment.admitted] at hsignature
    refine ⟨observation, hfound, hsignature, hsince, hold.mono hstart ?_⟩
    dsimp only
    omega
  case newest =>
    refine ⟨last.path.2, last.info, hlastSpec.file, hlastSpec.name, ?_, ?_⟩
    · rcases (newest_spec hlast).2 segment hmem with heq | hlt
      · have hsame : segment.path.2 = last.path.2 :=
          congrArg (fun key : ℤ × String => key.2) heq
        exact (hne (Prod.ext (hsegment.home.trans hlastSpec.home.symm) hsame)).elim
      · exact hlt
    · intro hcandidate
      obtain ⟨other, hother, hsame⟩ := List.mem_map.mp hcandidate
      obtain ⟨-, ⟨last', hlast', hne'⟩, -, -⟩ := mem_closedSegments hother
      obtain rfl : last = last' := Option.some.inj (hlast.symm.trans hlast')
      exact hne' (hsame.trans hlastPath.symm)
  case changed =>
    rcases hgeneration with hzero | hlt
    · right
      intro other hother hname
      obtain ⟨found, hfound, hsame⟩ := hpath other hother hname
      rw [← hsame]
      have hle := @le_latestChange segments scanned.observed found hfound
      dsimp only
      omega
    · left
      obtain ⟨other, hother, hlatest⟩ := exists_latestChange (Nat.ne_of_gt (Nat.zero_lt_of_lt hlt))
      have hotherSpec := hspec.found other hother
      refine ⟨_, hotherSpec.file, hotherSpec.name, ?_⟩
      have hotherPath : other.path = (directory.name, other.path.2) := Prod.ext hotherSpec.home rfl
      dsimp only
      rw [← hotherPath, hlatest]
      exact hlt
  case age =>
    exact ⟨scanned.tick, hstart.trans hticks, Nat.lt_succ_self _, hage⟩

theorem CandidateSpec.mono {directory : Directory} {middle : Progress} {start' : ℕ}
    {candidates candidates' : List Segment} {segment : Segment}
    (h : CandidateSpec storage clock start directory middle candidates segment)
    (hstart : start' ≤ start) (htick : middle.tick ≤ scanned.tick)
    (hframe : ∀ path : Path, path.1 = directory.name →
      scanned.observed path = middle.observed path)
    (hcandidates : ∀ other ∈ candidates', other.path.1 = directory.name → other ∈ candidates) :
    CandidateSpec storage clock start' directory scanned candidates' segment := by
  have hgeneration : ∀ path : Path, path.1 = directory.name →
      generation scanned.observed path = generation middle.observed path := by
    intro path hpath
    unfold generation
    rw [hframe path hpath]
  refine { h with observed := ?observed, newest := ?newest, changed := ?changed, age := ?age }
  case observed =>
    obtain ⟨observation, hfound, hsignature, hsince, hold⟩ := h.observed
    rw [← hframe segment.path h.home] at hfound
    exact ⟨observation, hfound, hsignature, hsince, hold.mono hstart htick⟩
  case newest =>
    obtain ⟨last, info, hfile, hname, hlt, hnot⟩ := h.newest
    refine ⟨last, info, hfile, hname, hlt, ?_⟩
    intro hmem
    obtain ⟨other, hother, hpath⟩ := List.mem_map.mp hmem
    exact hnot (List.mem_map.mpr ⟨other, hcandidates other hother (congrArg Prod.fst hpath), hpath⟩)
  case changed =>
    rcases h.changed with ⟨other, hother, hname, hlt⟩ | hzero
    · left
      refine ⟨other, hother, hname, ?_⟩
      rw [hgeneration _ h.home, hgeneration (directory.name, other.name) rfl]
      exact hlt
    · right
      intro other hother hname
      rw [hgeneration (directory.name, other.name) rfl]
      exact hzero other hother hname
  case age =>
    obtain ⟨tick, hle, hlt, hage⟩ := h.age
    exact ⟨tick, hstart.trans hle, hlt.trans_le htick, hage⟩

structure DirectoriesSpec (storage : RecordingStorage) (clock : Clock)
    (directories : List Directory) (progress scanned : Progress) (fresh : List Segment) : Prop where
  tick : progress.tick ≤ scanned.tick
  candidates : scanned.candidates = progress.candidates ++ fresh
  found : ∀ segment ∈ fresh, ∃ directory ∈ directories,
    CandidateSpec storage clock progress.tick directory scanned fresh segment
  frame : ∀ path : Path, path.1 ∉ directories.map (·.name) →
    scanned.observed path = progress.observed path
  observed : ∀ path observation, scanned.observed path = some observation →
    progress.observed path = some observation ∨
      OldOrFresh storage clock progress.tick scanned.tick path observation ∧
        ∃ directory ∈ directories, directory.Holds path observation.signature

theorem scanDirectories_spec {directories : List Directory}
    (hnames : (directories.map (·.name)).Nodup)
    (h : storage.scanDirectories clock deadline directories progress = some scanned) :
    ∃ fresh, DirectoriesSpec storage clock directories progress scanned fresh := by
  induction directories generalizing progress with
  | nil =>
      cases h
      refine ⟨[], le_rfl, (List.append_nil _).symm, ?_, fun _ _ => rfl, fun _ _ h => .inl h⟩
      intro segment hsegment
      cases hsegment
  | cons directory rest ih =>
      obtain ⟨hname, hrest⟩ := List.nodup_cons.mp hnames
      unfold RecordingStorage.scanDirectories at h
      split at h
      · cases h
      rename_i counted hcounted
      obtain ⟨htick, hobserved, hcandidates⟩ := counted_eq_some hcounted
      split at h
      · -- the directory is no camera's
        obtain ⟨fresh, hspec⟩ := ih hrest h
        have hticks := hspec.tick
        refine ⟨fresh, ?_⟩
        constructor
        case tick => omega
        case candidates => rw [hspec.candidates, hcandidates]
        case found =>
          intro segment hmem
          obtain ⟨home, hhome, hsegment⟩ := hspec.found segment hmem
          exact ⟨home, List.mem_cons_of_mem _ hhome, hsegment.mono (by omega) le_rfl
            (fun _ _ => rfl) fun _ hother _ => hother⟩
        case frame =>
          intro path hpath
          rw [hspec.frame path fun hmem => hpath (List.mem_cons_of_mem _ hmem), hobserved]
        case observed =>
          intro path observation hfound
          rw [← hobserved]
          refine (hspec.observed path observation hfound).imp_right ?_
          rintro ⟨hold, home, hhome, hholds⟩
          exact ⟨hold.mono (by omega) le_rfl, home, List.mem_cons_of_mem _ hhome, hholds⟩
      split at h
      · cases h
      rename_i identity hidentity
      split at h
      · cases h
      rename_i segments middle hfiles
      have hfilesSpec := scanFiles_spec directory.names hfiles
      obtain ⟨fresh, hspec⟩ := ih hrest h
      have hticks := hspec.tick
      have hfileTicks := hfilesSpec.tick
      dsimp only at hticks
      -- the directories behind this one have other names
      have hframe : ∀ path : Path, path.1 = directory.name →
          scanned.observed path = middle.observed path := by
        intro path hpath
        rw [hspec.frame path (by rw [hpath]; exact hname)]
      have hother : ∀ segment ∈ fresh, segment.path.1 ∈ rest.map (·.name) := by
        intro segment hmem
        obtain ⟨home, hhome, hsegment⟩ := hspec.found segment hmem
        rw [hsegment.home]
        exact List.mem_map_of_mem hhome
      refine ⟨closedSegments middle.observed (clock.read middle.tick).seconds segments ++ fresh, ?_⟩
      constructor
      case tick => omega
      case candidates =>
        rw [hspec.candidates, hfilesSpec.candidates, hcandidates, List.append_assoc]
      case found =>
        intro segment hmem
        rcases List.mem_append.mp hmem with hclosed | hmem
        · refine ⟨directory, List.mem_cons_self,
            (candidateSpec_of_files hidentity (by omega) hfilesSpec hclosed).mono le_rfl hticks
              hframe ?_⟩
          intro other hmem hhome
          rcases List.mem_append.mp hmem with hclosed | hfresh
          · exact hclosed
          · have hmem := hother other hfresh
            rw [hhome] at hmem
            exact absurd hmem hname
        · obtain ⟨home, hhome, hsegment⟩ := hspec.found segment hmem
          refine ⟨home, List.mem_cons_of_mem _ hhome, hsegment.mono (by dsimp only; omega) le_rfl
            (fun _ _ => rfl) ?_⟩
          intro other hmem hsame
          rcases List.mem_append.mp hmem with hclosed | hfresh
          · have hdirectory := (hfilesSpec.found other (mem_closedSegments hclosed).1).home
            refine absurd (List.mem_map.mpr ⟨home, hhome, ?_⟩) hname
            rw [← hsame, hdirectory]
          · exact hfresh
      case frame =>
        intro path hpath
        rw [hspec.frame path fun hmem => hpath (List.mem_cons_of_mem _ hmem)]
        dsimp only
        rw [hfilesSpec.frame path (.inl fun heq => hpath (heq ▸ List.mem_cons_self)), hobserved]
      case observed =>
        intro path observation hfound
        rcases hspec.observed path observation hfound with
          hbefore | ⟨hold, home, hhome, hholds⟩
        · dsimp only at hbefore
          rcases hfilesSpec.observed path observation hbefore with hbefore | ⟨segment, hmem, rfl⟩
          · rw [hobserved] at hbefore
            exact .inl hbefore
          right
          have hsegment := hfilesSpec.found segment hmem
          obtain ⟨observation', hfound', hsignature, -, hold⟩ := hsegment.observed
          obtain rfl : observation = observation' := Option.some.inj (hbefore.symm.trans hfound')
          refine ⟨hold.mono (by omega) (by omega), directory, List.mem_cons_self,
            hsegment.home, ?_, ?_⟩
          · rw [hsignature]
            exact hidentity
          · rw [hsignature]
            exact hsegment.file
        · exact .inr ⟨hold.mono (by dsimp only; omega) le_rfl, home,
            List.mem_cons_of_mem _ hhome, hholds⟩

/-! ## A scan -/

structure ScanSpec (storage : RecordingStorage) (clock : Clock) (deadline : ℚ) (root : Root)
    (start : ℕ) (scan : Scan) (scanned : Progress) : Prop where
  candidates : ∀ segment ∈ scan.candidates, ∃ directory ∈ root.directories,
    CandidateSpec storage clock start directory scanned scan.candidates segment
  observed : ∀ path observation, scanned.observed path = some observation →
    OldOrFresh storage clock start scanned.tick path observation ∧
      root.Holds path observation.signature
  inTime : ∀ tick, tick < scanned.tick → (clock.read tick).seconds < deadline

/-- A complete scan has read all directories in time. -/
theorem scan_eq_some_iff {root : Root} {scan : Scan} {tick remaining : ℕ} :
    storage.scan clock deadline root tick remaining = some (scan, scanned) ↔
      ∃ free last, (clock.read tick).seconds < deadline ∧ root.admitted = true ∧
        root.free = some free ∧
        storage.scanDirectories clock deadline root.directories
          ⟨tick + 1, remaining, fun _ => none, 0, []⟩ = some last ∧
        (clock.read last.tick).seconds < deadline ∧
        (clock.read (last.tick + 1)).seconds < deadline ∧
        scan = ⟨last.total, free, last.candidates.mergeSort Segment.before⟩ ∧
        scanned = { last with tick := last.tick + 2 } := by
  unfold RecordingStorage.scan
  constructor
  case mp =>
    intro h
    split at h
    · cases h
    rename_i started hstarted
    obtain ⟨hstart, rfl⟩ := budget_eq_some_iff.mp hstarted
    split at h
    · cases h
    rename_i hadmitted
    split at h
    · cases h
    rename_i free hfree
    split at h
    · cases h
    rename_i middle hdirectories
    obtain ⟨ended, hended, hpair⟩ := Option.map_eq_some_iff.mp h
    obtain ⟨rfl, rfl⟩ := Prod.mk.injEq .. ▸ hpair
    obtain ⟨last, hlast, hbudget⟩ := Option.bind_eq_some_iff.mp hdirectories
    obtain ⟨hlastTick, rfl⟩ := budget_eq_some_iff.mp hbudget
    obtain ⟨hendedTick, rfl⟩ := budget_eq_some_iff.mp hended
    exact ⟨free, last, hstart, by simpa using hadmitted, hfree, hlast, hlastTick, hendedTick, rfl,
      rfl⟩
  case mpr =>
    rintro ⟨free, last, hstart, hadmitted, hfree, hlast, hlastTick, hendedTick, rfl, rfl⟩
    have hfirst : Progress.budget clock deadline ⟨tick, remaining, fun _ => none, 0, []⟩ =
        some ⟨tick + 1, remaining, fun _ => none, 0, []⟩ :=
      budget_eq_some_iff.mpr ⟨hstart, rfl⟩
    have hsecond : last.budget clock deadline = some { last with tick := last.tick + 1 } :=
      budget_eq_some_iff.mpr ⟨hlastTick, rfl⟩
    have hthird : Progress.budget clock deadline { last with tick := last.tick + 1 } =
        some { last with tick := last.tick + 2 } :=
      budget_eq_some_iff.mpr ⟨hendedTick, rfl⟩
    rw [hfirst]
    dsimp only
    rw [if_neg (by simp [hadmitted]), hfree]
    dsimp only
    rw [hlast, Option.bind_some, hsecond]
    dsimp only
    rw [hthird, Option.map_some]

theorem scan_spec {root : Root} {scan : Scan} {tick remaining : ℕ}
    (h : storage.scan clock deadline root tick remaining = some (scan, scanned)) :
    ScanSpec storage clock deadline root tick scan scanned := by
  obtain ⟨free, last, -, -, -, hlast, -, hdeadline, rfl, rfl⟩ := scan_eq_some_iff.mp h
  obtain ⟨fresh, hspec⟩ := scanDirectories_spec root.names hlast
  have hticks := hspec.tick
  dsimp only at hticks
  have hcandidates : last.candidates = fresh := hspec.candidates
  constructor
  case candidates =>
    intro segment hmem
    have hfresh : segment ∈ fresh := by
      rw [← hcandidates]
      exact List.mem_mergeSort.mp hmem
    obtain ⟨directory, hdirectory, hsegment⟩ := hspec.found segment hfresh
    refine ⟨directory, hdirectory, hsegment.mono (Nat.le_succ _) (by dsimp only; omega)
      (fun _ _ => rfl) ?_⟩
    intro other hother _
    rw [← hcandidates]
    exact List.mem_mergeSort.mp hother
  case observed =>
    intro path observation hfound
    rcases hspec.observed path observation hfound with hbefore | ⟨hold, hholds⟩
    · cases hbefore
    · exact ⟨hold.mono (Nat.le_succ _) (by dsimp only; omega), hholds⟩
  case inTime =>
    intro other hother
    dsimp only at hother hdeadline
    exact lt_of_le_of_lt (clock.monotone _ _ (by omega)) hdeadline

theorem toFloat_eight : toFloat 8 = 8 := by
  decide +kernel

/-- Within a call no observation grows old enough. -/
theorem not_fresh_of_old {first second : ℕ} {since : ℚ}
    (hsecond : (clock.read second).seconds < StorageState.deadline clock)
    (hold : minClosedAgeSeconds ≤ elapsed (clock.read second).seconds since) :
    since ≠ (clock.read first).seconds := by
  rintro rfl
  have hfirst : (clock.read 0).seconds ≤ (clock.read first).seconds :=
    clock.monotone _ _ (Nat.zero_le _)
  have hlt : (clock.read second).seconds < (clock.read 0).seconds + maxStorageSeconds := by
    by_contra hle
    exact absurd (floatAdd_le_of_add_le (not_lt.mp hle)) (not_le.mpr hsecond)
  have hdifference : (clock.read second).seconds - (clock.read first).seconds ≤ 8 := by
    unfold maxStorageSeconds at hlt
    linarith
  have helapsed : elapsed (clock.read second).seconds (clock.read first).seconds ≤ 8 := by
    rw [← toFloat_eight]
    exact roundToPrecision_mono (by norm_num) hdifference
  unfold minClosedAgeSeconds at hold
  linarith

end K5Vision.Storage
