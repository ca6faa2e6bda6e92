import K5Vision.Storage.MigrationRuns
import Mathlib.Data.List.Infix

/-!
# A pending directory that has gone bad

The handler of `migrate_pending` saves the document with the pending directory in it, and
`_save` validates that directory again.  So the migration returns normally exactly if the
directory was still admitted when it began: what the migration does cannot take that
away (`targetIsAdmitted_grown`).
-/

namespace K5Vision.Storage

open Library Handler

/-! ## What a migration cannot take away -/

variable {target path : FilePath} {before after : Disk}

theorem directory?_of_suffix {tree : Disk} {ancestor : FilePath}
    (h : (tree.find? path).isSome) (hsuffix : ancestor <:+ path) (hne : ancestor ≠ path) :
    ancestor = [] ∨ (tree.directory? ancestor).isSome := by
  induction path with
  | nil => exact .inl (List.suffix_nil.mp hsuffix)
  | cons name parent ih =>
      rcases List.suffix_cons_iff.mp hsuffix with heq | hsuffix
      · exact absurd heq hne
      have hparent := FileTree.directory?_parent h
      by_cases heq : ancestor = parent
      · rw [heq]
        exact hparent
      rcases hparent with hnil | hdirectory
      · rw [hnil] at hsuffix
        exact .inl (List.suffix_nil.mp hsuffix)
      · obtain ⟨data, hdata⟩ := Option.isSome_iff_exists.mp hdirectory
        refine ih ?_ hsuffix heq
        rw [FileTree.directory?_eq_some.mp hdata]
        rfl

/-- What `_checked_path` asks of one component. -/
def ComponentIsChecked (disk : Disk) (path component : FilePath) : Prop :=
  ∀ node, disk.find? component = some node →
    (∃ data, node = .directory data ∧ data.access ≠ .foreign) ∨
      ∃ data, node = .file data ∧ component = path

theorem checkedPath_iff {disk : Disk} : checkedPath disk path = true ↔
    path ≠ [] ∧ ".." ∉ path ∧ ∀ component, component <:+ path →
      ComponentIsChecked disk path component := by
  unfold checkedPath
  rw [Bool.and_eq_true, Bool.and_eq_true, List.all_eq_true]
  constructor
  · rintro ⟨⟨hne, hparts⟩, hall⟩
    refine ⟨of_decide_eq_true hne, by simpa using hparts, ?_⟩
    intro component hsuffix node hnode
    have hchecked := hall component ((List.mem_tails _ _).mpr hsuffix)
    rw [hnode] at hchecked
    cases node with
    | directory data => exact .inl ⟨data, rfl, of_decide_eq_true hchecked⟩
    | file data => exact .inr ⟨data, rfl, of_decide_eq_true hchecked⟩
    | other => cases hchecked
  · rintro ⟨hne, hparts, hall⟩
    refine ⟨⟨decide_eq_true hne, by simpa using hparts⟩, ?_⟩
    intro component hmem
    have hchecked := hall component ((List.mem_tails _ _).mp hmem)
    cases hnode : disk.find? component with
    | none => rfl
    | some node =>
        rcases hchecked node hnode with ⟨data, rfl, haccess⟩ | ⟨data, rfl, heq⟩
        · exact decide_eq_true haccess
        · exact decide_eq_true heq

theorem directory_eq_ok {disk : Disk} {identity : ℕ × ℕ} : directory disk path = .ok identity ↔
      checkedPath disk path = true ∧ disk.find? path = some (.directory ⟨identity, .own⟩) := by
  unfold directory
  constructor
  · intro h
    split at h
    · cases h
    rename_i hchecked
    split at h
    · cases h
    · rename_i data hdata
      split at h
      · rename_i hown
        cases h
        refine ⟨by simpa using hchecked, ?_⟩
        rw [hdata, ← hown]
      · cases h
    · cases h
  · rintro ⟨hchecked, hdata⟩
    rw [hchecked, hdata]
    rfl

theorem directory_grown {identity : ℕ × ℕ} (hgrown : Grown target before after)
    (htarget : target ≠ []) (h : directory before path = .ok identity) :
    directory after path = .ok identity := by
  rw [directory_eq_ok, checkedPath_iff] at h ⊢
  obtain ⟨⟨hne, hparts, hcomponents⟩, hdata⟩ := h
  refine ⟨⟨hne, hparts, ?_⟩, hgrown.kept _ _ hdata⟩
  intro component hsuffix node hnode
  by_cases heq : component = path
  · rw [heq, hgrown.kept _ _ hdata] at hnode
    cases hnode
    exact .inl ⟨_, rfl, by simp⟩
  have hbefore : component = [] ∨ (before.directory? component).isSome := by
    refine directory?_of_suffix ?_ hsuffix heq
    rw [hdata]
    rfl
  -- the component was there before
  have hsame : before.find? component = some node := by
    rcases hbefore with rfl | hdirectory
    · rw [← hgrown.outside [] fun hnil => htarget (List.suffix_nil.mp hnil)]
      exact hnode
    · obtain ⟨data, hfound⟩ := Option.isSome_iff_exists.mp hdirectory
      rw [FileTree.directory?_eq_some] at hfound
      rw [hfound, ← hnode, hgrown.kept _ _ hfound]
  exact hcomponents component hsuffix node hsame

theorem isOk_iff {α : Type} {outcome : Except Failure α} :
    outcome.isOk = true ↔ ∃ a, outcome = .ok a := by
  cases outcome with
  | error => simp [Except.isOk, Except.toBool]
  | ok a => simp [Except.isOk, Except.toBool]

theorem checkedPath_grown (hgrown : Grown target before after)
    (h : checkedPath before target = true) : checkedPath after target = true := by
  rw [checkedPath_iff] at h ⊢
  obtain ⟨hne, hparts, hcomponents⟩ := h
  refine ⟨hne, hparts, ?_⟩
  intro component hsuffix node hnode
  by_cases heq : component = target
  · subst heq
    rcases hgrown.home with hsame | ⟨-, identity, hown⟩
    · exact hcomponents component hsuffix node (hsame ▸ hnode)
    · rw [hown] at hnode
      cases hnode
      exact .inl ⟨_, rfl, by simp⟩
  · rw [hgrown.outside component fun hunder => heq (hsuffix.eq_of_length_le hunder.length_le)]
      at hnode
    exact hcomponents component hsuffix node hnode

theorem targetIsAdmitted_grown {root active : FilePath} (hgrown : Grown target before after)
    (h : targetIsAdmitted before root target active = true) :
    targetIsAdmitted after root target active = true := by
  unfold targetIsAdmitted at h ⊢
  simp only [Bool.and_eq_true] at h ⊢
  obtain ⟨⟨⟨⟨⟨hnames, hchecked⟩, hroot⟩, hactive⟩, hbelow⟩, hexists⟩ := h
  have hcheckedAfter := checkedPath_grown hgrown hchecked
  have hne : target ≠ [] := (checkedPath_iff.mp hchecked).1
  refine ⟨⟨⟨⟨⟨hnames, hcheckedAfter⟩, hroot⟩, hactive⟩, hbelow⟩, ?_⟩
  rcases hgrown.home with hsame | ⟨-, identity, hown⟩
  · rw [hsame]
    split at hexists
    · rename_i hsome
      obtain ⟨identity, hdirectory⟩ := isOk_iff.mp hexists
      rw [if_pos hsome, isOk_iff]
      exact ⟨identity, directory_grown hgrown hne hdirectory⟩
    · rename_i hnone
      obtain ⟨identity, hdirectory⟩ := isOk_iff.mp hexists
      rw [if_neg hnone, isOk_iff]
      exact ⟨identity, directory_grown hgrown hne hdirectory⟩
  · rw [hown, Option.isSome_some, if_pos rfl, isOk_iff]
    exact ⟨identity, directory_eq_ok.mpr ⟨hcheckedAfter, hown⟩⟩

/-! ## Saving without faults of the settings file -/

variable {env : MigrationEnvironment} {platform : Platform} {base : World} {α : Type}
  {document : SettingsDocument}

theorem sureStep_spec {f : ℕ → World → Except Failure α × World} {pre : World → Prop}
    (post : α → World → Prop) (hquiet : ∀ tick, env.fault .settings tick = .none)
    (htick : ∀ world tick, pre world → pre { world with tick := tick })
    (halive : ∀ world, pre world → world.killed = false)
    (h : ∀ tick world, pre world → ∃ a after, f tick world = (.ok a, after) ∧ post a after) :
    Spec pre (step env .settings f) post fun _ => False := by
  constructor
  intro world hworld
  unfold step
  rw [exec_of, if_neg (by rw [halive world hworld]; exact Bool.false_ne_true), hquiet]
  obtain ⟨a, after, hf, hpost⟩ := h world.tick _ (htick world (world.tick + 1) hworld)
  dsimp only
  rw [hf]
  exact hpost

/-- The settings of a world that can save a document. -/
structure CanSave (platform : Platform) (env : MigrationEnvironment) (document : SettingsDocument)
    (world : World) : Prop where
  alive : world.killed = false
  identity : world.settings.identity = world.saved.map (·.info)
  root : directory world.disk platform.root = .ok world.settings.rootIdentity
  valid : validate platform world.disk document = .ok ()
  fits : platform.fits document = true

theorem sameDirectory_of_directory {disk : Disk} {identity : ℕ × ℕ}
    (h : directory disk path = .ok identity) : sameDirectory disk path identity = .ok () := by
  obtain ⟨hchecked, hdata⟩ := directory_eq_ok.mp h
  unfold sameDirectory
  rw [hchecked, FileTree.directory?_eq_some.mpr hdata]
  simp

theorem sure_save_spec (hquiet : ∀ tick, env.fault .settings tick = .none)
    (h : CanSave platform env document base) :
    Spec (fun world => world = base) (save platform env document)
      (fun _ world => world.disk = base.disk ∧ world.killed = false ∧
        world.saved.map (·.document) = some document ∧
        world.settings.identity = world.saved.map (·.info) ∧ world.settings.document = document)
      (fun _ => False) := by
  have hlook : ∀ {pre : World → Prop} {f : ℕ → World → Except Failure Unit × World},
      (∀ world tick, pre world → pre { world with tick := tick }) →
      (∀ world, pre world → world.killed = false) →
      (∀ tick world, pre world → f tick world = (.ok (), world)) →
      Spec pre (step env .settings f) (fun _ => pre) fun _ => False := by
    intro pre f htick halive hf
    exact sureStep_spec _ hquiet htick halive fun tick world hworld =>
      ⟨(), world, hf tick world hworld, hworld⟩
  suffices hsave : Spec (fun world => SameAs base world ∧ world.killed = false)
      (save platform env document)
      (fun _ world => world.disk = base.disk ∧ world.killed = false ∧
        world.saved.map (·.document) = some document ∧
        world.settings.identity = world.saved.map (·.info) ∧ world.settings.document = document)
      (fun _ => False) by
    refine hsave.imp ?_
    rintro world rfl
    exact ⟨⟨rfl, rfl, rfl⟩, h.alive⟩
  unfold save atomic
  simp only [bind_assoc]
  refine Spec.bind (hlook (fun _ _ h => h) (fun _ h => h.2) ?_) fun _ => ?_
  · rintro tick world ⟨⟨hdisk, hsaved, hsettings⟩, -⟩
    rw [hdisk, hsaved, hsettings, sameDirectory_of_directory h.root]
    exact if_pos h.identity
  refine Spec.bind (hlook (fun _ _ h => h) (fun _ h => h.2) ?_) fun _ => ?_
  · rintro tick world ⟨⟨hdisk, -⟩, -⟩
    rw [hdisk, h.valid]
  refine Spec.bind (hlook (fun _ _ h => h) (fun _ h => h.2) ?_) fun _ => ?_
  · rintro tick world ⟨⟨hdisk, -⟩, -⟩
    rw [hdisk, h.root]
    exact if_pos h.fits
  refine Spec.bind (hlook (fun _ _ h => h) (fun _ h => h.2) fun _ _ _ => rfl) fun _ => ?_
  -- the settings file is replaced
  refine Spec.bind (sureStep_spec
    (fun _ world => world.disk = base.disk ∧ world.killed = false ∧
      world.saved.map (·.document) = some document) hquiet (fun _ _ h => h) (fun _ h => h.2)
    fun tick world h => ⟨(), _, rfl, h.1.1, h.2, rfl⟩) fun _ => ?_
  refine Spec.bind (hlook (fun _ _ h => h) (fun _ h => h.2.1) fun _ _ _ => rfl) fun _ => ?_
  refine Spec.bind (sureStep_spec
    (fun _ world => world.disk = base.disk ∧ world.killed = false ∧
      world.saved.map (·.document) = some document ∧
      world.settings.identity = world.saved.map (·.info)) hquiet (fun _ _ h => h)
    (fun _ h => h.2.1) fun tick world h => ⟨(), _, rfl, h.1, h.2.1, h.2.2, rfl⟩) fun _ => ?_
  refine Spec.bind (hlook (fun _ _ h => h) (fun _ h => h.2.1) fun _ _ _ => rfl) fun _ => ?_
  exact ⟨fun world ⟨hdisk, halive, hsaved, hidentity⟩ =>
    ⟨hdisk, halive, hsaved, hidentity, rfl⟩⟩

def AliveAs (env : MigrationEnvironment) (base world : World) : Prop :=
  SameAs base world ∧ (NoKill env → world.killed = false)

theorem refused_step_spec {side : Side} {f : ℕ → World → Except Failure α × World}
    (post : α → World → Prop)
    (h : ∀ tick world, AliveAs env base world →
      match f tick world with
      | (.ok a, after) => post a after
      | (.error _, after) => AliveAs env base after) :
    Spec (AliveAs env base) (step env side f) post (AliveAs env base) := by
  refine step_spec (fun _ _ h => h) (fun _ h => h) ?_ h
  intro world hworld hkill
  exact ⟨hworld.1, fun hnone => absurd hkill (hnone _ _)⟩

theorem aliveAdmit_spec :
    Spec (AliveAs env base) (admitSettings platform env) (fun _ => AliveAs env base)
      (AliveAs env base) := by
  refine refused_step_spec _ ?_
  intro tick world hworld
  cases sameDirectory world.disk platform.root world.settings.rootIdentity with
  | error => exact hworld
  | ok =>
      dsimp only
      by_cases heq : world.settings.identity = world.saved.map (·.info)
      · rw [if_pos heq]
        exact hworld
      · rw [if_neg heq]
        exact hworld

/-- A document that is not valid, or too long, is not saved. -/
theorem refused_save_spec
    (hrefused : (∃ failure, validate platform base.disk document = .error failure) ∨
      platform.fits document = false) :
    Spec (AliveAs env base) (save platform env document) (fun _ _ => False) (AliveAs env base) := by
  unfold save atomic
  simp only [bind_assoc]
  refine Spec.bind aliveAdmit_spec fun _ => ?_
  refine Spec.bind (refused_step_spec (fun _ world => AliveAs env base world ∧
    validate platform base.disk document = .ok ()) ?_) fun _ => ?_
  · intro tick world hworld
    rw [hworld.1.1]
    cases validate platform base.disk document with
    | error => exact hworld
    | ok => exact ⟨hworld, rfl⟩
  refine Spec.of_fact (validate platform base.disk document = .ok ()) (fun _ h => h.2)
    fun hvalid => ?_
  have hlong : platform.fits document = false := by
    rcases hrefused with ⟨failure, hfailure⟩ | hlong
    · rw [hvalid] at hfailure
      cases hfailure
    · exact hlong
  refine Spec.imp (Spec.bind (refused_step_spec (fun _ _ => False) ?_) fun _ =>
    ⟨fun _ h => h.elim⟩) fun _ h => h.1
  intro tick world hworld
  cases directory world.disk platform.root with
  | error => exact hworld
  | ok =>
      dsimp only
      rw [hlong]
      exact hworld

/-! ## Starting again -/

variable {initial : SettingsDocument} {pending : FilePath}

def recordError (document : SettingsDocument) (error : MigrationError) : SettingsDocument :=
  { document with migrationError := some error, revision := document.revision + 1 }

/-- A document with a directory that has become active. -/
def activate (document : SettingsDocument) (target : FilePath) : SettingsDocument :=
  { document with
    recordingDirectory := target
    pendingRecordingDirectory := none
    migrationError := none
    revision := document.revision + 1 }

/-- A start at which nothing is wrong but, perhaps, the pending directory: any step that
concerns the recordings may raise. -/
structure InOrder (platform : Platform) (initial : SettingsDocument) (env : MigrationEnvironment)
    (base : World) (pending : FilePath) : Prop where
  pending : base.settings.document.pendingRecordingDirectory = some pending
  alive : base.killed = false
  noKill : NoKill env
  quiet : ∀ tick, env.fault .settings tick = .none
  identity : base.settings.identity = base.saved.map (·.info)
  root : directory base.disk platform.root = .ok base.settings.rootIdentity
  active : ∃ identity, directory base.disk base.settings.document.recordingDirectory = .ok identity
  initial : ∃ identity, directory base.disk initial.recordingDirectory = .ok identity
  revision : 0 ≤ base.settings.document.revision ∧ base.settings.document.revision < 2 ^ 63 - 1
  policy : validatePolicy base.settings.document = true
  fits : ∀ error, platform.fits (recordError base.settings.document error) = true

/-- `migrate_pending` returns a directory: the pending one is active, or the old one is and the
error is recorded; and a new process can load the settings. -/
def StartsAgain (platform : Platform) (initial : SettingsDocument) (env : MigrationEnvironment)
    (base : World) (pending : FilePath) : Prop :=
  ∃ active after, (migratePending platform env).exec base = (.ok active, after) ∧
    after.settings.document.recordingDirectory = active ∧
    (active = pending ∧ after.settings.document.pendingRecordingDirectory = none ∨
      active = base.settings.document.recordingDirectory ∧
        after.settings.document.migrationError.isSome) ∧
    ∃ settings, construct platform after.disk initial after.saved = .ok settings ∧
      settings.document = after.settings.document

theorem validate_eq_ok {disk : Disk} : validate platform disk document = .ok () ↔
    (0 ≤ document.revision ∧ document.revision ≤ 2 ^ 63 - 1 ∧ validatePolicy document = true) ∧
      (∃ identity, directory disk document.recordingDirectory = .ok identity) ∧
      ∀ pending, document.pendingRecordingDirectory = some pending →
        targetIsAdmitted disk platform.root pending document.recordingDirectory = true := by
  unfold validate checkedTarget
  by_cases hfields : 0 ≤ document.revision ∧ document.revision ≤ 2 ^ 63 - 1 ∧
      validatePolicy document = true
  · have hcondition : (!(decide (0 ≤ document.revision) &&
        decide (document.revision ≤ 2 ^ 63 - 1) && validatePolicy document)) = false := by
      rw [decide_eq_true hfields.1, decide_eq_true hfields.2.1, hfields.2.2]
      rfl
    rw [hcondition, if_neg Bool.false_ne_true]
    cases hactive : directory disk document.recordingDirectory with
    | error => simp
    | ok identity =>
        dsimp only
        cases hpending : document.pendingRecordingDirectory with
        | none => exact iff_of_true rfl ⟨hfields, ⟨identity, rfl⟩, fun _ h => by cases h⟩
        | some pending =>
            dsimp only
            by_cases htarget : targetIsAdmitted disk platform.root pending
                document.recordingDirectory = true
            · rw [if_pos htarget]
              refine iff_of_true rfl ⟨hfields, ⟨identity, rfl⟩, ?_⟩
              rintro other hother
              cases hother
              exact htarget
            · rw [if_neg htarget]
              refine iff_of_false (fun h => by cases h) ?_
              rintro ⟨-, -, hall⟩
              exact htarget (hall pending rfl)
  · have hcondition : (!(decide (0 ≤ document.revision) &&
        decide (document.revision ≤ 2 ^ 63 - 1) && validatePolicy document)) = true := by
      rw [Bool.not_eq_true', Bool.eq_false_iff]
      intro hall
      simp only [Bool.and_eq_true, decide_eq_true_eq] at hall
      exact hfields ⟨hall.1.1, hall.1.2, hall.2⟩
    rw [hcondition, if_pos rfl]
    constructor
    · intro h
      cases h
    · rintro ⟨h, -⟩
      exact absurd h hfields

theorem construct_of_saved {disk : Disk} {saved : Option SavedSettings} {identity home : ℕ × ℕ}
    (hroot : directory disk platform.root = .ok identity)
    (hinitial : directory disk initial.recordingDirectory = .ok home)
    (hvalid : validate platform disk document = .ok ())
    (hsaved : saved.map (·.document) = some document) :
    ∃ settings, construct platform disk initial saved = .ok settings ∧
      settings.document = document := by
  obtain ⟨file, rfl, rfl⟩ := Option.map_eq_some_iff.mp hsaved
  refine ⟨⟨file.document, some file.info, identity⟩, ?_, rfl⟩
  unfold construct
  rw [hroot, hinitial]
  dsimp only
  rw [hvalid]

theorem noKill_alive {world : World} (horder : InOrder platform initial env base pending)
    (h : Within env pending base world) : world.killed = false :=
  h.alive horder.noKill horder.alive

/-- The handler saves, as long as the pending directory is admitted. -/
theorem canSave_recordError {world : World} {error : MigrationError}
    (horder : InOrder platform initial env base pending)
    (htarget : targetIsAdmitted base.disk platform.root pending
      base.settings.document.recordingDirectory = true)
    (h : Within env pending base world) :
    CanSave platform env (recordError base.settings.document error) world := by
  have hne : pending ≠ [] := by
    unfold targetIsAdmitted at htarget
    simp only [Bool.and_eq_true] at htarget
    exact (checkedPath_iff.mp htarget.1.1.1.1.2).1
  obtain ⟨identity, hactive⟩ := horder.active
  constructor
  case alive => exact noKill_alive horder h
  case identity =>
    rw [h.settings, h.saved]
    exact horder.identity
  case root =>
    rw [h.settings]
    exact directory_grown h.grown hne horder.root
  case valid =>
    rw [validate_eq_ok]
    refine ⟨⟨?_, ?_, horder.policy⟩, ⟨identity, directory_grown h.grown hne hactive⟩, ?_⟩
    · have := horder.revision.1
      dsimp only [recordError]
      omega
    · have := horder.revision.2
      dsimp only [recordError]
      omega
    · intro other hother
      rw [show other = pending from Option.some.inj (hother.symm.trans horder.pending)]
      exact targetIsAdmitted_grown h.grown htarget
  case fits => exact horder.fits error

theorem within_of_aliveAs {world : World}
    (h : AliveAs env base world) : Within env pending base world := by
  obtain ⟨⟨hdisk, hsaved, hsettings⟩, halive⟩ := h
  refine ⟨?_, hsaved, hsettings, fun hkill _ => halive hkill⟩
  rw [hdisk]
  exact Grown.refl pending base.disk

/-- A directory is active, and the settings can be loaded. -/
def Started (platform : Platform) (initial : SettingsDocument) (base : World) (pending : FilePath)
    (active : FilePath) (world : World) : Prop :=
  world.settings.document.recordingDirectory = active ∧
    (active = pending ∧ world.settings.document.pendingRecordingDirectory = none ∨
      active = base.settings.document.recordingDirectory ∧
        world.settings.document.migrationError.isSome) ∧
    ∃ settings, construct platform world.disk initial world.saved = .ok settings ∧
      settings.document = world.settings.document

theorem saveStarted_spec {active : FilePath} {start : World}
    (horder : InOrder platform initial env base pending) (hne : pending ≠ [])
    (hstart : Within env pending base start) (hsave : CanSave platform env document start)
    (hactive : document.recordingDirectory = active)
    (hdocument : active = pending ∧ document.pendingRecordingDirectory = none ∨
      active = base.settings.document.recordingDirectory ∧ document.migrationError.isSome) :
    Spec (fun world => world = start)
      (do
        save platform env document
        pure active)
      (Started platform initial base pending) (fun _ => False) := by
  refine (sure_save_spec horder.quiet hsave).bind fun _ => Spec.pure ?_
  rintro world ⟨hdisk, -, hsaved, -, rfl⟩
  obtain ⟨home, hhome⟩ := horder.initial
  refine ⟨hactive, hdocument, ?_⟩
  rw [hdisk]
  exact construct_of_saved hsave.root (directory_grown hstart.grown hne hhome) hsave.valid hsaved

theorem sure_admit_spec (horder : InOrder platform initial env base pending) :
    Spec (fun world => world = base) (admitSettings platform env)
      (fun _ => AliveAs env base) (fun _ => False) := by
  suffices h : Spec (fun world => SameAs base world ∧ world.killed = false)
      (admitSettings platform env) (fun _ => AliveAs env base) (fun _ => False) by
    refine h.imp ?_
    rintro world rfl
    exact ⟨⟨rfl, rfl, rfl⟩, horder.alive⟩
  refine sureStep_spec _ horder.quiet (fun _ _ h => h) (fun _ h => h.2) ?_
  rintro tick world ⟨⟨hdisk, hsaved, hsettings⟩, halive⟩
  refine ⟨(), world, ?_, ⟨hdisk, hsaved, hsettings⟩, fun _ => halive⟩
  rw [hdisk, hsaved, hsettings, sameDirectory_of_directory horder.root]
  exact if_pos horder.identity

theorem readDocument_spec {failed : World → Prop} : Spec (AliveAs env base)
      (Handler.read fun world => .ok world.settings.document : Migration SettingsDocument)
      (fun document world => AliveAs env base world ∧ document = base.settings.document) failed := by
  refine ⟨fun world hworld => ⟨hworld, ?_⟩⟩
  exact congrArg (·.document) hworld.1.2.2

theorem started_of_admitted (horder : InOrder platform initial env base pending)
    (htarget : targetIsAdmitted base.disk platform.root pending
      base.settings.document.recordingDirectory = true) :
    Spec (fun world => world = base) (migratePending platform env)
      (Started platform initial base pending) (fun _ => False) := by
  have hne : pending ≠ [] := by
    unfold targetIsAdmitted at htarget
    simp only [Bool.and_eq_true] at htarget
    exact (checkedPath_iff.mp htarget.1.1.1.1.2).1
  refine (sure_admit_spec horder).bind fun _ => readDocument_spec.bind fun document => ?_
  refine Spec.of_fact (document = base.settings.document) (fun _ h => h.2) ?_
  rintro rfl
  dsimp only
  rw [horder.pending]
  refine @Spec.recover _ _ _ _ _ _ _ _ (Within env pending base) ?_ fun failure => ?_
  · refine Spec.of_start fun start ⟨hstart, _⟩ => ?_
    have hwithin : Within env pending base start := within_of_aliveAs hstart
    have hcopy := @copyVerified_spec env platform start
      base.settings.document.recordingDirectory base.settings.document pending
    refine (hcopy.mono (fun _ _ h => h) fun world h => hwithin.trans h).bind fun target => ?_
    refine Spec.of_fact (target = pending) (fun _ h => h.1) ?_
    rintro rfl
    refine Spec.of_start fun world ⟨_, hworld, _⟩ => ?_
    have hthere := hwithin.trans hworld
    -- the settings of the target can be saved, or are left as they are
    by_cases hsave : (∃ failure, validate platform world.disk
        (activate base.settings.document target) = .error failure) ∨
      platform.fits (activate base.settings.document target) = false
    · have hrefused : Spec (AliveAs env world)
          (save platform env (activate base.settings.document target)) (fun _ _ => False)
          (AliveAs env world) := refused_save_spec hsave
      refine Spec.bind ((hrefused.imp ?_).mono (fun _ _ h => h) ?_) fun _ => ⟨fun _ h => h.elim⟩
      · rintro other rfl
        exact ⟨⟨rfl, rfl, rfl⟩, fun _ => noKill_alive horder hthere⟩
      · intro other hother
        exact hthere.trans (within_of_aliveAs hother)
    · rw [not_or] at hsave
      have hcan : CanSave platform env (activate base.settings.document target) world := by
        constructor
        case alive => exact noKill_alive horder hthere
        case identity =>
          rw [hthere.settings, hthere.saved]
          exact horder.identity
        case root =>
          rw [hthere.settings]
          exact directory_grown hthere.grown hne horder.root
        case valid =>
          cases hvalid : validate platform world.disk _ with
          | error failure => exact absurd ⟨failure, hvalid⟩ hsave.1
          | ok => rfl
        case fits => simpa using hsave.2
      exact (saveStarted_spec horder hne hthere hcan rfl (.inl ⟨rfl, rfl⟩)).mono (fun _ _ h => h)
        fun _ h => h.elim
  · refine Spec.of_start fun world hworld => ?_
    rw [← horder.pending]
    exact saveStarted_spec horder hne hworld (canSave_recordError horder htarget hworld) rfl
      (.inr ⟨rfl, rfl⟩)

/-- A target that is not admitted is refused before anything is written. -/
theorem copyVerified_refused {document : SettingsDocument} {source : FilePath}
    (htarget : targetIsAdmitted base.disk platform.root pending source = false) :
    Spec (AliveAs env base) (copyVerified platform env document source pending)
      (fun _ _ => False) (AliveAs env base) := by
  unfold copyVerified
  refine Spec.bind (refused_step_spec (fun _ => AliveAs env base) fun _ _ h => h) fun _ => ?_
  refine Spec.bind (refused_step_spec (fun _ => AliveAs env base) ?_) fun _ => ?_
  · intro tick world hworld
    dsimp only
    cases directory world.disk source with
    | error => exact hworld
    | ok => exact hworld
  refine Spec.bind (refused_step_spec (fun _ _ => False) ?_) fun _ => ⟨fun _ h => h.elim⟩
  intro tick world hworld
  dsimp only
  rw [hworld.1.1]
  unfold checkedTarget
  rw [htarget, if_neg Bool.false_ne_true]
  exact hworld

theorem not_returned_of_refused (horder : InOrder platform initial env base pending)
    (htarget : targetIsAdmitted base.disk platform.root pending
      base.settings.document.recordingDirectory = false) :
    Spec (AliveAs env base) (migratePending platform env) (fun _ _ => False)
      (AliveAs env base) := by
  refine aliveAdmit_spec.bind fun _ => readDocument_spec.bind fun document => ?_
  refine Spec.of_fact (document = base.settings.document) (fun _ h => h.2) ?_
  rintro rfl
  dsimp only
  rw [horder.pending]
  refine @Spec.recover _ _ _ _ _ _ _ _ (AliveAs env base) ?_ fun failure => ?_
  · exact Spec.imp ((copyVerified_refused htarget).bind fun _ => ⟨fun _ h => h.elim⟩) fun _ h => h.1
  -- the handler validates the pending directory again
  rw [← horder.pending]
  refine (refused_save_spec (.inl ?_)).bind fun _ => ⟨fun _ h => h.elim⟩
  cases hvalid : validate platform base.disk
      (recordError base.settings.document failure.error) with
  | error failure => exact ⟨failure, hvalid⟩
  | ok =>
      have hadmitted := (validate_eq_ok.mp hvalid).2.2 pending horder.pending
      change targetIsAdmitted base.disk platform.root pending
        base.settings.document.recordingDirectory = true at hadmitted
      rw [htarget] at hadmitted
      cases hadmitted

/-- A start with a pending directory goes on, whatever fails of the migration, if and only if
the directory is still admitted. -/
theorem startsAgain_iff (horder : InOrder platform initial env base pending) :
    StartsAgain platform initial env base pending ↔
      targetIsAdmitted base.disk platform.root pending
        base.settings.document.recordingDirectory = true := by
  constructor
  · rintro ⟨active, after, hexec, -⟩
    by_contra htarget
    exact (not_returned_of_refused horder (by simpa using htarget)).of_ok
      ⟨⟨rfl, rfl, rfl⟩, fun _ => horder.alive⟩ hexec
  · intro htarget
    have hspec := (started_of_admitted horder htarget).run base rfl
    rcases hexec : (migratePending platform env).exec base with ⟨outcome, after⟩
    rw [hexec] at hspec
    cases outcome with
    | ok active => exact ⟨active, after, hexec, hspec⟩
    | error => exact hspec.elim

/-! ## A pending directory that has become a file -/

open Profile

def pendingWorld (disk : Disk) : World :=
  ⟨disk, some ⟨pendingSettings, ⟨1, 50, 10, 0, 0⟩⟩,
    ⟨pendingSettings, some ⟨1, 50, 10, 0, 0⟩, (1, 2)⟩, false, 0⟩

def replacedDisk : Disk :=
  (clipDisk.add? newRecordings (.file ⟨1, 6, 10, 10, .own, []⟩)).getD clipDisk

theorem inOrder_pendingWorld {disk : Disk} (hroot : directory disk stateRoot = .ok (1, 2))
    (hactive : directory disk oldRecordings = .ok (1, 3)) :
    InOrder clipPlatform firstSettings quietMigration (pendingWorld disk) newRecordings where
  pending := rfl
  alive := rfl
  noKill _ _ h := by cases h
  quiet _ := rfl
  identity := rfl
  root := hroot
  active := ⟨_, hactive⟩
  initial := ⟨_, hactive⟩
  revision := ⟨by simp [pendingWorld, pendingSettings], by simp [pendingWorld, pendingSettings]⟩
  policy := rfl
  fits _ := rfl

theorem startsAgain_one_clip :
    StartsAgain clipPlatform firstSettings quietMigration (pendingWorld clipDisk) newRecordings ↔
      targetIsAdmitted clipDisk stateRoot newRecordings oldRecordings = true :=
  startsAgain_iff (inOrder_pendingWorld (by decide +kernel) (by decide +kernel))

/-- The service does not start, and neither does the next process. -/
theorem not_startsAgain_file :
    InOrder clipPlatform firstSettings quietMigration (pendingWorld replacedDisk) newRecordings ∧
      ¬ StartsAgain clipPlatform firstSettings quietMigration (pendingWorld replacedDisk)
        newRecordings ∧
      (construct clipPlatform replacedDisk firstSettings
        (pendingWorld replacedDisk).saved).isOk = false := by
  refine ⟨inOrder_pendingWorld (by decide +kernel) (by decide +kernel), ?_, by decide +kernel⟩
  rintro ⟨active, after, hexec, -⟩
  have hraised : ((migratePending clipPlatform quietMigration).exec
      (pendingWorld replacedDisk)).1.isOk = false := by decide +kernel
  rw [hexec] at hraised
  cases hraised

end K5Vision.Storage
