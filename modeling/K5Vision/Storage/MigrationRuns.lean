import K5Vision.Storage.MigrationSafety
import K5Vision.Storage.PruneSafety

/-!
# Migrations and restarts

The active directory is the one that a new process reads.  A migration makes its target
active only by the `save` behind the verified copy; the handler of its failures saves the
active directory that it had (`migratePending_spec`).

A process is gone once `migrate_pending` has raised, since nothing that calls it handles
that.
-/

namespace K5Vision.Storage

open Library Handler

/-! ## Saving -/

variable {env : MigrationEnvironment} {platform : Platform} {base : World} {α : Type}
  {document : SettingsDocument}

/-- A save leaves the disk, and the settings file as it was or with its document. -/
def SaveFailed (base : World) (document : SettingsDocument) (world : World) : Prop :=
  world.disk = base.disk ∧
    (world.saved = base.saved ∨ ∃ info, world.saved = some ⟨document, info⟩)

variable {facts : World → Prop} {f : ℕ → World → Except Failure α × World}

theorem saveStep_spec (done : World → Prop) (hfacts : ∀ world tick killed, facts world →
      facts { world with tick := tick, killed := killed })
    (hfailed : ∀ world, facts world → SaveFailed base document world)
    (h : ∀ tick world, facts world → ∃ a after, f tick world = (.ok a, after) ∧ done after) :
    Spec facts (step env .settings f) (fun _ => done) (SaveFailed base document) := by
  refine step_spec (fun world tick hworld => hfacts world tick world.killed hworld) hfailed ?_ ?_
  · intro world hworld _
    exact hfailed _ (hfacts world world.tick true hworld)
  intro tick world hworld
  obtain ⟨a, after, hf, hdone⟩ := h tick world hworld
  rw [hf]
  exact hdone

theorem saveLook_spec (hfacts : ∀ world tick killed, facts world →
      facts { world with tick := tick, killed := killed })
    (hfailed : ∀ world, facts world → SaveFailed base document world)
    (h : ∀ tick world, (f tick world).2 = world) :
    Spec facts (step env .settings f) (fun _ => facts) (SaveFailed base document) := by
  refine step_spec (fun world tick hworld => hfacts world tick world.killed hworld) hfailed ?_ ?_
  · intro world hworld _
    exact hfailed _ (hfacts world world.tick true hworld)
  intro tick world hworld
  have hsame := h tick world
  cases hf : f tick world with
  | mk outcome after =>
      rw [hf] at hsame
      cases hsame
      cases outcome with
      | ok => exact hworld
      | error => exact hfailed after hworld

theorem save_spec : Spec (fun world => world.disk = base.disk ∧ world.saved = base.saved)
      (save platform env document)
      (fun _ world => world.disk = base.disk ∧ (∃ info, world.saved = some ⟨document, info⟩ ∧
        world.settings.identity = some info) ∧ world.settings.document = document)
      (SaveFailed base document) := by
  have hbefore : ∀ world : World, world.disk = base.disk ∧ world.saved = base.saved →
      SaveFailed base document world := fun _ h => ⟨h.1, .inl h.2⟩
  have hbehind : ∀ world : World, (world.disk = base.disk ∧
      ∃ info, world.saved = some ⟨document, info⟩) → SaveFailed base document world :=
    fun _ h => ⟨h.1, .inr h.2⟩
  have hclean : ∀ world : World, (world.disk = base.disk ∧
      ∃ info, world.saved = some ⟨document, info⟩ ∧ world.settings.identity = some info) →
      SaveFailed base document world := by
    rintro world ⟨hdisk, info, hsaved, -⟩
    exact ⟨hdisk, .inr ⟨info, hsaved⟩⟩
  unfold save atomic
  simp only [bind_assoc]
  refine Spec.bind (saveLook_spec (fun _ _ _ h => h) hbefore ?_) fun _ => ?_
  · intro tick world
    cases sameDirectory world.disk platform.root world.settings.rootIdentity with
    | error => rfl
    | ok =>
        dsimp only
        split <;> rfl
  refine Spec.bind (saveLook_spec (fun _ _ _ h => h) hbefore fun _ _ => rfl) fun _ => ?_
  refine Spec.bind (saveLook_spec (fun _ _ _ h => h) hbefore ?_) fun _ => ?_
  · intro tick world
    cases directory world.disk platform.root with
    | error => rfl
    | ok =>
        dsimp only
        split <;> rfl
  refine Spec.bind (saveLook_spec (fun _ _ _ h => h) hbefore fun _ _ => rfl) fun _ => ?_
  -- the settings file is replaced
  refine Spec.bind (saveStep_spec
    (fun world => world.disk = base.disk ∧ ∃ info, world.saved = some ⟨document, info⟩)
    (fun _ _ _ h => h) hbefore fun tick world h => ⟨(), _, rfl, h.1, env.saved tick, rfl⟩)
    fun _ => ?_
  refine Spec.bind (saveLook_spec (fun _ _ _ h => h) hbehind fun _ _ => rfl) fun _ => ?_
  refine Spec.bind (saveStep_spec (fun world => world.disk = base.disk ∧
    ∃ info, world.saved = some ⟨document, info⟩ ∧ world.settings.identity = some info)
    (fun _ _ _ h => h) hbehind ?_) fun _ => ?_
  · rintro tick world ⟨hdisk, info, hsaved⟩
    exact ⟨(), _, rfl, hdisk, info, hsaved, congrArg (Option.map (·.info)) hsaved⟩
  refine Spec.bind (saveLook_spec (fun _ _ _ h => h) hclean fun _ _ => rfl) fun _ => ?_
  exact ⟨fun world ⟨hdisk, hsaved⟩ => ⟨hdisk, hsaved, rfl⟩⟩

/-! ## One migration -/

/-- The directory was active before, or it is the pending directory and has all recordings. -/
def Justified (platform : Platform) (settings : StorageSettings) (disk : Disk) (active : FilePath) :
    Prop :=
  active = settings.document.recordingDirectory ∨
    ∃ pending, settings.document.pendingRecordingDirectory = some pending ∧ active = pending ∧
      Migrated platform settings.document.recordingDirectory pending disk

/-- Files and directories are neither changed nor removed. -/
def Kept (before after : Disk) : Prop :=
  ∀ path node, before.find? path = some node → after.find? path = some node

structure Returned (platform : Platform) (base : World) (active : FilePath) (world : World) :
    Prop where
  kept : Kept base.disk world.disk
  admitted : base.settings.identity = base.saved.map (·.info)
  justified : Justified platform base.settings world.disk active
  identity : world.settings.identity = world.saved.map (·.info)
  saved : world.saved = base.saved ∧ world.settings = base.settings ∧
      active = base.settings.document.recordingDirectory ∨
    ∃ document info, world.saved = some ⟨document, info⟩ ∧ world.settings.document = document ∧
      document.recordingDirectory = active

/-- `migrate_pending` has raised, or was killed. -/
structure Interrupted (platform : Platform) (base world : World) : Prop where
  kept : Kept base.disk world.disk
  saved : world.saved = base.saved ∨ base.settings.identity = base.saved.map (·.info) ∧
    ∃ document info, world.saved = some ⟨document, info⟩ ∧
      Justified platform base.settings world.disk document.recordingDirectory

/-- The world is as it was, but for its clock. -/
def SameAs (base world : World) : Prop :=
  world.disk = base.disk ∧ world.saved = base.saved ∧ world.settings = base.settings

theorem SameAs.interrupted {world : World} (h : SameAs base world) :
    Interrupted platform base world :=
  ⟨fun _ _ hnode => h.1 ▸ hnode, .inl h.2.1⟩

theorem admitSettings_spec : Spec (fun world => world = base) (admitSettings platform env)
      (fun _ world => SameAs base world ∧ base.settings.identity = base.saved.map (·.info))
      (Interrupted platform base) := by
  suffices h : Spec (SameAs base) (admitSettings platform env)
      (fun _ world => SameAs base world ∧ base.settings.identity = base.saved.map (·.info))
      (Interrupted platform base) by
    refine h.imp ?_
    rintro world rfl
    exact ⟨rfl, rfl, rfl⟩
  refine step_spec (fun _ _ h => h) (fun _ h => h.interrupted)
    (fun _ h _ => ⟨fun _ _ hnode => h.1 ▸ hnode, .inl h.2.1⟩) ?_
  intro tick world h
  cases sameDirectory world.disk platform.root world.settings.rootIdentity with
  | error => exact h.interrupted
  | ok =>
      dsimp only
      by_cases heq : world.settings.identity = world.saved.map (·.info)
      · rw [if_pos heq]
        rw [h.2.1, h.2.2] at heq
        exact ⟨h, heq⟩
      · rw [if_neg heq]
        exact h.interrupted

theorem savePath_spec {start : World} {active : FilePath}
    (hidentity : base.settings.identity = base.saved.map (·.info))
    (hkept : Kept base.disk start.disk) (hactive : document.recordingDirectory = active)
    (hjustified : Justified platform base.settings start.disk active)
    (hsaved : start.saved = base.saved ∨ base.settings.identity = base.saved.map (·.info) ∧
      ∃ document info, start.saved = some ⟨document, info⟩ ∧
        Justified platform base.settings start.disk document.recordingDirectory) :
    Spec (fun world => world = start)
      (do
        save platform env document
        pure active)
      (Returned platform base) (Interrupted platform base) := by
  have hsave := @save_spec env platform start document
  refine ((hsave.imp ?_).mono (fun _ _ h => h) ?_).bind fun _ => Spec.pure ?_
  · rintro world rfl
    exact ⟨rfl, rfl⟩
  · rintro world ⟨hdisk, hold | ⟨info, hnew⟩⟩
    · refine ⟨hdisk ▸ hkept, ?_⟩
      rw [hold, hdisk]
      exact hsaved
    · refine ⟨hdisk ▸ hkept, .inr ⟨hidentity, document, info, hnew, ?_⟩⟩
      rw [hactive, hdisk]
      exact hjustified
  · rintro world ⟨hdisk, ⟨info, hnew, hsettings⟩, hdocument⟩
    refine ⟨hdisk ▸ hkept, hidentity, hdisk ▸ hjustified, ?_,
      .inr ⟨document, info, hnew, hdocument, hactive⟩⟩
    rw [hsettings, hnew]
    rfl

theorem migratePending_spec :
    Spec (fun world => world = base) (migratePending platform env) (Returned platform base)
      (Interrupted platform base) := by
  refine admitSettings_spec.bind fun _ => ?_
  refine Spec.of_fact (base.settings.identity = base.saved.map (·.info)) (fun _ h => h.2)
    fun hidentity => ?_
  have hread : Spec (fun world => SameAs base world ∧
        base.settings.identity = base.saved.map (·.info))
      (Handler.read fun world => .ok world.settings.document : Migration SettingsDocument)
      (fun document world => SameAs base world ∧ document = base.settings.document)
      (Interrupted platform base) := by
    refine Spec.read ?_ fun _ h => h.1.interrupted
    rintro world document ⟨hsame, -⟩ hread
    cases hread
    exact ⟨hsame, congrArg (·.document) hsame.2.2⟩
  refine hread.bind fun document => ?_
  refine Spec.of_fact (document = base.settings.document) (fun _ h => h.2) ?_
  rintro rfl
  dsimp only
  cases hpending : base.settings.document.pendingRecordingDirectory with
  | none =>
      refine Spec.pure ?_
      rintro world ⟨⟨hdisk, hsaved, hsettings⟩, -⟩
      refine ⟨fun _ _ hnode => hdisk ▸ hnode, hidentity, .inl rfl, ?_, .inl ⟨hsaved, hsettings, rfl⟩⟩
      rw [hsaved, hsettings]
      exact hidentity
  | some pending =>
      refine Spec.of_start fun start ⟨hstart, _⟩ => ?_
      have hkept : ∀ world : World, Within env pending start world → Kept base.disk world.disk :=
        fun world h path node hnode => h.grown.kept path node (hstart.1 ▸ hnode)
      have hsaved : ∀ world : World, Within env pending start world → world.saved = base.saved :=
        fun world h => h.saved.trans hstart.2.1
      refine @Spec.recover _ _ _ _ _ _ _ _ (Interrupted platform base) ?_ fun failure => ?_
      · have hcopy := @copyVerified_spec env platform start
          base.settings.document.recordingDirectory base.settings.document pending
        refine (hcopy.mono (fun _ _ h => h) fun world h =>
          ⟨hkept world h, .inl (hsaved world h)⟩).bind fun target => ?_
        refine Spec.of_fact (target = pending) (fun _ h => h.1) ?_
        rintro rfl
        refine Spec.of_start fun world ⟨_, hwithin, hmigrated⟩ => ?_
        exact savePath_spec hidentity (hkept world hwithin) rfl (.inr ⟨target, hpending, rfl, hmigrated⟩)
          (.inl (hsaved world hwithin))
      · -- the handler saves the directory that is active
        refine Spec.of_start fun world hworld => ?_
        exact savePath_spec hidentity hworld.kept rfl (.inl rfl) hworld.saved

/-! ## Runs -/

structure Profile where
  disk : Disk
  saved : Option SavedSettings
  running : Option StorageSettings

inductive ProfileEvent
  /-- A process starts; its settings may be refused for a reason that is not modelled. -/
  | start (refused : Bool)
  | migrate (env : MigrationEnvironment)
  /-- The files change while nothing migrates. -/
  | change (disk : Disk)

namespace Profile

/-- The directory that a new process uses; `initial` is the document of a settings file that
does not exist. -/
def active (initial : SettingsDocument) (profile : Profile) : FilePath :=
  ((profile.saved.map (·.document)).getD initial).recordingDirectory

variable (platform : Platform) (initial : SettingsDocument)

def step (profile : Profile) : ProfileEvent → Profile
  | .start refused =>
      match refused, construct platform profile.disk initial profile.saved with
      | false, .ok settings => { profile with running := some settings }
      | _, _ => { profile with running := none }
  | .migrate env =>
      match profile.running with
      | none => profile
      | some settings =>
          match (migratePending platform env).exec
              ⟨profile.disk, profile.saved, settings, false, 0⟩ with
          | (.ok _, world) => ⟨world.disk, world.saved, some world.settings⟩
          | (.error _, world) => ⟨world.disk, world.saved, none⟩
  | .change disk => { profile with disk := disk }

def machine : Machine Profile ProfileEvent where
  step := step platform initial
  admissible _ _ := True

/-- A process whose settings file is the one that it has read or written uses its
directory. -/
def Synced (profile : Profile) : Prop :=
  ∀ settings, profile.running = some settings →
    settings.identity = profile.saved.map (·.info) →
    settings.document.recordingDirectory = profile.active initial

structure MigrationSpec (before after : Profile) : Prop where
  /-- No file on the disk is changed or removed. -/
  kept : Kept before.disk after.disk
  /-- The active directory changes only to a pending directory that has all recordings. -/
  active : after.active initial = before.active initial ∨
    ∃ settings pending, before.running = some settings ∧
      settings.document.pendingRecordingDirectory = some pending ∧
      after.active initial = pending ∧
      Migrated platform (before.active initial) pending after.disk
  /-- The process that goes on uses the active directory. -/
  running : ∀ settings, after.running = some settings →
    settings.document.recordingDirectory = after.active initial

variable {platform : Platform} {initial : SettingsDocument} {profile : Profile}

/-- The directory of the settings that were admitted is the active one. -/
theorem migrate_spec (hsynced : Synced initial profile) (env : MigrationEnvironment) :
    MigrationSpec platform initial profile (step platform initial profile (.migrate env)) := by
  unfold step
  dsimp only
  cases hrunning : profile.running with
  | none =>
      refine ⟨fun _ _ h => h, .inl rfl, ?_⟩
      intro settings hsettings
      rw [hrunning] at hsettings
      cases hsettings
  | some settings =>
      dsimp only
      have hspec := (@migratePending_spec env platform
        ⟨profile.disk, profile.saved, settings, false, 0⟩).run _ rfl
      -- what is justified by the settings is justified by the profile
      have hactive : ∀ disk active, settings.identity = profile.saved.map (·.info) →
          Justified platform settings disk active → active = profile.active initial ∨
            ∃ settings pending, profile.running = some settings ∧
              settings.document.pendingRecordingDirectory = some pending ∧ active = pending ∧
              Migrated platform (profile.active initial) pending disk := by
        rintro disk active hidentity (rfl | ⟨pending, hpending, rfl, hmigrated⟩)
        · exact .inl (hsynced settings hrunning hidentity)
        · rw [hsynced settings hrunning hidentity] at hmigrated
          exact .inr ⟨settings, active, hrunning, hpending, rfl, hmigrated⟩
      cases hexec : (migratePending platform env).exec
          ⟨profile.disk, profile.saved, settings, false, 0⟩ with
      | mk outcome world =>
          rw [hexec] at hspec
          cases outcome with
          | ok active =>
              obtain ⟨hkept, hidentity, hjustified, -, hsaved⟩ := hspec
              dsimp only
              -- the directory returned is the one of the settings, and the one on the disk
              have hafter : (⟨world.disk, world.saved, some world.settings⟩ : Profile).active
                  initial = active ∧ world.settings.document.recordingDirectory = active := by
                rcases hsaved with ⟨hsame, hsettings, rfl⟩ | ⟨document, info, hnew, rfl, hdirectory⟩
                · rw [hsettings]
                  refine ⟨?_, rfl⟩
                  rw [hsynced settings hrunning hidentity]
                  unfold Profile.active
                  rw [hsame]
                · refine ⟨?_, hdirectory⟩
                  unfold Profile.active
                  rw [hnew]
                  exact hdirectory
              refine ⟨hkept, ?_, ?_⟩
              · rw [hafter.1]
                exact hactive world.disk active hidentity hjustified
              · intro other hother
                cases hother
                exact hafter.2.trans hafter.1.symm
          | error =>
              obtain ⟨hkept, hsaved⟩ := hspec
              dsimp only
              refine ⟨hkept, ?_, fun _ h => by cases h⟩
              rcases hsaved with hsame | ⟨hidentity, document, info, hnew, hjustified⟩
              · left
                unfold Profile.active
                rw [hsame]
              have hafter : (⟨world.disk, world.saved, none⟩ : Profile).active initial =
                  document.recordingDirectory := by
                unfold Profile.active
                rw [hnew]
                rfl
              rw [hafter]
              exact hactive world.disk _ hidentity hjustified

theorem construct_synced {disk : Disk} {saved : Option SavedSettings} {settings : StorageSettings}
    (h : construct platform disk initial saved = .ok settings) :
    Synced initial ⟨disk, saved, some settings⟩ := by
  rintro other hother -
  cases hother
  unfold construct at h
  split at h
  · cases saved with
    | none =>
        cases h
        rfl
    | some saved =>
        dsimp only at h
        split at h
        · cases h
        · cases h
          rfl
  · cases h
  · cases h

theorem step_synced (event : ProfileEvent) (h : Synced initial profile) :
    Synced initial (step platform initial profile event) := by
  cases event with
  | start refused =>
      unfold step
      dsimp only
      split
      · rename_i settings hsettings
        exact construct_synced hsettings
      · rintro settings hnone
        cases hnone
  | migrate env =>
      intro settings hrunning _
      exact (migrate_spec h env).running settings hrunning
  | change disk => exact h

/-- Nothing is lost over a run, as long as the files are left alone. -/
theorem step_kept (event : ProfileEvent) (h : Synced initial profile)
    (hevent : ∀ disk, event ≠ .change disk) :
    Kept profile.disk (step platform initial profile event).disk := by
  cases event with
  | start refused =>
      unfold step
      dsimp only
      split <;> exact fun _ _ hnode => hnode
  | migrate env => exact (migrate_spec h env).kept
  | change disk => exact absurd rfl (hevent disk)

variable {disk : Disk} {saved : Option SavedSettings} {events : List ProfileEvent}

theorem reaches_synced {start : Profile} (hstart : Synced initial start)
    (h : (machine platform initial).Reaches start events profile) : Synced initial profile :=
  h.invariant (fun _ event hsynced _ => step_synced event hsynced) hstart

theorem reaches_kept {start : Profile} (hstart : Synced initial start)
    (h : (machine platform initial).Reaches start events profile)
    (hevents : ∀ event ∈ events, ∀ disk, event ≠ .change disk) : Kept start.disk profile.disk := by
  induction events generalizing start with
  | nil =>
      cases h
      exact fun _ _ hnode => hnode
  | cons event rest ih =>
      have hfirst := @step_kept platform initial start event hstart
        (hevents event List.mem_cons_self)
      have hrest := ih (step_synced event hstart) h.2
        fun other hother => hevents other (List.mem_cons_of_mem _ hother)
      exact fun path node hnode => hrest path node (hfirst path node hnode)

/-- Over any migrations, restarts and changes of the files, a migration loses nothing, and
only a migration changes the active directory. -/
theorem migration_loses_nothing
    (h : (machine platform initial).Reaches ⟨disk, saved, none⟩ events profile) :
    (∀ env, MigrationSpec platform initial profile
      ((machine platform initial).step profile (.migrate env))) ∧
    (∀ event, (∀ env, event ≠ .migrate env) →
      ((machine platform initial).step profile event).active initial = profile.active initial) ∧
    ((∀ event ∈ events, ∀ changed, event ≠ .change changed) → Kept disk profile.disk) := by
  have hstart : Synced initial ⟨disk, saved, none⟩ := by
    rintro settings hnone
    cases hnone
  have hsynced := reaches_synced hstart h
  refine ⟨fun env => migrate_spec hsynced env, ?_, reaches_kept hstart h⟩
  intro event hevent
  change (step platform initial profile event).active initial = _
  cases event with
  | start refused =>
      unfold step
      dsimp only
      split <;> rfl
  | migrate env => exact absurd rfl (hevent env)
  | change => rfl

/-! ## A migration of one clip -/

def stateRoot : FilePath := ["state", "k5"]

def oldRecordings : FilePath := ["recordings", "k5"]

def newRecordings : FilePath := ["target", "k5"]

def clipDisk : Disk := FileTree.ofNodes [
  (["k5"], .directory ⟨(1, 1), .own⟩),
  (stateRoot, .directory ⟨(1, 2), .own⟩),
  (oldRecordings, .directory ⟨(1, 3), .own⟩),
  (cameraName :: oldRecordings, .directory ⟨(1, 4), .own⟩),
  (pathIn oldRecordings (cameraName, firstClip), .file ⟨1, 5, 10, 10, .own, [1, 2, 3]⟩)]

/-- A hash that is the content itself. -/
def clipPlatform : Platform where
  root := stateRoot
  digest content := String.ofList (content.map fun byte => Char.ofNat byte.toNat)
  fits _ := true
  marker _ := [1]
  isMarker content _ := content = [1]

def firstSettings : SettingsDocument := ⟨0, 1000, 0, 86400, oldRecordings, none, none⟩

def pendingSettings : SettingsDocument :=
  { firstSettings with revision := 1, pendingRecordingDirectory := some newRecordings }

def clipTemporary : TempName := ⟨".k5-migrate-0123456789abcdef0123456789abcdef.tmp", by decide⟩

def quietMigration : MigrationEnvironment where
  fault _ _ := .none
  temporary _ := clipTemporary
  created tick := (1, 100 + tick)
  times tick := (tick, tick)
  saved tick := ⟨1, 50, 10, tick, tick⟩
  capacity _ := 1000000

def pendingProfile : Profile := ⟨clipDisk, some ⟨pendingSettings, ⟨1, 50, 10, 0, 0⟩⟩, none⟩

/-- The clip is migrated. -/
theorem migration_loses_nothing_one_clip : MigrationSpec clipPlatform firstSettings
      ((machine clipPlatform firstSettings).step pendingProfile (.start false))
      ((machine clipPlatform firstSettings).step
        ((machine clipPlatform firstSettings).step pendingProfile (.start false))
        (.migrate quietMigration)) ∧
    ((machine clipPlatform firstSettings).step
      ((machine clipPlatform firstSettings).step pendingProfile (.start false))
      (.migrate quietMigration)).active firstSettings = newRecordings := by
  have hreach : (machine clipPlatform firstSettings).Reaches pendingProfile [.start false]
      ((machine clipPlatform firstSettings).step pendingProfile (.start false)) := ⟨trivial, rfl⟩
  exact ⟨(migration_loses_nothing hreach).1 quietMigration, by decide +kernel⟩

end Profile

end K5Vision.Storage
