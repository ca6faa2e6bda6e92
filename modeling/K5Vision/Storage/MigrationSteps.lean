import K5Vision.Storage.MigrationFiles

/-!
# The steps of a migration

Contracts of the steps up to the switch, from a world `base` on: the disk only grows under
the target, and the settings stay as they are (`Within`).  What is known of the disk
besides is written `At facts`.
-/

namespace K5Vision.Storage

open Library Handler

def NoKill (env : MigrationEnvironment) : Prop := ∀ side tick, env.fault side tick ≠ .kill

structure Within (env : MigrationEnvironment) (target : FilePath) (base world : World) : Prop where
  grown : Grown target base.disk world.disk
  saved : world.saved = base.saved
  settings : world.settings = base.settings
  alive : NoKill env → base.killed = false → world.killed = false

/-- A world that is within bounds, and facts about its disk. -/
def At (env : MigrationEnvironment) (target : FilePath) (base : World) (facts : Disk → Prop)
    (world : World) : Prop :=
  Within env target base world ∧ facts world.disk

variable {env : MigrationEnvironment} {platform : Platform} {target path : FilePath} {base : World}
  {facts : Disk → Prop} {α : Type}

theorem Within.refl (env : MigrationEnvironment) (target : FilePath) (base : World) :
    Within env target base base :=
  ⟨Grown.refl target base.disk, rfl, rfl, fun _ h => h⟩

theorem Within.trans {middle world : World} (hfirst : Within env target base middle)
    (hsecond : Within env target middle world) : Within env target base world :=
  ⟨hfirst.grown.trans hsecond.grown, hsecond.saved.trans hfirst.saved,
    hsecond.settings.trans hfirst.settings,
    fun hkill halive => hsecond.alive hkill (hfirst.alive hkill halive)⟩

theorem At.mono {facts' : Disk → Prop} {world : World} (h : At env target base facts world)
    (himp : ∀ disk, facts disk → facts' disk) : At env target base facts' world :=
  ⟨h.1, himp _ h.2⟩

theorem Spec.of_start {σ ε : Type} {pre failed : σ → Prop} {handler : Handler σ ε α}
    {post : α → σ → Prop}
    (h : ∀ start, pre start → Spec (fun state => state = start) handler post failed) :
    Spec pre handler post failed :=
  ⟨fun state hpre => (h state hpre).run state rfl⟩

theorem Spec.of_fact {σ ε : Type} {pre failed : σ → Prop} {handler : Handler σ ε α}
    {post : α → σ → Prop} (fact : Prop) (hfact : ∀ state, pre state → fact)
    (h : fact → Spec pre handler post failed) : Spec pre handler post failed :=
  ⟨fun state hpre => (h (hfact state hpre)).run state hpre⟩

/-! ## Single steps -/

theorem step_spec {side : Side} {f : ℕ → World → Except Failure α × World} {pre failed : World → Prop}
    {post : α → World → Prop} (htick : ∀ world tick, pre world → pre { world with tick := tick })
    (hfailed : ∀ world, pre world → failed world)
    (hkill : ∀ world, pre world → env.fault side world.tick = .kill →
      failed { world with killed := true })
    (h : ∀ tick world, pre world →
      match f tick world with
      | (.ok a, after) => post a after
      | (.error _, after) => failed after) :
    Spec pre (step env side f) post failed := by
  constructor
  intro world hworld
  unfold step
  rw [exec_of]
  by_cases hkilled : world.killed = true
  · rw [if_pos hkilled]
    exact hfailed world hworld
  rw [if_neg hkilled]
  cases hfault : env.fault side world.tick with
  | none =>
      have hstep := h world.tick { world with tick := world.tick + 1 } (htick world _ hworld)
      dsimp only
      cases hf : f world.tick { world with tick := world.tick + 1 } with
      | mk outcome after =>
          rw [hf] at hstep
          cases outcome <;> exact hstep
  | raise => exact hfailed _ (htick world (world.tick + 1) hworld)
  | kill => exact hkill world hworld hfault

theorem stepAt_spec {side : Side} {f : ℕ → World → Except Failure α × World}
    {post : α → World → Prop}
    (h : ∀ tick world, At env target base facts world →
      match f tick world with
      | (.ok a, after) => post a after
      | (.error _, after) => Within env target base after) :
    Spec (At env target base facts) (step env side f) post (Within env target base) := by
  refine step_spec ?_ (fun _ hworld => hworld.1) ?_ h
  · rintro world tick ⟨hwithin, hfacts⟩
    exact ⟨⟨hwithin.grown, hwithin.saved, hwithin.settings, hwithin.alive⟩, hfacts⟩
  · rintro world ⟨hwithin, -⟩ hkill
    exact ⟨hwithin.grown, hwithin.saved, hwithin.settings, fun hnone => absurd hkill (hnone _ _)⟩

theorem look_spec {f : Disk → Except Failure α} : Spec (At env target base facts) (look env f)
      (fun a => At env target base fun disk => facts disk ∧ f disk = .ok a)
      (Within env target base) := by
  refine stepAt_spec ?_
  intro _ world hworld
  cases hf : f world.disk with
  | ok a => exact ⟨hworld.1, hworld.2, hf⟩
  | error => exact hworld.1

theorem look_keeps {f : Disk → Except Failure α} :
    Spec (At env target base facts) (look env f) (fun _ => At env target base facts)
      (Within env target base) :=
  look_spec.mono (fun _ _ h => h.mono fun _ hfacts => hfacts.1) fun _ h => h

theorem touch_spec {side : Side} :
    Spec (At env target base facts) (touch env side) (fun _ => At env target base facts)
      (Within env target base) :=
  stepAt_spec fun _ _ h => h

theorem draw_spec {f : ℕ → α} :
    Spec (At env target base facts) (draw env f) (fun _ => At env target base facts)
      (Within env target base) :=
  stepAt_spec fun _ _ h => h

theorem require_spec {condition : Bool} {failure : Failure} :
    Spec (At env target base facts) (Handler.require condition failure : Migration Unit)
      (fun _ => At env target base fun disk => facts disk ∧ condition = true)
      (Within env target base) :=
  Spec.require (fun hcondition _ h => ⟨h.1, h.2, hcondition⟩) fun _ h => h.1

theorem write_spec {f : ℕ → Disk → Option Disk} (facts' : Disk → Prop)
    (h : ∀ tick disk after, Grown target base.disk disk → facts disk → f tick disk = some after →
      Grown target base.disk after ∧ facts' after) :
    Spec (At env target base facts) (write env f) (fun _ => At env target base facts')
      (Within env target base) := by
  refine stepAt_spec ?_
  intro tick world hworld
  cases hf : f tick world.disk with
  | none => exact hworld.1
  | some after =>
      obtain ⟨hgrown, hfacts⟩ := h tick world.disk after hworld.1.grown hworld.2 hf
      exact ⟨⟨hgrown, hworld.1.saved, hworld.1.settings, hworld.1.alive⟩, hfacts⟩

theorem checkSignature_spec {expected : FileInfo} {failure : Failure} :
    Spec (At env target base facts) (checkSignature env path expected failure)
      (fun _ => At env target base fun disk => facts disk ∧ fileInfo disk path = .ok expected)
      (Within env target base) := by
  refine look_spec.mono ?_ fun _ h => h
  intro _ world h
  refine h.mono fun disk hfacts => ⟨hfacts.1, ?_⟩
  obtain ⟨-, hcheck⟩ := hfacts
  split at hcheck
  · cases hcheck
  rename_i info hinfo
  split at hcheck
  · rename_i heq
    rw [hinfo, heq]
  · cases hcheck

theorem file?_of_fileInfo {disk : Disk} {info : FileInfo} (h : fileInfo disk path = .ok info) :
    ∃ file, disk.file? path = some file ∧ file.info = info := by
  unfold fileInfo at h
  split at h
  · rename_i file hfile
    split at h
    · exact ⟨file, hfile, Except.ok.inj h⟩
    · cases h
  · cases h

/-- A file has the content that a hash is of, and the size of a signature. -/
def Hashed (platform : Platform) (path : FilePath) (hash : String) (size : ℕ) (disk : Disk) : Prop :=
  ∃ file, disk.file? path = some file ∧ platform.digest file.content = hash ∧
    file.content.length = size

theorem hash_spec {expected : FileInfo} :
    Spec (At env target base facts) (hash platform env path expected)
      (fun found => At env target base fun disk =>
        facts disk ∧ Hashed platform path found expected.size disk)
      (Within env target base) := by
  refine checkSignature_spec.bind fun _ => look_spec.bind fun content => ?_
  refine checkSignature_spec.bind fun _ => Spec.pure ?_
  intro world hworld
  refine hworld.mono ?_
  rintro disk ⟨⟨⟨hfacts, hinfo⟩, hcontent⟩, -⟩
  obtain ⟨file, hfile, rfl⟩ := file?_of_fileInfo hinfo
  rw [hfile] at hcontent
  cases hcontent
  exact ⟨hfacts, file, hfile, rfl, rfl⟩

end K5Vision.Storage
