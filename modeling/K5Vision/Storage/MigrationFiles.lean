import K5Vision.Storage.StorageSettings

/-!
# The files of a migration

A migration adds files under its target, and changes and removes only files that it has
added (`Grown`).  An inventory lists the recordings of a directory, all of them
(`InventorySpec`).
-/

namespace K5Vision.Storage

open Library

/-! ## Growing under a target -/

/-- Every file and directory is kept, and what is new is under the target. -/
structure Grown (target : FilePath) (before after : Disk) : Prop where
  kept : ∀ path node, before.find? path = some node → after.find? path = some node
  outside : ∀ path, ¬target <:+ path → after.find? path = before.find? path
  /-- A new target is a directory of the user. -/
  home : after.find? target = before.find? target ∨
    before.find? target = none ∧ ∃ identity, after.find? target = some (.directory ⟨identity, .own⟩)

variable {target path root : FilePath} {before disk after : Disk}

theorem Grown.refl (target : FilePath) (disk : Disk) : Grown target disk disk :=
  ⟨fun _ _ h => h, fun _ _ => rfl, .inl rfl⟩

theorem Grown.trans (hfirst : Grown target before disk) (hsecond : Grown target disk after) :
    Grown target before after := by
  constructor
  case kept => exact fun path node h => hsecond.kept path node (hfirst.kept path node h)
  case outside =>
    intro path hpath
    rw [hsecond.outside path hpath, hfirst.outside path hpath]
  case home =>
    rcases hfirst.home with heq | ⟨hnone, identity, hown⟩
    · rw [← heq]
      exact hsecond.home
    · exact .inr ⟨hnone, identity, hsecond.kept _ _ hown⟩

theorem Grown.file? (h : Grown target before after) {data : FileData}
    (hfile : before.file? path = some data) : after.file? path = some data :=
  FileTree.file?_eq_some.mpr (h.kept _ _ (FileTree.file?_eq_some.mp hfile))

theorem Grown.find?_eq_none (h : Grown target before after) (hnone : after.find? path = none) :
    before.find? path = none := by
  rw [Option.eq_none_iff_forall_ne_some]
  intro node hnode
  rw [h.kept path node hnode] at hnone
  cases hnone

theorem Grown.add {node : FileNode DirectoryData FileData} (h : Grown target before disk)
    (hadd : disk.add? path node = some after) (hunder : target <:+ path)
    (hnode : path = target → ∃ identity, node = .directory ⟨identity, .own⟩) :
    Grown target before after := by
  obtain ⟨hfree, hfind⟩ := FileTree.add?_eq_some hadd
  have hbefore := h.find?_eq_none hfree.find?_eq_none
  constructor
  case kept =>
    intro other found hother
    rw [hfind, if_neg, h.kept other found hother]
    rintro rfl
    rw [hbefore] at hother
    cases hother
  case outside =>
    intro other hother
    rw [hfind, if_neg, h.outside other hother]
    rintro rfl
    exact hother hunder
  case home =>
    by_cases heq : target = path
    · obtain ⟨identity, hown⟩ := hnode heq.symm
      refine .inr ⟨heq ▸ hbefore, identity, ?_⟩
      rw [hfind, if_pos heq, hown]
    · rw [hfind, if_neg heq]
      exact h.home

theorem Grown.rewrite {f : FileData → FileData} (h : Grown target before disk)
    (hnone : before.find? path = none) (hunder : target <:+ path) (hne : path ≠ target) :
    Grown target before (disk.rewrite path f) := by
  constructor
  case kept =>
    intro other found hother
    rw [FileTree.find?_rewrite, if_neg, h.kept other found hother]
    rintro rfl
    rw [hnone] at hother
    cases hother
  case outside =>
    intro other hother
    rw [FileTree.find?_rewrite, if_neg, h.outside other hother]
    rintro rfl
    exact hother hunder
  case home =>
    rw [FileTree.find?_rewrite, if_neg hne.symm]
    exact h.home

theorem Grown.remove (h : Grown target before disk) (hremove : disk.remove? path = some after)
    (hnone : before.find? path = none) (hunder : target <:+ path) (hne : path ≠ target) :
    Grown target before after := by
  obtain ⟨-, hfind⟩ := FileTree.remove?_eq_some hremove
  constructor
  case kept =>
    intro other found hother
    rw [hfind, if_neg, h.kept other found hother]
    rintro rfl
    rw [hnone] at hother
    cases hother
  case outside =>
    intro other hother
    rw [hfind, if_neg, h.outside other hother]
    rintro rfl
    exact hother hunder
  case home =>
    rw [hfind, if_neg hne.symm]
    exact h.home

/-! ## Inventories -/

/-- No camera directory under a root has an interrupted copy. -/
def NoTemps (root : FilePath) (disk : Disk) : Prop :=
  ∀ home name, pathName home = true → tempName name = true →
    disk.find? (pathIn root (home, name)) = none

structure InventorySpec (disk : Disk) (root : FilePath) (detect : Bool) (found : Inventory) :
    Prop where
  listed : ∀ relative info, (relative, info) ∈ found → pathName relative.1 = true ∧
    segmentName relative.2 = some true ∧ fileInfo disk (pathIn root relative) = .ok info
  complete : ∀ relative : Path, pathName relative.1 = true → segmentName relative.2 = some true →
    (disk.find? (pathIn root relative)).isSome → relative ∈ found.map (·.1)
  noTemps : detect = true → NoTemps root disk

variable {detect : Bool} {home : String} {names : List String} {entries total : ℕ}
  {found : Inventory}

theorem inventoryFiles_spec
    (h : inventoryFiles disk root detect home names entries = .ok (found, total)) :
    (∀ relative info, (relative, info) ∈ found → relative.1 = home ∧
      segmentName relative.2 = some true ∧ fileInfo disk (pathIn root relative) = .ok info) ∧
    ∀ name ∈ names, (detect = true → tempName name = false) ∧
      (segmentName name = some true → (home, name) ∈ found.map (·.1)) := by
  induction names generalizing entries found total with
  | nil =>
      cases h
      simp
  | cons name rest ih =>
      unfold inventoryFiles at h
      split at h
      · cases h
      split at h
      · cases h
      rename_i htemp
      have hname : detect = true → tempName name = false := by
        intro hdetect
        simpa [hdetect] using htemp
      split at h
      · cases h
      · -- the file is no segment
        rename_i hsegment
        obtain ⟨hfound, hcomplete⟩ := ih h
        refine ⟨hfound, ?_⟩
        intro other hother
        rcases List.mem_cons.mp hother with rfl | hother
        · refine ⟨hname, ?_⟩
          intro hotherSegment
          rw [hsegment] at hotherSegment
          cases hotherSegment
        · exact hcomplete other hother
      · rename_i hsegment
        split at h
        · cases h
        rename_i info hinfo
        split at h
        · cases h
        rename_i files count hfiles
        cases h
        obtain ⟨hfound, hcomplete⟩ := ih hfiles
        constructor
        · intro relative other hmem
          rcases List.mem_cons.mp hmem with heq | hmem
          · cases heq
            exact ⟨rfl, hsegment, hinfo⟩
          · exact hfound relative other hmem
        · intro other hother
          rcases List.mem_cons.mp hother with rfl | hother
          · exact ⟨hname, fun _ => List.mem_cons_self⟩
          · obtain ⟨htemp, hmem⟩ := hcomplete other hother
            exact ⟨htemp, fun hotherSegment => List.mem_cons_of_mem _ (hmem hotherSegment)⟩

theorem inventoryDirectories_spec
    (h : inventoryDirectories disk root detect names entries = .ok found) :
    (∀ relative info, (relative, info) ∈ found → pathName relative.1 = true ∧
      segmentName relative.2 = some true ∧ fileInfo disk (pathIn root relative) = .ok info) ∧
    ∀ home ∈ names, pathName home = true → ∀ name ∈ disk.children (home :: root),
      (detect = true → tempName name = false) ∧
      (segmentName name = some true → (home, name) ∈ found.map (·.1)) := by
  induction names generalizing entries found with
  | nil =>
      cases h
      simp
  | cons name rest ih =>
      unfold inventoryDirectories at h
      split at h
      · cases h
      split at h
      · -- the directory is no camera's
        rename_i hname
        obtain ⟨hfound, hcomplete⟩ := ih h
        refine ⟨hfound, ?_⟩
        intro other hother hpath
        rcases List.mem_cons.mp hother with rfl | hother
        · simp [hpath] at hname
        · exact hcomplete other hother hpath
      · rename_i hname
        have hpath : pathName name = true := by simpa using hname
        split at h
        · cases h
        split at h
        · cases h
        rename_i files count hfiles
        split at h
        · cases h
        rename_i others hothers
        cases h
        obtain ⟨hfoundFiles, hcompleteFiles⟩ := inventoryFiles_spec hfiles
        obtain ⟨hfound, hcomplete⟩ := ih hothers
        constructor
        · intro relative info hmem
          rcases List.mem_append.mp hmem with hmem | hmem
          · obtain ⟨hhome, hrest⟩ := hfoundFiles relative info hmem
            exact ⟨hhome ▸ hpath, hrest⟩
          · exact hfound relative info hmem
        · intro other hother hotherPath file hfile
          rw [List.map_append]
          rcases List.mem_cons.mp hother with rfl | hother
          · obtain ⟨htemp, hmem⟩ := hcompleteFiles file hfile
            exact ⟨htemp, fun hsegment => List.mem_append_left _ (hmem hsegment)⟩
          · obtain ⟨htemp, hmem⟩ := hcomplete other hother hotherPath file hfile
            exact ⟨htemp, fun hsegment => List.mem_append_right _ (hmem hsegment)⟩

/-- A file in a camera directory is met by the inventory. -/
theorem mem_children_pathIn {relative : Path} (h : (disk.find? (pathIn root relative)).isSome) :
    relative.1 ∈ disk.children root ∧ relative.2 ∈ disk.children (relative.1 :: root) := by
  refine ⟨?_, FileTree.mem_children.mpr h⟩
  rcases FileTree.directory?_parent h with hnil | hdirectory
  · cases hnil
  · obtain ⟨data, hdata⟩ := Option.isSome_iff_exists.mp hdirectory
    rw [FileTree.mem_children, FileTree.directory?_eq_some.mp hdata]
    rfl

theorem inventory_spec (h : inventory disk root detect = .ok found) :
    InventorySpec disk root detect found := by
  unfold inventory at h
  split at h
  · cases h
  obtain ⟨hfound, hcomplete⟩ := inventoryDirectories_spec h
  constructor
  case listed => exact hfound
  case complete =>
    intro relative hpath hsegment hsome
    obtain ⟨hhome, hname⟩ := mem_children_pathIn hsome
    exact (hcomplete relative.1 hhome hpath relative.2 hname).2 hsegment
  case noTemps =>
    intro hdetect home name hpath htemp
    rw [← Option.not_isSome_iff_eq_none]
    intro hsome
    obtain ⟨hhome, hname⟩ := mem_children_pathIn hsome
    have hfalse := (hcomplete home hhome hpath name hname).1 hdetect
    rw [htemp] at hfalse
    cases hfalse

/-! ## Names -/

theorem segmentName_of_tempName {name : String} (h : tempName name = true) :
    segmentName name = some false := by
  unfold tempName at h
  simp only [Bool.and_eq_true, beq_iff_eq] at h
  obtain ⟨⟨⟨hlength, -⟩, hend⟩, -⟩ := h
  unfold segmentName
  dsimp only
  rw [hlength, hend]
  simp

end K5Vision.Storage
