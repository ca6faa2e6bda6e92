import K5Vision.Storage.MigrationSteps

/-!
# A migration loses nothing

The copy of a recording is compared with the original by size and hash before it gets its
name (`copyFile_spec`), and a file that is there already is compared in the same way
(`checkCopy_spec`).  From the recordings that are verified one after the other
(`copyAll_spec`) and the inventories behind them follows that the trees agree
(`copyVerified_spec`).
-/

namespace K5Vision.Storage

open Library Handler

variable {env : MigrationEnvironment} {platform : Platform} {target path temporary : FilePath}
  {base : World} {facts : Disk → Prop} {relative : Path} {disk after : Disk}

/-! ## Copying a recording -/

def OnlyTemp (target temporary : FilePath) (disk : Disk) : Prop :=
  ∀ home name, pathName home = true → tempName name = true →
    pathIn target (home, name) ≠ temporary → disk.find? (pathIn target (home, name)) = none

theorem pathIn_ne_tail {other : Path} : pathIn target other ≠ (pathIn target relative).tail := by
  intro heq
  have hlength := congrArg List.length heq
  simp [pathIn] at hlength

theorem suffix_pathIn : target <:+ pathIn target relative :=
  (List.suffix_cons _ _).trans (List.suffix_cons _ _)

theorem pathIn_ne_self : pathIn target relative ≠ target := by
  intro heq
  have hlength := congrArg List.length heq
  simp only [pathIn, List.length_cons] at hlength
  omega

theorem writeChunks_spec {chunks : List (List UInt8)} (hnone : base.disk.find? path = none)
    (hunder : target <:+ path) (hne : path ≠ target)
    (hfacts : ∀ disk f, facts disk → facts (disk.rewrite path f)) :
    Spec (At env target base facts) (writeChunks env path chunks) (fun _ => At env target base facts)
      (Within env target base) := by
  induction chunks with
  | nil => exact Spec.pure fun _ h => h
  | cons chunk rest ih =>
      refine Spec.bind (write_spec facts ?_) fun _ => ih
      intro tick disk after hgrown h hwrite
      cases hwrite
      exact ⟨hgrown.rewrite hnone hunder hne, hfacts _ _ h⟩

section Copying

variable {original : FilePath} {signature : FileInfo} {sourceHash : String}
  {parentIdentity : ℕ × ℕ}

theorem tempPath_ne {temp : TempName} (hsegment : segmentName relative.2 = some true) :
    temp.1 :: (pathIn target relative).tail ≠ pathIn target relative := by
  intro heq
  have hname : temp.1 = relative.2 := congrArg (fun path => path.headD "") heq
  have hfalse := segmentName_of_tempName temp.2
  rw [hname, hsegment] at hfalse
  cases hfalse

theorem copyFile_spec {temp : TempName} (hsegment : segmentName relative.2 = some true)
    (htemp : temporary = temp.1 :: (pathIn target relative).tail)
    (hnone : base.disk.find? temporary = none) :
    Spec (At env target base (OnlyTemp target temporary))
      (copyFile platform env original (pathIn target relative) temporary signature sourceHash
        parentIdentity)
      (fun _ => At env target base fun disk => OnlyTemp target temporary disk ∧
        Hashed platform (pathIn target relative) sourceHash signature.size disk)
      (Within env target base) := by
  have hunder : target <:+ temporary := by
    rw [htemp]
    exact (List.suffix_cons _ _).trans (List.suffix_cons _ _)
  have hne : temporary ≠ target := by
    intro heq
    have hlength := congrArg List.length heq
    rw [htemp] at hlength
    simp only [pathIn, List.tail_cons, List.length_cons] at hlength
    omega
  have htempPath : temporary ≠ pathIn target relative := by
    rw [htemp]
    exact tempPath_ne hsegment
  unfold copyFile
  refine look_keeps.bind fun content => ?_
  -- the temporary file
  refine Spec.bind (write_spec (OnlyTemp target temporary) ?_) fun _ => ?_
  · intro tick disk after hgrown hfacts hadd
    refine ⟨hgrown.add hadd hunder fun heq => absurd heq hne, ?_⟩
    intro home name hpath hname hother
    rw [(FileTree.add?_eq_some hadd).2, if_neg hother]
    exact hfacts home name hpath hname hother
  refine Spec.bind (checkSignature_spec.mono (fun _ _ h => h.mono fun _ hfacts => hfacts.1)
    fun _ h => h) fun _ => ?_
  refine Spec.bind (writeChunks_spec hnone hunder hne ?_) fun _ => ?_
  · intro disk f hfacts home name hpath hname hother
    rw [FileTree.find?_rewrite, if_neg hother]
    exact hfacts home name hpath hname hother
  refine Spec.bind (checkSignature_spec.mono (fun _ _ h => h.mono fun _ hfacts => hfacts.1)
    fun _ h => h) fun _ => ?_
  -- the comparison of the copy with the original
  refine look_keeps.bind fun copied => ?_
  refine require_spec.bind fun _ => ?_
  refine hash_spec.bind fun copiedHash => ?_
  refine require_spec.bind fun _ => ?_
  refine look_keeps.bind fun _ => ?_
  refine look_keeps.bind fun _ => ?_
  -- the copy gets its name
  refine Spec.bind (write_spec (fun disk => OnlyTemp target temporary disk ∧
    Hashed platform (pathIn target relative) sourceHash signature.size disk) ?_) fun _ => ?_
  · rintro tick disk after hgrown ⟨⟨⟨honly, hsize⟩, file, hfile, hhash, hlength⟩, heq⟩ hlink
    rw [hfile] at hlink
    change disk.add? (pathIn target relative) (.file file) = some after at hlink
    have hfind := (FileTree.add?_eq_some hlink).2
    refine ⟨hgrown.add hlink suffix_pathIn fun heq => absurd heq pathIn_ne_self, ?_, file, ?_, ?_,
      ?_⟩
    · intro home name hpath hname hother
      rw [hfind, if_neg, honly home name hpath hname hother]
      intro heq
      have hsame : name = relative.2 := congrArg (fun path => path.headD "") heq
      have hfalse := segmentName_of_tempName hname
      rw [hsame, hsegment] at hfalse
      cases hfalse
    · rw [FileTree.file?_eq_some, hfind, if_pos rfl]
    · rw [hhash]
      exact of_decide_eq_true heq
    · rw [hlength]
      exact of_decide_eq_true hsize
  refine write_spec _ ?_
  rintro tick disk after hgrown ⟨honly, file, hfile, hhash⟩ hremove
  have hfind := (FileTree.remove?_eq_some hremove).2
  refine ⟨hgrown.remove hremove hnone hunder hne, ?_, file, ?_, hhash⟩
  · intro home name hpath hname hother
    rw [hfind, if_neg hother]
    exact honly home name hpath hname hother
  · rw [FileTree.file?_eq_some] at hfile ⊢
    rw [hfind, if_neg htempPath.symm, hfile]

theorem checkCopy_spec :
    Spec (At env target base facts) (checkCopy platform env path signature sourceHash)
      (fun _ => At env target base fun disk =>
        facts disk ∧ Hashed platform path sourceHash signature.size disk)
      (Within env target base) := by
  refine look_keeps.bind fun copied => require_spec.bind fun _ => hash_spec.bind fun found => ?_
  refine require_spec.mono (fun _ _ h => h.mono ?_) fun _ h => h
  rintro disk ⟨⟨⟨hfacts, hsize⟩, file, hfile, hhash, hlength⟩, heq⟩
  refine ⟨hfacts, file, hfile, ?_, ?_⟩
  · rw [hhash]
    exact of_decide_eq_true heq
  · rw [hlength]
    exact of_decide_eq_true hsize

theorem mkdirMissing_spec (hunder : target <:+ path) (hfacts : ∀ disk after identity, facts disk →
      (∀ other, after.find? other =
        if other = path then some (.directory ⟨identity, .own⟩) else disk.find? other) →
      facts after) :
    Spec (At env target base facts) (mkdirMissing env path) (fun _ => At env target base facts)
      (Within env target base) := by
  refine look_keeps.bind fun present => ?_
  cases present with
  | true => exact Spec.pure fun _ h => h
  | false =>
      change Spec _ (mkdir env path) _ _
      refine write_spec facts ?_
      intro tick disk after hgrown h hadd
      exact ⟨hgrown.add hadd hunder fun _ => ⟨_, rfl⟩,
        hfacts disk after _ h (FileTree.add?_eq_some hadd).2⟩

theorem unlinkMissing_spec (hnone : base.disk.find? path = none) (hunder : target <:+ path)
    (hne : path ≠ target) (facts' : Disk → Prop)
    (hfacts : ∀ disk after, facts disk →
      (∀ other, after.find? other = if other = path then none else disk.find? other) →
      facts' after) :
    Spec (At env target base facts) (unlinkMissing env path) (fun _ => At env target base facts')
      (Within env target base) := by
  refine write_spec facts' ?_
  intro tick disk after hgrown h hunlink
  split at hunlink
  · rename_i habsent
    cases hunlink
    refine ⟨hgrown, hfacts disk disk h ?_⟩
    intro other
    split
    · rename_i heq
      rw [heq]
      exact Option.isNone_iff_eq_none.mp habsent
    · rfl
  · exact ⟨hgrown.remove hunlink hnone hunder hne,
      hfacts disk after h (FileTree.remove?_eq_some hunlink).2⟩

theorem copyMissing_spec (hpath : pathName relative.1 = true)
    (hsegment : segmentName relative.2 = some true) (hbase : NoTemps target base.disk) :
    Spec (At env target base (NoTemps target))
      (copyMissing platform env original (pathIn target relative) signature sourceHash)
      (fun _ => At env target base fun disk => NoTemps target disk ∧
        Hashed platform (pathIn target relative) sourceHash signature.size disk)
      (Within env target base) := by
  unfold copyMissing
  refine Spec.bind (mkdirMissing_spec (List.suffix_cons _ _) ?_) fun _ => ?_
  · intro disk after identity hfacts hfind home name hhome hname
    rw [hfind, if_neg pathIn_ne_tail]
    exact hfacts home name hhome hname
  refine look_keeps.bind fun parentIdentity => draw_spec.bind fun temp => ?_
  have hnone : base.disk.find? (temp.1 :: (pathIn target relative).tail) = none :=
    hbase relative.1 temp.1 hpath temp.2
  have hunder : target <:+ temp.1 :: (pathIn target relative).tail :=
    @suffix_pathIn target (relative.1, temp.1)
  have hne : temp.1 :: (pathIn target relative).tail ≠ target :=
    @pathIn_ne_self target (relative.1, temp.1)
  have hcopy := @copyFile_spec env platform target _ base relative original signature sourceHash
    parentIdentity temp hsegment rfl hnone
  have hclean : Spec (At env target base fun _ => True)
      (unlinkMissing env (temp.1 :: (pathIn target relative).tail))
      (fun _ => At env target base fun _ => True) (Within env target base) :=
    unlinkMissing_spec hnone hunder hne _ fun _ _ _ _ => trivial
  have hraised : Spec (Within env target base)
      (unlinkMissing env (temp.1 :: (pathIn target relative).tail))
      (fun _ => Within env target base) (Within env target base) :=
    (hclean.imp fun _ h => ⟨h, trivial⟩).mono (fun _ _ h => h.1) fun _ h => h
  refine (hcopy.imp fun _ h => h.mono fun _ hfacts home name hhome hname _ =>
    hfacts home name hhome hname).ensure (fun _ => unlinkMissing_spec hnone hunder hne _ ?_) hraised
  rintro disk after ⟨honly, file, hfile, hhash⟩ hfind
  constructor
  · -- the temporary file is gone
    intro home name hhome hname
    rw [hfind]
    split
    · rfl
    · rename_i hother
      exact honly home name hhome hname hother
  · refine ⟨file, ?_, hhash⟩
    rw [FileTree.file?_eq_some] at hfile ⊢
    rw [hfind, if_neg (tempPath_ne hsegment).symm, hfile]

theorem placeCopy_spec (hpath : pathName relative.1 = true)
    (hsegment : segmentName relative.2 = some true) (hbase : NoTemps target base.disk) :
    Spec (At env target base fun disk => disk = base.disk)
      (placeCopy platform env original (pathIn target relative) signature sourceHash)
      (fun _ => At env target base fun disk => NoTemps target disk ∧
        Hashed platform (pathIn target relative) sourceHash signature.size disk)
      (Within env target base) := by
  have hnotemps : ∀ disk, disk = base.disk → NoTemps target disk := by
    rintro disk rfl
    exact hbase
  refine look_keeps.bind fun present => ?_
  cases present with
  | true => exact (checkCopy_spec.imp fun _ h => h.mono hnotemps)
  | false => exact (copyMissing_spec hpath hsegment hbase).imp fun _ h => h.mono hnotemps

end Copying

/-! ## Copying all recordings -/

/-- A recording and its copy agree, as far as their hash and their size say. -/
def Verified (platform : Platform) (source target : FilePath) (relative : Path) (disk : Disk) :
    Prop :=
  ∃ original copy, disk.file? (pathIn source relative) = some original ∧
    disk.file? (pathIn target relative) = some copy ∧
    platform.digest original.content = platform.digest copy.content ∧
    original.content.length = copy.content.length

variable {source : FilePath} {targetIdentity : ℕ × ℕ} {signature : FileInfo}

theorem Verified.grown (h : Verified platform source target relative disk)
    (hgrown : Grown target disk after) : Verified platform source target relative after := by
  obtain ⟨original, copy, horiginal, hcopy, hsame⟩ := h
  exact ⟨original, copy, hgrown.file? horiginal, hgrown.file? hcopy, hsame⟩

theorem copyOne_spec (hpath : pathName relative.1 = true)
    (hsegment : segmentName relative.2 = some true) (hbase : NoTemps target base.disk) :
    Spec (At env target base fun disk => disk = base.disk)
      (copyOne platform env source target targetIdentity relative signature)
      (fun _ => At env target base fun disk =>
        NoTemps target disk ∧ Verified platform source target relative disk)
      (Within env target base) := by
  unfold copyOne
  refine hash_spec.bind fun sourceHash => ?_
  refine Spec.of_fact (Hashed platform (pathIn source relative) sourceHash signature.size
    base.disk) ?_ ?_
  · rintro world ⟨-, hdisk, hhashed⟩
    rwa [hdisk] at hhashed
  rintro ⟨original, horiginal, hhash, hlength⟩
  refine Spec.bind ((placeCopy_spec hpath hsegment hbase).imp fun _ h => h.mono fun _ hdisk =>
    hdisk.1) fun _ => ?_
  refine look_keeps.bind fun verified => touch_spec.bind fun _ => look_keeps.bind fun _ => ?_
  refine Spec.pure ?_
  rintro world ⟨hwithin, hnotemps, copy, hcopy, hcopyHash, hcopyLength⟩
  exact ⟨hwithin, hnotemps, original, copy, hwithin.grown.file? horiginal, hcopy,
    hhash.trans hcopyHash.symm, hlength.trans hcopyLength.symm⟩

theorem copyAll_spec {found : Inventory} {done : List Path} {start : World}
    (hnames : ∀ relative info, (relative, info) ∈ found →
      pathName relative.1 = true ∧ segmentName relative.2 = some true) :
    Spec (At env target start fun disk => NoTemps target disk ∧
        ∀ relative ∈ done, Verified platform source target relative disk)
      (copyAll platform env source target targetIdentity found)
      (fun verified => fun world => verified.map (·.1) = found.map (·.1) ∧
        At env target start (fun disk => ∀ relative ∈ done ++ found.map (·.1),
          Verified platform source target relative disk) world)
      (Within env target start) := by
  induction found generalizing done with
  | nil =>
      refine Spec.pure fun world h => ⟨rfl, h.mono fun disk hfacts => ?_⟩
      rw [List.map_nil, List.append_nil]
      exact hfacts.2
  | cons first rest ih =>
      obtain ⟨relative, signature⟩ := first
      obtain ⟨hpath, hsegment⟩ := hnames relative signature List.mem_cons_self
      -- the recording, from the world that the loop has reached
      have hone : Spec (At env target start fun disk => NoTemps target disk ∧
            ∀ relative ∈ done, Verified platform source target relative disk)
          (copyOne platform env source target targetIdentity relative signature)
          (fun _ => At env target start fun disk => NoTemps target disk ∧
            ∀ other ∈ done ++ [relative], Verified platform source target other disk)
          (Within env target start) := by
        refine Spec.of_start fun world ⟨hwithin, hnotemps, hdone⟩ => ?_
        refine ((copyOne_spec hpath hsegment hnotemps).imp ?_).mono ?_ fun _ h => hwithin.trans h
        · rintro other rfl
          exact ⟨Within.refl env target other, rfl⟩
        rintro _ ended ⟨hended, hnotemps, hverified⟩
        refine ⟨hwithin.trans hended, hnotemps, ?_⟩
        intro other hother
        rcases List.mem_append.mp hother with hother | hother
        · exact (hdone other hother).grown hended.grown
        · rwa [List.mem_singleton.mp hother]
      refine hone.bind fun verified => ?_
      refine (ih fun other info hmem => hnames other info (List.mem_cons_of_mem _ hmem)).bind
        fun others => Spec.pure ?_
      rintro world ⟨hothers, hall⟩
      refine ⟨?_, hall.mono fun disk hfacts => ?_⟩
      · rw [List.map_cons, List.map_cons, hothers]
      · rwa [List.map_cons, List.append_cons]

/-! ## The verified copy -/

theorem writeMarker_spec :
    Spec (At env target base fun _ => True) (writeMarker platform env source target)
      (fun _ => At env target base fun _ => True) (Within env target base) := by
  unfold writeMarker
  refine look_keeps.bind fun parentIdentity => draw_spec.bind fun temp => ?_
  have hunder : target <:+ temp.1 :: target := List.suffix_cons _ _
  have hne : temp.1 :: target ≠ target := List.cons_ne_self _ _
  refine Spec.bind (write_spec (fun _ => base.disk.find? (temp.1 :: target) = none) ?_)
    fun _ => ?_
  · intro tick disk after hgrown _ hadd
    exact ⟨hgrown.add hadd hunder fun heq => absurd heq hne,
      hgrown.find?_eq_none (FileTree.add?_eq_some hadd).1.find?_eq_none⟩
  refine Spec.of_fact (base.disk.find? (temp.1 :: target) = none) (fun _ h => h.2) fun hnone => ?_
  have hclean : Spec (At env target base fun _ => True) (unlinkMissing env (temp.1 :: target))
      (fun _ => At env target base fun _ => True) (Within env target base) :=
    unlinkMissing_spec hnone hunder hne _ fun _ _ _ _ => trivial
  refine Spec.ensure ?_ (fun _ => hclean)
    ((hclean.imp fun _ h => ⟨h, trivial⟩).mono (fun _ _ h => h.1) fun _ h => h)
  refine Spec.bind (write_spec (fun _ => True) ?_) fun _ => ?_
  · intro tick disk after hgrown _ hwrite
    cases hwrite
    exact ⟨hgrown.rewrite hnone hunder hne, trivial⟩
  refine look_keeps.bind fun _ => look_keeps.bind fun _ => ?_
  refine Spec.bind (write_spec (fun _ => True) ?_) fun _ => ?_
  · intro tick disk after hgrown _ hrename
    obtain ⟨file, -, hfile⟩ := Option.bind_eq_some_iff.mp hrename
    obtain ⟨middle, hadd, hremove⟩ := Option.bind_eq_some_iff.mp hfile
    have hmiddle := hgrown.add hadd (List.suffix_cons _ _)
      fun heq => absurd heq (List.cons_ne_self _ _)
    exact ⟨hmiddle.remove hremove hnone hunder hne, trivial⟩
  exact look_keeps.bind fun _ => Spec.pure fun _ h => h

theorem prepareMarker_spec :
    Spec (At env target base fun _ => True) (prepareMarker platform env source target)
      (fun _ => At env target base fun _ => True) (Within env target base) := by
  refine look_keeps.bind fun present => ?_
  cases present with
  | true =>
      rw [if_pos rfl]
      exact look_keeps
  | false => exact look_keeps.bind fun _ => writeMarker_spec

def IsRecording (relative : Path) : Prop :=
  pathName relative.1 = true ∧ segmentName relative.2 = some true

/-- Two contents with one hash. -/
def Collision (platform : Platform) (first second : List UInt8) : Prop :=
  first ≠ second ∧ platform.digest first = platform.digest second

/-- The target has exactly the recordings of the source, with the same contents, or there is
a collision of the hash. -/
structure Migrated (platform : Platform) (source target : FilePath) (disk : Disk) : Prop where
  names : ∀ relative, IsRecording relative →
    ((disk.find? (pathIn source relative)).isSome ↔ (disk.find? (pathIn target relative)).isSome)
  contents : ∀ relative original, IsRecording relative →
    disk.file? (pathIn source relative) = some original →
    ∃ copy, disk.file? (pathIn target relative) = some copy ∧
      (copy.content = original.content ∨ Collision platform original.content copy.content)

theorem InventorySpec.mem_iff {root : FilePath} {detect : Bool} {found : Inventory}
    (h : InventorySpec disk root detect found) (hrecording : IsRecording relative) :
    relative ∈ found.map (·.1) ↔ (disk.find? (pathIn root relative)).isSome := by
  constructor
  · intro hmem
    obtain ⟨⟨other, info⟩, hother, rfl⟩ := List.mem_map.mp hmem
    obtain ⟨-, -, hinfo⟩ := h.listed other info hother
    obtain ⟨file, hfile, -⟩ := file?_of_fileInfo hinfo
    rw [FileTree.file?_eq_some.mp hfile]
    rfl
  · exact h.complete relative hrecording.1 hrecording.2

theorem migrated_of_inventories {found verified sourceAgain targetAgain : Inventory}
    (hsource : inventory disk source false = .ok sourceAgain)
    (htarget : inventory disk target true = .ok targetAgain)
    (hsourcePerm : sourceAgain.isPerm found) (htargetPerm : targetAgain.isPerm verified)
    (hnames : verified.map (·.1) = found.map (·.1))
    (hverified : ∀ relative ∈ found.map (·.1), Verified platform source target relative disk) :
    Migrated platform source target disk := by
  have hsourceNames : ∀ relative, relative ∈ sourceAgain.map (·.1) ↔ relative ∈ found.map (·.1) :=
    fun relative => ((List.isPerm_iff.mp hsourcePerm).map _).mem_iff
  have htargetNames : ∀ relative, relative ∈ targetAgain.map (·.1) ↔ relative ∈ found.map (·.1) := by
    intro relative
    rw [← hnames]
    exact ((List.isPerm_iff.mp htargetPerm).map _).mem_iff
  have hsourceSpec := inventory_spec hsource
  have htargetSpec := inventory_spec htarget
  constructor
  case names =>
    intro relative hrecording
    rw [← hsourceSpec.mem_iff hrecording, ← htargetSpec.mem_iff hrecording, hsourceNames,
      htargetNames]
  case contents =>
    intro relative original hrecording horiginal
    have hmem : relative ∈ found.map (·.1) := by
      rw [← hsourceNames, hsourceSpec.mem_iff hrecording, FileTree.file?_eq_some.mp horiginal]
      rfl
    obtain ⟨file, copy, hfile, hcopy, hhash, -⟩ := hverified relative hmem
    obtain rfl : original = file := Option.some.inj (horiginal.symm.trans hfile)
    refine ⟨copy, hcopy, ?_⟩
    by_cases heq : copy.content = original.content
    · exact .inl heq
    · exact .inr ⟨Ne.symm heq, hhash⟩

theorem checkedTarget_eq_ok {root value active found : FilePath}
    (h : checkedTarget disk root value active = .ok found) : found = value := by
  unfold checkedTarget at h
  split at h
  · exact (Except.ok.inj h).symm
  · cases h

theorem copyVerified_spec {document : SettingsDocument} {pending : FilePath} :
    Spec (fun world => world = base) (copyVerified platform env document source pending)
      (fun found world => found = pending ∧
        At env pending base (Migrated platform source pending) world)
      (Within env pending base) := by
  suffices h : Spec (At env pending base fun _ => True)
      (copyVerified platform env document source pending)
      (fun found world => found = pending ∧
        At env pending base (Migrated platform source pending) world)
      (Within env pending base) by
    refine h.imp ?_
    rintro world rfl
    exact ⟨Within.refl env pending world, trivial⟩
  unfold copyVerified
  refine touch_spec.bind fun _ => look_keeps.bind fun sourceIdentity => ?_
  refine look_spec.bind fun target => ?_
  refine Spec.of_fact (target = pending) (fun _ h => checkedTarget_eq_ok h.2.2) ?_
  rintro rfl
  refine Spec.bind ((mkdirMissing_spec List.suffix_rfl fun _ _ _ _ _ => trivial).imp
    fun _ h => h.mono fun _ _ => (trivial : (fun _ : Disk => True) _)) fun _ => ?_
  refine look_keeps.bind fun targetIdentity => draw_spec.bind fun capacity => ?_
  refine Spec.bind (require_spec.mono (fun _ _ h => h.mono fun _ _ => trivial) fun _ h => h)
    fun _ => ?_
  refine prepareMarker_spec.bind fun _ => ?_
  -- the inventories, and the loop over the first
  refine look_spec.bind fun found => ?_
  refine Spec.of_fact (∀ relative info, (relative, info) ∈ found →
    pathName relative.1 = true ∧ segmentName relative.2 = some true) ?_ fun hnames => ?_
  · intro world h relative info hmem
    obtain ⟨hpath, hsegment, -⟩ := (inventory_spec h.2.2).listed relative info hmem
    exact ⟨hpath, hsegment⟩
  refine look_spec.bind fun existing => require_spec.bind fun _ => ?_
  refine Spec.bind ((@copyAll_spec env platform target source targetIdentity found [] base
    hnames).imp fun _ h => h.mono ?_) fun verified => ?_
  · rintro disk ⟨⟨-, hexisting⟩, -⟩
    exact ⟨(inventory_spec hexisting).noTemps rfl, fun _ hnone => absurd hnone List.not_mem_nil⟩
  refine Spec.of_fact (verified.map (·.1) = found.map (·.1)) (fun _ h => h.1) fun hverified => ?_
  refine Spec.imp ?_ fun _ h => h.2
  -- the inventories behind the loop
  refine look_spec.bind fun sourceAgain => require_spec.bind fun _ => ?_
  refine look_spec.bind fun targetAgain => require_spec.bind fun _ => ?_
  refine look_keeps.bind fun _ => look_keeps.bind fun _ => Spec.pure fun world h => ⟨rfl, ?_⟩
  refine h.mono ?_
  rintro disk ⟨⟨⟨⟨hall, hsource⟩, hsourcePerm⟩, htarget⟩, htargetPerm⟩
  exact migrated_of_inventories hsource htarget hsourcePerm htargetPerm hverified hall

end K5Vision.Storage
