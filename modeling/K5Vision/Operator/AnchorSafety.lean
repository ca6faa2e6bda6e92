import K5Vision.Operator.ComponentAnchors
import K5Vision.Operator.EventPages
import K5Vision.Operator.FullAdministrator
import Mathlib.Data.List.Perm.Subperm

/-!
# Lost and unfinished component files

A sealed component is never given a new data file, and a component that is not sealed is given one
by its next start, however often earlier starts have crashed — unless one of them has crashed
behind the creation of a database and before its tables.

## Strategy

* `RowsValid` is the invariant of the table of anchors.  Under it a seal adds one row, and the
  admission by the anchor is a matter of this row (`anchorAdmits_iff`).
* `openComponent_spec` is the contract of a constructor with a crash anywhere: it comes to its
  end as `Opened` says, or ends early as `Left` says, which names the reasons.
* Everything about histories follows from `start_cases`.
-/

namespace K5Vision.Operator.ComponentState

open Library Handler

/-! ## The table of anchors -/

/-- Rows of different components of the site. -/
structure RowsValid (siteId : String) (rows : List AnchorRow) : Prop where
  nodup : (rows.map (·.component)).Nodup
  rows : ∀ row ∈ rows, row.siteId = siteId ∧ row.component ∈ components ∧ row.schemaVersion = 1

variable {siteId component : String} {rows : List AnchorRow}

theorem rowsValid_nil : RowsValid siteId [] :=
  ⟨List.nodup_nil, fun _ hrow => absurd hrow (List.not_mem_nil)⟩

theorem RowsValid.length_le (h : RowsValid siteId rows) : rows.length ≤ components.length := by
  have hsub : rows.map (·.component) ⊆ components := by
    intro name hname
    obtain ⟨row, hrow, rfl⟩ := List.mem_map.mp hname
    exact (h.rows row hrow).2.1
  have hle := (h.nodup.subperm hsub).length_le
  rwa [List.length_map] at hle

theorem RowsValid.admitted (h : RowsValid siteId rows) : rowsAdmitted siteId rows = true := by
  have htake : rows.take 7 = rows := List.take_of_length_le (h.length_le.trans (by decide))
  unfold rowsAdmitted
  rw [htake]
  simp only [Bool.and_eq_true, decide_eq_true_eq, List.all_eq_true, List.contains_iff_mem]
  exact ⟨⟨h.length_le, h.nodup⟩, fun row hrow =>
    ⟨⟨(h.rows row hrow).1, (h.rows row hrow).2.1⟩, (h.rows row hrow).2.2⟩⟩

theorem RowsValid.eq_row (h : RowsValid siteId rows) {row : AnchorRow} (hrow : row ∈ rows)
    (hname : row.component = component) : row = ⟨siteId, component, 1⟩ := by
  obtain ⟨hsite, -, hversion⟩ := h.rows row hrow
  cases row
  cases hsite
  cases hversion
  cases hname
  rfl

theorem RowsValid.schemaVersion_of_mem (h : RowsValid siteId rows)
    (hmem : ⟨siteId, component, 1⟩ ∈ rows) : schemaVersion siteId component rows = some 1 := by
  have hsome : (rows.find? fun row => row.siteId = siteId && row.component = component).isSome := by
    rw [List.find?_isSome]
    exact ⟨_, hmem, by simp⟩
  obtain ⟨row, hrow⟩ := Option.isSome_iff_exists.mp hsome
  unfold schemaVersion
  rw [hrow]
  exact congrArg some (h.rows row (List.mem_of_find?_eq_some hrow)).2.2

theorem RowsValid.schemaVersion_of_not_mem (h : RowsValid siteId rows)
    (hmem : ⟨siteId, component, 1⟩ ∉ rows) : schemaVersion siteId component rows = none := by
  unfold schemaVersion
  rw [Option.map_eq_none_iff, List.find?_eq_none]
  intro row hrow hfound
  simp only [Bool.and_eq_true, decide_eq_true_eq] at hfound
  exact hmem (h.eq_row hrow hfound.2 ▸ hrow)

/-- With valid rows it is only a sealed component without its file that is refused. -/
theorem anchorAdmits_iff {anchors : Option (List AnchorRow)} {present : Bool}
    (h : RowsValid siteId (anchors.getD [])) (hcomponent : component ∈ components) :
    anchorAdmits siteId component present anchors = true ↔
      (⟨siteId, component, 1⟩ ∈ anchors.getD [] → present = true) := by
  have hcontains : components.contains component = true := List.contains_iff_mem.mpr hcomponent
  unfold anchorAdmits
  rw [hcontains, Bool.true_and]
  cases anchors with
  | none => exact iff_of_true rfl fun hmem => absurd hmem List.not_mem_nil
  | some rows =>
      have hvalid : validate siteId (some rows) = some true := if_pos h.admitted
      rw [hvalid]
      by_cases hmem : ⟨siteId, component, 1⟩ ∈ rows
      · have hversion := h.schemaVersion_of_mem hmem
        dsimp only
        rw [hversion]
        simp [hmem]
      · have hversion := h.schemaVersion_of_not_mem hmem
        dsimp only
        rw [hversion]
        exact iff_of_true rfl fun hsealed => absurd hsealed hmem

theorem RowsValid.mem_insert (h : RowsValid siteId rows) {row : AnchorRow} :
    row ∈ insertAnchor siteId component rows ↔ row ∈ rows ∨ row = ⟨siteId, component, 1⟩ := by
  unfold insertAnchor
  split
  · rename_i hany
    rw [List.any_eq_true] at hany
    obtain ⟨found, hfound, hsame⟩ := hany
    simp only [Bool.and_eq_true, decide_eq_true_eq] at hsame
    have heq := h.eq_row hfound hsame.2
    rw [or_iff_left_of_imp]
    rintro rfl
    exact heq ▸ hfound
  · rw [List.mem_append, List.mem_singleton]

theorem RowsValid.insert (h : RowsValid siteId rows) (hcomponent : component ∈ components) :
    RowsValid siteId (insertAnchor siteId component rows) := by
  constructor
  case rows =>
    intro row hrow
    rcases h.mem_insert.mp hrow with hold | rfl
    · exact h.rows row hold
    · exact ⟨rfl, hcomponent, rfl⟩
  case nodup =>
    unfold insertAnchor
    split
    · exact h.nodup
    rename_i hnone
    rw [List.map_append, List.nodup_append]
    refine ⟨h.nodup, List.nodup_singleton _, ?_⟩
    intro name hname other hother
    obtain ⟨row, hrow, rfl⟩ := List.mem_map.mp hname
    cases List.mem_singleton.mp hother
    intro hsame
    refine hnone (List.any_eq_true.mpr ⟨row, hrow, ?_⟩)
    simp only [Bool.and_eq_true, decide_eq_true_eq]
    exact ⟨(h.rows row hrow).1, hsame⟩

theorem RowsValid.sealAnchor {anchors : Option (List AnchorRow)}
    (h : RowsValid siteId (anchors.getD [])) (hcomponent : component ∈ components) :
    ∃ rows, sealAnchor siteId component anchors = some rows ∧ RowsValid siteId rows ∧
      ∀ row, row ∈ rows ↔ row ∈ anchors.getD [] ∨ row = ⟨siteId, component, 1⟩ := by
  have hversion := (h.insert hcomponent).schemaVersion_of_mem (h.mem_insert.mpr (.inr rfl))
  refine ⟨_, ?_, h.insert hcomponent, fun row => h.mem_insert⟩
  unfold ComponentState.sealAnchor
  dsimp only
  rw [h.admitted, if_neg (by decide), if_pos hversion]

/-! ## New data files -/

theorem mem_components (component : StateComponent) : component.value ∈ components := by
  cases component <;> decide

variable {δ : Type} [DecidableEq δ] {site : Site δ} {component : StateComponent}

theorem PolicyState.isValid_new (policy : RolePolicy) : policy.isValid ⟨1, .empty, .empty⟩ = true :=
  rfl

theorem admits_new (site : Site δ) (component : StateComponent) :
    site.admits component (site.new component) = true := by
  cases component with
  | roles => simp [Site.admits, Site.new, PolicyState.isValid_new]
  | audit =>
      simp [Site.admits, Site.new, Audit.verifyChain, Audit.stateAdmitted, Audit.chainFrom]
  | personEvents => simp [Site.admits, Site.new]

/-! ## The contract of a constructor -/

section Contract

variable {base disk : Disk δ} {crash : Option ℕ} {i : ℕ}

/-- The data file of an opened component: new, or the one that was there. -/
def FileReady (site : Site δ) (component : StateComponent) (base disk : Disk δ) : Prop :=
  base.files component = none ∧ ¬ Sealed site component base ∧
      disk.files component = some (some (site.new component)) ∨
    ∃ contents, base.files component = some (some contents) ∧
      site.admits component contents = true ∧ disk.files component = base.files component

/-- A constructor has come to its `seal`. -/
structure Ready (site : Site δ) (component : StateComponent) (base disk : Disk δ) : Prop where
  others : ∀ other, other ≠ component → disk.files other = base.files other
  anchors : disk.anchors = base.anchors
  file : FileReady site component base disk

/-- A constructor has come to its end. -/
structure Opened (site : Site δ) (component : StateComponent) (base disk : Disk δ) : Prop where
  others : ∀ other, other ≠ component → disk.files other = base.files other
  rowsValid : RowsValid site.siteId (disk.anchors.getD [])
  rows : ∀ row, row ∈ disk.anchors.getD [] ↔
    row ∈ base.anchors.getD [] ∨ row = ⟨site.siteId, component.value, 1⟩
  file : FileReady site component base disk

/-- A constructor has ended early. -/
structure Left (site : Site δ) (component : StateComponent) (base : Disk δ) (crash : Option ℕ)
    (disk : Disk δ) : Prop where
  others : ∀ other, other ≠ component → disk.files other = base.files other
  anchors : disk.anchors = base.anchors
  /-- A new file has its contents, but for one crash of a constructor with a database. -/
  file : disk.files component = base.files component ∨
    base.files component = none ∧ ¬ Sealed site component base ∧
      (disk.files component = some (some (site.new component)) ∨
        component ≠ .roles ∧ crash = some 3 ∧ disk.files component = some none)
  cause : crash ≠ none ∨ (Sealed site component base ∧ base.files component = none) ∨
    ∃ file, base.files component = some file ∧
      ∀ contents, file = some contents → site.admits component contents = false

theorem Left.unchanged
    (hcause : crash ≠ none ∨ (Sealed site component base ∧ base.files component = none) ∨
      ∃ file, base.files component = some file ∧
        ∀ contents, file = some contents → site.admits component contents = false) :
    Left site component base crash base :=
  ⟨fun _ _ => rfl, rfl, .inl rfl, hcause⟩

theorem Left.of_crash (hcrash : crash = some i) : Left site component base crash base :=
  .unchanged (.inl (by rw [hcrash]; exact Option.some_ne_none i))

theorem Ready.left (h : Ready site component base disk) (hcrash : crash = some i) :
    Left site component base crash disk := by
  refine ⟨h.others, h.anchors, ?_, .inl (by rw [hcrash]; exact Option.some_ne_none i)⟩
  rcases h.file with ⟨hnone, hsealed, hnew⟩ | ⟨contents, -, -, hsame⟩
  · exact .inr ⟨hnone, hsealed, .inl hnew⟩
  · exact .inl hsame

theorem Ready.of_eq_files (h : Ready site component base disk) {after : Disk δ}
    (hanchors : after.anchors = disk.anchors) (hfiles : after.files = disk.files) :
    Ready site component base after :=
  ⟨hfiles ▸ h.others, hanchors.trans h.anchors, by
    unfold FileReady
    rw [hfiles]
    exact h.file⟩

theorem ready_put (hnone : base.files component = none) (hsealed : ¬ Sealed site component base)
    (hothers : ∀ other, other ≠ component → disk.files other = base.files other)
    (hanchors : disk.anchors = base.anchors) :
    Ready site component base (disk.put component (some (some (site.new component)))) := by
  constructor
  case others =>
    intro other hother
    exact (Function.update_of_ne hother _ _).trans (hothers other hother)
  case anchors => exact hanchors
  case file => exact .inl ⟨hnone, hsealed, Function.update_self _ _ _⟩

theorem fileExists_spec {pre : Disk δ → Prop} (hpre : ∀ disk, pre disk → disk = base) :
    Spec (Reached crash i pre) (durable (fileExists component))
      (fun present => Reached crash (i + 1) fun disk => pre disk ∧
        present = (base.files component).isSome)
      (fun world => Left site component base crash world.state) := by
  refine durable_spec ?_ ?_ ?_
  case _ =>
    intro disk hdisk hcrash
    cases hpre disk hdisk
    exact .of_crash hcrash
  case _ =>
    intro disk _ hnone
    cases hnone
  case _ =>
    intro disk present after hdisk hdone
    cases hdone
    cases hpre disk hdisk
    exact ⟨hdisk, rfl⟩

theorem admitAnchor_spec {present : Bool} (hvalid : RowsValid site.siteId (base.anchors.getD [])) :
    Spec (Reached crash i fun disk => disk = base ∧ present = (base.files component).isSome)
      (durable (admitAnchor site component present))
      (fun _ => Reached crash (i + 1) fun disk => disk = base ∧
        (Sealed site component base → (base.files component).isSome))
      (fun world => Left site component base crash world.state) := by
  have hadmits := @anchorAdmits_iff site.siteId component.value base.anchors present hvalid
    (mem_components component)
  refine durable_spec ?_ ?_ ?_
  case _ =>
    rintro disk ⟨rfl, -⟩ hcrash
    exact .of_crash hcrash
  case _ =>
    rintro disk ⟨rfl, hpresent⟩ hrefused
    refine .unchanged (.inr (.inl ?_))
    unfold admitAnchor at hrefused
    split at hrefused
    · cases hrefused
    · rename_i hnot
      rw [hadmits, Classical.not_imp, hpresent, Option.not_isSome_iff_eq_none] at hnot
      exact hnot
  case _ =>
    rintro disk _ after ⟨rfl, hpresent⟩ hdone
    unfold admitAnchor at hdone
    split at hdone
    · rename_i hadmitted
      cases hdone
      rw [hadmits, hpresent] at hadmitted
      exact ⟨rfl, hadmitted⟩
    · cases hdone

theorem verify_spec : Spec (Reached crash i fun disk => Ready site component base disk ∨
        disk = base ∧ (base.files component).isSome)
      (durable (verify site component))
      (fun _ => Reached crash (i + 1) (Ready site component base))
      (fun world => Left site component base crash world.state) := by
  have hready : ∀ disk, Ready site component base disk →
      verify site component disk = some ((), disk) := by
    intro disk hdisk
    unfold verify
    rcases hdisk.file with ⟨-, -, hnew⟩ | ⟨contents, hfile, hadmits, hsame⟩
    · rw [hnew]
      exact if_pos (admits_new site component)
    · rw [hsame, hfile]
      exact if_pos hadmits
  refine durable_spec ?_ ?_ ?_
  case _ =>
    rintro disk (hdisk | ⟨rfl, -⟩) hcrash
    · exact hdisk.left hcrash
    · exact .of_crash hcrash
  case _ =>
    rintro disk (hdisk | ⟨rfl, hsome⟩) hrefused
    · rw [hready disk hdisk] at hrefused
      cases hrefused
    obtain ⟨file, hfile⟩ := Option.isSome_iff_exists.mp hsome
    refine .unchanged (.inr (.inr ⟨file, hfile, ?_⟩))
    rintro contents rfl
    unfold verify at hrefused
    rw [hfile] at hrefused
    dsimp only at hrefused
    split at hrefused
    · cases hrefused
    · rename_i hnot
      exact eq_false_of_ne_true hnot
  case _ =>
    rintro disk _ after (hdisk | ⟨rfl, hsome⟩) hdone
    · rw [hready disk hdisk] at hdone
      cases hdone
      exact hdisk
    obtain ⟨file, hfile⟩ := Option.isSome_iff_exists.mp hsome
    unfold verify at hdone
    rw [hfile] at hdone
    cases file with
    | none => cases hdone
    | some contents =>
        dsimp only at hdone
        split at hdone
        · rename_i hadmits
          cases hdone
          exact ⟨fun _ _ => rfl, rfl, .inr ⟨contents, hfile, hadmits, rfl⟩⟩
        · cases hdone

theorem commitSeal_spec (hvalid : RowsValid site.siteId (base.anchors.getD [])) :
    Spec (Reached crash i (Ready site component base)) (durable (commitSeal site component))
      (fun _ => Reached crash (i + 1) (Opened site component base))
      (fun world => Left site component base crash world.state) := by
  obtain ⟨rows, hseal, hrows, hmem⟩ := hvalid.sealAnchor (mem_components component)
  have hcommit : ∀ disk, Ready site component base disk →
      commitSeal site component disk = some ((), { disk with anchors := some rows }) := by
    intro disk hdisk
    unfold commitSeal
    rw [hdisk.anchors, hseal]
    rfl
  refine durable_spec (fun disk hdisk hcrash => hdisk.left hcrash) ?_ ?_
  case _ =>
    intro disk hdisk hrefused
    rw [hcommit disk hdisk] at hrefused
    cases hrefused
  case _ =>
    intro disk _ after hdisk hdone
    rw [hcommit disk hdisk] at hdone
    cases hdone
    exact ⟨hdisk.others, hrows, hmem, hdisk.file⟩

theorem openDatabase_spec (hdatabase : component ≠ .roles)
    (hvalid : RowsValid site.siteId (base.anchors.getD [])) :
    Spec (Reached crash 0 fun disk => disk = base) (openDatabase site component)
      (fun _ world => Opened site component base world.state)
      (fun world => Left site component base crash world.state) := by
  have hlast : ∀ i, Spec (Reached crash i (Ready site component base))
      (durable (commitSeal site component))
      (fun _ world => Opened site component base world.state)
      (fun world => Left site component base crash world.state) := fun i =>
    (commitSeal_spec hvalid).mono (fun _ _ hdone => hdone.1) fun _ hleft => hleft
  have hcreate : ∀ i, Spec
      (Reached crash i fun disk => disk = base ∧
        (Sealed site component base → (base.files component).isSome))
      (durable (create component))
      (fun created => Reached crash (i + 1) fun disk =>
        if created then base.files component = none ∧ ¬ Sealed site component base ∧
          disk = base.put component (some none)
        else disk = base ∧ (base.files component).isSome)
      (fun world => Left site component base crash world.state) := by
    intro i
    refine durable_spec ?_ ?_ ?_
    case _ =>
      rintro disk ⟨rfl, -⟩ hcrash
      exact .of_crash hcrash
    case _ =>
      rintro disk - hrefused
      unfold create at hrefused
      split at hrefused <;> cases hrefused
    case _ =>
      rintro disk created after ⟨rfl, hsealed⟩ hdone
      unfold create at hdone
      split at hdone
      · rename_i hnone
        cases hdone
        rw [hnone] at hsealed
        exact ⟨hnone, fun h => absurd (hsealed h) Bool.false_ne_true, rfl⟩
      · rename_i file hfile
        cases hdone
        exact ⟨rfl, hfile ▸ rfl⟩
  -- a crash in front of the tables leaves the file without them
  have htables : Spec
      (Reached crash 3 fun disk => base.files component = none ∧ ¬ Sealed site component base ∧
        disk = base.put component (some none))
      (durable (createTables site component))
      (fun _ => Reached crash 4 (Ready site component base))
      (fun world => Left site component base crash world.state) := by
    have hothers : ∀ other, other ≠ component →
        (base.put component (some none)).files other = base.files other := fun other hother =>
      Function.update_of_ne hother _ _
    refine durable_spec ?_ ?_ ?_
    case _ =>
      rintro disk ⟨hnone, hsealed, rfl⟩ hcrash
      refine ⟨hothers, rfl, .inr ⟨hnone, hsealed, .inr ⟨hdatabase, hcrash, ?_⟩⟩, .inl ?_⟩
      · exact Function.update_self _ _ _
      · rw [hcrash]
        exact Option.some_ne_none 3
    case _ =>
      rintro disk - hrefused
      cases hrefused
    case _ =>
      rintro disk _ after ⟨hnone, hsealed, rfl⟩ hdone
      cases hdone
      exact ready_put hnone hsealed hothers rfl
  unfold openDatabase
  refine Spec.bind (fileExists_spec fun _ h => h) fun present => ?_
  refine Spec.bind (admitAnchor_spec hvalid) fun _ => ?_
  refine Spec.bind (hcreate 2) fun created => ?_
  cases created with
  | true =>
      refine Spec.bind (htables.imp fun _ h => h) fun _ => ?_
      exact Spec.bind (verify_spec.imp fun _ h => ⟨.inl h.1, h.2⟩) fun _ => hlast 5
  | false =>
      refine Spec.bind (verify_spec.imp ?_) fun _ => hlast 4
      exact fun _ h => ⟨.inr h.1, h.2⟩

theorem openRoles_spec (hvalid : RowsValid site.siteId (base.anchors.getD [])) :
    Spec (Reached crash 0 fun disk => disk = base) (openRoles site)
      (fun _ world => Opened site .roles base world.state)
      (fun world => Left site .roles base crash world.state) := by
  have hlast : ∀ i, Spec (Reached crash i (Ready site .roles base))
      (durable (commitSeal site .roles))
      (fun _ world => Opened site .roles base world.state)
      (fun world => Left site .roles base crash world.state) := fun i =>
    (commitSeal_spec hvalid).mono (fun _ _ hdone => hdone.1) fun _ hleft => hleft
  have hwrite : ∀ disk : Disk δ, writeTemporary site (site.new .roles) disk =
      some ((), { disk with temporaries := site.new .roles :: disk.temporaries }) := fun _ =>
    if_pos site.fits_new
  have htemporary : Spec
      (Reached crash 3 fun disk => (disk = base ∧
        (Sealed site .roles base → (base.files .roles).isSome)) ∧
        false = (base.files .roles).isSome)
      (durable (writeTemporary site (site.new .roles)))
      (fun _ => Reached crash 4 fun disk => base.files .roles = none ∧ ¬ Sealed site .roles base ∧
        disk.files = base.files ∧ disk.anchors = base.anchors)
      (fun world => Left site .roles base crash world.state) := by
    refine durable_spec ?_ ?_ ?_
    case _ =>
      rintro disk ⟨⟨rfl, -⟩, -⟩ hcrash
      exact .of_crash hcrash
    case _ =>
      rintro disk - hrefused
      rw [hwrite] at hrefused
      cases hrefused
    case _ =>
      rintro disk _ after ⟨⟨rfl, hsealed⟩, hmissing⟩ hdone
      rw [hwrite] at hdone
      cases hdone
      have hnone : disk.files .roles = none :=
        Option.isNone_iff_eq_none.mp (Option.isSome_eq_false_iff.mp hmissing.symm)
      rw [hnone] at hsealed
      exact ⟨hnone, fun h => absurd (hsealed h) Bool.false_ne_true, rfl, rfl⟩
  have hreplace : Spec
      (Reached crash 4 fun disk => base.files .roles = none ∧ ¬ Sealed site .roles base ∧
        disk.files = base.files ∧ disk.anchors = base.anchors)
      (durable (replaceRoles (site.new .roles))) (fun _ => Reached crash 5 (Ready site .roles base))
      (fun world => Left site .roles base crash world.state) := by
    refine durable_spec ?_ ?_ ?_
    case _ =>
      rintro disk ⟨-, -, hfiles, hanchors⟩ hcrash
      refine ⟨fun other _ => congrFun hfiles other, hanchors, .inl (congrFun hfiles _), .inl ?_⟩
      rw [hcrash]
      exact Option.some_ne_none 4
    case _ =>
      rintro disk - hrefused
      cases hrefused
    case _ =>
      rintro disk _ after ⟨hnone, hsealed, hfiles, hanchors⟩ hdone
      cases hdone
      exact (ready_put hnone hsealed (fun other _ => congrFun hfiles other) hanchors).of_eq_files
        rfl rfl
  unfold openRoles
  refine Spec.bind (fileExists_spec fun _ h => h) fun present => ?_
  refine Spec.bind (admitAnchor_spec hvalid) fun _ => ?_
  refine Spec.bind (fileExists_spec fun _ h => h.1) fun present => ?_
  cases present with
  | true =>
      refine Spec.bind (verify_spec.imp ?_) fun _ => hlast 4
      rintro world ⟨⟨⟨hsame, -⟩, hsome⟩, hcount⟩
      exact ⟨.inr ⟨hsame, hsome.symm⟩, hcount⟩
  | false =>
      refine Spec.bind htemporary fun _ => ?_
      exact Spec.bind hreplace fun _ => hlast 5

theorem openComponent_spec (hvalid : RowsValid site.siteId (base.anchors.getD [])) :
    Spec (Reached crash 0 fun disk => disk = base) (openComponent site component)
      (fun _ world => Opened site component base world.state)
      (fun world => Left site component base crash world.state) := by
  cases component with
  | roles => exact openRoles_spec hvalid
  | audit => exact openDatabase_spec (by decide) hvalid
  | personEvents => exact openDatabase_spec (by decide) hvalid

end Contract

/-! ## Histories -/

section Histories

variable {system initial state : System δ} {event : Event δ} {events : List (Event δ)}
  {crash : Option ℕ}

/-- A start ends as its constructor does, and no start opens another component. -/
theorem start_cases (hvalid : RowsValid site.siteId (system.disk.anchors.getD []))
    (component : StateComponent) (crash : Option ℕ) :
    let after := step site system (.start component crash)
    Opened site component system.disk after.disk ∧
        after.opened = Function.update system.opened component true ∨
      Left site component system.disk crash after.disk ∧ after.opened component = false ∧
        ∀ other, after.opened other = true → system.opened other = true := by
  have hspec := @openComponent_spec δ _ site component system.disk crash hvalid
  dsimp only
  unfold step
  dsimp only
  cases hexec : (openComponent site component).exec ⟨system.disk, crash⟩ with
  | mk outcome world =>
      cases outcome with
      | ok => exact .inl ⟨hspec.of_ok (reached_start rfl) hexec, rfl⟩
      | error reason =>
          refine .inr ⟨?_, ?_⟩
          · cases reason <;> exact hspec.of_error (reached_start rfl) hexec
          cases reason with
          | crashed => exact ⟨rfl, fun other hother => absurd hother Bool.false_ne_true⟩
          | refused =>
              refine ⟨Function.update_self _ _ _, fun other hother => ?_⟩
              by_cases heq : other = component
              · subst heq
                change Function.update system.opened other false other = true at hother
                rw [Function.update_self] at hother
                cases hother
              · change Function.update system.opened component false other = true at hother
                rwa [Function.update_of_ne heq] at hother

theorem Opened.sealed_iff {base disk : Disk δ} (h : Opened site component base disk)
    (other : StateComponent) :
    Sealed site other disk ↔ Sealed site other base ∨ other = component := by
  unfold Sealed
  rw [h.rows]
  refine or_congr_right ⟨fun hrow => ?_, fun heq => heq ▸ rfl⟩
  have hvalue : other.value = component.value := congrArg AnchorRow.component hrow
  revert hvalue
  cases other <;> cases component <;> decide

theorem Left.sealed_iff {base disk : Disk δ} (h : Left site component base crash disk)
    (other : StateComponent) : Sealed site other disk ↔ Sealed site other base := by
  unfold Sealed
  rw [h.anchors]

theorem sealOther_sealed_iff (hvalid : RowsValid site.siteId (system.disk.anchors.getD []))
    {name : String} (hname : name ∈ ["account_security", "storage", "integrations"]) :
    RowsValid site.siteId ((step site system (.sealOther name)).disk.anchors.getD []) ∧
      ∀ other, Sealed site other (step site system (.sealOther name)).disk ↔
        Sealed site other system.disk := by
  have hcomponent : name ∈ components := by
    revert name
    decide
  obtain ⟨rows, hseal, hrows, hmem⟩ := hvalid.sealAnchor hcomponent
  have hstep : step site system (.sealOther name) =
      { system with disk := { system.disk with anchors := some rows } } := by
    unfold step
    dsimp only
    rw [hseal]
  rw [hstep]
  refine ⟨hrows, fun other => ?_⟩
  unfold Sealed
  rw [Option.getD_some, hmem, or_iff_left]
  intro hrow
  have hvalue : other.value = name := congrArg AnchorRow.component hrow
  rw [← hvalue] at hname
  revert hname
  cases other <;> decide

/-- The anchors are in order, and what is open is sealed and has its file. -/
structure Consistent (site : Site δ) (system : System δ) : Prop where
  rowsValid : RowsValid site.siteId (system.disk.anchors.getD [])
  opened : ∀ component, system.opened component = true →
    Sealed site component system.disk ∧ (system.disk.files component).isSome

theorem Unanchored.consistent (h : Unanchored site initial) : Consistent site initial := by
  constructor
  case rowsValid =>
    rw [h.anchors]
    exact rowsValid_nil
  case opened =>
    intro component hopened
    rw [h.opened] at hopened
    cases hopened

theorem FileReady.isSome {base disk : Disk δ} (h : FileReady site component base disk) :
    (disk.files component).isSome := by
  rcases h with ⟨-, -, hnew⟩ | ⟨contents, hfile, -, hsame⟩
  · rw [hnew]
    rfl
  · rw [hsame, hfile]
    rfl

theorem Consistent.step (h : Consistent site system) (hadmissible : Admissible system event) :
    Consistent site (step site system event) := by
  cases event with
  | start component crash =>
      rcases start_cases h.rowsValid component crash with ⟨hopen, hopened⟩ | ⟨hleft, hnot, hold⟩
      · refine ⟨hopen.rowsValid, fun other hother => ?_⟩
        rw [hopened] at hother
        by_cases heq : other = component
        · subst heq
          exact ⟨(hopen.sealed_iff other).mpr (.inr rfl), hopen.file.isSome⟩
        · rw [Function.update_of_ne heq] at hother
          rw [hopen.sealed_iff, hopen.others other heq]
          exact ⟨.inl (h.opened other hother).1, (h.opened other hother).2⟩
      · refine ⟨hleft.anchors ▸ h.rowsValid, fun other hother => ?_⟩
        have hne : other ≠ component := by
          rintro rfl
          rw [hnot] at hother
          cases hother
        rw [hleft.sealed_iff, hleft.others other hne]
        exact h.opened other (hold other hother)
  | sealOther name =>
      obtain ⟨hrows, hsealed⟩ := sealOther_sealed_iff h.rowsValid hadmissible
      refine ⟨hrows, fun other hother => ?_⟩
      have hsame : (ComponentState.step site system (.sealOther name)).opened = system.opened ∧
          (ComponentState.step site system (.sealOther name)).disk.files = system.disk.files := by
        unfold ComponentState.step
        dsimp only
        split <;> exact ⟨rfl, rfl⟩
      rw [hsame.1] at hother
      rw [hsealed, hsame.2]
      exact h.opened other hother
  | write component contents =>
      refine ⟨h.rowsValid, fun other hother => ⟨(h.opened other hother).1, ?_⟩⟩
      change (Function.update system.disk.files component (some (some contents)) other).isSome
      by_cases heq : other = component
      · subst heq
        rw [Function.update_self]
        rfl
      · rw [Function.update_of_ne heq]
        exact (h.opened other hother).2
  | stop => exact ⟨h.rowsValid, fun other hother => absurd hother Bool.false_ne_true⟩
  | delete component =>
      refine ⟨h.rowsValid, fun other hother => ?_⟩
      have hclosed : system.opened other = false := hadmissible other
      change system.opened other = true at hother
      rw [hclosed] at hother
      cases hother

theorem Consistent.run (h : Consistent site initial)
    (hreaches : (machine site).Reaches initial events state) : Consistent site state := by
  have hstep : ∀ system event, Consistent site system → (machine site).admissible system event →
      Consistent site ((machine site).step system event) := fun _ _ h hadmissible =>
    h.step hadmissible
  exact hreaches.invariant hstep h

/-! ## Lost files -/

/-- A sealed component is without its file. -/
structure Lost (site : Site δ) (component : StateComponent) (system : System δ) : Prop where
  consistent : Consistent site system
  sealed : Sealed site component system.disk
  missing : system.disk.files component = none

omit [DecidableEq δ] in
theorem Lost.closed (h : Lost site component system) : system.opened component = false := by
  by_contra hopened
  have hsome := (h.consistent.opened component (eq_true_of_ne_false hopened)).2
  rw [h.missing] at hsome
  cases hsome

theorem Lost.step (h : Lost site component system) (hadmissible : Admissible system event) :
    Lost site component (step site system event) := by
  refine ⟨h.consistent.step hadmissible, ?_, ?_⟩
  all_goals cases event with
    | start other crash => ?_
    | sealOther name => ?_
    | write other contents => ?_
    | stop => ?_
    | delete other => ?_
  -- the seal stays
  · rcases start_cases h.consistent.rowsValid other crash with ⟨hopen, -⟩ | ⟨hleft, -⟩
    · exact (hopen.sealed_iff component).mpr (.inl h.sealed)
    · exact (hleft.sealed_iff component).mpr h.sealed
  · exact ((sealOther_sealed_iff h.consistent.rowsValid hadmissible).2 component).mpr h.sealed
  · exact h.sealed
  · exact h.sealed
  · exact h.sealed
  -- and so does the gap
  · by_cases heq : component = other
    · subst heq
      rcases start_cases h.consistent.rowsValid component crash with ⟨hopen, -⟩ | ⟨hleft, -⟩
      · rcases hopen.file with ⟨-, hsealed, -⟩ | ⟨contents, hfile, -⟩
        · exact absurd h.sealed hsealed
        · rw [h.missing] at hfile
          cases hfile
      · rcases hleft.file with hsame | ⟨-, hsealed, -⟩
        · exact hsame.trans h.missing
        · exact absurd h.sealed hsealed
    · rcases start_cases h.consistent.rowsValid other crash with ⟨hopen, -⟩ | ⟨hleft, -⟩
      · exact (hopen.others component heq).trans h.missing
      · exact (hleft.others component heq).trans h.missing
  · unfold ComponentState.step
    dsimp only
    split <;> exact h.missing
  · have hne : component ≠ other := by
      rintro rfl
      have hopened : system.opened component = true := hadmissible
      rw [h.closed] at hopened
      cases hopened
    exact (Function.update_of_ne hne _ _).trans h.missing
  · exact h.missing
  · by_cases heq : component = other
    · subst heq
      exact Function.update_self _ _ _
    · exact (Function.update_of_ne heq _ _).trans h.missing

/-! ## Unfinished files -/

/-- A start that is cut short behind the creation of a database, with no tables in it: behind the
three steps `exists`, the admission by the anchor, and `os.open`. -/
def CutShort (site : Site δ) (system : System δ) : Event δ → Prop
  | .start component crash => component ≠ .roles ∧ crash = some 3 ∧
      system.disk.files component = none ∧ ¬ Sealed site component system.disk
  | _ => False

/-- The histories in which no start is cut short there. -/
def careful (site : Site δ) : Machine (System δ) (Event δ) where
  step := step site
  admissible system event := Admissible system event ∧ ¬ CutShort site system event

/-- The files of the components that are not sealed would be admitted. -/
def Resumable (site : Site δ) (system : System δ) : Prop :=
  ∀ component file, system.disk.files component = some file → ¬ Sealed site component system.disk →
    ∃ contents, file = some contents ∧ site.admits component contents = true

theorem Resumable.step (h : Resumable site system) (hconsistent : Consistent site system)
    (hadmissible : Admissible system event) (hcareful : ¬ CutShort site system event) :
    Resumable site (step site system event) := by
  intro component file hfile hsealed
  cases event with
  | start other crash =>
      rcases start_cases hconsistent.rowsValid other crash with ⟨hopen, -⟩ | ⟨hleft, -⟩
      · rw [hopen.sealed_iff, not_or] at hsealed
        rw [hopen.others component hsealed.2] at hfile
        exact h component file hfile hsealed.1
      rw [hleft.sealed_iff] at hsealed
      by_cases heq : component = other
      · subst heq
        rcases hleft.file with hsame | ⟨hnone, -, hnew | ⟨hdatabase, hcrash, -⟩⟩
        · exact h component file (hsame ▸ hfile) hsealed
        · rw [hnew] at hfile
          cases hfile
          exact ⟨_, rfl, admits_new site component⟩
        · exact absurd ⟨hdatabase, hcrash, hnone, hsealed⟩ hcareful
      · rw [hleft.others component heq] at hfile
        exact h component file hfile hsealed
  | sealOther name =>
      rw [(sealOther_sealed_iff hconsistent.rowsValid hadmissible).2] at hsealed
      refine h component file ?_ hsealed
      revert hfile
      unfold ComponentState.step
      dsimp only
      split <;> exact id
  | write other contents =>
      -- only a sealed component is open
      have hne : component ≠ other := by
        rintro rfl
        exact hsealed (hconsistent.opened component hadmissible).1
      exact h component file ((Function.update_of_ne hne _ _).symm.trans hfile) hsealed
  | stop => exact h component file hfile hsealed
  | delete other =>
      by_cases heq : component = other
      · subst heq
        change Function.update system.disk.files component none component = some file at hfile
        rw [Function.update_self] at hfile
        cases hfile
      · exact h component file ((Function.update_of_ne heq _ _).symm.trans hfile) hsealed

theorem Resumable.run (h : Unanchored site initial)
    (hreaches : (careful site).Reaches initial events state) : Resumable site state := by
  have hstep : ∀ system event, Consistent site system ∧ Resumable site system →
      (careful site).admissible system event →
      Consistent site ((careful site).step system event) ∧
        Resumable site ((careful site).step system event) := by
    intro system event hsystem hevent
    exact ⟨hsystem.1.step hevent.1, hsystem.2.step hsystem.1 hevent.1 hevent.2⟩
  have hinitial : Resumable site initial := fun component file hfile _ =>
    h.files component file hfile
  exact (hreaches.invariant hstep ⟨h.consistent, hinitial⟩).2

/-- A start without a crash completes what earlier ones have left. -/
theorem opened_of_resumable (h : Resumable site system) (hconsistent : Consistent site system)
    (hsealed : ¬ Sealed site component system.disk) :
    (step site system (.start component none)).opened component = true ∧
      Sealed site component (step site system (.start component none)).disk := by
  rcases start_cases hconsistent.rowsValid component none with ⟨hopen, hopened⟩ | ⟨hleft, -⟩
  · rw [hopened]
    exact ⟨Function.update_self _ _ _, (hopen.sealed_iff component).mpr (.inr rfl)⟩
  rcases hleft.cause with hcrash | ⟨hlost, -⟩ | ⟨file, hfile, hrefused⟩
  · exact absurd rfl hcrash
  · exact absurd hlost hsealed
  · obtain ⟨contents, hcontents, hadmits⟩ := h component file hfile hsealed
    rw [hrefused contents hcontents] at hadmits
    cases hadmits

/-! ## Files without tables -/

/-- A component that is not sealed has a data file with nothing in it. -/
structure Stranded (site : Site δ) (component : StateComponent) (system : System δ) : Prop where
  consistent : Consistent site system
  unsealed : ¬ Sealed site component system.disk
  empty : system.disk.files component = some none

omit [DecidableEq δ] in
theorem Stranded.closed (h : Stranded site component system) : system.opened component = false := by
  by_contra hopened
  exact h.unsealed (h.consistent.opened component (eq_true_of_ne_false hopened)).1

theorem Stranded.step (h : Stranded site component system) (hadmissible : Admissible system event)
    (hkept : event ≠ .delete component) : Stranded site component (step site system event) := by
  have hconsistent := h.consistent.step hadmissible
  cases event with
  | start other crash =>
      by_cases heq : component = other
      · subst heq
        rcases start_cases h.consistent.rowsValid component crash with ⟨hopen, -⟩ | ⟨hleft, -⟩
        · rcases hopen.file with ⟨hnone, -⟩ | ⟨contents, hfile, -⟩
          · rw [h.empty] at hnone
            cases hnone
          · rw [h.empty] at hfile
            cases hfile
        · refine ⟨hconsistent, fun hsealed => h.unsealed ((hleft.sealed_iff _).mp hsealed), ?_⟩
          rcases hleft.file with hsame | ⟨hnone, -⟩
          · exact hsame.trans h.empty
          · rw [h.empty] at hnone
            cases hnone
      · rcases start_cases h.consistent.rowsValid other crash with ⟨hopen, -⟩ | ⟨hleft, -⟩
        · refine ⟨hconsistent, fun hsealed => ?_, (hopen.others component heq).trans h.empty⟩
          exact ((hopen.sealed_iff component).mp hsealed).elim h.unsealed heq
        · exact ⟨hconsistent, fun hsealed => h.unsealed ((hleft.sealed_iff _).mp hsealed),
            (hleft.others component heq).trans h.empty⟩
  | sealOther name =>
      have hiff := (sealOther_sealed_iff h.consistent.rowsValid hadmissible).2 component
      refine ⟨hconsistent, fun hsealed => h.unsealed (hiff.mp hsealed), ?_⟩
      unfold ComponentState.step
      dsimp only
      split <;> exact h.empty
  | write other contents =>
      have hne : component ≠ other := by
        rintro rfl
        have hopened : system.opened component = true := hadmissible
        rw [h.closed] at hopened
        cases hopened
      exact ⟨hconsistent, h.unsealed, (Function.update_of_ne hne _ _).trans h.empty⟩
  | stop => exact ⟨hconsistent, h.unsealed, h.empty⟩
  | delete other =>
      have hne : component ≠ other := fun heq => hkept (congrArg Event.delete heq.symm)
      exact ⟨hconsistent, h.unsealed, (Function.update_of_ne hne _ _).trans h.empty⟩

theorem stranded_of_cutShort (h : Consistent site system)
    (hcut : CutShort site system (.start component crash)) :
    Stranded site component (step site system (.start component crash)) := by
  obtain ⟨hdatabase, rfl, hnone, hsealed⟩ := hcut
  have hconsistent : Consistent site (step site system (.start component (some 3))) :=
    h.step trivial
  have hadmitted := (@anchorAdmits_iff site.siteId component.value system.disk.anchors false
    h.rowsValid (mem_components component)).mpr fun hmem => absurd hmem hsealed
  have hopen : openComponent site component = openDatabase site component := by
    cases component with
    | roles => exact absurd rfl hdatabase
    | audit => rfl
    | personEvents => rfl
  have hexec : (openDatabase site component).exec ⟨system.disk, some 3⟩ =
      (.error .crashed, ⟨system.disk.put component (some none), some 0⟩) := by
    have hexists : fileExists component system.disk = some (false, system.disk) := by
      rw [fileExists, hnone]
      rfl
    have hcreate : create component system.disk =
        some (true, system.disk.put component (some none)) := by
      unfold create
      rw [hnone]
    have hadmit : admitAnchor site component false system.disk = some ((), system.disk) :=
      if_pos hadmitted
    unfold openDatabase
    rw [exec_durable_bind_succ hexists, exec_durable_bind_succ hadmit,
      exec_durable_bind_succ hcreate]
    exact exec_durable_bind_zero
  have hstep : (step site system (.start component (some 3))).disk =
      system.disk.put component (some none) := by
    unfold step
    dsimp only
    rw [hopen, hexec]
    rfl
  refine ⟨hconsistent, ?_, ?_⟩
  · rw [hstep]
    exact hsealed
  · rw [hstep]
    exact Function.update_self _ _ _

/-- In every history a sealed component that has lost its file stays without one and is not opened
again.  Where no start is cut short between a database and its tables, the next start of a component
that is not sealed yet opens and seals it; behind a start that is cut short there, the component is
neither opened nor sealed for as long as its file is not deleted. -/
theorem component_state_anchored (hinitial : Unanchored site initial)
    (hreaches : (machine site).Reaches initial events state) (component : StateComponent) :
    (Sealed site component state.disk → state.disk.files component = none →
      ∀ later final, (machine site).Reaches state later final →
        final.disk.files component = none ∧ final.opened component = false) ∧
    ((careful site).Reaches initial events state → ¬ Sealed site component state.disk →
      (step site state (.start component none)).opened component = true ∧
        Sealed site component (step site state (.start component none)).disk) ∧
    ∀ crash, CutShort site state (.start component crash) →
      ∀ later final, (machine site).Reaches (step site state (.start component crash)) later final →
        (∀ event ∈ later, event ≠ Event.delete component) →
          ¬ Sealed site component final.disk ∧ final.opened component = false := by
  have hconsistent := hinitial.consistent.run hreaches
  refine ⟨?_, ?_, ?_⟩
  · intro hsealed hmissing later final hlater
    have hstep : ∀ system event, Lost site component system →
        (machine site).admissible system event →
        Lost site component ((machine site).step system event) := fun _ _ h hadmissible =>
      h.step hadmissible
    have hlost := hlater.invariant hstep ⟨hconsistent, hsealed, hmissing⟩
    exact ⟨hlost.missing, hlost.closed⟩
  · intro hcareful hsealed
    exact opened_of_resumable (.run hinitial hcareful) hconsistent hsealed
  · intro crash hcut later final hlater hkept
    have hstep : ∀ (past : List (Event δ)) system event,
        ((∀ event ∈ past, event ≠ Event.delete component) → Stranded site component system) →
        (machine site).admissible system event →
        (∀ other ∈ past ++ [event], other ≠ Event.delete component) →
          Stranded site component ((machine site).step system event) := by
      intro past system event hsystem hadmissible hpast
      have hbefore : ∀ event ∈ past, event ≠ Event.delete component := fun other hother =>
        hpast other (List.mem_append_left _ hother)
      exact (hsystem hbefore).step hadmissible (hpast event List.mem_concat_self)
    have hstart : (∀ event ∈ ([] : List (Event δ)), event ≠ Event.delete component) →
        Stranded site component (step site state (.start component crash)) := fun _ =>
      stranded_of_cutShort hconsistent hcut
    have hstranded := @Machine.Reaches.history _ _ _ _ _ _
      (fun past system => (∀ event ∈ past, event ≠ Event.delete component) →
        Stranded site component system) hstep hlater hstart hkept
    exact ⟨hstranded.unsealed, hstranded.closed⟩

end Histories

/-! ## A concrete site -/

def exampleSite : Site ℕ where
  siteId := "site"
  policy := localPolicy
  formats := Audit.plainFormats
  unicode := .ascii
  fits_new := rfl

def installed : System ℕ := ⟨⟨none, fun _ => none, []⟩, fun _ => false⟩

theorem unanchored_installed : Unanchored exampleSite installed :=
  ⟨rfl, fun _ _ hfile => (nomatch hfile), fun _ => rfl⟩

def lostRoles : System ℕ :=
  step exampleSite (step exampleSite (step exampleSite (step exampleSite installed
    (.start .roles (some 4))) (.start .roles none)) .stop) (.delete .roles)

theorem component_state_anchored_roles : Sealed exampleSite .roles lostRoles.disk ∧ ∀ later final,
      (machine exampleSite).Reaches lostRoles later final →
        final.disk.files .roles = none ∧ final.opened .roles = false := by
  have hreaches : (machine exampleSite).Reaches installed
      [.start .roles (some 4), .start .roles none, .stop, .delete .roles] lostRoles :=
    ⟨trivial, trivial, trivial, fun _ => rfl, rfl⟩
  have hsealed : Sealed exampleSite .roles lostRoles.disk := by
    unfold Sealed
    decide
  exact ⟨hsealed, (component_state_anchored unanchored_installed hreaches .roles).1 hsealed rfl⟩

/-- The first start of the audit is gone behind the creation of its database, and the next one is
refused. -/
theorem component_state_not_anchored :
    ¬ ∀ (initial state : System ℕ) (events : List (Event ℕ)) (component : StateComponent),
      Unanchored exampleSite initial → (machine exampleSite).Reaches initial events state →
        ¬ Sealed exampleSite component state.disk →
          (step exampleSite state (.start component none)).opened component = true := by
  intro h
  have hopened := h installed (step exampleSite installed (.start .audit (some 3)))
    [.start .audit (some 3)] .audit unanchored_installed ⟨trivial, rfl⟩ (by
      unfold Sealed
      decide)
  revert hopened
  decide

end K5Vision.Operator.ComponentState
