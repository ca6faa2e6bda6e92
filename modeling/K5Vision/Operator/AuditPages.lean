import K5Vision.Operator.AuditStore

/-!
# The audit store is read without loss

A store whose chain was verified when it was opened keeps its chain through every record
(`verifyChain_record`): a new row follows the last one, and the anchor moves along the rows that
are cut off.  So the checks that a page makes of its rows succeed, and the page is the one of the
table (`events_eq`).
-/

namespace K5Vision.Operator.Audit

open Library

set_option linter.unusedSectionVars false

variable {δ : Type} [DecidableEq δ] {formats : Formats δ} {store appended : AuditStore δ}
  {event : AuditEvent} {rows more : List (AuditRow δ)} {row : AuditRow δ} {previous digest : δ}
  {last id : ℕ}

/-! ## Chains -/

theorem chainFrom_append : chainFrom formats previous last (rows ++ more) =
    (chainFrom formats previous last rows).bind fun tail =>
      chainFrom formats tail.2 tail.1 more := by
  induction rows generalizing previous last with
  | nil => rfl
  | cons row rest ih =>
      simp only [List.cons_append, chainFrom]
      split_ifs
      · exact ih
      · rfl

theorem follows_iff : row.follows formats previous last = true ↔
    validateEvent formats row.event = true ∧ row.id = last + 1 ∧
      row.previousDigest = previous ∧ row.digest = formats.digest previous row.event := by
  simp [AuditRow.follows, and_assoc]

theorem chainFrom_cons (h : chainFrom formats previous last (row :: rest) = some (id, digest)) :
    row.follows formats previous last = true ∧
      chainFrom formats row.digest row.id rest = some (id, digest) := by
  unfold chainFrom at h
  split_ifs at h with hfollows
  exact ⟨hfollows, h⟩

theorem ids_of_chain (h : chainFrom formats previous last rows = some (id, digest)) :
    rows.map AuditRow.id = List.range' (last + 1) rows.length ∧ id = last + rows.length := by
  induction rows generalizing previous last with
  | nil =>
      cases h
      exact ⟨rfl, rfl⟩
  | cons row rest ih =>
      obtain ⟨hfollows, hrest⟩ := chainFrom_cons h
      obtain ⟨hids, hid⟩ := ih hrest
      have hrow := (follows_iff.mp hfollows).2.1
      rw [List.map_cons, hids, hrow, List.length_cons, List.range'_succ]
      exact ⟨rfl, by omega⟩

theorem sorted_of_chain (h : chainFrom formats previous last rows = some (id, digest)) :
    Sorted AuditRow.id rows := by
  have hpairs : (rows.map AuditRow.id).Pairwise (· < ·) := by
    rw [(ids_of_chain h).1]
    exact List.pairwise_lt_range'
  exact List.pairwise_map.mp hpairs

theorem id_bounds_of_chain (h : chainFrom formats previous last rows = some (id, digest))
    (hrow : row ∈ rows) : last < row.id ∧ row.id ≤ id := by
  obtain ⟨hids, hid⟩ := ids_of_chain h
  have hmem : row.id ∈ rows.map AuditRow.id := List.mem_map_of_mem hrow
  rw [hids, List.mem_range'_1] at hmem
  omega

theorem rowOf_eq (hsorted : Sorted AuditRow.id rows) (hrow : row ∈ rows) :
    rowOf rows row.id = some row := by
  unfold rowOf
  cases hfind : rows.find? fun other => other.id = row.id with
  | none =>
      have hnone := List.find?_eq_none.mp hfind row hrow
      simp at hnone
  | some other =>
      have hid : other.id = row.id := by simpa using List.find?_some hfind
      rw [hsorted.eq_of_key_eq (List.mem_of_find?_eq_some hfind) hrow hid]

theorem intact_of_chain (h : chainFrom formats previous last rows = some (id, digest))
    (hrow : row ∈ rows) : validateEvent formats row.event = true ∧
      row.digest = formats.digest row.previousDigest row.event ∧
      (row.id = last + 1 ∧ row.previousDigest = previous ∨
        ∃ prior ∈ rows, prior.id + 1 = row.id ∧ row.previousDigest = prior.digest) := by
  induction rows generalizing previous last with
  | nil => cases hrow
  | cons first rest ih =>
      obtain ⟨hfollows, hrest⟩ := chainFrom_cons h
      obtain ⟨hvalid, hid, hprevious, hdigest⟩ := follows_iff.mp hfollows
      rcases List.mem_cons.mp hrow with rfl | hmem
      · exact ⟨hvalid, by rw [hprevious, hdigest], .inl ⟨hid, hprevious⟩⟩
      obtain ⟨hvalid, hdigest, hprior⟩ := ih hrest hmem
      refine ⟨hvalid, hdigest, .inr ?_⟩
      rcases hprior with ⟨hnext, heq⟩ | ⟨prior, hprior, hnext, heq⟩
      · exact ⟨first, List.mem_cons_self .., hnext.symm, heq⟩
      · exact ⟨prior, List.mem_cons_of_mem _ hprior, hnext, heq⟩

/-! ## Records -/

/-- What `_verify_chain` has found. -/
structure Verified (formats : Formats δ) (store : AuditStore δ) : Prop where
  state : stateAdmitted formats store = true
  length : store.rows.length ≤ maxAuditRows
  chain : chainFrom formats store.anchorDigest store.anchorId store.rows =
    some (store.lastId, store.lastDigest)

theorem verifyChain_iff : verifyChain formats store = true ↔ Verified formats store := by
  simp only [verifyChain, Bool.and_eq_true, decide_eq_true_eq]
  exact ⟨fun h => ⟨h.1.1, h.1.2, h.2⟩, fun h => ⟨⟨h.state, h.length⟩, h.chain⟩⟩

theorem stateAdmitted_iff : stateAdmitted formats store = true ↔
    store.anchorId ≤ store.lastId ∧ store.lastId < 2 ^ 63 ∧
      store.lastId - store.anchorId ≤ maxAuditRows ∧
      (store.lastId = 0 ∨ store.lastId ≠ store.anchorId) ∧
      (store.anchorId ≠ 0 ∨ store.anchorDigest = formats.zero) ∧
      (store.lastId ≠ 0 ∨ store.lastDigest = formats.zero) := by
  simp [stateAdmitted, and_assoc]

theorem validateEvent_id (h : validateEvent formats { event with id := 1 } = true)
    (hpos : 1 ≤ id) (hlt : id < 2 ^ 63) :
    validateEvent formats { event with id := id } = true := by
  simp only [validateEvent, Bool.and_eq_true, decide_eq_true_eq] at h ⊢
  simp_all

/-- A chain that is one row too long is cut behind its first row. -/
theorem verified_prune (hlt : store.lastId < 2 ^ 63) (hlast : store.anchorId < store.lastId)
    (hrange : store.lastId - store.anchorId ≤ maxAuditRows + 1)
    (hanchor : store.anchorId ≠ 0 ∨ store.anchorDigest = formats.zero)
    (hchain : chainFrom formats store.anchorDigest store.anchorId store.rows =
      some (store.lastId, store.lastDigest)) (h : prune store = some appended) :
    Verified formats appended := by
  have hlength := (ids_of_chain hchain).2
  have hretained : 0 < maxAuditRows := by decide
  unfold prune at h
  dsimp only at h
  split_ifs at h with hcut
  · have hcutoff : store.lastId - maxAuditRows = store.anchorId + 1 := by omega
    cases hrows : store.rows with
    | nil =>
        rw [hrows, List.length_nil] at hlength
        omega
    | cons first rest =>
        rw [hrows] at hchain
        obtain ⟨hfollows, hrest⟩ := chainFrom_cons hchain
        have hfirst : first.id = store.anchorId + 1 := (follows_iff.mp hfollows).2.1
        have hanchorRow : rowOf (first :: rest) (store.lastId - maxAuditRows) = some first := by
          rw [hcutoff, ← hfirst]
          exact rowOf_eq (sorted_of_chain hchain) (List.mem_cons_self ..)
        have hkept : (first :: rest).filter (fun row => store.lastId - maxAuditRows < row.id) =
            rest := by
          rw [hcutoff, List.filter_cons_of_neg (by simp [hfirst]), List.filter_eq_self]
          intro row hrow
          have := (id_bounds_of_chain hrest hrow).1
          simpa [hfirst] using this
        rw [hrows, hanchorRow, hkept, Option.map_some, Option.some.injEq] at h
        subst h
        rw [hrows, List.length_cons] at hlength
        constructor
        case state =>
          rw [stateAdmitted_iff]
          dsimp only
          refine ⟨by omega, hlt, by omega, .inr (by omega), .inl (by omega), .inl (by omega)⟩
        case length =>
          dsimp only
          omega
        case chain =>
          dsimp only
          rw [hcutoff, ← hfirst]
          exact hrest
  · cases h
    constructor
    case state =>
      rw [stateAdmitted_iff]
      exact ⟨by omega, hlt, by omega, .inr (by omega), hanchor, .inl (by omega)⟩
    case length => omega
    case chain => exact hchain

theorem verified_append (hvalid : validateEvent formats { event with id := 1 } = true)
    (h : Verified formats store) (happend : append formats event store = some appended) :
    Verified formats appended := by
  obtain ⟨hle, -, hrange, hended, hanchor, -⟩ := stateAdmitted_iff.mp h.state
  unfold append at happend
  dsimp only at happend
  split_ifs at happend with hrefused hlarge
  simp only [Bool.or_eq_true, decide_eq_true_eq, not_or, not_le] at hlarge
  refine verified_prune ?_ ?_ ?_ ?_ ?_ happend
  · exact hlarge.1
  · dsimp only
    omega
  · dsimp only
    omega
  · exact hanchor
  dsimp only
  rw [chainFrom_append, h.chain, Option.bind_some, chainFrom, if_pos, chainFrom]
  · rfl
  · rw [follows_iff]
    exact ⟨validateEvent_id hvalid (by omega) hlarge.1, rfl, rfl, rfl⟩

theorem verified_record (fault : Bool) (h : Verified formats store) :
    Verified formats (record formats event fault store).2 := by
  unfold record
  split_ifs with hvalid hfailed
  · exact h
  · exact ⟨h.state, h.length, h.chain⟩
  · cases happend : append formats event store with
    | none => exact ⟨h.state, h.length, h.chain⟩
    | some appended => exact verified_append (by simpa using hvalid) h happend

/-! ## Pages -/

theorem rowIntact_of_verified (h : Verified formats store) (hrow : row ∈ store.rows) :
    rowIntact formats store row = true := by
  obtain ⟨hvalid, hdigest, hprior⟩ := intact_of_chain h.chain hrow
  simp only [rowIntact, Bool.and_eq_true, decide_eq_true_eq]
  refine ⟨⟨hvalid, hdigest⟩, ?_⟩
  rcases hprior with ⟨hid, hprevious⟩ | ⟨prior, hprior, hid, hprevious⟩
  · rw [if_pos hid]
    simpa using hprevious
  have hbound := (id_bounds_of_chain h.chain hprior).1
  have hsub : row.id - 1 = prior.id := by omega
  rw [if_neg (by omega), hsub, rowOf_eq (sorted_of_chain h.chain) hprior]
  simpa using hprevious

variable {filter : AuditFilter} {limit : ℕ} {before : Option ℕ} {«export» : Bool}

theorem readPage_eq (h : Verified formats store) :
    ∃ page, readPage formats filter limit before store = some page ∧
      page.page = (pageOf AuditRow.id store.rows (filter.matching formats) limit before).map
        AuditRow.event := by
  have hlength := (ids_of_chain h.chain).2
  have hle := (stateAdmitted_iff.mp h.state).1
  have hintact : ((found AuditRow.id store.rows (filter.matching formats) before).take
      (limit + 1)).all (rowIntact formats store) = true := by
    rw [List.all_eq_true]
    intro row hrow
    exact rowIntact_of_verified h (mem_found.mp (List.mem_of_mem_take hrow)).1
  unfold readPage
  rw [if_neg]
  · dsimp only
    rw [if_pos hintact]
    exact ⟨_, rfl, rfl⟩
  · simp only [h.state, Bool.not_true, Bool.false_or, decide_eq_true_eq, ne_eq, not_not]
    omega

def limitAdmitted («export» : Bool) (limit : ℕ) : Prop :=
  1 ≤ limit ∧ limit ≤ if «export» then maxExportRows else 100

theorem events_eq (h : Verified formats store) (hlimit : limitAdmitted «export» limit)
    (hfilter : filter.refused formats = none)
    (hbefore : ∀ cursor ∈ before, 1 ≤ cursor ∧ cursor < 2 ^ 63) :
    ∃ page, (events formats filter limit before «export» store).1 = .ok page ∧
      page.page = (pageOf AuditRow.id store.rows (filter.matching formats) limit before).map
        AuditRow.event := by
  obtain ⟨page, hpage, heq⟩ : ∃ page, readPage formats filter limit before store = some page ∧ _ :=
    readPage_eq h
  refine ⟨page, ?_, heq⟩
  have hlimits : (decide (limit < 1) ||
      decide ((if «export» = true then maxExportRows else 100) < limit)) = false := by
    obtain ⟨hlow, hhigh⟩ := hlimit
    simp only [Bool.or_eq_false_iff, decide_eq_false_iff_not, not_lt]
    exact ⟨hlow, hhigh⟩
  have hcursor : before.any (fun cursor => decide (cursor < 1) || decide (2 ^ 63 ≤ cursor)) =
      false := by
    cases before with
    | none => rfl
    | some cursor =>
        have := hbefore cursor rfl
        simp only [Option.any_some, Bool.or_eq_false_iff, decide_eq_false_iff_not, not_lt, not_le]
        exact this
  unfold events
  rw [hlimits, hcursor, hfilter, hpage]
  rfl

end K5Vision.Operator.Audit
