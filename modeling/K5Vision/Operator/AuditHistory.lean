import K5Vision.Operator.EventPages
import Mathlib.Data.List.Induction

/-!
# The history of the audit

Calls of an `OperatorAuditStore` that starts with a new database and is opened again between them.
Its rows are the newest of what `record` has ever returned for; and a database whose rows were
changed, removed or put in another order since, but which still ends as it did, is not opened, as
long as the digest does not collide.
-/

namespace K5Vision.Operator.Audit

set_option linter.unusedSectionVars false

inductive AuditCall
  | record (event : AuditEvent) (fault : Bool)
  | events (filter : AuditFilter) (limit : ℕ) (before : Option ℕ) («export» : Bool)
  | reopen

/-- A store, and the events that `record` has returned for. -/
structure AuditHistory (δ : Type) where
  store : AuditStore δ
  recorded : List AuditEvent

variable {δ : Type} [DecidableEq δ] (formats : Formats δ)

namespace AuditHistory

def create : AuditHistory δ := ⟨⟨0, formats.zero, 0, formats.zero, [], false⟩, []⟩

def step (history : AuditHistory δ) : AuditCall → AuditHistory δ
  | .record event fault =>
      match record formats event fault history.store with
      | (.ok id, store) => ⟨store, history.recorded ++ [{ event with id := id }]⟩
      | (.error _, store) => ⟨store, history.recorded⟩
  | .events filter limit before «export» =>
      { history with store := (events formats filter limit before «export» history.store).2 }
  | .reopen =>
      if verifyChain formats history.store then
        { history with store := { history.store with failed := false } }
      else history

def run (calls : List AuditCall) : AuditHistory δ := calls.foldl (step formats) (create formats)

/-- The ids count what was recorded, and the rows are the newest of it. -/
structure Kept (history : AuditHistory δ) : Prop where
  verified : Verified formats history.store
  ids : history.recorded.map AuditEvent.id = List.range' 1 history.store.lastId
  anchor : history.store.anchorId = history.store.lastId - maxAuditRows
  rows : history.store.rows.map AuditRow.event =
    history.recorded.filter fun event => history.store.anchorId < event.id

end AuditHistory

variable {formats} {history : AuditHistory δ} {store appended altered : AuditStore δ}
  {event : AuditEvent} {rows others : List (AuditRow δ)} {previous first digest : δ}
  {last start id : ℕ}

/-! ## Records -/

theorem append_rows (hvalid : validateEvent formats { event with id := 1 } = true)
    (h : Verified formats store) (happend : append formats event store = some appended) :
    appended.lastId = store.lastId + 1 ∧
      appended.anchorId = max store.anchorId (store.lastId + 1 - maxAuditRows) ∧
      ∃ row : AuditRow δ, row.event = { event with id := store.lastId + 1 } ∧
        appended.rows = (store.rows ++ [row]).filter fun row => appended.anchorId < row.id := by
  have hchain := (verified_append hvalid h happend).chain
  unfold append at happend
  dsimp only at happend
  split_ifs at happend
  unfold prune at happend
  dsimp only at happend
  split_ifs at happend with hcut
  · obtain ⟨anchor, -, rfl⟩ := Option.map_eq_some_iff.mp happend
    exact ⟨rfl, (max_eq_right hcut.le).symm, _, rfl, rfl⟩
  · cases happend
    refine ⟨rfl, (max_eq_left (not_lt.mp hcut)).symm, _, rfl, (List.filter_eq_self.mpr ?_).symm⟩
    exact fun row hrow => decide_eq_true (id_bounds_of_chain hchain hrow).1

theorem record_cases (fault : Bool) :
    (∃ error failed, record formats event fault store =
      (.error error, { store with failed := failed })) ∨
    ∃ appended, validateEvent formats { event with id := 1 } = true ∧
      append formats event store = some appended ∧
      record formats event fault store = (.ok appended.lastId, appended) := by
  unfold record
  split_ifs with hvalid hfailed
  · exact .inl ⟨_, store.failed, rfl⟩
  · exact .inl ⟨_, true, rfl⟩
  · cases happend : append formats event store with
    | none => exact .inl ⟨_, true, rfl⟩
    | some appended => exact .inr ⟨appended, by simpa using hvalid, rfl, rfl⟩

theorem events_store (filter : AuditFilter) (limit : ℕ) (before : Option ℕ) («export» : Bool) :
    (events formats filter limit before «export» store).2 = store ∨
      (events formats filter limit before «export» store).2 = { store with failed := true } := by
  unfold events
  split_ifs
  any_goals exact .inl rfl
  all_goals
    split
    · exact .inl rfl
    · split
      · exact .inr rfl
      · exact .inl rfl

namespace AuditHistory

theorem Kept.with_failed (h : history.Kept formats) (failed : Bool) :
    Kept formats { history with store := { history.store with failed := failed } } :=
  ⟨⟨h.verified.state, h.verified.length, h.verified.chain⟩, h.ids, h.anchor, h.rows⟩

theorem Kept.record (h : history.Kept formats) (fault : Bool) :
    (history.step formats (.record event fault)).Kept formats := by
  unfold step
  rcases @record_cases δ _ formats history.store event fault with
    ⟨error, failed, hrecord⟩ | ⟨appended, hvalid, happend, hrecord⟩
  · simp only [hrecord]
    exact h.with_failed failed
  simp only [hrecord]
  obtain ⟨hlast, hanchor, row, hrow, hrows⟩ := append_rows hvalid h.verified happend
  have hbehind : history.store.anchorId ≤ appended.anchorId := hanchor ▸ le_max_left ..
  constructor
  case verified => exact verified_append hvalid h.verified happend
  case ids => simp [h.ids, hlast, List.range'_1_concat, add_comm]
  case anchor =>
    have hcut := h.anchor
    dsimp only
    omega
  case rows =>
    calc appended.rows.map AuditRow.event
        = ((history.store.rows ++ [row]).map AuditRow.event).filter
            fun event => appended.anchorId < event.id := by
          rw [hrows, List.filter_map]
          rfl
      _ = _ := by
          rw [List.map_append, h.rows, List.filter_append, List.filter_filter, List.filter_append,
            List.map_singleton, hrow, hlast]
          congr 1
          refine List.filter_congr fun event _ => ?_
          simpa using hbehind.trans_lt

theorem Kept.step (h : history.Kept formats) (call : AuditCall) :
    (history.step formats call).Kept formats := by
  cases call with
  | record event fault => exact h.record fault
  | events filter limit before «export» =>
      change Kept formats { history with
        store := (Audit.events formats filter limit before «export» history.store).2 }
      rcases @events_store δ _ formats history.store filter limit before «export» with
        hevents | hevents
      · rw [hevents]
        exact h
      · rw [hevents]
        exact h.with_failed true
  | reopen =>
      change Kept formats (if verifyChain formats history.store then _ else history)
      split_ifs
      · exact h.with_failed false
      · exact h

theorem kept_run (calls : List AuditCall) : (run formats calls).Kept formats := by
  induction calls using List.reverseRecOn with
  | nil => exact ⟨⟨by simp [run, create, stateAdmitted], Nat.zero_le _, rfl⟩, rfl,
      (Nat.zero_sub _).symm, rfl⟩
  | append_singleton calls call ih =>
      rw [run, List.foldl_append]
      exact ih.step call

end AuditHistory

/-! ## Alterations -/

/-- Two inputs of the digest that have one output. -/
def Collide (formats : Formats δ) (row other : AuditRow δ) : Prop :=
  (row.previousDigest, row.event) ≠ (other.previousDigest, other.event) ∧
    formats.digest row.previousDigest row.event =
      formats.digest other.previousDigest other.event

/-- Chains with one end agree from there back to the shorter one's beginning, or they collide. -/
theorem chains_agree (hrows : chainFrom formats previous last rows = some (id, digest))
    (hothers : chainFrom formats first start others = some (id, digest)) :
    (∃ row ∈ rows, ∃ other ∈ others, row.id = other.id ∧ Collide formats row other) ∨
      rows <:+ others ∨ others <:+ rows := by
  induction rows using List.reverseRecOn generalizing others id digest with
  | nil => exact .inr (.inl (List.nil_suffix ..))
  | append_singleton rows row ih =>
      rcases List.eq_nil_or_concat others with rfl | ⟨others, other, rfl⟩
      · exact .inr (.inr (List.nil_suffix ..))
      rw [List.concat_eq_append] at hothers ⊢
      rw [chainFrom_append] at hrows hothers
      obtain ⟨⟨last, previous⟩, hbefore, hrow⟩ := Option.bind_eq_some_iff.mp hrows
      obtain ⟨⟨start, first⟩, hprior, hother⟩ := Option.bind_eq_some_iff.mp hothers
      obtain ⟨hfollows, hend⟩ := chainFrom_cons hrow
      obtain ⟨-, hid, rfl, hdigest⟩ := follows_iff.mp hfollows
      obtain ⟨hfollows, hsame⟩ := chainFrom_cons hother
      obtain ⟨-, hotherId, rfl, hotherDigest⟩ := follows_iff.mp hfollows
      cases hend
      obtain ⟨hids, hdigests⟩ : other.id = row.id ∧ other.digest = row.digest := by
        simpa [chainFrom] using hsame
      by_cases hinput : (row.previousDigest, row.event) = (other.previousDigest, other.event)
      · obtain ⟨hprevious, hevent⟩ := Prod.mk.inj hinput
        obtain rfl : row = other := by
          cases row
          cases other
          simp_all
        obtain rfl : last = start := by omega
        rcases ih hbefore hprior with ⟨one, hone, two, htwo, hcollide⟩ | hsuffix | hsuffix
        · exact .inl ⟨one, List.mem_append_left _ hone, two, List.mem_append_left _ htwo, hcollide⟩
        · exact .inr (.inl (List.suffix_append_self_iff.mpr hsuffix))
        · exact .inr (.inr (List.suffix_append_self_iff.mpr hsuffix))
      · refine .inl ⟨row, by simp, other, by simp, hids.symm, hinput, ?_⟩
        rw [← hdigest, ← hotherDigest, hdigests]

/-- **Alterations are found**: whatever has become of the rows of a store, if it is opened and ends
as it did, then its rows are those that were there, but for the oldest of them if the anchor has
moved; or two rows with one id collide. -/
theorem alterations_found (calls : List AuditCall) (hopened : verifyChain formats altered = true)
    (hid : altered.lastId = (AuditHistory.run formats calls).store.lastId)
    (hdigest : altered.lastDigest = (AuditHistory.run formats calls).store.lastDigest) :
    let store := (AuditHistory.run formats calls).store
    (∃ row ∈ store.rows, ∃ other ∈ altered.rows, row.id = other.id ∧ Collide formats row other) ∨
      (store.rows <:+ altered.rows ∨ altered.rows <:+ store.rows) ∧
        (altered.anchorId = store.anchorId → altered.rows = store.rows) := by
  intro store
  have hchain : chainFrom formats store.anchorDigest store.anchorId store.rows =
      some (store.lastId, store.lastDigest) := (AuditHistory.kept_run calls).verified.chain
  have hothers := (verifyChain_iff.mp hopened).chain
  rw [hid, hdigest] at hothers
  change _ = some (store.lastId, store.lastDigest) at hothers
  refine (chains_agree hchain hothers).imp_right fun hsuffix => ⟨hsuffix, fun hanchor => ?_⟩
  have hlength : altered.rows.length = store.rows.length := by
    have hfirst := (ids_of_chain hchain).2
    have hsecond := (ids_of_chain hothers).2
    omega
  rcases hsuffix with hsuffix | hsuffix
  · exact (hsuffix.eq_of_length hlength.symm).symm
  · exact hsuffix.eq_of_length hlength

/-- With a digest that does not depend on the events, one is replaced by another, and they
collide. -/
theorem alterations_found_once :
    let event : AuditEvent :=
      ⟨1, "", "", 0, "", none, "auth.login", "success", none, none, none, [], ""⟩
    let store := (AuditHistory.run plainFormats [.record event false]).store
    let altered := { store with rows := [⟨{ event with outcome := "denied" }, 0, 1⟩] }
    (∃ row ∈ store.rows, ∃ other ∈ altered.rows,
        row.id = other.id ∧ Collide plainFormats row other) ∨
      (store.rows <:+ altered.rows ∨ altered.rows <:+ store.rows) ∧
        (altered.anchorId = store.anchorId → altered.rows = store.rows) :=
  alterations_found _ (by decide +kernel) rfl rfl

end K5Vision.Operator.Audit
