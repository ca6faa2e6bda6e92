import K5Vision.Operator.EventTransactions
import Mathlib.Data.List.DropRight

/-!
# What the person event store retains

The store retains the newest of all events that were ever appended to it, whatever fails on the
way and however often it is closed and reopened.

## Strategy

`Recorded` is all that the transaction of `record` can do to the tables: it leaves the events as
they are, or puts one event behind them and prunes.  The contract `recordStatements_spec` takes
the statements there one after the other.  Pruning is by identity, and with increasing identities
this is a cut of the list (`pruneEvents_rows`), so that a step of `Retained` is about the ends of
two lists.
-/

namespace K5Vision.Operator.PersonEvents

open Library Library.Transactions

/-! ## What a transaction does -/

def PersonFrame.event (frame : PersonFrame) (id : ℕ) : PersonEvent :=
  ⟨id, frame.cameraId, frame.occurredAt, frame.confidence, frame.personCount, frame.frameKey⟩

/-- An event is of the camera and the frame of another one. -/
def PersonEvent.SameFrame (first second : PersonEvent) : Prop :=
  first.cameraId = second.cameraId ∧ first.frameKey = second.frameKey

/-- What `INSERT OR IGNORE` leaves. -/
def Inserted (frame : PersonFrame) (before : Ledger) (inserted : Bool) (after : Ledger) : Prop :=
  if inserted then
    before.store.lastId < after.store.lastId ∧
      (∀ row ∈ before.store.rows, ¬ row.SameFrame (frame.event after.store.lastId)) ∧
      after.store.rows = before.store.rows ++ [frame.event after.store.lastId] ∧
      after.appended = before.appended ++ [frame.event after.store.lastId]
  else
    before.store.lastId ≤ after.store.lastId ∧ after.store.rows = before.store.rows ∧
      after.appended = before.appended

inductive Recorded (frame : PersonFrame) (before : Ledger) : Bool → Ledger → Prop
  | unchanged {after : Ledger} (h : Inserted frame before false after) :
      Recorded frame before false after
  | pruned {inserted : Bool} {middle : Ledger} (h : Inserted frame before inserted middle) :
      Recorded frame before inserted ⟨pruneEvents middle.store, middle.appended⟩

variable {frame : PersonFrame} {skipped : ℕ} {before after ledger : Ledger} {faults : Faults}

theorem inserted_false (hid : before.store.lastId ≤ after.store.lastId)
    (hrows : after.store.rows = before.store.rows) (happended : after.appended = before.appended) :
    Inserted frame before false after :=
  ⟨hid, hrows, happended⟩

variable {inserted : Bool}

theorem inserted_insertInto (h : insertInto frame skipped before = some (inserted, after)) :
    Inserted frame before inserted after := by
  unfold insertInto insertEvent at h
  split_ifs at h with hlast hknown
  · cases h
    exact inserted_false (Nat.le_add_right _ _) rfl (by simp)
  cases h
  refine ⟨by dsimp only; omega, fun row hrow hsame => ?_, rfl, by simp [PersonFrame.event]⟩
  refine hknown (List.any_eq_true.mpr ⟨row, hrow, ?_⟩)
  simp only [Bool.and_eq_true, decide_eq_true_eq]
  exact hsame

theorem Inserted.of_cameras {cameras : List CameraAnalytics}
    (h : Inserted frame { before with store.cameras := cameras } inserted after) :
    Inserted frame before inserted after := h

theorem recordStatements_spec (before : Ledger) :
    Handler.Spec (Stores before) (recordStatements frame skipped faults)
      (fun inserted connection => Recorded frame before inserted connection.stored)
      (Stores before) := by
  have hunchanged : ∀ cameras, Recorded frame before false
      { before with store.cameras := cameras } := fun cameras =>
    .unchanged (inserted_false le_rfl rfl rfl)
  have hcommit : ∀ {pre : Ledger → Prop} {inserted : Bool},
      (∀ copy, pre copy → Recorded frame before inserted copy) →
      Handler.Spec (Within before pre)
        (commit CallError.database (faults .commit) >>= fun _ => pure inserted)
        (fun inserted connection => Recorded frame before inserted connection.stored)
        (Stores before) := by
    intro pre inserted hpre
    exact commit_spec.bind fun _ => Handler.Spec.pure fun connection h => hpre _ h.1
  have hend : Handler.Spec (Within before (· = before))
      (commit CallError.database (faults .commit) >>= fun _ => pure false)
      (fun inserted connection => Recorded frame before inserted connection.stored)
      (Stores before) :=
    hcommit fun copy h => h ▸ hunchanged before.store.cameras
  unfold recordStatements
  refine beginning_spec.bind fun _ => ?_
  have hselect : Handler.Spec (Within before (· = before))
      (statement CallError.database (faults .selection) (selectCamera frame.cameraId))
      (fun _ => Within before (· = before)) (Stores before) := by
    refine statement_spec fun copy row after hcopy h => ?_
    cases h
    exact hcopy
  refine hselect.bind fun row => ?_
  cases row with
  | none => exact hend
  | some settings =>
      dsimp only
      split
      · exact hend
      have hupdate : Handler.Spec (Within before (· = before))
          (statement CallError.database (faults .update) (updateFrameKey frame))
          (fun _ => Within before fun copy =>
            ∃ cameras, copy = { before with store.cameras := cameras }) (Stores before) := by
        refine statement_spec fun copy row after hcopy h => ?_
        cases hcopy
        cases h
        exact ⟨_, rfl⟩
      refine hupdate.bind fun _ => ?_
      split
      · have hinsert : Handler.Spec
            (Within before fun copy =>
              ∃ cameras, copy = { before with store.cameras := cameras })
            (statement CallError.database (faults .insertion) (insertInto frame skipped))
            (fun inserted => Within before (Inserted frame before inserted)) (Stores before) := by
          refine statement_spec fun copy inserted after hcopy h => ?_
          obtain ⟨cameras, rfl⟩ := hcopy
          exact (inserted_insertInto h).of_cameras
        have hdelete : ∀ inserted, Handler.Spec
            (Within before (Inserted frame before inserted))
            (statement CallError.database (faults .deletion) deleteOldest)
            (fun _ => Within before (Recorded frame before inserted)) (Stores before) := by
          intro inserted
          refine statement_spec fun copy done after hcopy h => ?_
          cases h
          exact .pruned hcopy
        exact hinsert.bind fun inserted => (hdelete inserted).bind fun _ => hcommit fun _ h => h
      · refine hcommit fun copy h => ?_
        obtain ⟨cameras, rfl⟩ := h
        exact hunchanged cameras

/-! ## What is retained -/

/-- The store holds the newest events of all, one for each frame of a camera, and identities
are not used again. -/
structure Retained (ledger : Ledger) : Prop where
  newest : ledger.store.rows = ledger.appended.rtake maxEventRows
  increasing : Sorted PersonEvent.id ledger.appended
  distinct : ledger.store.rows.Pairwise fun first second => ¬ first.SameFrame second

/-- Identities lie behind zero, and not behind the sequence. -/
structure Kept (ledger : Ledger) : Prop extends Retained ledger where
  bounds : ∀ row ∈ ledger.appended, 1 ≤ row.id ∧ row.id ≤ ledger.store.lastId

variable {α : Type}

theorem rtake_eq_self {l : List α} {n : ℕ} (h : l.length ≤ n) : l.rtake n = l := by
  rw [List.rtake, Nat.sub_eq_zero_of_le h, List.drop_zero]

theorem length_rtake_le (l : List α) (n : ℕ) : (l.rtake n).length ≤ n := by
  rw [List.rtake, List.length_drop]
  omega

theorem rtake_rtake_append (l : List α) (a : α) (n : ℕ) :
    (l.rtake n ++ [a]).rtake n = (l ++ [a]).rtake n := by
  simp only [List.rtake, List.length_append, List.length_drop, List.length_singleton]
  rw [← List.drop_append_of_le_length (by omega), List.drop_drop]
  congr 1
  omega

theorem rtake_sublist (l : List α) (n : ℕ) : (l.rtake n).Sublist l := List.drop_sublist _ _

theorem pruneEvents_rows {store : EventStore} (hsorted : Sorted PersonEvent.id store.rows)
    (hpos : ∀ row ∈ store.rows, 1 ≤ row.id) :
    (pruneEvents store).rows = store.rows.rtake maxEventRows := by
  have hlimit : ∀ limit, pruneLimit store = limit → (pruneEvents store).rows =
      store.rows.filter fun row => limit < row.id := by
    rintro limit rfl
    rfl
  rcases hrest : store.rows.reverse.drop maxEventRows with _ | ⟨last, older⟩
  · rw [hlimit 0 (by rw [pruneLimit, hrest]), List.filter_eq_self.mpr, rtake_eq_self]
    · have := List.drop_eq_nil_iff.mp hrest
      rwa [List.length_reverse] at this
    · intro row hrow
      exact decide_eq_true (hpos row hrow)
  rw [hlimit last.id (by rw [pruneLimit, hrest])]
  -- the rows are the older ones, the last one that goes, and the newest ones
  have hsplit : store.rows = older.reverse ++ [last] ++ store.rows.rtake maxEventRows := by
    calc store.rows
        = (store.rows.reverse.take maxEventRows ++
            store.rows.reverse.drop maxEventRows).reverse := by
          rw [List.take_append_drop, List.reverse_reverse]
      _ = older.reverse ++ [last] ++ store.rows.rtake maxEventRows := by
          rw [List.reverse_append, hrest, List.reverse_cons, List.rtake_eq_reverse_take_reverse]
  generalize store.rows.rtake maxEventRows = newest at hsplit ⊢
  rw [hsplit] at hsorted ⊢
  have hparts := List.pairwise_append.mp hsorted
  have holder := List.pairwise_append.mp hparts.1
  rw [List.filter_append, List.filter_eq_nil_iff.mpr, List.filter_eq_self.mpr, List.nil_append]
  · intro row hrow
    exact decide_eq_true (hparts.2.2 last (by simp) row hrow)
  intro row hrow
  have hle : row.id ≤ last.id := by
    rcases List.mem_append.mp hrow with hold | hlast
    · exact (holder.2.2 row hold last (List.mem_singleton_self _)).le
    · rw [List.mem_singleton.mp hlast]
  simpa using hle

/-- An event is put behind the others only with a new identity and for a new frame. -/
theorem kept_inserted (h : Kept before) (hinserted : Inserted frame before true after) :
    Sorted PersonEvent.id after.appended ∧
      (∀ row ∈ after.appended, 1 ≤ row.id ∧ row.id ≤ after.store.lastId) ∧
      after.store.rows.Pairwise fun first second => ¬ first.SameFrame second := by
  obtain ⟨hid, hnew, hrows, happended⟩ := hinserted
  rw [hrows, happended]
  refine ⟨h.increasing.snoc fun old hold => ?_, fun row hrow => ?_, ?_⟩
  · have := (h.bounds old hold).2
    show old.id < after.store.lastId
    omega
  · rcases List.mem_append.mp hrow with hold | hlast
    · have := h.bounds row hold
      omega
    · rw [List.mem_singleton.mp hlast]
      show 1 ≤ after.store.lastId ∧ after.store.lastId ≤ after.store.lastId
      omega
  · refine List.pairwise_append.mpr ⟨h.distinct, List.pairwise_singleton _ _, ?_⟩
    intro old hold row hrow
    rw [List.mem_singleton.mp hrow]
    exact hnew old hold

theorem Kept.rows_sublist (h : Kept ledger) : ledger.store.rows.Sublist ledger.appended := by
  rw [h.newest]
  exact rtake_sublist _ _

theorem Kept.length_le (h : Kept ledger) : ledger.store.rows.length ≤ maxEventRows := by
  rw [h.newest]
  exact length_rtake_le _ _

theorem pruneEvents_unchanged (h : Kept before) (hinserted : Inserted frame before false after) :
    (pruneEvents after.store).rows = before.store.rows := by
  obtain ⟨-, hrows, -⟩ := hinserted
  rw [pruneEvents_rows, hrows, rtake_eq_self h.length_le]
  · rw [hrows]
    exact h.increasing.sublist h.rows_sublist
  · rw [hrows]
    exact fun row hrow => (h.bounds row (h.rows_sublist.subset hrow)).1

theorem pruneEvents_inserted (h : Kept before) (hinserted : Inserted frame before true after) :
    (pruneEvents after.store).rows = after.appended.rtake maxEventRows := by
  obtain ⟨hsorted, hbounds, -⟩ := kept_inserted h hinserted
  obtain ⟨-, -, hrows, happended⟩ := hinserted
  have hsub : after.store.rows.Sublist after.appended := by
    rw [hrows, happended]
    exact h.rows_sublist.append (List.Sublist.refl _)
  calc (pruneEvents after.store).rows
      = after.store.rows.rtake maxEventRows :=
        pruneEvents_rows (hsorted.sublist hsub) fun row hrow => (hbounds row (hsub.subset hrow)).1
    _ = after.appended.rtake maxEventRows := by
        rw [hrows, happended, h.newest, rtake_rtake_append]

theorem Recorded.rows_eq (h : Kept before) (hrecorded : Recorded frame before false after) :
    after.store.rows = before.store.rows ∧ after.appended = before.appended := by
  cases hrecorded with
  | unchanged hinserted => exact hinserted.2
  | pruned hinserted => exact ⟨pruneEvents_unchanged h hinserted, hinserted.2.2⟩

theorem Recorded.appended_eq (hrecorded : Recorded frame before true after) :
    after.appended = before.appended ++ [frame.event after.store.lastId] := by
  cases hrecorded with
  | pruned hinserted => exact hinserted.2.2.2

theorem Recorded.lastId_le (hrecorded : Recorded frame before inserted after) :
    before.store.lastId ≤ after.store.lastId := by
  cases hrecorded with
  | unchanged hinserted => exact hinserted.1
  | pruned hinserted =>
      cases inserted with
      | false => exact hinserted.1
      | true => exact hinserted.1.le

theorem Kept.of_rows (h : Kept before) (hrows : after.store.rows = before.store.rows)
    (happended : after.appended = before.appended)
    (hid : before.store.lastId ≤ after.store.lastId) : Kept after where
  newest := by rw [hrows, happended, h.newest]
  increasing := by
    rw [happended]
    exact h.increasing
  distinct := by
    rw [hrows]
    exact h.distinct
  bounds row hrow := by
    rw [happended] at hrow
    obtain ⟨hpos, hle⟩ := h.bounds row hrow
    exact ⟨hpos, hle.trans hid⟩

theorem Recorded.kept (h : Kept before) (hrecorded : Recorded frame before inserted after) :
    Kept after := by
  cases inserted with
  | false =>
      obtain ⟨hrows, happended⟩ := hrecorded.rows_eq h
      exact h.of_rows hrows happended hrecorded.lastId_le
  | true =>
      cases hrecorded with
      | pruned hinserted =>
          obtain ⟨hsorted, hbounds, hdistinct⟩ := kept_inserted h hinserted
          exact ⟨⟨pruneEvents_inserted h hinserted, hsorted,
            hdistinct.sublist List.filter_sublist⟩, hbounds⟩

/-! ## Calls -/

section Execute

variable {α : Type} {operation : EventsHandler α} {pre : Connection Ledger → Prop}
  {post : α → Connection Ledger → Prop}

/-- Whatever fails in `_execute`, the rollback leaves the store as it is. -/
theorem execute_spec (kept : Ledger → Prop)
    (h : Handler.Spec pre operation post fun connection => kept connection.stored)
    (hpre : ∀ connection, pre connection → kept connection.stored)
    (hpost : ∀ a connection, post a connection → kept connection.stored) :
    Handler.Spec pre (execute faults operation) post fun connection => kept connection.stored := by
  have hbody : Handler.Spec pre
      (Handler.require (faults .admission).isNone CallError.database >>= fun _ =>
        operation >>= fun result =>
        Handler.require (faults .readmission).isNone .database >>= fun _ => pure result)
      post fun connection => kept connection.stored := by
    have hadmission : Handler.Spec pre
        (Handler.require (faults .admission).isNone CallError.database) (fun _ => pre)
        fun connection => kept connection.stored := .require (fun _ _ h => h) hpre
    have hreadmission : ∀ a, Handler.Spec (post a)
        (Handler.require (faults .readmission).isNone CallError.database) (fun _ => post a)
        fun connection => kept connection.stored := fun a => .require (fun _ _ h => h) (hpost a)
    exact hadmission.bind fun _ => h.bind fun a => (hreadmission a).bind fun _ => .pure fun _ h => h
  refine hbody.recover fun _ => rollback_spec.bind fun _ => ?_
  constructor
  exact fun _ hkept => hkept

end Execute

def SameEvents (before after : Ledger) : Prop :=
  after.store.rows = before.store.rows ∧ after.appended = before.appended ∧
    after.store.lastId = before.store.lastId

variable {confidence : ℚ} {enabled : Bool} {camera : Camera}

theorem sameEvents_configure (h : SameEvents before ledger) : SameEvents before
      { ledger with store := (configure camera enabled confidence ledger.store).2 } := by
  unfold configure
  split_ifs <;> exact h

theorem settings_spec {kept : Ledger → Prop} :
    Handler.Spec (fun connection => kept connection.stored) (settings camera faults)
      (fun _ connection => kept connection.stored) fun connection => kept connection.stored := by
  have hselect : Handler.Spec (fun connection => kept connection.stored)
      (statement CallError.database (faults .selection) (selectCamera camera))
      (fun _ connection => kept connection.stored) fun connection => kept connection.stored := by
    refine statement_stored fun stored row after hkept h => ?_
    cases h
    exact hkept
  exact execute_spec kept (hselect.bind fun _ => .pure fun _ h => h) (fun _ h => h) fun _ _ h => h

theorem configureStatements_spec {reading : Faults} (before : Ledger) :
    Handler.Spec (fun connection => SameEvents before connection.stored)
      (configureStatements camera enabled confidence faults reading)
      (fun _ connection => SameEvents before connection.stored)
      fun connection => SameEvents before connection.stored := by
  have hupsert : Handler.Spec (fun connection => SameEvents before connection.stored)
      (statement CallError.database (faults .insertion)
        (upsertCamera camera enabled confidence))
      (fun _ connection => SameEvents before connection.stored)
      fun connection => SameEvents before connection.stored := by
    refine statement_stored fun stored row after hkept h => ?_
    cases h
    exact sameEvents_configure hkept
  exact (execute_spec (SameEvents before) hupsert (fun _ h => h) fun _ _ h => h).bind
    fun _ => settings_spec

variable {file : EventFile}

/-- A call of `configure` leaves the events as they are. -/
theorem configure_events {reading : Faults} :
    SameEvents file.stored (file.configure camera enabled confidence faults reading).2.stored := by
  unfold EventFile.configure
  split_ifs
  · exact ⟨rfl, rfl, rfl⟩
  cases file with
  | opened connection => exact (configureStatements_spec connection.stored).leaves ⟨rfl, rfl, rfl⟩
  | absent | blank | closed => exact ⟨rfl, rfl, rfl⟩

/-- The store as it was, or what a transaction of `record` makes of it. -/
def Left (frame : PersonFrame) (before after : Ledger) : Prop :=
  after = before ∨ ∃ inserted, Recorded frame before inserted after

theorem execute_record_spec (before : Ledger) :
    Handler.Spec (Stores before) (execute faults (recordStatements frame skipped faults))
      (fun inserted connection => Recorded frame before inserted connection.stored)
      fun connection => Left frame before connection.stored := by
  have hstatements : Handler.Spec (Stores before) (recordStatements frame skipped faults)
      (fun inserted connection => Recorded frame before inserted connection.stored)
      fun connection => Left frame before connection.stored :=
    (recordStatements_spec before).mono (fun _ _ h => h) fun _ h => .inl h
  exact execute_spec (Left frame before) hstatements (fun _ h => .inl h)
    fun inserted _ h => .inr ⟨inserted, h⟩

theorem record_left : Left frame file.stored (file.record frame skipped faults).2.stored := by
  unfold EventFile.record
  split_ifs
  · exact .inl rfl
  cases file with
  | opened connection =>
      exact ((execute_record_spec connection.stored).mono (fun inserted _ h => .inr ⟨inserted, h⟩)
        fun _ h => h).leaves rfl
  | absent | blank | closed => exact .inl rfl

theorem record_returns {inserted : Bool} (h : (file.record frame skipped faults).1 = .ok inserted) :
    Recorded frame file.stored inserted (file.record frame skipped faults).2.stored := by
  unfold EventFile.record at h ⊢
  split_ifs at h ⊢
  cases file with
  | opened connection =>
      dsimp only at h ⊢
      rcases hexec : (execute faults (recordStatements frame skipped faults)).exec connection with
        ⟨outcome, after⟩
      rw [hexec] at h
      cases h
      exact (execute_record_spec connection.stored).of_ok rfl hexec
  | absent | blank | closed => cases h

/-- Where a statement of the transaction fails, the call raises and the store is as it was. -/
theorem record_failed {connection : Connection Ledger} {error : CallError}
    (h : ((recordStatements frame skipped faults).exec connection).1 = .error error) :
    (∃ raised, ((EventFile.opened connection).record frame skipped faults).1 = .error raised) ∧
      ((EventFile.opened connection).record frame skipped faults).2.stored =
        connection.stored := by
  unfold EventFile.record
  split_ifs
  · exact ⟨⟨_, rfl⟩, rfl⟩
  have hfails : Handler.Spec (fun start => start = connection)
      (recordStatements frame skipped faults)
      (fun _ _ => False) fun after => after.stored = connection.stored := by
    constructor
    intro start hstart
    subst hstart
    rcases hexec : (recordStatements frame skipped faults).exec start with ⟨outcome, after⟩
    rw [hexec] at h
    cases outcome with
    | ok inserted => cases h
    | error => exact (recordStatements_spec start.stored).of_error rfl hexec
  have hexecute : Handler.Spec (fun start => start = connection)
      (execute faults (recordStatements frame skipped faults))
      (fun _ _ => False) fun after => after.stored = connection.stored :=
    execute_spec (fun ledger => ledger = connection.stored) hfails
      (fun start hstart => by rw [hstart]) fun _ _ hfalse => hfalse.elim
  dsimp only
  rcases hexec : (execute faults (recordStatements frame skipped faults)).exec connection with
    ⟨outcome, after⟩
  cases outcome with
  | ok inserted => exact (hexecute.of_ok rfl hexec).elim
  | error raised => exact ⟨⟨raised, rfl⟩, hexecute.of_error rfl hexec⟩

/-! ## Runs -/

theorem Kept.of_sameEvents (h : Kept before) (hsame : SameEvents before after) : Kept after :=
  h.of_rows hsame.1 hsame.2.1 hsame.2.2.ge

theorem kept_empty : Kept .empty where
  newest := rfl
  increasing := List.Pairwise.nil
  distinct := List.Pairwise.nil
  bounds := by rintro _ ⟨⟩

theorem stored_open (fault : Option OpenFault) : (file.close.open fault).stored = file.stored := by
  cases file with
  | absent => rcases fault with _ | _ | _ | _ <;> rfl
  | blank => rfl
  | closed ledger | opened connection =>
      unfold EventFile.close EventFile.open
      dsimp only
      split_ifs <;> rfl

theorem step_events (call : EventsCall) (h : Kept file.stored) :
    Kept (file.step call).stored ∧ file.stored.appended <+: (file.step call).stored.appended := by
  have hsame : ∀ {after}, SameEvents file.stored after →
      Kept after ∧ file.stored.appended <+: after.appended := by
    intro after hsame
    exact ⟨h.of_sameEvents hsame, hsame.2.1 ▸ List.prefix_rfl⟩
  cases call with
  | record frame skipped faults =>
      show Kept (file.record frame skipped faults).2.stored ∧ _ <+:
        (file.record frame skipped faults).2.stored.appended
      have hleft : Left frame file.stored (file.record frame skipped faults).2.stored := record_left
      rcases hleft with heq | ⟨inserted, hrecorded⟩
      · rw [heq]
        exact ⟨h, List.prefix_rfl⟩
      refine ⟨hrecorded.kept h, ?_⟩
      cases inserted with
      | false => exact (hrecorded.rows_eq h).2 ▸ List.prefix_rfl
      | true =>
          rw [hrecorded.appended_eq]
          exact List.prefix_append _ _
  | configure camera enabled confidence faults reading => exact hsame configure_events
  | close =>
      refine hsame ?_
      cases file <;> exact ⟨rfl, rfl, rfl⟩
  | reopen fault =>
      refine hsame ?_
      show SameEvents file.stored (file.close.open fault).stored
      rw [stored_open]
      exact ⟨rfl, rfl, rfl⟩

theorem run_events (start : EventFile) (calls : List EventsCall) (h : Kept start.stored) :
    Kept (calls.foldl EventFile.step start).stored ∧
      start.stored.appended <+: (calls.foldl EventFile.step start).stored.appended := by
  induction calls generalizing start with
  | nil => exact ⟨h, List.prefix_rfl⟩
  | cons call rest ih =>
      obtain ⟨hkept, hprefix⟩ := step_events call h
      obtain ⟨hrest, hlater⟩ := ih (start.step call) hkept
      exact ⟨hrest, hprefix.trans hlater⟩

structure RecordCall (frame : PersonFrame) (skipped : ℕ) (faults : Faults) (file : EventFile) :
    Prop where
  appended : (file.record frame skipped faults).1 = .ok true →
    ∃ id, (file.record frame skipped faults).2.stored.appended =
      file.stored.appended ++ [frame.event id]
  refused : (file.record frame skipped faults).1 = .ok false →
    (file.record frame skipped faults).2.stored.store.rows = file.stored.store.rows ∧
      (file.record frame skipped faults).2.stored.appended = file.stored.appended
  failed : ∀ connection error, file = .opened connection →
    ((recordStatements frame skipped faults).exec connection).1 = .error error →
    (∃ raised, (file.record frame skipped faults).1 = .error raised) ∧
      (file.record frame skipped faults).2.stored = file.stored

theorem recordCall (h : Kept file.stored) : RecordCall frame skipped faults file where
  appended hreturns := ⟨_, (record_returns hreturns).appended_eq⟩
  refused hreturns := (record_returns hreturns).rows_eq h
  failed connection error hopened hfails := by
    subst hopened
    exact record_failed hfails

/-- **The store retains the newest events**, whatever its calls and their faults are, and however
often it is reopened: one event for each frame of a camera, under identities that go up and are
not used again.  A call that returns false, or whose transaction fails at a statement, leaves the
events as they are. -/
theorem events_retained (calls : List EventsCall) : Retained (EventFile.run calls).stored ∧
      (∀ more, (EventFile.run calls).stored.appended <+:
        (EventFile.run (calls ++ more)).stored.appended) ∧
      ∀ frame skipped faults, RecordCall frame skipped faults (EventFile.run calls) := by
  obtain ⟨hkept, -⟩ := run_events .absent calls kept_empty
  refine ⟨hkept.toRetained, fun more => ?_, fun frame skipped faults => recordCall hkept⟩
  unfold EventFile.run
  rw [List.foldl_append]
  exact (run_events _ more hkept).2

end K5Vision.Operator.PersonEvents
