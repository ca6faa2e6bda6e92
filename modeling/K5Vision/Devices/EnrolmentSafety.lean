import K5Vision.Devices.DeviceRegistry

/-!
# What enrolments leave

What holds in every state that registries of one capacity reach over one database
(`enrolment_safe`), as long as every call has a host that a statement can bind, and asks for an
endpoint whose row, if there is one, can be decoded.  Without that a call ends with its transaction
open (`undecodable_row_keeps_transaction`).

An open transaction keeps every other registry from writing, so the statements of a call see the
rows that its `SELECT` saw.  `PhaseSound` says what a call knows before each of its statements, and
`Record` what the rows and the calls that have ended have to do with each other.  A statement ends
a call or takes it to its next statement; both keep the two.
-/

namespace K5Vision.Devices

open Identity Library

variable {ι : Type*} {d : Deployment ι}

/-! ## What is to hold -/

def Return.createdRow (ret : Return) : Option DeviceRow :=
  match ret.outcome with
  | .ok ⟨device, true⟩ => some (encodeRow ret.siteId ret.call.streamKey device)
  | _ => none

def createdRows (returns : List Return) : List DeviceRow := returns.filterMap Return.createdRow

def Return.createdDevice (siteId : String) (ret : Return) : Option Device :=
  match ret.outcome with
  | .ok ⟨device, true⟩ => if ret.siteId = siteId then some device else none
  | _ => none

def createdDevices (siteId : String) (returns : List Return) : List Device :=
  returns.filterMap (Return.createdDevice siteId)

/-- The row of a call's endpoint reads back as a device of its request. -/
def IsStored (interpreter : Interpreter) (rows : List DeviceRow) (siteId : String) (call : Call)
    (device : Device) : Prop :=
  ∃ row ∈ rows, row.endpoint = endpointOf siteId call ∧
    decodeDevice interpreter row = .ok device ∧ device.toDeviceCreate = call.request

/-- One device is enrolled, and the same call comes again: it returns the device, unless SQLite
fails. -/
def SameAgain (first second : Return) : Prop :=
  first.siteId = second.siteId → first.call = second.call →
    ∀ registration, first.outcome = .ok registration →
      second.outcome = .ok ⟨registration.device, false⟩ ∨ second.outcome = .error .storage

/-- Neither `UNIQUE` constraint is broken. -/
structure UniqueRows (rows : List DeviceRow) : Prop where
  identities : (rows.map DeviceRow.identity).Nodup
  endpoints : (rows.map DeviceRow.endpoint).Nodup

/-- A database that other processes may have filled, and registries that have just opened it. -/
structure Opened (d : Deployment ι) (s : System ι) : Prop where
  unique : UniqueRows s.rows
  capacity : ∀ i, (siteRows (d.site i) s.rows).length ≤ d.capacity
  closed : s.writer = none
  idle : ∀ i, s.phases i = .idle
  fresh : s.returns = []

structure EnrolmentSafe [DecidableEq ι] (d : Deployment ι) (start final : System ι) : Prop where
  capacity : ∀ i, (siteRows (d.site i) final.rows).length ≤ d.capacity
  unique : UniqueRows final.rows
  /-- Only calls that create a device change the rows. -/
  rows_eq : final.rows = start.rows ++ createdRows final.returns
  /-- A call that has ended has no transaction open. -/
  closed : ∀ i, final.phases i = .idle → final.writer ≠ some i
  stored : ∀ ret ∈ final.returns, ∀ registration, ret.outcome = .ok registration →
    IsStored d.interpreter final.rows ret.siteId ret.call registration.device
  again : final.returns.Pairwise SameAgain
  /-- The pages of a site are its devices from before the run, and those of the run. -/
  pages : ∀ i, ∀ limit : ℕ, 1 ≤ limit → limit ≤ 100 →
    ∀ count : ℕ, (siteRows (d.site i) final.rows).length ≤ count * limit →
      ∀ before, ((siteRows (d.site i) start.rows).mapM fun row =>
          (decodeDevice d.interpreter row).mapError Deployment.ListFailure.decoding) = .ok before →
        ((List.range count).mapM fun page => d.list i (page * limit : ℕ) limit final).map
            List.flatten = .ok (before ++ createdDevices (d.site i) final.returns)
  distinct : ∀ siteId, ((createdDevices siteId final.returns).map Device.id).Nodup

def Readable (d : Deployment ι) (s : System ι) (i : ι) (call : Call) : Prop :=
  hostEncodable call ∧ ∀ row ∈ s.rows, row.endpoint = endpointOf (d.site i) call →
    ∃ device, decodeDevice d.interpreter row = .ok device

def Deployment.readable (d : Deployment ι) (s : System ι) : Deployment.Event ι → Prop
  | .call i call => Readable d s i call
  | .statement _ _ => True

/-! ## The rows and the calls that have ended -/

structure Record (d : Deployment ι) (before : List DeviceRow) (rows : List DeviceRow)
    (returns : List Return) : Prop where
  capacity : ∀ i, (siteRows (d.site i) rows).length ≤ d.capacity
  unique : UniqueRows rows
  rows_eq : rows = before ++ createdRows returns
  stored : ∀ ret ∈ returns, ∀ registration, ret.outcome = .ok registration →
    ret.call.accepted = true ∧
      IsStored d.interpreter rows ret.siteId ret.call registration.device
  again : returns.Pairwise SameAgain

variable {siteId : String} {rows : List DeviceRow} {interpreter : Interpreter}

theorem IsStored.mono {call : Call} {device : Device}
    (h : IsStored interpreter rows siteId call device) (more : List DeviceRow) :
    IsStored interpreter (rows ++ more) siteId call device := by
  obtain ⟨row, hrow, hrest⟩ := h
  exact ⟨row, List.mem_append_left _ hrow, hrest⟩

theorem UniqueRows.eq_of_endpoint (h : UniqueRows rows) {first second : DeviceRow}
    (hfirst : first ∈ rows) (hsecond : second ∈ rows) (heq : first.endpoint = second.endpoint) :
    first = second :=
  List.inj_on_of_nodup_map h.endpoints hfirst hsecond heq

theorem IsStored.unique {call : Call} {first second : Device} (hunique : UniqueRows rows)
    (hfirst : IsStored interpreter rows siteId call first)
    (hsecond : IsStored interpreter rows siteId call second) : first = second := by
  obtain ⟨row, hrow, hendpoint, hdecode, -⟩ := hfirst
  obtain ⟨other, hother, hendpoint', hdecode', -⟩ := hsecond
  have hsame : row = other := hunique.eq_of_endpoint hrow hother (hendpoint.trans hendpoint'.symm)
  subst hsame
  rw [hdecode] at hdecode'
  cases hdecode'
  rfl

variable {returns : List Return} {before : List DeviceRow}

theorem Record.snoc (h : Record d before rows returns) {call : Call}
    {outcome : Except Failure DeviceRegistration}
    (hok : ∀ registration, outcome = .ok registration → registration.created = false ∧
      call.accepted = true ∧ IsStored d.interpreter rows siteId call registration.device)
    (hstored : call.accepted = true → ∀ device, IsStored d.interpreter rows siteId call device →
      outcome = .ok ⟨device, false⟩ ∨ outcome = .error .storage) :
    Record d before rows (returns ++ [⟨siteId, call, outcome⟩]) := by
  have hnone : Return.createdRow ⟨siteId, call, outcome⟩ = none := by
    unfold Return.createdRow
    split
    · next device heq =>
        have hcreated := (hok _ heq).1
        simp at hcreated
    · rfl
  refine ⟨h.capacity, h.unique, ?_, ?_, ?_⟩
  · rw [createdRows, List.filterMap_append, h.rows_eq]
    simp [createdRows, hnone]
  · intro ret hret registration houtcome
    rcases List.mem_append.mp hret with hold | hnew
    · exact h.stored ret hold registration houtcome
    · rw [List.mem_singleton] at hnew
      subst hnew
      exact (hok registration houtcome).2
  refine List.pairwise_append.mpr ⟨h.again, List.pairwise_singleton _ _, ?_⟩
  intro first hfirst second hsecond hsite hcall registration houtcome
  rw [List.mem_singleton] at hsecond
  subst hsecond
  obtain ⟨haccepted, hfound⟩ := h.stored first hfirst registration houtcome
  have hcall' : first.call = call := hcall
  rw [hcall'] at haccepted
  rw [hsite, hcall'] at hfound
  exact hstored haccepted _ hfound

theorem Record.snoc_storage (h : Record d before rows returns) (siteId : String) (call : Call) :
    Record d before rows (returns ++ [⟨siteId, call, .error .storage⟩]) :=
  h.snoc (by simp) (by simp)

theorem endpoint_encodeRow {call : Call} {device : Device}
    (h : device.toDeviceCreate = call.request) :
    (encodeRow siteId call.streamKey device).endpoint = endpointOf siteId call := by
  simp [encodeRow, DeviceRow.endpoint, endpointOf, ← h]

theorem siteRows_append (siteId : String) (rows more : List DeviceRow) :
    siteRows siteId (rows ++ more) = siteRows siteId rows ++ siteRows siteId more :=
  List.filter_append ..

theorem UniqueRows.snoc {row : DeviceRow} (h : UniqueRows rows)
    (hfree : ∀ other ∈ rows, other.identity ≠ row.identity ∧ other.endpoint ≠ row.endpoint) :
    UniqueRows (rows ++ [row]) := by
  constructor
  · rw [List.map_append, List.map_singleton, List.nodup_append]
    refine ⟨h.identities, List.nodup_singleton _, ?_⟩
    simp only [List.forall_mem_map, List.mem_singleton, forall_eq]
    intro other hother
    exact (hfree other hother).1
  · rw [List.map_append, List.map_singleton, List.nodup_append]
    refine ⟨h.endpoints, List.nodup_singleton _, ?_⟩
    simp only [List.forall_mem_map, List.mem_singleton, forall_eq]
    intro other hother
    exact (hfree other hother).2

/-- A row can be inserted for a device: there is room, and neither of its keys is taken. -/
structure Insertable (d : Deployment ι) (rows : List DeviceRow) (i : ι) (call : Call)
    (device : Device) : Prop where
  room : (siteRows (d.site i) rows).length < d.capacity
  free : ∀ other ∈ rows, other.identity ≠ (encodeRow (d.site i) call.streamKey device).identity ∧
    other.endpoint ≠ (encodeRow (d.site i) call.streamKey device).endpoint
  request : device.toDeviceCreate = call.request

variable {i : ι}

theorem Record.snoc_created {call : Call} {device : Device} (h : Record d before rows returns)
    (haccepted : call.accepted = true) (hinsert : Insertable d rows i call device) :
    Record d before (rows ++ [encodeRow (d.site i) call.streamKey device])
      (returns ++ [⟨d.site i, call, .ok ⟨device, true⟩⟩]) := by
  have hendpoint := @endpoint_encodeRow (d.site i) _ _ hinsert.request
  refine ⟨?_, h.unique.snoc hinsert.free, ?_, ?_, ?_⟩
  · intro j
    rw [siteRows_append, List.length_append]
    by_cases hsite : d.site i = d.site j
    · have hroom := hinsert.room
      rw [hsite] at hroom ⊢
      simp [siteRows, encodeRow] at hroom ⊢
      omega
    · have hcapacity := h.capacity j
      simpa [siteRows, encodeRow, hsite] using hcapacity
  · rw [createdRows, List.filterMap_append, h.rows_eq]
    simp [createdRows, Return.createdRow]
  · intro ret hret registration houtcome
    rcases List.mem_append.mp hret with hold | hnew
    · have hstored := h.stored ret hold registration houtcome
      exact ⟨hstored.1, hstored.2.mono _⟩
    rw [List.mem_singleton] at hnew
    subst hnew
    cases houtcome
    exact ⟨haccepted, _, List.mem_append_right _ (List.mem_singleton_self _), hendpoint,
      decodeDevice_encodeRow .., hinsert.request⟩
  · refine List.pairwise_append.mpr ⟨h.again, List.pairwise_singleton _ _, ?_⟩
    intro first hfirst second hsecond hsite hcall registration houtcome
    rw [List.mem_singleton] at hsecond
    subst hsecond
    obtain ⟨-, row, hrow, hat, -, -⟩ := h.stored first hfirst registration houtcome
    rw [hsite, hcall, ← hendpoint] at hat
    exact absurd hat (hinsert.free row hrow).2

/-! ## What a call knows before its statements -/

/-- No row has the endpoint of the call. -/
def Vacant (d : Deployment ι) (rows : List DeviceRow) (i : ι) (call : Call) : Prop :=
  ∀ row ∈ rows, row.endpoint ≠ endpointOf (d.site i) call

/-- What a registry knows of the database before its next statement. -/
def PhaseSound (d : Deployment ι) (s : System ι) (i : ι) : Phase → Prop
  | .idle => s.writer ≠ some i
  | .begins call => s.writer ≠ some i ∧ Readable d s i call.1
  | .selects call => s.writer = some i ∧ s.inserted = [] ∧ Readable d s i call.1
  | .counts call => s.writer = some i ∧ s.inserted = [] ∧ Vacant d s.rows i call.1
  | .inserts call device => s.writer = some i ∧ s.inserted = [] ∧ Vacant d s.rows i call.1 ∧
      (siteRows (d.site i) s.rows).length < d.capacity ∧ device.toDeviceCreate = call.1.request
  | .commits call registration => s.writer = some i ∧
      (registration.created = false ∧ s.inserted = [] ∧
        IsStored d.interpreter s.rows (d.site i) call.1 registration.device ∨
      registration.created = true ∧
        s.inserted = [encodeRow (d.site i) call.1.streamKey registration.device] ∧
        Insertable d s.rows i call.1 registration.device)

structure Kept (d : Deployment ι) (before : List DeviceRow) (s : System ι) : Prop where
  phases : ∀ i, PhaseSound d s i (s.phases i)
  record : Record d before s.rows s.returns

/-- The rows only grow, and by rows that can be decoded. -/
def Grows (d : Deployment ι) (s next : System ι) : Prop :=
  ∀ row ∈ next.rows, row ∈ s.rows ∨ ∃ device, decodeDevice d.interpreter row = .ok device

theorem Readable.of_grows {s next : System ι} {call : Call} (h : Readable d s i call)
    (hgrows : Grows d s next) : Readable d next i call := by
  refine ⟨h.1, ?_⟩
  intro row hrow hendpoint
  rcases hgrows row hrow with hold | hnew
  · exact h.2 row hold hendpoint
  · exact hnew

theorem PhaseSound.frame {s next : System ι} {phase : Phase} (h : PhaseSound d s i phase)
    (hwriter : s.writer ≠ some i) (hnext : next.writer ≠ some i) (hgrows : Grows d s next) :
    PhaseSound d next i phase := by
  cases phase with
  | idle => exact hnext
  | begins call => exact ⟨hnext, h.2.of_grows hgrows⟩
  | selects call => exact absurd h.1 hwriter
  | counts call => exact absurd h.1 hwriter
  | inserts call device => exact absurd h.1 hwriter
  | commits call registration => exact absurd h.1 hwriter

variable [DecidableEq ι] {before : List DeviceRow} {s next : System ι} {i : ι}

theorem Kept.quiet (h : Kept d before s) (phase : Phase)
    (hrows : next.rows = s.rows) (hwriter : next.writer = s.writer)
    (hinserted : next.inserted = s.inserted)
    (hphases : next.phases = Function.update s.phases i phase) (hphase : PhaseSound d next i phase)
    (hrecord : Record d before next.rows next.returns) : Kept d before next := by
  refine ⟨?_, hrecord⟩
  intro j
  rw [hphases]
  by_cases hj : j = i
  · subst hj
    rw [Function.update_self]
    exact hphase
  rw [Function.update_of_ne hj]
  have hsound := h.phases j
  cases hcase : s.phases j <;>
    simpa [hcase, PhaseSound, Readable, hrows, hwriter, hinserted] using hsound

theorem Kept.alone (h : Kept d before s) (phase : Phase)
    (hwriter : ∀ j ≠ i, s.writer ≠ some j) (hnext : ∀ j ≠ i, next.writer ≠ some j)
    (hgrows : Grows d s next) (hphases : next.phases = Function.update s.phases i phase)
    (hphase : PhaseSound d next i phase) (hrecord : Record d before next.rows next.returns) :
    Kept d before next := by
  refine ⟨?_, hrecord⟩
  intro j
  rw [hphases]
  by_cases hj : j = i
  · subst hj
    rw [Function.update_self]
    exact hphase
  · rw [Function.update_of_ne hj]
    exact (h.phases j).frame (hwriter j hj) (hnext j hj) hgrows

theorem Kept.finish_rollback (h : Kept d before s) {call : Call}
    {outcome : Except Failure DeviceRegistration}
    (hrecord : Record d before s.rows (s.returns ++ [⟨d.site i, call, outcome⟩])) :
    Kept d before (d.finish i call outcome (Deployment.rollback i s)) := by
  unfold Deployment.rollback
  split_ifs with hwriter
  · refine h.alone (i := i) .idle ?_ ?_ ?_ rfl ?_ hrecord
    · intro j hj
      rw [hwriter]
      simpa using Ne.symm hj
    · intro j _
      simp [Deployment.finish]
    · intro row hrow
      exact .inl hrow
    · simp [PhaseSound, Deployment.finish]
  · exact h.quiet (i := i) .idle rfl rfl rfl rfl hwriter hrecord

theorem Kept.sqliteError (h : Kept d before s) (call : AcceptedCall) :
    Kept d before (d.sqliteError i call s) :=
  h.finish_rollback (h.record.snoc_storage _ _)

/-! ## The statements -/

theorem Kept.beginImmediate (h : Kept d before s) {call : AcceptedCall} (answer : Answer)
    (hphase : s.phases i = .begins call) : Kept d before (d.beginImmediate i call answer s) := by
  have hsound := h.phases i
  rw [hphase] at hsound
  unfold Deployment.beginImmediate
  split
  · next hnone =>
      refine h.alone (i := i) (.selects call) ?_ ?_ ?_ rfl ?_ h.record
      · intro j _
        simp [hnone]
      · intro j hj
        simpa [Deployment.go] using Ne.symm hj
      · intro row hrow
        exact .inl hrow
      · exact ⟨rfl, rfl, hsound.2⟩
  · exact h.sqliteError call

theorem Kept.select (h : Kept d before s) {call : AcceptedCall} (answer : Answer)
    (hphase : s.phases i = .selects call) : Kept d before (d.select i call answer s) := by
  have hsound := h.phases i
  rw [hphase] at hsound
  obtain ⟨hwriter, hinserted, hencodable, hreadable⟩ := hsound
  unfold Deployment.select
  rw [if_pos hencodable, hinserted, List.append_nil]
  cases answer with
  | fails => exact h.sqliteError call
  | succeeds newId =>
      cases hfind : s.rows.find? fun row => row.endpoint = endpointOf (d.site i) call.1 with
      | none =>
          simp only
          refine h.quiet (i := i) (.counts call) rfl rfl rfl rfl ?_ h.record
          refine ⟨hwriter, hinserted, ?_⟩
          intro row hrow
          simpa using List.find?_eq_none.mp hfind row hrow
      | some row =>
          have hrow : row ∈ s.rows := List.mem_of_find?_eq_some hfind
          have hendpoint : row.endpoint = endpointOf (d.site i) call.1 := by
            simpa using List.find?_some hfind
          obtain ⟨existing, hdecode⟩ := hreadable row hrow hendpoint
          simp only [hdecode]
          by_cases hrequest : existing.toDeviceCreate = call.1.request
          · rw [if_pos hrequest]
            refine h.quiet (i := i) (.commits call ⟨existing, false⟩) rfl rfl rfl rfl ?_
              h.record
            exact ⟨hwriter, .inl ⟨rfl, hinserted, row, hrow, hendpoint, hdecode, hrequest⟩⟩
          rw [if_neg hrequest]
          -- Nothing of the request can be stored: the one row of the endpoint differs from it.
          refine h.finish_rollback (h.record.snoc (by simp) ?_)
          intro _ device hstored
          obtain ⟨other, hother, hat, hdecode', hsame⟩ := hstored
          have heq : row = other :=
            h.record.unique.eq_of_endpoint hrow hother (hendpoint.trans hat.symm)
          subst heq
          rw [hdecode] at hdecode'
          cases hdecode'
          exact absurd hsame hrequest

theorem Kept.count (h : Kept d before s) {call : AcceptedCall} (answer : Answer)
    (hphase : s.phases i = .counts call) : Kept d before (d.count i call answer s) := by
  have hsound := h.phases i
  rw [hphase] at hsound
  obtain ⟨hwriter, hinserted, hvacant⟩ := hsound
  unfold Deployment.count
  rw [hinserted, List.append_nil]
  cases answer with
  | fails => exact h.sqliteError call
  | succeeds newId =>
      by_cases hfull : d.capacity ≤ (siteRows (d.site i) s.rows).length
      · simp only [if_pos hfull]
        refine h.finish_rollback (h.record.snoc (by simp) ?_)
        intro _ device hstored
        obtain ⟨row, hrow, hat, -, -⟩ := hstored
        exact absurd hat (hvacant row hrow)
      · simp only [if_neg hfull]
        refine h.quiet (i := i) (.inserts call ⟨call.1.request, newId⟩) rfl rfl rfl rfl ?_
          h.record
        exact ⟨hwriter, hinserted, hvacant, not_le.mp hfull, rfl⟩

theorem Kept.insert (h : Kept d before s) {call : AcceptedCall} {device : Device} (answer : Answer)
    (hphase : s.phases i = .inserts call device) :
    Kept d before (d.insert i call device answer s) := by
  have hsound := h.phases i
  rw [hphase] at hsound
  obtain ⟨hwriter, hinserted, hvacant, hroom, hrequest⟩ := hsound
  unfold Deployment.insert
  rw [hinserted, List.append_nil]
  cases answer with
  | fails => exact h.sqliteError call
  | succeeds newId =>
      simp only
      split_ifs with htaken
      · exact h.sqliteError call
      refine h.alone (i := i) (.commits call ⟨device, true⟩) ?_ ?_ ?_ rfl ?_ h.record
      · intro j hj
        rw [hwriter]
        simpa using Ne.symm hj
      · intro j hj
        simpa [Deployment.go, hwriter] using Ne.symm hj
      · intro row hrow
        exact .inl hrow
      · refine ⟨hwriter, .inr ⟨rfl, rfl, hroom, ?_, hrequest⟩⟩
        intro other hother
        refine ⟨fun heq => htaken ⟨other, hother, .inl heq⟩,
          fun heq => htaken ⟨other, hother, .inr heq⟩⟩

theorem Kept.commit (h : Kept d before s) {call : AcceptedCall} {registration : DeviceRegistration}
    (answer : Answer) (hphase : s.phases i = .commits call registration) :
    Kept d before (d.commit i call registration answer s) := by
  have hsound := h.phases i
  rw [hphase] at hsound
  obtain ⟨hwriter, hcase⟩ := hsound
  unfold Deployment.commit
  cases answer with
  | fails => exact h.sqliteError call
  | succeeds newId =>
      have hothers : ∀ j ≠ i, s.writer ≠ some j := by
        intro j hj
        rw [hwriter]
        simpa using Ne.symm hj
      obtain ⟨device, created⟩ := registration
      rcases hcase with ⟨hcreated, hinserted, hstored⟩ | ⟨hcreated, hinserted, hinsertable⟩
      · simp only at hcreated hstored
        subst hcreated
        refine h.alone (i := i) .idle hothers ?_ ?_ rfl ?_ ?_
        · simp [Deployment.finish]
        · intro row hrow
          left
          simpa [Deployment.finish, hinserted] using hrow
        · simp [PhaseSound, Deployment.finish]
        simp only [Deployment.finish, hinserted, List.append_nil]
        refine h.record.snoc ?_ ?_
        · intro registration heq
          cases heq
          exact ⟨rfl, call.2, hstored⟩
        · intro _ other hother
          rw [hother.unique h.record.unique hstored]
          exact .inl rfl
      · simp only at hcreated hinserted hinsertable
        subst hcreated
        refine h.alone (i := i) .idle hothers ?_ ?_ rfl ?_ ?_
        · simp [Deployment.finish]
        · intro row hrow
          simp only [Deployment.finish, hinserted, List.mem_append, List.mem_singleton] at hrow
          rcases hrow with hold | rfl
          · exact .inl hold
          · exact .inr ⟨device, decodeDevice_encodeRow ..⟩
        · simp [PhaseSound, Deployment.finish]
        · simp only [Deployment.finish, hinserted]
          exact h.record.snoc_created call.2 hinsertable

theorem Kept.statement (h : Kept d before s) (answer : Answer) :
    Kept d before (d.statement i answer s) := by
  unfold Deployment.statement
  split
  · exact h
  · next call hphase => exact h.beginImmediate answer hphase
  · next call hphase => exact h.select answer hphase
  · next call hphase => exact h.count answer hphase
  · next call device hphase => exact h.insert answer hphase
  · next call registration hphase => exact h.commit answer hphase

theorem Kept.call (h : Kept d before s) {call : Call} (hreadable : Readable d s i call) :
    Kept d before (d.call i call s) := by
  unfold Deployment.call
  split_ifs with haccepted
  · split
    · next hidle =>
        have hwriter := h.phases i
        rw [hidle] at hwriter
        exact h.quiet (i := i) (.begins ⟨call, haccepted⟩) rfl rfl rfl rfl
          ⟨hwriter, hreadable⟩ h.record
    · exact h
  · refine h.quiet (i := i) (s.phases i) rfl rfl rfl (Function.update_eq_self i _).symm
      (h.phases i) (h.record.snoc (by simp) ?_)
    intro htrue
    exact absurd htrue haccepted

theorem kept_of_reaches {start final : System ι} {events : List (Deployment.Event ι)}
    (hopened : Opened d start)
    (h : (d.machine d.readable).Reaches start events final) : Kept d start.rows final := by
  have hstep (state : System ι) (event : Deployment.Event ι) (hkept : Kept d start.rows state)
      (hadmissible : d.readable state event) :
      Kept d start.rows ((d.machine d.readable).step state event) := by
    cases event with
    | call i call => exact hkept.call hadmissible
    | statement i answer => exact hkept.statement answer
  refine h.invariant hstep ⟨?_, hopened.capacity, hopened.unique, ?_, ?_, ?_⟩
  · intro i
    rw [hopened.idle i]
    simp [PhaseSound, hopened.closed]
  · simp [hopened.fresh, createdRows]
  · simp [hopened.fresh]
  · rw [hopened.fresh]
    exact List.Pairwise.nil

/-! ## Pages -/

theorem flatMap_pages {α : Type*} (l : List α) (limit count : ℕ) :
    (List.range count).flatMap (fun page => (l.drop (page * limit)).take limit) =
      l.take (count * limit) := by
  induction count with
  | zero => simp
  | succ count ih => simp [List.range_succ, ih, Nat.succ_mul, List.take_add]

theorem mapM_flatMap {α β γ ε : Type*} (read : β → Except ε γ) (part : α → List β) (l : List α) :
    (l.mapM fun a => (part a).mapM read).map List.flatten = (l.flatMap part).mapM read := by
  induction l with
  | nil => rfl
  | cons a l ih =>
      rw [List.flatMap_cons, List.mapM_append, List.mapM_cons, ← ih]
      cases (part a).mapM read with
      | error failure => rfl
      | ok first =>
          cases l.mapM fun a => (part a).mapM read with
          | error failure => rfl
          | ok rest => rfl

def IsRowOf (interpreter : Interpreter) (siteId : String) (row : DeviceRow) (device : Device) :
    Prop :=
  decodeDevice interpreter row = .ok device ∧ row.identity = (siteId, device.id.text)

theorem forall₂_created (interpreter : Interpreter) (siteId : String) (returns : List Return) :
    List.Forall₂ (IsRowOf interpreter siteId) (siteRows siteId (createdRows returns))
      (createdDevices siteId returns) := by
  induction returns with
  | nil => exact List.Forall₂.nil
  | cons ret returns ih =>
      obtain ⟨site, call, outcome⟩ := ret
      match outcome with
      | .error failure => exact ih
      | .ok ⟨device, false⟩ => exact ih
      | .ok ⟨device, true⟩ =>
          by_cases hsite : site = siteId
          · subst hsite
            have hrow : IsRowOf interpreter site (encodeRow site call.streamKey device) device :=
              ⟨decodeDevice_encodeRow .., rfl⟩
            simpa [siteRows, createdRows, createdDevices, Return.createdRow, Return.createdDevice,
              encodeRow] using List.Forall₂.cons hrow ih
          · simpa [siteRows, createdRows, createdDevices, Return.createdRow, Return.createdDevice,
              encodeRow, hsite] using ih

variable {devices : List Device}

theorem mapM_of_forall₂ (h : List.Forall₂ (IsRowOf interpreter siteId) rows devices) :
    (rows.mapM fun row => (decodeDevice interpreter row).mapError
      Deployment.ListFailure.decoding) = .ok devices := by
  induction h with
  | nil => rfl
  | cons hrow _ ih =>
      rw [List.mapM_cons, ih, hrow.1]
      rfl

theorem identities_of_forall₂ (h : List.Forall₂ (IsRowOf interpreter siteId) rows devices) :
    rows.map DeviceRow.identity = (devices.map Device.id).map fun id => (siteId, id.text) := by
  induction h with
  | nil => rfl
  | cons hrow _ ih => simp [ih, hrow.2]

omit [DecidableEq ι] in
theorem list_page (d : Deployment ι) (i : ι) {limit : ℕ} (hpos : 1 ≤ limit) (hmax : limit ≤ 100)
    (offset : ℕ) (s : System ι) : d.list i offset limit s =
      (((siteRows (d.site i) s.rows).drop offset).take limit).mapM fun row =>
        (decodeDevice d.interpreter row).mapError Deployment.ListFailure.decoding := by
  unfold Deployment.list
  rw [if_neg (by omega), if_neg (by simp [Deployment.maxDevicePageSize]; omega)]
  rfl

omit [DecidableEq ι] in
theorem Record.pages (h : Record d before rows returns) (siteId : String)
    (hbefore : ((siteRows siteId before).mapM fun row =>
      (decodeDevice d.interpreter row).mapError Deployment.ListFailure.decoding) = .ok devices) :
    ((siteRows siteId rows).mapM fun row =>
      (decodeDevice d.interpreter row).mapError Deployment.ListFailure.decoding) =
        .ok (devices ++ createdDevices siteId returns) := by
  rw [h.rows_eq, siteRows_append, List.mapM_append, hbefore,
    mapM_of_forall₂ (forall₂_created d.interpreter siteId returns)]
  rfl

omit [DecidableEq ι] in
theorem Record.distinct (h : Record d before rows returns) (siteId : String) :
    ((createdDevices siteId returns).map Device.id).Nodup := by
  have hsublist : (siteRows siteId (createdRows returns)).Sublist rows := by
    rw [h.rows_eq]
    exact List.filter_sublist.trans (List.sublist_append_right _ _)
  have hnodup := h.unique.identities.sublist (hsublist.map DeviceRow.identity)
  rw [identities_of_forall₂ (forall₂_created d.interpreter siteId returns)] at hnodup
  exact hnodup.of_map _

/-! ## Every run -/

/-- Registries enrol devices safely, as long as every call has a host that can be bound and asks
for an endpoint whose row, if there is one, can be decoded. -/
theorem enrolment_safe (d : Deployment ι) {start final : System ι}
    {events : List (Deployment.Event ι)} (hopened : Opened d start)
    (h : (d.machine d.readable).Reaches start events final) : EnrolmentSafe d start final := by
  have hkept := kept_of_reaches hopened h
  have hrecord := hkept.record
  refine ⟨hrecord.capacity, hrecord.unique, hrecord.rows_eq, ?_, ?_, hrecord.again, ?_,
    hrecord.distinct⟩
  · intro i hidle
    have hphase := hkept.phases i
    rw [hidle] at hphase
    exact hphase
  · intro ret hret registration houtcome
    exact (hrecord.stored ret hret registration houtcome).2
  intro i limit hpos hmax count hlength devices hbefore
  have hpage : (fun page : ℕ => d.list i (page * limit : ℕ) limit final) = fun page =>
      (((siteRows (d.site i) final.rows).drop (page * limit)).take limit).mapM fun row =>
        (decodeDevice d.interpreter row).mapError Deployment.ListFailure.decoding := by
    funext page
    exact list_page d i hpos hmax (page * limit) final
  rw [hpage, mapM_flatMap, flatMap_pages, List.take_of_length_le hlength]
  exact hrecord.pages (d.site i) hbefore

/-! ## Two registries of one site -/

def twoRegistries : Deployment Bool where
  interpreter := ⟨.ascii, 1, le_rfl⟩
  capacity := 1
  site _ := "default"
  capacity_valid := by decide
  site_valid := by decide +kernel

def openedWith (rows : List DeviceRow) : System Bool := ⟨rows, none, [], fun _ => .idle, []⟩

theorem opened_of_rows (hunique : UniqueRows rows)
    (hcapacity : (siteRows "default" rows).length ≤ 1) : Opened twoRegistries (openedWith rows) :=
  ⟨hunique, fun _ => hcapacity, rfl, fun _ => rfl, rfl⟩

def wholeCall (i : Bool) (statements : ℕ) : List (Deployment.Event Bool) :=
  .call i ⟨camera, none⟩ :: List.replicate statements (.statement i (.succeeds 7))

def stateAfter (rows : List DeviceRow) (events : List (Deployment.Event Bool)) : System Bool :=
  events.foldl (twoRegistries.machine twoRegistries.readable).step (openedWith rows)

theorem stateAfter_append (rows : List DeviceRow) (first second : List (Deployment.Event Bool)) :
    stateAfter rows (first ++ second) =
      second.foldl (twoRegistries.machine twoRegistries.readable).step (stateAfter rows first) :=
  List.foldl_append

theorem reaches_wholeCall {s : System Bool} {i : Bool}
    (h : Readable twoRegistries s i ⟨camera, none⟩) (statements : ℕ) :
    (twoRegistries.machine twoRegistries.readable).Reaches s (wholeCall i statements)
      ((wholeCall i statements).foldl (twoRegistries.machine twoRegistries.readable).step s) := by
  refine ⟨h, Machine.reaches_foldl ?_ _⟩
  intro event hevent state
  rw [List.eq_of_mem_replicate hevent]
  trivial

/-- The camera is enrolled, and another registry asks for it again. -/
theorem enrolment_safe_again : EnrolmentSafe twoRegistries (openedWith [])
      (stateAfter [] (wholeCall true 5 ++ wholeCall false 3)) ∧
    (stateAfter [] (wholeCall true 5 ++ wholeCall false 3)).returns.map Return.outcome =
      [.ok ⟨⟨camera, 7⟩, true⟩, .ok ⟨⟨camera, 7⟩, false⟩] := by
  have hencodable : hostEncodable ⟨camera, none⟩ := by decide +kernel
  have hrows : (stateAfter [] (wholeCall true 5)).rows = [encodeRow "default" [] ⟨camera, 7⟩] := by
    decide +kernel
  have hopened : Opened twoRegistries (openedWith []) :=
    opened_of_rows ⟨List.nodup_nil, List.nodup_nil⟩ (by decide)
  have hfirst := reaches_wholeCall (s := openedWith []) (i := true)
    ⟨hencodable, by simp [openedWith]⟩ 5
  have hsecond := reaches_wholeCall (s := stateAfter [] (wholeCall true 5)) (i := false)
    ⟨hencodable, by simp [hrows, decodeDevice_encodeRow]⟩ 3
  refine ⟨?_, by decide +kernel⟩
  rw [stateAfter_append]
  exact enrolment_safe twoRegistries hopened (hfirst.append hsecond)

def brokenRow : DeviceRow := { encodeRow "default" [] ⟨camera, 7⟩ with id := [] }

/-- The row of the endpoint cannot be decoded: the call raises, and its transaction stays open. -/
theorem undecodable_row_keeps_transaction :
    ∃ events final, Opened twoRegistries (openedWith [brokenRow]) ∧
      (twoRegistries.machine fun _ _ => True).Reaches (openedWith [brokenRow]) events final ∧
      final.returns.map Return.outcome =
        [.error (.decoding .invalidState), .error .storage] ∧
      final.phases true = .idle ∧ final.writer = some true ∧
      ¬EnrolmentSafe twoRegistries (openedWith [brokenRow]) final := by
  have hunique : UniqueRows [brokenRow] := ⟨List.nodup_singleton _, List.nodup_singleton _⟩
  refine ⟨wholeCall true 2 ++ wholeCall false 1, _, opened_of_rows hunique (by decide),
    Machine.reaches_foldl (fun _ _ _ => trivial) _, by decide +kernel, rfl, by decide +kernel, ?_⟩
  intro hsafe
  exact hsafe.closed true rfl (by decide +kernel)

end K5Vision.Devices
