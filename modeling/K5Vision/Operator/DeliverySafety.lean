import K5Vision.Operator.DeliveryJournal
import K5Vision.Operator.EventPages

/-!
# Safety of the deliveries

Runs of the integration store with the journal of what happened to its deliveries.  In every state
that a run reaches, the journal is lawful, and the next event leaves the deliveries in order
(`deliveries_safe`): cursors pass wanted events only once they are queued, a pair of a connection
and an observation has one row, and the response that a row has is the one it keeps.

## Strategy

* `Books` (of the journal) is kept by each operation of the store.
* `TaskFits` says what a task knows of the tables while it holds the lock: nobody else writes to
  them, but person events go on to be recorded, above all identities so far.
* `Linked` places the last queued event of a connection against its cursor.  An event is queued
  before the cursor moves to it; when a task is cut off between the two, the event is the first
  one that the next pass reads.

* A pass that nothing disturbs comes to its last event, or finds the connection full
  (`pass_completes`).

Leases end early when the connection is edited, and with the process: `pulled_within_lease`.
-/

namespace K5Vision.Operator.Integrations

open PersonEvents Library

set_option linter.unusedSectionVars false

/-! ## Runs with a journal -/

def requestEntry (site : Site) (known : Camera → Bool) (clock : ℚ) (store : IntegrationStore) :
    Event → Option Entry
  | .create id kind token enabled cameras =>
      if (store.create site id kind token enabled cameras).1.isOk then some (.created id) else none
  | .update id changes =>
      if (store.update site id changes).1.isOk then some (.edited id) else none
  | .delete id => if (store.delete id).1.isOk then some (.deleted id) else none
  | .retry id => if (store.retry id).1.isOk then some (.retried id) else none
  | .respond id token payload =>
      match store.answer site id token payload known clock,
        (store.respond site id token payload known clock).1 with
      | .ok (row, body), .ok duplicate => some (.answered row.sequence body duplicate)
      | _, _ => none
  | _ => none

namespace System

variable (site : Site) (system : System)

/-- A row is inserted for an event that is wanted, unless the connection is full or has it. -/
def captureEntry (connection : Connection) (event : PersonEvent) (skipped : ℕ) : Option Entry :=
  if system.wanted connection event.cameraId && !system.full connection.id then
    match system.store.insertDelivery connection.id (recordedPersonObservation site event)
        skipped with
    | some (true, _) => some (.queued connection.id event.id)
    | _ => none
  else none

def pullEntry (connection : Connection) (row : Delivery) (elapsed : ℚ) : Option Entry :=
  if system.withheld connection row then none
  else some (.pulled connection.id row.sequence (row.attempt + 1) system.clock
    (system.clock + max 0 elapsed + IntegrationStore.leaseSeconds (row.attempt + 1)))

def entry (event : Event) : Option Entry :=
  match event with
  | .configure _ _ _ | .record _ _ | .cameras _ | .wait _ => none
  | .crash => some .ended
  | .fail =>
      match system.task with
      | .idle => none
      | _ => some .failed
  | .step skipped elapsed =>
      match system.task with
      | .capturing connection (event :: _) _ => system.captureEntry site connection event skipped
      | .pulling connection (row :: _) _ _ => system.pullEntry connection row elapsed
      | _ => none
  | event =>
      match system.task with
      | .idle => requestEntry site system.knows system.clock system.store event
      | _ => none

end System

/-- A system with the journal of its run. -/
structure Logged where
  system : System
  journal : List Entry

def deliveryMachine (site : Site) : Machine Logged Event where
  step logged event :=
    ⟨logged.system.step site event, (logged.system.entry site event).toList ++ logged.journal⟩
  admissible _ _ := True

/-- An empty database, and cameras that are known. -/
def freshSystem (known : List Camera) (clock : ℚ) : Logged where
  system := {
    events := ⟨[], [], 0⟩
    store := ⟨[], [], 0, [], 0, fun _ => 0, fun _ => 0⟩
    known := known
    clock := clock
    task := .idle }
  journal := []

/-! ## What a task knows -/

/-- Connections that a pass has read, and not come to. -/
structure Waiting (store : IntegrationStore) (connections : List Connection) : Prop where
  ids : (connections.map Connection.id).Nodup
  rows : ∀ connection ∈ connections, ∃ row, store.row? connection.id = some row ∧
    row.grants = connection.grants ∧ row.sourceCursor = connection.sourceCursor

/-- Events that a pass has read for a connection, with the row of the connection. -/
structure Captures (events : EventStore) (store : IntegrationStore) (connection row : Connection)
    (upcoming : List PersonEvent) : Prop where
  found : store.row? connection.id = some row
  grants : row.grants = connection.grants
  sorted : Sorted PersonEvent.id upcoming
  above : ∀ event ∈ upcoming, row.sourceCursor < event.id
  bound : ∀ event ∈ upcoming, event.id ≤ events.lastId
  /-- No event above the cursor is left out. -/
  complete : ∀ event ∈ events.rows, row.sourceCursor < event.id →
    event ∈ upcoming ∨ ∀ read ∈ upcoming, read.id < event.id

/-- The pair of a connection and an event has a row. -/
def Queued (site : Site) (store : IntegrationStore) (id : ConnectionId) (event : PersonEvent) :
    Prop :=
  ∃ row ∈ store.deliveries, row.pair = (id, observationIdOf site event.cameraId event.id)

def TaskFits (site : Site) (events : EventStore) (store : IntegrationStore) : Task → Prop
  | .idle => True
  | .choosing connections => Waiting store connections
  | .capturing connection upcoming connections =>
      (∃ row, Captures events store connection row upcoming) ∧ Waiting store connections ∧
        connection.id ∉ connections.map Connection.id
  | .queued connection event upcoming connections =>
      ((∃ row, Captures events store connection row (event :: upcoming)) ∧
        Waiting store connections ∧ connection.id ∉ connections.map Connection.id) ∧
      Queued site store connection.id event
  | .pulling connection rows _ _ => Sorted Delivery.sequence rows ∧ ∀ row ∈ rows,
      row ∈ store.deliveries ∧ row.connectionId = connection.id ∧ row.response = none ∧
        row.attempt < maxAttempts

/-- The identities of the events that a task has read for a connection. -/
def Task.eventIds (id : ConnectionId) : Task → List ℕ
  | .capturing connection upcoming _ =>
      if connection.id = id then upcoming.map PersonEvent.id else []
  | .queued connection event upcoming _ =>
      if connection.id = id then (event :: upcoming).map PersonEvent.id else []
  | _ => []

/-- The event is queued for a connection, and the task has not moved the cursor yet. -/
def Task.Holds (id : ConnectionId) (event : ℕ) : Task → Prop
  | .queued connection first _ _ => connection.id = id ∧ first.id = event
  | _ => False

/-- An event that is still to come for a connection. -/
def ToCome (events : EventStore) (task : Task) (id : ConnectionId) (cursor event : ℕ) : Prop :=
  (∃ row ∈ events.rows, row.id = event ∧ cursor < event) ∨ event ∈ task.eventIds id

/-- Where the last queued event of a connection is: behind its cursor, or the first of those to
come. -/
def Placed (events : EventStore) (task : Task) (id : ConnectionId) (cursor last : ℕ) (cut : Bool) :
    Prop :=
  last ≤ cursor ∨ (last ≤ events.lastId ∧ (∀ event, ToCome events task id cursor event →
    last ≤ event) ∧ (cut = true ∨ task.Holds id last))

def Linked (events : EventStore) (store : IntegrationStore) (task : Task) (journal : List Entry) :
    Prop :=
  ∀ id row last cut, store.row? id = some row → lastQueued id journal = some (last, cut) →
    Placed events task id row.sourceCursor last cut

structure Journaled (site : Site) (events : EventStore) (store : IntegrationStore) (task : Task)
    (journal : List Entry) : Prop where
  books : Books store journal
  lawful : Lawful journal
  numbered : Numbered events
  fits : TaskFits site events store task
  linked : Linked events store task journal

def Logged.Journaled (site : Site) (logged : Logged) : Prop :=
  Integrations.Journaled site logged.system.events logged.system.store logged.system.task
    logged.journal

variable {site : Site} {events later : EventStore} {store changed : IntegrationStore} {task : Task}
  {journal : List Entry} {id : ConnectionId}

/-! ## Person events come and go -/

/-- Events that were recorded, with identities above the earlier ones, or removed. -/
structure Grown (events later : EventStore) : Prop where
  rows : ∀ row ∈ later.rows, row ∈ events.rows ∨ events.lastId < row.id
  lastId : events.lastId ≤ later.lastId

theorem grown_configure {camera : Camera} {enabled : Bool} {confidence : ℚ} :
    Grown events (PersonEvents.configure camera enabled confidence events).2 := by
  unfold PersonEvents.configure
  split_ifs
  · exact ⟨fun _ h => .inl h, le_rfl⟩
  · exact ⟨fun _ h => .inl h, le_rfl⟩
  · exact ⟨fun _ h => .inl h, le_rfl⟩

theorem grown_record {frame : PersonFrame} {skipped : ℕ} :
    Grown events (PersonEvents.record frame skipped events).2 := by
  have hsame : ∀ cameras, Grown events { events with cameras := cameras } :=
    fun _ => ⟨fun _ h => .inl h, le_rfl⟩
  unfold PersonEvents.record
  split
  · exact hsame _
  split
  · exact hsame _
  split
  · exact hsame _
  dsimp only
  split
  · split
    · exact hsame _
    -- the row is inserted, and the oldest ones are removed
    unfold insertEvent
    split
    · exact ⟨fun row hrow => .inl (List.mem_of_mem_filter hrow), Nat.le_add_right _ _⟩
    refine ⟨fun row hrow => ?_, ?_⟩
    · rcases List.mem_append.mp (List.mem_of_mem_filter hrow) with hold | hnew
      · exact .inl hold
      · rw [List.mem_singleton.mp hnew]
        right
        dsimp only
        omega
    · change events.lastId ≤ events.lastId + 1 + skipped
      omega
  · exact hsame _

theorem Captures.grown {connection row : Connection} {upcoming : List PersonEvent}
    (h : Captures events store connection row upcoming) (hgrown : Grown events later) :
    Captures later store connection row upcoming where
  __ := h
  bound event hevent := (h.bound event hevent).trans hgrown.lastId
  complete event hevent habove := by
    rcases hgrown.rows event hevent with hold | hnew
    · exact h.complete event hold habove
    · exact .inr fun read hread => (h.bound read hread).trans_lt hnew

theorem TaskFits.grown (h : TaskFits site events store task) (hgrown : Grown events later) :
    TaskFits site later store task := by
  cases task with
  | idle => exact h
  | choosing connections => exact h
  | capturing connection upcoming connections =>
      obtain ⟨⟨row, hrow⟩, hwaiting⟩ := h
      exact ⟨⟨row, hrow.grown hgrown⟩, hwaiting⟩
  | queued connection event upcoming connections =>
      obtain ⟨⟨⟨row, hrow⟩, hwaiting⟩, hqueued⟩ := h
      exact ⟨⟨⟨row, hrow.grown hgrown⟩, hwaiting⟩, hqueued⟩
  | pulling connection rows limit result => exact h

theorem Placed.grown {cursor last : ℕ} {cut : Bool} (h : Placed events task id cursor last cut)
    (hgrown : Grown events later) : Placed later task id cursor last cut := by
  rcases h with hle | ⟨hbound, hcome, hheld⟩
  · exact .inl hle
  refine .inr ⟨hbound.trans hgrown.lastId, fun event hevent => ?_, hheld⟩
  rcases hevent with ⟨row, hrow, rfl, habove⟩ | hread
  · rcases hgrown.rows row hrow with hold | hnew
    · exact hcome row.id (.inl ⟨row, hold, rfl, habove⟩)
    · exact hbound.trans hnew.le
  · exact hcome event (.inr hread)

theorem Journaled.grown (h : Journaled site events store task journal) (hgrown : Grown events later)
    (hnumbered : Numbered later) : Journaled site later store task journal where
  __ := h
  numbered := hnumbered
  fits := h.fits.grown hgrown
  linked id row last cut hrow hlast := (h.linked id row last cut hrow hlast).grown hgrown

/-! ## Rows of deliveries -/

/-- A row was there before, or it is the first one of its pair. -/
def RowsFrom (store changed : IntegrationStore) : Prop :=
  ∀ row ∈ changed.deliveries,
    (∃ old ∈ store.deliveries, old.sequence = row.sequence ∧ old.pair = row.pair) ∨
      ∀ old ∈ store.deliveries, old.pair ≠ row.pair

theorem rowsFrom_sublist (h : changed.deliveries.Sublist store.deliveries) :
    RowsFrom store changed :=
  fun row hrow => .inl ⟨row, h.subset hrow, rfl, rfl⟩

theorem rowsFrom_map {change : Delivery → Delivery} (hchange : KeepsRow change)
    (h : changed.deliveries.Sublist (store.deliveries.map change)) : RowsFrom store changed := by
  intro row hrow
  obtain ⟨old, hold, rfl⟩ := List.mem_map.mp (h.subset hrow)
  exact .inl ⟨old, hold, (hchange.sequence old).symm, (hchange.pair old).symm⟩

theorem rowsFrom_insert {observation : Observation} {skipped : ℕ}
    {inserted : Bool × IntegrationStore}
    (h : store.insertDelivery id observation skipped = some inserted) :
    RowsFrom store inserted.2 := by
  rcases insertDelivery_cases h with ⟨-, -, heq⟩ | ⟨-, hnew, heq⟩
  · exact rowsFrom_sublist (by rw [heq])
  intro row hrow
  rw [heq] at hrow
  rcases List.mem_append.mp hrow with hold | hmem
  · exact .inl ⟨row, hold, rfl, rfl⟩
  · rw [List.mem_singleton.mp hmem]
    exact .inr hnew

/-- A row keeps the response that it has. -/
def ResponsesKept (store changed : IntegrationStore) : Prop :=
  ∀ old ∈ store.deliveries, ∀ row ∈ changed.deliveries, row.pair = old.pair →
    ∀ body, old.response = some body → row.response = some body

theorem recorded_kept {entry : Entry} {s : ℕ} {body : LabResponse} (h : entry.Follows journal)
    (hrecorded : recorded s journal = some body) : recorded s (entry :: journal) = some body := by
  cases entry with
  | answered other later duplicate =>
      change (if other = s then some later else recorded s journal) = some body
      split_ifs with hsame
      · subst hsame
        rcases h with ⟨hnone, -⟩ | ⟨hsome, -⟩
        · rw [hnone] at hrecorded
          cases hrecorded
        · rw [← hsome, hrecorded]
      · exact hrecorded
  | _ => exact hrecorded

theorem recorded_append {entries : List Entry} {s : ℕ} {body : LabResponse}
    (h : Lawful (entries ++ journal)) (hrecorded : recorded s journal = some body) :
    recorded s (entries ++ journal) = some body := by
  induction entries with
  | nil => exact hrecorded
  | cons entry rest ih => exact recorded_kept h.1 (ih h.2)

theorem responsesKept {entries : List Entry} (hfrom : RowsFrom store changed)
    (hstore : Books store journal) (hchanged : Books changed (entries ++ journal))
    (hlawful : Lawful (entries ++ journal)) : ResponsesKept store changed := by
  intro old hold row hrow hpair body hbody
  rcases hfrom row hrow with ⟨other, hother, hsequence, hsame⟩ | hnew
  · have heq : other = old := by
      have : Std.Symm fun a b : Delivery => a.pair ≠ b.pair := ⟨fun _ _ hpairs => hpairs.symm⟩
      by_contra hne
      exact hstore.unique.forall hother hold hne (hsame.trans hpair)
    rw [hchanged.responses row hrow, ← hsequence, heq]
    refine recorded_append hlawful ?_
    rw [← hstore.responses old hold, hbody]
  · exact absurd hpair.symm (hnew old hold)

/-! ## Requests -/

/-- What a request does to the connections and the journal: cursors stay, and a new connection
has no queued event. -/
structure Requested (store changed : IntegrationStore) (journal longer : List Entry) : Prop where
  books : Books changed longer
  lawful : Lawful longer
  deliveries : RowsFrom store changed
  rows : ∀ id row, changed.row? id = some row →
    (∃ old, store.row? id = some old ∧ row.sourceCursor = old.sourceCursor ∧
      lastQueued id longer = lastQueued id journal) ∨
    (store.row? id = none ∧ lastQueued id longer = none)

variable {change : Connection → Connection} {longer : List Entry}

theorem rows_mapRow (hkeeps : KeepsPlace change)
    (hlast : ∀ c, lastQueued c longer = lastQueued c journal)
    (hconnections : changed.connections = (store.mapRow id change).connections)
    (c : ConnectionId) (row : Connection) (hrow : changed.row? c = some row) :
    (∃ old, store.row? c = some old ∧ row.sourceCursor = old.sourceCursor ∧
      lastQueued c longer = lastQueued c journal) ∨
    (store.row? c = none ∧ lastQueued c longer = none) := by
  have hmapped : (store.mapRow id change).row? c = some row := by
    unfold IntegrationStore.row? at hrow ⊢
    rw [← hconnections]
    exact hrow
  rw [row?_mapRow hkeeps.id, Option.map_eq_some_iff] at hmapped
  obtain ⟨old, hold, rfl⟩ := hmapped
  refine .inl ⟨old, hold, ?_, hlast c⟩
  split_ifs
  · exact hkeeps.cursor old
  · rfl

theorem requested_refused (h : Journaled site events store task journal) :
    Requested store store journal journal :=
  ⟨h.books, h.lawful, rowsFrom_sublist (List.Sublist.refl _),
    fun _ row hrow => .inl ⟨row, hrow, rfl, rfl⟩⟩

section Requests

variable {known : Camera → Bool} {clock : ℚ} {token : String}

theorem requested_create {kind : Kind} {enabled : Bool} {cameras : List Camera}
    (h : Journaled site events store task journal) :
    Requested store (store.create site id kind token enabled cameras).2 journal
      ((if (store.create site id kind token enabled cameras).1.isOk then some (Entry.created id)
        else none).toList ++ journal) := by
  rcases @create_cases store id site token kind enabled cameras with
    ⟨hok, heq⟩ | ⟨hok, hnone, row, hid, heq⟩
  · rw [hok, heq]
    exact requested_refused h
  rw [hok, heq]
  change Requested store _ journal (.created id :: journal)
  constructor
  case books =>
    refine (h.books.silent silent_created).sublist ?_ (List.Sublist.refl _) rfl
      (h.books.silent silent_created).leases
    rw [List.map_append, List.nodup_append]
    refine ⟨h.books.ids, List.nodup_singleton _, ?_⟩
    intro old hold new hnew
    obtain ⟨other, hother, rfl⟩ := List.mem_map.mp hold
    have hall := List.find?_eq_none.mp hnone other hother
    simp only [decide_eq_true_eq] at hall
    simpa [List.mem_singleton.mp hnew, hid] using hall
  case lawful => exact ⟨trivial, h.lawful⟩
  case deliveries => exact rowsFrom_sublist (List.Sublist.refl _)
  case rows =>
    intro c new hnew
    by_cases hc : id = c
    · subst hc
      exact .inr ⟨hnone, if_pos rfl⟩
    have hold : store.row? c = some new := by
      unfold IntegrationStore.row? at hnew ⊢
      rw [List.find?_append, Option.or_eq_some_iff] at hnew
      rcases hnew with hold | ⟨-, hnew⟩
      · exact hold
      · simp [hid, hc] at hnew
    exact .inl ⟨new, hold, rfl, if_neg hc⟩

theorem requested_update {changes : IntegrationStore.ConnectionChanges}
    (h : Journaled site events store task journal) :
    Requested store (store.update site id changes).2 journal
      ((if (store.update site id changes).1.isOk then some (Entry.edited id)
        else none).toList ++ journal) := by
  rcases @update_cases store id site changes with
    ⟨hok, heq⟩ | ⟨hok, change, deliveries, heq, hkeeps, hsub⟩
  · rw [hok, heq]
    exact requested_refused h
  rw [hok, heq]
  change Requested store _ journal (.edited id :: journal)
  constructor
  case books =>
    refine h.books.forget (.inl rfl) ?_ hsub rfl rfl
    have hkept := @ids_mapRow store id change hkeeps.id
    exact hkept ▸ h.books.ids
  case lawful => exact ⟨trivial, h.lawful⟩
  case deliveries => exact rowsFrom_sublist hsub
  case rows => exact rows_mapRow hkeeps (fun _ => rfl) rfl

theorem requested_delete (h : Journaled site events store task journal) :
    Requested store (store.delete id).2 journal
      ((if (store.delete id).1.isOk then some (Entry.deleted id) else none).toList ++ journal) := by
  rcases @delete_cases store id with ⟨hok, heq⟩ | ⟨hok, received, heq⟩
  · rw [hok, heq]
    exact requested_refused h
  rw [hok, heq]
  change Requested store _ journal (.deleted id :: journal)
  have hsub : (store.connections.filter fun row => row.id ≠ id).Sublist store.connections :=
    List.filter_sublist
  constructor
  case books =>
    exact h.books.forget (.inr rfl) (h.books.ids.sublist (hsub.map _)) List.filter_sublist rfl rfl
  case lawful => exact ⟨trivial, h.lawful⟩
  case deliveries => exact rowsFrom_sublist List.filter_sublist
  case rows =>
    intro c row hrow
    have hold := find?_eq_some_of_mem h.books.ids (hsub.subset (List.mem_of_find?_eq_some hrow))
    rw [row?_id hrow] at hold
    exact .inl ⟨row, hold, rfl, rfl⟩

theorem requested_handshake {versions : List String}
    (h : Journaled site events store task journal) :
    Requested store (store.handshake site id token versions clock).2 journal journal := by
  rcases @handshake_cases store id site clock token versions with heq | ⟨change, handshakes, heq, hkeeps⟩
  · rw [heq]
    exact requested_refused h
  rw [heq]
  have hids := @ids_mapRow store id change hkeeps.id
  exact ⟨h.books.sublist (hids ▸ h.books.ids) (List.Sublist.refl _) rfl h.books.leases, h.lawful,
    rowsFrom_sublist (List.Sublist.refl _), rows_mapRow hkeeps (fun _ => rfl) rfl⟩

theorem requested_ingest {mapped : Except IntegrationError NormalizedEvent} {skipped : ℕ}
    (h : Journaled site events store task journal) :
    Requested store (store.ingest site id token mapped known skipped clock).2 journal journal := by
  rcases @ingest_cases store id site known clock token mapped skipped with
    heq | ⟨change, received, sequence, heq, hkeeps⟩
  · rw [heq]
    exact requested_refused h
  rw [heq]
  have hids := @ids_mapRow store id change hkeeps.id
  exact ⟨h.books.sublist (hids ▸ h.books.ids) (List.Sublist.refl _) rfl h.books.leases, h.lawful,
    rowsFrom_sublist (List.Sublist.refl _), rows_mapRow hkeeps (fun _ => rfl) rfl⟩

theorem requested_retry (h : Journaled site events store task journal) :
    Requested store (store.retry id).2 journal
      ((if (store.retry id).1.isOk then some (Entry.retried id) else none).toList ++ journal) := by
  rcases @retry_cases store id with ⟨hok, heq⟩ | ⟨hok, change, heq, hkeeps⟩
  · rw [hok, heq]
    exact requested_refused h
  rw [hok, heq]
  exact ⟨h.books.retried hkeeps, ⟨trivial, h.lawful⟩,
    rowsFrom_map keepsRow_resetAttempt (List.Sublist.refl _), rows_mapRow hkeeps (fun _ => rfl) rfl⟩

variable {payload : Option IntegrationStore.ResponsePayload}

theorem respond_error {error : IntegrationError}
    (h : store.answer site id token payload known clock = .error error) :
    (store.respond site id token payload known clock).2 = store ∧
      requestEntry site known clock store (.respond id token payload) = none := by
  have hrespond : store.respond site id token payload known clock = (.error error, store) := by
    unfold IntegrationStore.respond
    rw [h]
  refine ⟨by rw [hrespond], ?_⟩
  simp only [requestEntry, h]

theorem respond_ok {row : Delivery} {body : LabResponse}
    (h : store.answer site id token payload known clock = .ok (row, body)) :
    (store.respond site id token payload known clock).2 = store.recordResponse id row body ∧
      requestEntry site known clock store (.respond id token payload) =
        some (.answered row.sequence body row.response.isSome) := by
  have hrespond : store.respond site id token payload known clock =
      (.ok row.response.isSome, store.recordResponse id row body) := by
    unfold IntegrationStore.respond
    rw [h]
  refine ⟨by rw [hrespond], ?_⟩
  simp only [requestEntry, h, hrespond]

theorem requested_respond (h : Journaled site events store task journal) :
    Requested store (store.respond site id token payload known clock).2 journal
      ((requestEntry site known clock store (.respond id token payload)).toList ++ journal) := by
  cases hanswer : store.answer site id token payload known clock with
  | error error =>
      rw [(respond_error hanswer).1, (respond_error hanswer).2]
      exact requested_refused h
  | ok answered =>
      obtain ⟨row, body⟩ := answered
      obtain ⟨hrow, -, hresponse⟩ := answer_spec hanswer
      have hrecorded := h.books.responses row hrow
      rw [(respond_ok hanswer).1, (respond_ok hanswer).2]
      change Requested store _ journal (.answered row.sequence body row.response.isSome :: journal)
      have hkeeps : KeepsPlace fun row : Connection => { row with status := .ready } :=
        ⟨fun _ => rfl, fun _ => rfl⟩
      refine ⟨h.books.answeredRow hrow, ⟨?_, h.lawful⟩,
        rowsFrom_map (keepsRow_answered row.sequence body) List.filter_sublist,
        rows_mapRow hkeeps (fun _ => rfl) rfl⟩
      rcases hresponse with hnone | hsome
      · exact .inl ⟨hrecorded ▸ hnone, by rw [hnone]; rfl⟩
      · exact .inr ⟨hrecorded ▸ hsome, by rw [hsome]; rfl⟩

theorem requested (event : Event) (h : Journaled site events store task journal) :
    Requested store (store.request site known clock event) journal
      ((requestEntry site known clock store event).toList ++ journal) := by
  cases event with
  | create id kind token enabled cameras => exact requested_create h
  | update id changes => exact requested_update h
  | delete id => exact requested_delete h
  | handshake id token versions => exact requested_handshake h
  | retry id => exact requested_retry h
  | ingest id token mapped skipped => exact requested_ingest h
  | respond id token payload => exact requested_respond h
  | configure | record | cameras | wait | capture | pull | step | fail | crash =>
      exact requested_refused h

end Requests

theorem Journaled.requested (h : Journaled site events store .idle journal)
    (hrequested : Requested store changed journal longer) :
    Journaled site events changed .idle longer where
  __ := hrequested
  numbered := h.numbered
  fits := trivial
  linked id row last cut hrow hlast := by
    rcases hrequested.rows id row hrow with ⟨old, hold, hcursor, hsame⟩ | ⟨-, hnone⟩
    · rw [hcursor]
      exact h.linked id old last cut hold (hsame ▸ hlast)
    · rw [hnone] at hlast
      cases hlast

/-! ## The pass -/

section Pass

variable {connection row : Connection} {connections : List Connection} {event : PersonEvent}
  {upcoming : List PersonEvent} {cursor last : ℕ} {cut : Bool} {next : Task}

theorem row?_congr (hconnections : changed.connections = store.connections) (c : ConnectionId) :
    changed.row? c = store.row? c := by
  unfold IntegrationStore.row?
  rw [hconnections]

theorem row?_mapRow_self (hchange : ∀ row, (change row).id = row.id)
    (hrow : store.row? id = some row) : (store.mapRow id change).row? id = some (change row) := by
  rw [row?_mapRow hchange, hrow, Option.map_some, if_pos (row?_id hrow)]

theorem row?_mapRow_of_ne {c : ConnectionId} (hchange : ∀ row, (change row).id = row.id)
    (hne : c ≠ id) : (store.mapRow id change).row? c = store.row? c := by
  rw [row?_mapRow hchange]
  cases hrow : store.row? c with
  | none => rfl
  | some row => rw [Option.map_some, if_neg fun heq => hne (row?_id hrow ▸ heq)]

theorem waiting_capturable (h : Books store journal) : Waiting store store.capturable where
  ids := h.ids.sublist (List.filter_sublist.map _)
  rows connection hconnection :=
    ⟨connection, find?_eq_some_of_mem h.ids (List.mem_of_mem_filter hconnection), rfl, rfl⟩

theorem Waiting.congr (h : Waiting store connections)
    (hrows : ∀ connection ∈ connections, changed.row? connection.id = store.row? connection.id) :
    Waiting changed connections where
  ids := h.ids
  rows connection hconnection := by
    rw [hrows connection hconnection]
    exact h.rows connection hconnection

theorem Waiting.mapRow (h : Waiting store connections)
    (hchange : ∀ row, (change row).id = row.id) (hid : id ∉ connections.map Connection.id) :
    Waiting (store.mapRow id change) connections :=
  h.congr fun _ hconnection => row?_mapRow_of_ne hchange fun heq =>
    hid (heq ▸ List.mem_map_of_mem hconnection)

theorem Waiting.tail (h : Waiting store (connection :: connections)) : Waiting store connections where
  ids := (List.nodup_cons.mp h.ids).2
  rows other hother := h.rows other (List.mem_cons_of_mem _ hother)

/-- What is read of a sorted list, and what comes behind it. -/
theorem mem_take_or_behind {rows : List PersonEvent} (h : Sorted PersonEvent.id rows) (n : ℕ)
    (hevent : event ∈ rows) :
    event ∈ rows.take n ∨ ∀ read ∈ rows.take n, read.id < event.id := by
  rw [← List.take_append_drop n rows] at hevent h
  rcases List.mem_append.mp hevent with hread | hbehind
  · exact .inl hread
  · exact .inr fun read hread => (List.pairwise_append.mp h).2.2 read hread event hbehind

theorem captures_eventsAfter (hnumbered : Numbered events)
    (hrow : store.row? connection.id = some row) (hgrants : row.grants = connection.grants) :
    Captures events store connection row (eventsAfter row.sourceCursor 50 events) := by
  have hsorted : Sorted PersonEvent.id (events.rows.filter fun event =>
      row.sourceCursor < event.id) := hnumbered.sorted.sublist List.filter_sublist
  have hmem : ∀ event ∈ eventsAfter row.sourceCursor 50 events,
      event ∈ events.rows ∧ row.sourceCursor < event.id := fun event hevent => by
    simpa using List.mem_filter.mp (List.mem_of_mem_take hevent)
  exact {
    found := hrow
    grants := hgrants
    sorted := hsorted.sublist (List.take_sublist _ _)
    above := fun event hevent => (hmem event hevent).2
    bound := fun event hevent => (hnumbered.bounds event (hmem event hevent).1).2.1
    complete := fun event hevent habove => mem_take_or_behind hsorted 50
      (List.mem_filter.mpr ⟨hevent, by simpa using habove⟩) }

theorem Captures.congr (h : Captures events store connection row upcoming)
    (hrow : changed.row? connection.id = some row) :
    Captures events changed connection row upcoming :=
  { h with found := hrow }

theorem Captures.le_of_above (h : Captures events store connection row (event :: upcoming))
    {other : PersonEvent} (hother : other ∈ events.rows) (habove : row.sourceCursor < other.id) :
    event = other ∨ event.id < other.id := by
  rcases h.complete other hother habove with hread | hbehind
  · rcases List.mem_cons.mp hread with rfl | hmem
    · exact .inl rfl
    · exact .inr ((List.pairwise_cons.mp h.sorted).1 other hmem)
  · exact .inr (hbehind event List.mem_cons_self)

theorem Captures.moved (h : Captures events store connection row (event :: upcoming)) :
    Captures events (store.moveCursor connection.id event.id) connection
      { row with sourceCursor := event.id } upcoming where
  found := row?_mapRow_self (fun _ => rfl) h.found
  grants := h.grants
  sorted := (List.pairwise_cons.mp h.sorted).2
  above := (List.pairwise_cons.mp h.sorted).1
  bound other hother := h.bound other (List.mem_cons_of_mem _ hother)
  complete other hother habove := by
    have hcursor := h.above event List.mem_cons_self
    rcases h.complete other hother (hcursor.trans habove) with hread | hbehind
    · rcases List.mem_cons.mp hread with rfl | hmem
      · exact absurd habove (lt_irrefl _)
      · exact .inl hmem
    · exact .inr fun read hread => hbehind read (List.mem_cons_of_mem _ hread)

theorem Placed.mono (h : Placed events task id cursor last cut)
    (hids : ∀ event ∈ next.eventIds id, event ∈ task.eventIds id)
    (hheld : cut = true ∨ task.Holds id last → cut = true ∨ next.Holds id last) :
    Placed events next id cursor last cut := by
  rcases h with hle | ⟨hbound, hcome, hcut⟩
  · exact .inl hle
  · exact .inr ⟨hbound, fun event hevent => hcome event (hevent.imp_right (hids event)), hheld hcut⟩

theorem Placed.cutOff (h : Placed events task id cursor last cut) :
    Placed events .idle id cursor last true := by
  rcases h with hle | ⟨hbound, hcome, -⟩
  · exact .inl hle
  refine .inr ⟨hbound, fun event hevent => hcome event (.inl ?_), .inl rfl⟩
  rcases hevent with hrow | hread
  · exact hrow
  · cases hread

theorem Linked.mono (h : Linked events store task journal)
    (hconnections : changed.connections = store.connections)
    (hids : ∀ id, ∀ event ∈ next.eventIds id, event ∈ task.eventIds id)
    (hheld : ∀ id last, task.Holds id last → next.Holds id last) :
    Linked events changed next journal := by
  intro id row last cut hrow hlast
  rw [row?_congr hconnections] at hrow
  exact (h id row last cut hrow hlast).mono (hids id) (.imp_right (hheld id last))

theorem Journaled.capture (h : Journaled site events store .idle journal) :
    Journaled site events store (.choosing store.capturable) journal where
  __ := h
  fits := waiting_capturable h.books

theorem Journaled.choose
    (h : Journaled site events store (.choosing (connection :: connections)) journal) :
    Journaled site events store (.capturing connection
      (eventsAfter connection.sourceCursor 50 events) connections) journal := by
  have hwaiting : Waiting store (connection :: connections) := h.fits
  obtain ⟨row, hrow, hgrants, hcursor⟩ := hwaiting.rows connection List.mem_cons_self
  have hcaptures := captures_eventsAfter h.numbered hrow hgrants
  rw [hcursor] at hcaptures
  refine ⟨h.books, h.lawful, h.numbered,
    ⟨⟨row, hcaptures⟩, hwaiting.tail, (List.nodup_cons.mp hwaiting.ids).1⟩, ?_⟩
  intro id other last cut hother hlast
  rcases h.linked id other last cut hother hlast with hle | ⟨hbound, hcome, hcut⟩
  · exact .inl hle
  refine .inr ⟨hbound, fun event hevent => hcome event (.inl ?_), hcut⟩
  rcases hevent with habove | hread
  · exact habove
  dsimp only [Task.eventIds] at hread
  split_ifs at hread with hid
  · subst hid
    rw [hrow] at hother
    cases hother
    obtain ⟨read, hmem, rfl⟩ := List.mem_map.mp hread
    have hfilter := List.mem_filter.mp (List.mem_of_mem_take hmem)
    exact ⟨read, hfilter.1, rfl, by simpa [hcursor] using hfilter.2⟩
  · cases hread

theorem Journaled.captured
    (h : Journaled site events store (.capturing connection [] connections) journal) :
    Journaled site events store (.choosing connections) journal where
  __ := h
  fits := h.fits.2.1
  linked := h.linked.mono rfl (fun _ _ hread => by cases hread) (fun _ _ hheld => hheld)

theorem Journaled.stopped (hkeeps : KeepsPlace change)
    (h : Journaled site events store (.capturing connection upcoming connections) journal) :
    Journaled site events (store.mapRow connection.id change) (.choosing connections) journal where
  books := h.books.mapRow hkeeps.id
  __ := h
  fits := h.fits.2.1.mapRow hkeeps.id h.fits.2.2
  linked id row last cut hrow hlast := by
    rw [row?_mapRow hkeeps.id, Option.map_eq_some_iff] at hrow
    obtain ⟨old, hold, rfl⟩ := hrow
    have hcursor : (if old.id = connection.id then change old else old).sourceCursor =
        old.sourceCursor := by
      split_ifs
      · exact hkeeps.cursor old
      · rfl
    rw [hcursor]
    exact (h.linked id old last cut hold hlast).mono (fun _ hread => by cases hread)
      (.imp_right fun hheld => hheld)

theorem Linked.moved (h : Linked events store task journal)
    (hcaptures : Captures events store connection row (event :: upcoming))
    (hself : event.id ∈ task.eventIds connection.id)
    (hheld : ∀ id last, task.Holds id last → id = connection.id) :
    Linked events (store.moveCursor connection.id event.id)
      (.capturing connection upcoming connections) journal := by
  intro id later last cut hlater hlast
  by_cases hid : id = connection.id
  · subst hid
    rw [hcaptures.moved.found] at hlater
    cases hlater
    have habove := hcaptures.above event List.mem_cons_self
    refine .inl ?_
    rcases h connection.id row last cut hcaptures.found hlast with hle | ⟨-, hcome, -⟩
    · exact hle.trans habove.le
    · exact hcome event.id (.inr hself)
  · have hkept : ∀ row : Connection, { row with sourceCursor := event.id }.id = row.id :=
      fun _ => rfl
    rw [IntegrationStore.moveCursor, row?_mapRow_of_ne hkept hid] at hlater
    refine (h id later last cut hlater hlast).mono (fun other hread => ?_)
      (.imp_right fun hholds => absurd (hheld id last hholds) hid)
    rw [Task.eventIds, if_neg (Ne.symm hid)] at hread
    cases hread

theorem Journaled.passed
    (h : Journaled site events store (.capturing connection (event :: upcoming) connections)
      journal) :
    Journaled site events (store.moveCursor connection.id event.id)
      (.capturing connection upcoming connections) journal := by
  obtain ⟨⟨row, hcaptures⟩, hwaiting, hid⟩ := h.fits
  refine ⟨h.books.mapRow fun _ => rfl, h.lawful, h.numbered,
    ⟨⟨_, hcaptures.moved⟩, hwaiting.mapRow (fun _ => rfl) hid, hid⟩,
    h.linked.moved hcaptures ?_ (fun _ _ hheld => hheld.elim)⟩
  rw [Task.eventIds, if_pos rfl]
  exact List.mem_cons_self

theorem Journaled.moved
    (h : Journaled site events store (.queued connection event upcoming connections) journal) :
    Journaled site events (store.moveCursor connection.id event.id)
      (.capturing connection upcoming connections) journal := by
  obtain ⟨⟨⟨row, hcaptures⟩, hwaiting, hid⟩, -⟩ := h.fits
  refine ⟨h.books.mapRow fun _ => rfl, h.lawful, h.numbered,
    ⟨⟨_, hcaptures.moved⟩, hwaiting.mapRow (fun _ => rfl) hid, hid⟩,
    h.linked.moved hcaptures ?_ (fun _ _ hheld => hheld.1.symm)⟩
  rw [Task.eventIds, if_pos rfl]
  exact List.mem_cons_self

theorem Journaled.cutOff {entry : Entry} (h : Journaled site events store task journal)
    (hbooks : Books changed (entry :: journal)) (hentry : entry = .failed ∨ entry = .ended)
    (hconnections : changed.connections = store.connections) :
    Journaled site events changed .idle (entry :: journal) := by
  have hlast : ∀ id, lastQueued id (entry :: journal) =
      (lastQueued id journal).map fun last => (last.1, true) := by
    rcases hentry with rfl | rfl
    · exact fun _ => rfl
    · exact fun _ => rfl
  refine ⟨hbooks, ⟨?_, h.lawful⟩, h.numbered, trivial, ?_⟩
  · rcases hentry with rfl | rfl
    · trivial
    · trivial
  intro id row last cut hrow heq
  rw [row?_congr hconnections] at hrow
  rw [hlast, Option.map_eq_some_iff] at heq
  obtain ⟨⟨old, before⟩, hold, hpair⟩ := heq
  cases hpair
  exact (h.linked id row _ before hrow hold).cutOff

theorem Journaled.finished (h : Journaled site events store task journal)
    (hheld : ∀ id last, ¬ task.Holds id last) : Journaled site events store .idle journal where
  __ := h
  fits := trivial
  linked := h.linked.mono rfl (fun _ _ hread => by cases hread)
    (fun id last hholds => absurd hholds (hheld id last))

theorem follows_queued
    (h : Journaled site events store (.capturing connection (event :: upcoming) connections)
      journal) : (Entry.queued connection.id event.id).Follows journal := by
  obtain ⟨⟨row, hcaptures⟩, -⟩ := h.fits
  intro last cut hlast
  rcases h.linked connection.id row last cut hcaptures.found hlast with hle | ⟨-, hcome, hcut⟩
  · exact .inl (hle.trans_lt (hcaptures.above event List.mem_cons_self))
  have hfirst : last ≤ event.id := by
    refine hcome event.id (.inr ?_)
    rw [Task.eventIds, if_pos rfl]
    exact List.mem_cons_self
  have hcut : cut = true := hcut.resolve_right fun hheld => hheld
  exact hfirst.lt_or_eq.imp_right fun heq => ⟨heq, hcut⟩

theorem placed_queued (hcaptures : Captures events store connection row (event :: upcoming)) :
    Placed events (.queued connection event upcoming connections) connection.id row.sourceCursor
      event.id false := by
  refine .inr ⟨hcaptures.bound event List.mem_cons_self, fun other hother => ?_, .inr ⟨rfl, rfl⟩⟩
  rcases hother with ⟨behind, hbehind, rfl, habove⟩ | hread
  · rcases hcaptures.le_of_above hbehind habove with rfl | hlt
    · exact le_rfl
    · exact hlt.le
  rw [Task.eventIds, if_pos rfl] at hread
  obtain ⟨read, hmem, rfl⟩ := List.mem_map.mp hread
  rcases List.mem_cons.mp hmem with rfl | htail
  · exact le_rfl
  · exact ((List.pairwise_cons.mp hcaptures.sorted).1 read htail).le

theorem Journaled.inserted {skipped : ℕ} {inserted : Bool × IntegrationStore}
    (h : Journaled site events store (.capturing connection (event :: upcoming) connections)
      journal)
    (hinserted : store.insertDelivery connection.id (recordedPersonObservation site event)
      skipped = some inserted) :
    Journaled site events inserted.2 (.queued connection event upcoming connections)
      (if inserted.1 then .queued connection.id event.id :: journal else journal) := by
  obtain ⟨⟨row, hcaptures⟩, hwaiting, hid⟩ := h.fits
  have hconnections : inserted.2.connections = store.connections := by
    rcases insertDelivery_cases hinserted with ⟨-, -, heq⟩ | ⟨-, -, heq⟩
    · rw [heq]
    · rw [heq]
  have hqueued : Queued site inserted.2 connection.id event := by
    rcases insertDelivery_cases hinserted with ⟨-, ⟨old, hold, hpair⟩, heq⟩ | ⟨-, -, heq⟩
    · exact ⟨old, by rw [heq]; exact hold, hpair⟩
    · refine ⟨_, by rw [heq]; exact List.mem_append_right _ (List.mem_singleton_self _), rfl⟩
  have hbooks := h.books.inserted hinserted
  have hfits : TaskFits site events inserted.2 (.queued connection event upcoming connections) :=
    ⟨⟨⟨row, hcaptures.congr (by rw [row?_congr hconnections]; exact hcaptures.found)⟩,
      hwaiting.congr fun _ _ => row?_congr hconnections _, hid⟩, hqueued⟩
  have hlinked : Linked events inserted.2 (.queued connection event upcoming connections)
      journal := h.linked.mono hconnections (fun _ _ hread => hread) (fun _ _ hheld => hheld.elim)
  cases hnew : inserted.1 with
  | false =>
      exact ⟨hbooks, h.lawful, h.numbered, hfits, hlinked⟩
  | true =>
      refine ⟨hbooks.silent silent_queued, ⟨follows_queued h, h.lawful⟩, h.numbered, hfits, ?_⟩
      intro id other last cut hother hlast
      change (if connection.id = id then some (event.id, false) else lastQueued id journal) = _
        at hlast
      split_ifs at hlast with hsame
      · subst hsame
        rw [row?_congr hconnections, hcaptures.found] at hother
        cases hother
        cases hlast
        exact placed_queued hcaptures
      · exact hlinked id other last cut hother hlast

end Pass

/-! ## The pull -/

section Pull

variable {connection : Connection} {row : Delivery} {rows : List Delivery} {limit : ℕ}
  {result : List Pulled}

theorem Journaled.pull (h : Journaled site events store .idle journal) :
    Journaled site events store (.pulling connection (store.pullable connection.id) limit [])
      journal := by
  refine { h with fits := ⟨?_, fun row hrow => ?_⟩ }
  · exact h.books.sorted.sublist ((List.take_sublist _ _).trans List.filter_sublist)
  obtain ⟨hmem, hpending⟩ := List.mem_filter.mp (List.mem_of_mem_take hrow)
  simp only [Delivery.pending, Bool.and_eq_true, decide_eq_true_eq, Option.isNone_iff_eq_none]
    at hpending
  exact ⟨hmem, hpending.1.1, hpending.1.2, hpending.2⟩

theorem Journaled.withheld
    (h : Journaled site events store (.pulling connection (row :: rows) limit result) journal) :
    Journaled site events store (.pulling connection rows limit result) journal :=
  { h with
    fits := ⟨(List.pairwise_cons.mp h.fits.1).2,
    fun other hother => h.fits.2 other (List.mem_cons_of_mem _ hother)⟩ }

theorem Journaled.leased {before clock : ℚ} (longer : List Pulled)
    (h : Journaled site events store (.pulling connection (row :: rows) limit result) journal)
    (hfree : store.leases (connection.id, row.sequence) ≤ before) :
    Journaled site events (store.lease connection.id row clock)
      (.pulling connection rows limit longer)
      (.pulled connection.id row.sequence (row.attempt + 1) before
        (clock + IntegrationStore.leaseSeconds (row.attempt + 1)) :: journal) := by
  obtain ⟨hmem, hid, hresponse, hattempt⟩ := h.fits.2 row List.mem_cons_self
  have hpulls := (h.books.attempts row hmem).1
  rw [hid] at hpulls
  refine ⟨h.books.leased hmem hid hattempt, ⟨⟨fun leased hleased => ?_, ?_, ?_⟩, h.lawful⟩,
    h.numbered, ⟨(List.pairwise_cons.mp h.fits.1).2, fun other hother => ?_⟩, h.linked⟩
  · exact (h.books.leases _ _ leased hleased).trans hfree
  · exact hpulls.trans_lt hattempt
  · rw [← h.books.responses row hmem]
    exact hresponse
  · obtain ⟨hother', hrest⟩ := h.fits.2 other (List.mem_cons_of_mem _ hother)
    have hlt := (List.pairwise_cons.mp h.fits.1).1 other hother
    refine ⟨List.mem_map.mpr ⟨other, hother', if_neg hlt.ne'⟩, hrest⟩

theorem machineRow_row? {kind : Kind} {token : String} {clock : ℚ}
    (h : store.machineRow site id token kind clock = .ok connection) :
    store.row? id = some connection := by
  unfold IntegrationStore.machineRow at h
  split at h
  · cases h
  rename_i row hauthentic
  split_ifs at h
  cases h
  unfold IntegrationStore.authenticate at hauthentic
  split at hauthentic
  · rename_i found hrow
    split_ifs at hauthentic
    cases hauthentic
    exact hrow
  · cases hauthentic

end Pull

/-! ## Every step -/

section Step

variable {system : System}

theorem journaled_captureEvent {connection : Connection} {event : PersonEvent}
    {upcoming : List PersonEvent} {connections : List Connection} (skipped : ℕ)
    (h : Journaled site system.events system.store
      (.capturing connection (event :: upcoming) connections) journal) :
    Logged.Journaled site
      ⟨system.captureEvent site connection event upcoming connections skipped,
        (system.captureEntry site connection event skipped).toList ++ journal⟩ := by
  unfold System.captureEvent System.captureEntry
  by_cases hwanted : system.wanted connection event.cameraId = true
  · by_cases hfull : system.full connection.id = true
    · simp only [hwanted, hfull, Bool.not_true, Bool.and_false, if_true, Bool.false_eq_true,
        if_false]
      exact h.stopped ⟨fun _ => rfl, fun _ => rfl⟩
    · simp only [hwanted, hfull, Bool.not_false, Bool.and_self, if_true, if_false,
        Bool.false_eq_true]
      cases hinserted : system.store.insertDelivery connection.id
          (recordedPersonObservation site event) skipped with
      | none => exact h.finished fun _ _ hheld => hheld
      | some inserted =>
          have := h.inserted hinserted
          obtain ⟨fresh, later⟩ := inserted
          cases fresh with
          | false => exact this
          | true => exact this
  · simp only [hwanted, Bool.false_and, Bool.false_eq_true, if_false]
    exact h.passed

theorem journaled_pullRow {connection : Connection} {row : Delivery} {rows : List Delivery}
    {limit : ℕ} {result : List Pulled} (elapsed : ℚ)
    (h : Journaled site system.events system.store (.pulling connection (row :: rows) limit result)
      journal) :
    Logged.Journaled site ⟨system.pullRow site connection row rows limit result elapsed,
      (system.pullEntry connection row elapsed).toList ++ journal⟩ := by
  unfold System.pullRow System.pullEntry
  by_cases hwithheld : system.withheld connection row = true
  · rw [if_pos hwithheld, if_pos hwithheld]
    exact h.withheld
  rw [if_neg hwithheld, if_neg hwithheld]
  have hfree : system.store.leases (connection.id, row.sequence) ≤ system.clock := by
    simp only [System.withheld, Bool.or_eq_true, decide_eq_true_eq, not_or, not_lt] at hwithheld
    exact hwithheld.1
  dsimp only
  split
  · exact (h.leased result hfree).finished fun _ _ hheld => hheld
  · exact h.leased _ hfree

theorem journaled_advance {known : List Camera} {clock elapsed : ℚ} {skipped : ℕ}
    (h : Journaled site events store task journal) :
    ((deliveryMachine site).step ⟨⟨events, store, known, clock, task⟩, journal⟩
      (.step skipped elapsed)).Journaled site := by
  cases task with
  | idle => exact h
  | choosing connections =>
      cases connections with
      | nil => exact h.finished fun _ _ hheld => hheld
      | cons connection connections => exact h.choose
  | capturing connection upcoming connections =>
      cases upcoming with
      | nil => exact h.captured
      | cons event upcoming =>
          refine journaled_captureEvent skipped ?_
          exact h
  | queued connection event upcoming connections => exact h.moved
  | pulling connection rows limit result =>
      cases rows with
      | nil => exact h.finished fun _ _ hheld => hheld
      | cons row rows =>
          refine journaled_pullRow elapsed ?_
          exact h

theorem journaled_request (event : Event)
    (h : Journaled site system.events system.store .idle journal)
    (hstep : system.step site event =
      ⟨system.events, system.store.request site system.knows system.clock event, system.known,
        system.clock, .idle⟩)
    (hentry : system.entry site event =
      requestEntry site system.knows system.clock system.store event) :
    ((deliveryMachine site).step ⟨system, journal⟩ event).Journaled site := by
  change Logged.Journaled site ⟨system.step site event, _⟩
  rw [hstep, hentry]
  exact h.requested (requested event h)

theorem journaled_step (event : Event) {logged : Logged} (h : logged.Journaled site) :
    ((deliveryMachine site).step logged event).Journaled site := by
  obtain ⟨⟨events, store, known, clock, task⟩, journal⟩ := logged
  change Journaled site events store task journal at h
  cases event with
  | configure camera enabled confidence =>
      exact h.grown grown_configure (numbered_configure h.numbered)
  | record frame skipped => exact h.grown grown_record (numbered_record h.numbered)
  | cameras known => exact h
  | wait elapsed => exact h
  | step skipped elapsed => exact journaled_advance h
  | fail =>
      cases task with
      | idle => exact h
      | _ => exact h.cutOff (h.books.silent silent_failed) (.inl rfl) rfl
  | crash => exact h.cutOff h.books.restarted (.inr rfl) rfl
  | capture =>
      cases task with
      | idle => exact h.capture
      | _ => exact h
  | pull id token limit =>
      cases task with
      | idle =>
          change Journaled site (System.beginPull site _ id token limit).events
            (System.beginPull site _ id token limit).store
            (System.beginPull site _ id token limit).task journal
          unfold System.beginPull
          split
          · exact h
          split
          · exact h
          · rename_i connection hmachine
            rw [← row?_id (machineRow_row? hmachine)]
            exact h.pull
      | _ => exact h
  | create | update | delete | handshake | retry | ingest | respond =>
      cases task with
      | idle => exact journaled_request _ h rfl rfl
      | _ => exact h

end Step

/-! ## What a step does to cursors and rows -/

section Keeps

variable {before after : System} {connection row : Connection} {event : PersonEvent}
  {upcoming : List PersonEvent}

/-- Cursors only go forwards, and pass an event that is wanted only once it is queued. -/
def CursorSafe (site : Site) (before after : System) : Prop :=
  ∀ id row later, before.store.row? id = some row → after.store.row? id = some later →
    row.sourceCursor ≤ later.sourceCursor ∧
    ∀ event ∈ before.events.rows, row.sourceCursor < event.id → event.id ≤ later.sourceCursor →
      before.wanted row event.cameraId = true → Queued site after.store id event

structure StepKeeps (site : Site) (before after : System) : Prop where
  cursor : CursorSafe site before after
  rows : RowsFrom before.store after.store

theorem cursorSafe_of_eq (h : ∀ id row later, before.store.row? id = some row →
      after.store.row? id = some later → later.sourceCursor = row.sourceCursor) :
    CursorSafe site before after := by
  intro id row later hrow hlater
  rw [h id row later hrow hlater]
  exact ⟨le_rfl, fun event _ habove hbelow => absurd hbelow (not_le.mpr habove)⟩

theorem stepKeeps_of_eq (hconnections : after.store.connections = before.store.connections)
    (hrows : RowsFrom before.store after.store) : StepKeeps site before after where
  cursor := cursorSafe_of_eq fun id row later hrow hlater => by
    rw [row?_congr hconnections, hrow] at hlater
    cases hlater
    rfl
  rows := hrows

theorem stepKeeps_mapRow (hkeeps : KeepsPlace change)
    (hstore : after.store = before.store.mapRow id change) : StepKeeps site before after where
  cursor := cursorSafe_of_eq fun c row later hrow hlater => by
    rw [hstore, row?_mapRow hkeeps.id, hrow, Option.map_some, Option.some.injEq] at hlater
    rw [← hlater]
    split_ifs
    · exact hkeeps.cursor row
    · rfl
  rows := rowsFrom_sublist (by rw [hstore]; exact List.Sublist.refl _)

theorem stepKeeps_moved
    (hcaptures : Captures before.events before.store connection row (event :: upcoming))
    (hqueued : before.wanted connection event.cameraId = true →
      Queued site before.store connection.id event)
    (hstore : after.store = before.store.moveCursor connection.id event.id) :
    StepKeeps site before after where
  rows := rowsFrom_sublist (by rw [hstore]; exact List.Sublist.refl _)
  cursor id old later hold hlater := by
    by_cases hid : id = connection.id
    · subst hid
      rw [hcaptures.found] at hold
      rw [hstore, hcaptures.moved.found] at hlater
      cases hold
      cases hlater
      refine ⟨(hcaptures.above event List.mem_cons_self).le, ?_⟩
      intro other hother habove hbelow hwanted
      rcases hcaptures.le_of_above hother habove with rfl | hlt
      · have hfound : Queued site before.store connection.id event := by
          refine hqueued ?_
          unfold System.wanted at hwanted ⊢
          rwa [← hcaptures.grants]
        obtain ⟨delivery, hdelivery, hpair⟩ := hfound
        exact ⟨delivery, by rw [hstore]; exact hdelivery, hpair⟩
      · exact absurd hbelow (not_le.mpr hlt)
    · have hkept : ∀ row : Connection, { row with sourceCursor := event.id }.id = row.id :=
        fun _ => rfl
      rw [hstore, IntegrationStore.moveCursor, row?_mapRow_of_ne hkept hid, hold] at hlater
      cases hlater
      exact ⟨le_rfl, fun other _ habove hbelow => absurd hbelow (not_le.mpr habove)⟩

theorem stepKeeps_refl (hstore : after.store = before.store) : StepKeeps site before after :=
  stepKeeps_of_eq (by rw [hstore]) (rowsFrom_sublist (by rw [hstore]))

theorem stepKeeps_captureEvent {connections : List Connection} (skipped : ℕ)
    (h : Journaled site before.events before.store
      (.capturing connection (event :: upcoming) connections) journal) :
    StepKeeps site before
      (before.captureEvent site connection event upcoming connections skipped) := by
  obtain ⟨⟨row, hcaptures⟩, -⟩ := h.fits
  unfold System.captureEvent
  split
  · split
    · have hkeeps : KeepsPlace fun row : Connection => { row with status := .capacity } :=
        ⟨fun _ => rfl, fun _ => rfl⟩
      exact stepKeeps_mapRow hkeeps rfl
    · split
      · exact stepKeeps_refl rfl
      · rename_i inserted hinserted
        refine stepKeeps_of_eq ?_ (rowsFrom_insert hinserted)
        change inserted.2.connections = before.store.connections
        rcases insertDelivery_cases hinserted with ⟨-, -, heq⟩ | ⟨-, -, heq⟩
        · rw [heq]
        · rw [heq]
  · rename_i hwanted
    exact stepKeeps_moved hcaptures (fun h => absurd h hwanted) rfl

theorem stepKeeps_pullRow {delivery : Delivery} {rows : List Delivery} {limit : ℕ}
    {result : List Pulled} (elapsed : ℚ) :
    StepKeeps site before
      (before.pullRow site connection delivery rows limit result elapsed) := by
  unfold System.pullRow
  split
  · exact stepKeeps_refl rfl
  · exact stepKeeps_of_eq rfl
      (rowsFrom_map (keepsRow_leased delivery.sequence (delivery.attempt + 1))
        (List.Sublist.refl _))

theorem stepKeeps_requested (hrequested : Requested before.store after.store journal longer) :
    StepKeeps site before after where
  cursor := cursorSafe_of_eq fun id row later hrow hlater => by
    rcases hrequested.rows id later hlater with ⟨old, hold, hcursor, -⟩ | ⟨hnone, -⟩
    · rw [hrow] at hold
      cases hold
      exact hcursor
    · rw [hrow] at hnone
      cases hnone
  rows := hrequested.deliveries

theorem stepKeeps_request (event : Event)
    (h : Journaled site before.events before.store .idle journal)
    (hstep : (before.step site event).store =
      before.store.request site before.knows before.clock event) :
    StepKeeps site before (before.step site event) :=
  stepKeeps_requested (hstep ▸ requested event h)

theorem stepKeeps_advance {known : List Camera} {clock elapsed : ℚ} {skipped : ℕ}
    (h : Journaled site events store task journal) :
    StepKeeps site ⟨events, store, known, clock, task⟩
      (System.step site ⟨events, store, known, clock, task⟩ (.step skipped elapsed)) := by
  cases task with
  | idle => exact stepKeeps_refl rfl
  | choosing connections =>
      cases connections with
      | nil => exact stepKeeps_refl rfl
      | cons connection connections => exact stepKeeps_refl rfl
  | capturing connection upcoming connections =>
      cases upcoming with
      | nil => exact stepKeeps_refl rfl
      | cons event upcoming => exact stepKeeps_captureEvent skipped h
  | queued connection event upcoming connections =>
      obtain ⟨⟨⟨row, hcaptures⟩, -⟩, hqueued⟩ := h.fits
      exact stepKeeps_moved hcaptures (fun _ => hqueued) rfl
  | pulling connection rows limit result =>
      cases rows with
      | nil => exact stepKeeps_refl rfl
      | cons row rows => exact stepKeeps_pullRow elapsed

theorem stepKeeps_step (event : Event) {logged : Logged} (h : logged.Journaled site) :
    StepKeeps site logged.system (logged.system.step site event) := by
  obtain ⟨⟨events, store, known, clock, task⟩, journal⟩ := logged
  change Journaled site events store task journal at h
  cases event with
  | configure | record | cameras | wait => exact stepKeeps_refl rfl
  | step skipped elapsed => exact stepKeeps_advance h
  | fail => exact stepKeeps_refl rfl
  | crash => exact stepKeeps_of_eq rfl (rowsFrom_sublist (List.Sublist.refl _))
  | capture =>
      cases task with
      | idle => exact stepKeeps_refl rfl
      | _ => exact stepKeeps_refl rfl
  | pull id token limit =>
      cases task with
      | idle =>
          change StepKeeps site _ (System.beginPull site _ id token limit)
          unfold System.beginPull
          split
          · exact stepKeeps_refl rfl
          split
          · exact stepKeeps_refl rfl
          · exact stepKeeps_refl rfl
      | _ => exact stepKeeps_refl rfl
  | create | update | delete | handshake | retry | ingest | respond =>
      cases task with
      | idle => exact stepKeeps_request _ h rfl
      | _ => exact stepKeeps_refl rfl

end Keeps

/-! ## A pass comes to its end -/

def undisturbed (site : Site) : ℕ → System → System
  | 0, system => system
  | n + 1, system => undisturbed site n (system.step site (.step 0 0))

/-- What a pass has come to for a connection: it is full, or the cursor is at the last event. -/
def CameTo (system : System) (connection : Connection) (cursor : ℕ) (upcoming : List PersonEvent)
    (connections : List Connection) : Prop :=
  system.task = .choosing connections ∧ (system.full connection.id = true ∨
    ∃ row, system.store.row? connection.id = some row ∧ cursor ≤ row.sourceCursor ∧
      ∀ event ∈ upcoming, event.id ≤ row.sourceCursor)

variable {connections : List Connection} {upcoming : List PersonEvent} {connection : Connection}

theorem CameTo.cons {system : System} {event : PersonEvent} {cursor : ℕ}
    (h : CameTo system connection event.id upcoming connections) (hle : cursor ≤ event.id) :
    CameTo system connection cursor (event :: upcoming) connections := by
  refine ⟨h.1, h.2.imp_right ?_⟩
  rintro ⟨row, hrow, hcursor, hall⟩
  refine ⟨row, hrow, hle.trans hcursor, fun other hother => ?_⟩
  rcases List.mem_cons.mp hother with rfl | hmem
  · exact hcursor
  · exact hall other hmem

theorem undisturbed_event (site : Site) {system : System} {row : Connection} {event : PersonEvent}
    (htask : system.task = .capturing connection (event :: upcoming) connections)
    (hcaptures : Captures system.events system.store connection row (event :: upcoming))
    (hbound : system.store.deliverySequence + 1 < 2 ^ 63) :
    (system.full connection.id = true ∧ ∀ cursor : ℕ,
      CameTo (undisturbed site 1 system) connection cursor (event :: upcoming) connections) ∨
    ∃ n, (undisturbed site n system).task = .capturing connection upcoming connections ∧
      Captures (undisturbed site n system).events (undisturbed site n system).store connection
        { row with sourceCursor := event.id } upcoming ∧
      (undisturbed site n system).store.deliverySequence ≤ system.store.deliverySequence + 1 := by
  have hstep : undisturbed site 1 system =
      system.captureEvent site connection event upcoming connections 0 := by
    simp only [undisturbed, System.step, System.advance, htask]
  by_cases hwanted : system.wanted connection event.cameraId = true
  · by_cases hfull : system.full connection.id = true
    · refine .inl ⟨hfull, fun cursor => ?_⟩
      rw [hstep, System.captureEvent, if_pos hwanted, if_pos hfull]
      exact ⟨rfl, .inl hfull⟩
    · obtain ⟨inserted, hinserted⟩ : ∃ inserted, system.store.insertDelivery connection.id
          (recordedPersonObservation site event) 0 = some inserted := by
        unfold IntegrationStore.insertDelivery
        dsimp only
        rw [if_neg (not_le.mpr hbound)]
        split_ifs
        · exact ⟨_, rfl⟩
        · exact ⟨_, rfl⟩
      have hone : undisturbed site 1 system = { system with
          store := inserted.2
          task := .queued connection event upcoming connections } := by
        rw [hstep, System.captureEvent, if_pos hwanted, if_neg hfull, hinserted]
      have htwo : undisturbed site 2 system = { system with
          store := inserted.2.moveCursor connection.id event.id
          task := .capturing connection upcoming connections } := by
        change (undisturbed site 1 system).step site (.step 0 0) = _
        rw [hone]
        rfl
      refine .inr ⟨2, ?_⟩
      rw [htwo]
      have hsame : inserted.2.connections = system.store.connections ∧
          inserted.2.deliverySequence ≤ system.store.deliverySequence + 1 := by
        rcases insertDelivery_cases hinserted with ⟨-, -, heq⟩ | ⟨-, -, heq⟩
        · rw [heq]
          exact ⟨rfl, Nat.le_succ _⟩
        · rw [heq]
          exact ⟨rfl, le_rfl⟩
      have hfound : inserted.2.row? connection.id = some row := by
        rw [row?_congr hsame.1]
        exact hcaptures.found
      exact ⟨rfl, (hcaptures.congr hfound).moved, hsame.2⟩
  · refine .inr ⟨1, ?_⟩
    rw [hstep, System.captureEvent, if_neg hwanted]
    exact ⟨rfl, hcaptures.moved, Nat.le_succ _⟩

theorem undisturbed_add (n m : ℕ) (system : System) :
    undisturbed site (n + m) system = undisturbed site m (undisturbed site n system) := by
  induction n generalizing system with
  | zero => rw [Nat.zero_add]; rfl
  | succ n ih =>
      rw [Nat.succ_add]
      exact ih _

theorem pass_completes : ∀ {system : System} {row : Connection},
    system.task = .capturing connection upcoming connections →
    Captures system.events system.store connection row upcoming →
    system.store.deliverySequence + upcoming.length < 2 ^ 63 →
    ∃ n, CameTo (undisturbed site n system) connection row.sourceCursor upcoming connections := by
  induction upcoming with
  | nil =>
      intro system row htask hcaptures _
      refine ⟨1, ?_⟩
      have hstep : undisturbed site 1 system = { system with task := .choosing connections } := by
        simp only [undisturbed, System.step, System.advance, htask]
      rw [hstep]
      exact ⟨rfl, .inr ⟨row, hcaptures.found, le_rfl, by simp⟩⟩
  | cons event upcoming ih =>
      intro system row htask hcaptures hbound
      rw [List.length_cons] at hbound
      rcases undisturbed_event site htask hcaptures (by omega) with
        ⟨-, hfull⟩ | ⟨n, hnext, hmoved, hsequence⟩
      · exact ⟨1, hfull _⟩
      obtain ⟨m, hcame⟩ := ih hnext hmoved (by omega)
      refine ⟨n + m, ?_⟩
      rw [undisturbed_add]
      exact hcame.cons (hcaptures.above event List.mem_cons_self).le

/-! ## Every run -/

/-- What holds in a state that a run has reached, and of the event that leads to it. -/
structure DeliveriesSafe (site : Site) (before after : Logged) : Prop where
  lawful : Lawful after.journal
  /-- A pair of a connection and an observation has one row. -/
  unique : after.system.store.deliveries.Pairwise fun a b => a.pair ≠ b.pair
  cursors : CursorSafe site before.system after.system
  told : ∀ row ∈ after.system.store.deliveries,
    row.response = recorded row.sequence after.journal
  responses : ResponsesKept before.system.store after.system.store
  refused : ∀ id token payload known clock error,
    (after.system.store.respond site id token payload known clock).1 = .error error →
      (after.system.store.respond site id token payload known clock).2 = after.system.store
  /-- A pass comes to the last event that it has read, unless the connection is full. -/
  passes : ∀ connection upcoming connections,
    after.system.task = .capturing connection upcoming connections →
    after.system.store.deliverySequence + upcoming.length < 2 ^ 63 →
    ∃ n row, after.system.store.row? connection.id = some row ∧
      CameTo (undisturbed site n after.system) connection row.sourceCursor upcoming connections

theorem journaled_fresh (known : List Camera) (clock : ℚ) :
    (freshSystem known clock).Journaled site where
  books := by
    constructor <;> simp [freshSystem, Sorted, pullsSince, recorded, leaseEnd]
  lawful := trivial
  numbered := ⟨List.Pairwise.nil, by simp [freshSystem]⟩
  fits := trivial
  linked _ _ _ _ hrow _ := by cases hrow

theorem respond_refused {known : Camera → Bool} {clock : ℚ} {token : String}
    {payload : Option IntegrationStore.ResponsePayload} {error : IntegrationError}
    (h : (store.respond site id token payload known clock).1 = .error error) :
    (store.respond site id token payload known clock).2 = store := by
  cases hanswer : store.answer site id token payload known clock with
  | error other => exact (respond_error hanswer).1
  | ok answered =>
      simp only [IntegrationStore.respond, hanswer] at h
      cases h

theorem deliveriesSafe_step (event : Event) {logged : Logged} (h : logged.Journaled site) :
    DeliveriesSafe site logged ((deliveryMachine site).step logged event) := by
  have hafter := journaled_step event h
  have hkeeps := stepKeeps_step event h
  refine ⟨hafter.lawful, hafter.books.unique, hkeeps.cursor, hafter.books.responses,
    responsesKept hkeeps.rows h.books hafter.books hafter.lawful,
    fun _ _ _ _ _ _ => respond_refused, ?_⟩
  intro connection upcoming connections htask hbound
  have hfits := hafter.fits
  rw [htask] at hfits
  obtain ⟨⟨row, hcaptures⟩, -⟩ := hfits
  obtain ⟨n, hcame⟩ := pass_completes htask hcaptures hbound
  exact ⟨n, row, hcaptures.found, hcame⟩

/-- Every run of appends, passes, pulls, responses, edits, failures and crashes. -/
theorem deliveries_safe (site : Site) (known : List Camera) (clock : ℚ) (events : List Event)
    (before : Logged)
    (h : (deliveryMachine site).Reaches (freshSystem known clock) events before) (event : Event) :
    DeliveriesSafe site before ((deliveryMachine site).step before event) := by
  have hjournaled : before.Journaled site :=
    h.invariant (fun _ event hlogged _ => journaled_step event hlogged) (journaled_fresh known clock)
  exact deliveriesSafe_step event hjournaled

/-! ### A pull within a lease -/

/-- The lease of the last pull of a delivery, whatever came after it. -/
def lastLease (connection : ConnectionId) (sequence : ℕ) : List Entry → Option ℚ
  | [] => none
  | .pulled c s _ _ leased :: older =>
      if c = connection ∧ s = sequence then some leased else lastLease connection sequence older
  | _ :: older => lastLease connection sequence older

/-- No delivery was pulled before the lease of its last pull had ended. -/
def NeverEarly : List Entry → Prop
  | [] => True
  | .pulled c s _ clock _ :: older =>
      (∀ leased, lastLease c s older = some leased → leased ≤ clock) ∧ NeverEarly older
  | _ :: older => NeverEarly older

def labToken : String := "aaaaaaaaaaaaaaaaaaaaaaaaaaaaaaaa"

def personFrame : PersonFrame where
  cameraId := "gate"
  frameKey := "0000000000000000000000000000000000000000000000000000000000000000"
  occurredAt := "2024-01-01T00:00:00Z"
  confidence := 9 / 10
  personCount := 1
  emit := true

/-- An event is queued and pulled; the operator edits the connection, and the provider pulls
again. -/
def editedRun : List Event :=
  [.create "lab" .neural labToken true ["gate"], .handshake "lab" labToken ["2"],
    .configure "gate" true (1 / 2), .record personFrame 0, .capture, .step 0 0, .step 0 0,
    .step 0 0, .step 0 0, .step 0 0, .pull "lab" labToken 1, .step 0 0,
    .update "lab" ⟨none, none, none, true⟩, .handshake "lab" labToken ["2"],
    .pull "lab" labToken 1, .step 0 0]

theorem editedRun_journal :
    (editedRun.foldl (deliveryMachine plainSite).step (freshSystem ["gate"] 0)).journal =
      [.pulled "lab" 1 2 0 4, .edited "lab", .pulled "lab" 1 1 0 2, .queued "lab" 1,
        .created "lab"] := by
  decide +kernel

theorem pulled_within_lease : ∃ site known clock events logged,
    (deliveryMachine site).Reaches (freshSystem known clock) events logged ∧
      ¬ NeverEarly logged.journal := by
  refine ⟨plainSite, ["gate"], 0, editedRun, _, Machine.reaches_foldl (fun _ _ _ => trivial) _, ?_⟩
  rw [editedRun_journal]
  intro h
  exact absurd (h.1 2 rfl) (by decide)

theorem deliveries_safe_edited :
    DeliveriesSafe plainSite (editedRun.foldl (deliveryMachine plainSite).step
        (freshSystem ["gate"] 0))
      ((deliveryMachine plainSite).step (editedRun.foldl (deliveryMachine plainSite).step
        (freshSystem ["gate"] 0)) .capture) :=
  deliveries_safe plainSite ["gate"] 0 editedRun _
    (Machine.reaches_foldl (fun _ _ _ => trivial) _) .capture

end K5Vision.Operator.Integrations
