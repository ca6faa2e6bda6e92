import K5Vision.Operator.IntegrationRuns
import Mathlib.Data.List.Nodup

/-!
# The journal of the deliveries

What happened to the deliveries of a store, the newest entry first, and when such a journal is
lawful: what is pulled has no lease that lasts, was pulled less than eight times since the
operator's last retry and is not answered; a response is the one that was recorded first; and
events are queued in the order of their identities.  `Books` ties a journal to the tables and
the leases, and holds through every operation of the store.
-/

namespace K5Vision.Operator.Integrations

open PersonEvents Library

set_option linter.unusedSectionVars false

inductive Entry
  | created (connection : ConnectionId)
  | queued (connection : ConnectionId) (event : ℕ)
  /-- Handed out at a time, with a lease to another one. -/
  | pulled (connection : ConnectionId) (sequence attempt : ℕ) (clock leased : ℚ)
  | answered (sequence : ℕ) (body : LabResponse) (duplicate : Bool)
  | edited (connection : ConnectionId)
  | retried (connection : ConnectionId)
  | deleted (connection : ConnectionId)
  | failed
  | ended
  deriving DecidableEq, Repr

/-! ## What a journal tells -/

/-- The lease of a delivery that was pulled, as long as nothing has taken it away: a response, an
edit, a retry or the deletion of its connection, or the end of the process. -/
def leaseEnd (connection : ConnectionId) (sequence : ℕ) : List Entry → Option ℚ
  | [] => none
  | .pulled c s _ _ leased :: older =>
      if c = connection ∧ s = sequence then some leased else leaseEnd connection sequence older
  | .answered s _ _ :: older => if s = sequence then none else leaseEnd connection sequence older
  | .edited c :: older | .retried c :: older | .deleted c :: older =>
      if c = connection then none else leaseEnd connection sequence older
  | .ended :: _ => none
  | _ :: older => leaseEnd connection sequence older

/-- How often a delivery was pulled since the operator's last retry. -/
def pullsSince (connection : ConnectionId) (sequence : ℕ) : List Entry → ℕ
  | [] => 0
  | .pulled c s _ _ _ :: older =>
      pullsSince connection sequence older + if c = connection ∧ s = sequence then 1 else 0
  | .retried c :: older => if c = connection then 0 else pullsSince connection sequence older
  | _ :: older => pullsSince connection sequence older

def recorded (sequence : ℕ) : List Entry → Option LabResponse
  | [] => none
  | .answered s body _ :: older => if s = sequence then some body else recorded sequence older
  | _ :: older => recorded sequence older

/-- The event that was queued last for a connection, and whether a task was cut off since. -/
def lastQueued (connection : ConnectionId) : List Entry → Option (ℕ × Bool)
  | [] => none
  | .created c :: older => if c = connection then none else lastQueued connection older
  | .queued c event :: older =>
      if c = connection then some (event, false) else lastQueued connection older
  | .failed :: older | .ended :: older =>
      (lastQueued connection older).map fun last => (last.1, true)
  | _ :: older => lastQueued connection older

/-- When an entry can stand behind older ones. -/
def Entry.Follows (older : List Entry) : Entry → Prop
  | .queued c event => ∀ last cut, lastQueued c older = some (last, cut) →
      last < event ∨ last = event ∧ cut = true
  | .pulled c s _ clock _ => (∀ leased, leaseEnd c s older = some leased → leased ≤ clock) ∧
      pullsSince c s older < maxAttempts ∧ recorded s older = none
  | .answered s body duplicate => recorded s older = none ∧ duplicate = false ∨
      recorded s older = some body ∧ duplicate = true
  | _ => True

/-- Every entry of a journal follows the ones before it. -/
def Lawful : List Entry → Prop
  | [] => True
  | entry :: older => entry.Follows older ∧ Lawful older

/-! ## Books -/

/-- What identifies an observation for a connection. -/
def Delivery.pair (row : Delivery) : ConnectionId × String :=
  (row.connectionId, row.observation.observationId)

/-- The tables and the leases agree with the journal. -/
structure Books (store : IntegrationStore) (journal : List Entry) : Prop where
  ids : (store.connections.map Connection.id).Nodup
  sorted : Sorted Delivery.sequence store.deliveries
  bound : ∀ row ∈ store.deliveries, row.sequence ≤ store.deliverySequence
  unique : store.deliveries.Pairwise fun a b => a.pair ≠ b.pair
  attempts : ∀ row ∈ store.deliveries,
    pullsSince row.connectionId row.sequence journal ≤ row.attempt ∧ row.attempt ≤ maxAttempts
  pulls : ∀ c s, pullsSince c s journal ≤ maxAttempts
  pulled : ∀ c s, pullsSince c s journal ≠ 0 → s ≤ store.deliverySequence
  responses : ∀ row ∈ store.deliveries, row.response = recorded row.sequence journal
  answered : ∀ s, recorded s journal ≠ none → s ≤ store.deliverySequence
  leases : ∀ c s leased, leaseEnd c s journal = some leased → leased ≤ store.leases (c, s)

variable {store changed : IntegrationStore} {journal : List Entry} {id : ConnectionId}

/-- An entry that is not about deliveries. -/
structure Entry.Silent (entry : Entry) : Prop where
  leaseEnd : ∀ c s older leased, leaseEnd c s (entry :: older) = some leased →
    leaseEnd c s older = some leased
  pullsSince : ∀ c s older, pullsSince c s (entry :: older) = pullsSince c s older
  recorded : ∀ s older, recorded s (entry :: older) = recorded s older

theorem silent_created : (Entry.created id).Silent := ⟨fun _ _ _ _ h => h, fun _ _ _ => rfl, fun _ _ => rfl⟩

theorem silent_queued {event : ℕ} : (Entry.queued id event).Silent :=
  ⟨fun _ _ _ _ h => h, fun _ _ _ => rfl, fun _ _ => rfl⟩

theorem silent_failed : Entry.failed.Silent := ⟨fun _ _ _ _ h => h, fun _ _ _ => rfl, fun _ _ => rfl⟩

theorem Books.sublist (h : Books store journal)
    (hids : (changed.connections.map Connection.id).Nodup)
    (hsub : changed.deliveries.Sublist store.deliveries)
    (hsequence : changed.deliverySequence = store.deliverySequence)
    (hleases : ∀ c s leased, leaseEnd c s journal = some leased →
      leased ≤ changed.leases (c, s)) : Books changed journal where
  ids := hids
  sorted := h.sorted.sublist hsub
  bound row hrow := hsequence ▸ h.bound row (hsub.subset hrow)
  unique := h.unique.sublist hsub
  attempts row hrow := h.attempts row (hsub.subset hrow)
  pulls := h.pulls
  pulled c s hpos := hsequence ▸ h.pulled c s hpos
  responses row hrow := h.responses row (hsub.subset hrow)
  answered s hsome := hsequence ▸ h.answered s hsome
  leases := hleases

theorem Books.silent {entry : Entry} (h : Books store journal) (hsilent : entry.Silent) :
    Books store (entry :: journal) where
  __ := h
  attempts row hrow := by
    rw [hsilent.pullsSince]
    exact h.attempts row hrow
  pulls c s := by
    rw [hsilent.pullsSince]
    exact h.pulls c s
  pulled c s hpos := by
    rw [hsilent.pullsSince] at hpos
    exact h.pulled c s hpos
  responses row hrow := by
    rw [hsilent.recorded]
    exact h.responses row hrow
  answered s hsome := by
    rw [hsilent.recorded] at hsome
    exact h.answered s hsome
  leases c s leased heq := h.leases c s leased (hsilent.leaseEnd c s journal leased heq)

/-! ### Connections -/

theorem ids_mapRow {change : Connection → Connection} (hchange : ∀ row, (change row).id = row.id) :
    (store.mapRow id change).connections.map Connection.id =
      store.connections.map Connection.id := by
  simp only [IntegrationStore.mapRow, List.map_map]
  refine List.map_congr_left fun row _ => ?_
  simp only [Function.comp]
  split_ifs
  · exact hchange row
  · rfl

theorem Books.mapRow {change : Connection → Connection} (h : Books store journal)
    (hchange : ∀ row, (change row).id = row.id) : Books (store.mapRow id change) journal :=
  h.sublist (by rw [ids_mapRow hchange]; exact h.ids) (List.Sublist.refl _) rfl h.leases

theorem find?_eq_some_of_mem {connections : List Connection} {row : Connection}
    (hids : (connections.map Connection.id).Nodup) (hrow : row ∈ connections) :
    connections.find? (fun other => other.id = row.id) = some row := by
  induction connections with
  | nil => cases hrow
  | cons first rest ih =>
      rw [List.map_cons, List.nodup_cons] at hids
      rcases List.mem_cons.mp hrow with rfl | hmem
      · simp
      · have hne : first.id ≠ row.id := fun heq => hids.1 (heq ▸ List.mem_map_of_mem hmem)
        rw [List.find?_cons_of_neg (by simpa using hne)]
        exact ih hids.2 hmem

theorem row?_mapRow {change : Connection → Connection} (hchange : ∀ row, (change row).id = row.id)
    (c : ConnectionId) : (store.mapRow id change).row? c =
      (store.row? c).map fun row => if row.id = id then change row else row := by
  unfold IntegrationStore.row? IntegrationStore.mapRow
  rw [List.find?_map]
  congr 1
  refine congrArg (fun p => List.find? p store.connections) (funext fun row => ?_)
  simp only [Function.comp]
  split_ifs with heq
  · rw [hchange]
  · rfl

theorem row?_id {c : ConnectionId} {row : Connection} (h : store.row? c = some row) : row.id = c := by
  simpa using List.find?_some h

/-! ### Leases -/

theorem leaseEnd_edited {c : ConnectionId} {s : ℕ} {leased : ℚ} {entry : Entry}
    (hentry : entry = .edited id ∨ entry = .retried id ∨ entry = .deleted id)
    (h : leaseEnd c s (entry :: journal) = some leased) :
    c ≠ id ∧ leaseEnd c s journal = some leased := by
  rcases hentry with rfl | rfl | rfl
  all_goals
    unfold leaseEnd at h
    split_ifs at h with heq
    exact ⟨fun hc => heq hc.symm, h⟩

theorem leases_forget (c : ConnectionId) (s : ℕ) (hne : c ≠ id) :
    (store.forget id).leases (c, s) = store.leases (c, s) := by
  simp [IntegrationStore.forget, hne]

/-! ### Requests

What each request does, be it refused or not. -/

section Requests

variable {site : Site} {known : Camera → Bool} {clock : ℚ} {token : String}

/-- A change of a connection that keeps its place in the events. -/
structure KeepsPlace (change : Connection → Connection) : Prop where
  id : ∀ row, (change row).id = row.id
  cursor : ∀ row, (change row).sourceCursor = row.sourceCursor

theorem create_cases {kind : Kind} {enabled : Bool} {cameras : List Camera} :
    (store.create site id kind token enabled cameras).1.isOk = false ∧
        (store.create site id kind token enabled cameras).2 = store ∨
      (store.create site id kind token enabled cameras).1.isOk = true ∧ store.row? id = none ∧
        ∃ row : Connection, row.id = id ∧ (store.create site id kind token enabled cameras).2 =
          { store with connections := store.connections ++ [row] } := by
  unfold IntegrationStore.create
  split
  · exact .inl ⟨rfl, rfl⟩
  split
  · exact .inl ⟨rfl, rfl⟩
  split
  · exact .inl ⟨rfl, rfl⟩
  split
  · exact .inl ⟨rfl, rfl⟩
  split
  · exact .inl ⟨rfl, rfl⟩
  · rename_i hnone
    exact .inr ⟨rfl, by simpa using hnone, _, rfl, rfl⟩

theorem update_cases {changes : IntegrationStore.ConnectionChanges} :
    (store.update site id changes).1.isOk = false ∧ (store.update site id changes).2 = store ∨
      (store.update site id changes).1.isOk = true ∧ ∃ change deliveries,
        (store.update site id changes).2 =
          { store.mapRow id change with deliveries := deliveries }.forget id ∧
        KeepsPlace change ∧ List.Sublist deliveries store.deliveries := by
  unfold IntegrationStore.update
  split
  · exact .inl ⟨rfl, rfl⟩
  split
  · exact .inl ⟨rfl, rfl⟩
  dsimp only
  split
  · exact .inl ⟨rfl, rfl⟩
  · exact .inr ⟨rfl, _, _, rfl, ⟨fun _ => rfl, fun _ => rfl⟩, List.filter_sublist⟩

theorem delete_cases : (store.delete id).1.isOk = false ∧ (store.delete id).2 = store ∨
    (store.delete id).1.isOk = true ∧ ∃ received, (store.delete id).2 =
      { store with
        connections := store.connections.filter fun row => row.id ≠ id
        deliveries := store.deliveries.filter fun row => row.connectionId ≠ id
        received := received }.forget id := by
  unfold IntegrationStore.delete
  split
  · exact .inl ⟨rfl, rfl⟩
  · exact .inr ⟨rfl, _, rfl⟩

theorem handshake_cases {versions : List String} :
    (store.handshake site id token versions clock).2 = store ∨
      ∃ change handshakes, (store.handshake site id token versions clock).2 =
          { store.mapRow id change with handshakes := handshakes } ∧ KeepsPlace change := by
  unfold IntegrationStore.handshake
  split
  · exact .inl rfl
  split
  · exact .inr ⟨_, _, rfl, fun _ => rfl, fun _ => rfl⟩
  · exact .inr ⟨_, _, rfl, fun _ => rfl, fun _ => rfl⟩

def resetAttempt (id : ConnectionId) (delivery : Delivery) : Delivery :=
  if delivery.pending id then { delivery with attempt := 0 } else delivery

theorem retry_cases : (store.retry id).1.isOk = false ∧ (store.retry id).2 = store ∨
    (store.retry id).1.isOk = true ∧ ∃ change, (store.retry id).2 =
      { store.mapRow id change with
        deliveries := store.deliveries.map (resetAttempt id) }.forget id ∧ KeepsPlace change := by
  unfold IntegrationStore.retry
  split
  · exact .inl ⟨rfl, rfl⟩
  · exact .inr ⟨rfl, _, rfl, ⟨fun _ => rfl, fun _ => rfl⟩⟩

theorem ingest_cases {mapped : Except IntegrationError NormalizedEvent} {skipped : ℕ} :
    (store.ingest site id token mapped known skipped clock).2 = store ∨
      ∃ change received sequence, (store.ingest site id token mapped known skipped clock).2 =
          { store.mapRow id change with received := received, receivedSequence := sequence } ∧
        KeepsPlace change := by
  unfold IntegrationStore.ingest
  split
  · exact .inl rfl
  split
  · dsimp only
    split
    · exact .inr ⟨_, _, _, rfl, ⟨fun _ => rfl, fun _ => rfl⟩⟩
    · exact .inl rfl
  split
  · exact .inl rfl
  split
  · split
    · exact .inl rfl
    · exact .inl rfl
  dsimp only
  split
  · exact .inl rfl
  · exact .inr ⟨_, _, _, rfl, ⟨fun _ => rfl, fun _ => rfl⟩⟩

theorem answer_spec {payload : Option IntegrationStore.ResponsePayload} {row : Delivery}
    {body : LabResponse} (h : store.answer site id token payload known clock = .ok (row, body)) :
    row ∈ store.deliveries ∧ row.connectionId = id ∧
      (row.response = none ∨ row.response = some body) := by
  unfold IntegrationStore.answer at h
  split at h
  · cases h
  · cases h
  split at h
  · cases h
  rename_i found hfind
  split_ifs at h
  split at h
  · cases h
  split_ifs at h with hconflict
  cases h
  refine ⟨List.mem_of_find?_eq_some hfind, ?_, ?_⟩
  · have := List.find?_some hfind
    simp only [Bool.and_eq_true, decide_eq_true_eq] at this
    exact this.1
  cases hresponse : row.response with
  | none => exact .inl rfl
  | some recorded =>
      simp only [hresponse, Option.any_some, decide_eq_true_eq, not_not] at hconflict
      exact .inr (by rw [hconflict])

end Requests

/-! ### Books through the operations -/

/-- Rows that keep their identities. -/
structure KeepsRow (change : Delivery → Delivery) : Prop where
  sequence : ∀ row, (change row).sequence = row.sequence
  pair : ∀ row, (change row).pair = row.pair

variable {change : Delivery → Delivery}

theorem KeepsRow.connectionId (h : KeepsRow change) (row : Delivery) :
    (change row).connectionId = row.connectionId :=
  congrArg Prod.fst (h.pair row)

theorem Books.map {entry : Entry} (h : Books store journal) (hchange : KeepsRow change)
    (hids : (changed.connections.map Connection.id).Nodup)
    (hdeliveries : changed.deliveries = store.deliveries.map change)
    (hsequence : changed.deliverySequence = store.deliverySequence)
    (hattempts : ∀ row ∈ store.deliveries,
      pullsSince row.connectionId row.sequence (entry :: journal) ≤ (change row).attempt ∧
        (change row).attempt ≤ maxAttempts)
    (hpulls : ∀ c s, pullsSince c s (entry :: journal) ≤ maxAttempts ∧
      (pullsSince c s (entry :: journal) ≠ 0 → s ≤ store.deliverySequence))
    (hresponses : ∀ row ∈ store.deliveries,
      (change row).response = recorded row.sequence (entry :: journal))
    (hanswered : ∀ s, recorded s (entry :: journal) ≠ none → s ≤ store.deliverySequence)
    (hleases : ∀ c s leased, leaseEnd c s (entry :: journal) = some leased →
      leased ≤ changed.leases (c, s)) : Books changed (entry :: journal) := by
  have hrow : ∀ row ∈ changed.deliveries, ∃ old ∈ store.deliveries, change old = row := by
    intro row hmem
    rw [hdeliveries] at hmem
    exact List.mem_map.mp hmem
  constructor
  case ids => exact hids
  case sorted =>
    rw [hdeliveries]
    refine List.pairwise_map.mpr (h.sorted.imp ?_)
    intro a b hlt
    rwa [hchange.sequence, hchange.sequence]
  case bound =>
    intro row hmem
    obtain ⟨old, hold, rfl⟩ := hrow row hmem
    rw [hchange.sequence, hsequence]
    exact h.bound old hold
  case unique =>
    rw [hdeliveries]
    refine List.pairwise_map.mpr (h.unique.imp ?_)
    intro a b hne
    rwa [hchange.pair, hchange.pair]
  case attempts =>
    intro row hmem
    obtain ⟨old, hold, rfl⟩ := hrow row hmem
    rw [hchange.connectionId, hchange.sequence]
    exact hattempts old hold
  case pulls => exact fun c s => (hpulls c s).1
  case pulled => exact fun c s hpos => hsequence ▸ (hpulls c s).2 hpos
  case responses =>
    intro row hmem
    obtain ⟨old, hold, rfl⟩ := hrow row hmem
    rw [hchange.sequence]
    exact hresponses old hold
  case answered => exact fun s hsome => hsequence ▸ hanswered s hsome
  case leases => exact hleases

theorem Books.forget {entry : Entry} (h : Books store journal)
    (hentry : entry = .edited id ∨ entry = .deleted id)
    (hids : (changed.connections.map Connection.id).Nodup)
    (hsub : changed.deliveries.Sublist store.deliveries)
    (hsequence : changed.deliverySequence = store.deliverySequence)
    (hleases : changed.leases = (store.forget id).leases) : Books changed (entry :: journal) := by
  have hpulls : ∀ c s, pullsSince c s (entry :: journal) = pullsSince c s journal := by
    rcases hentry with rfl | rfl
    · exact fun _ _ => rfl
    · exact fun _ _ => rfl
  have hrecorded : ∀ s, recorded s (entry :: journal) = recorded s journal := by
    rcases hentry with rfl | rfl
    · exact fun _ => rfl
    · exact fun _ => rfl
  constructor
  case ids => exact hids
  case sorted => exact h.sorted.sublist hsub
  case bound => exact fun row hrow => hsequence ▸ h.bound row (hsub.subset hrow)
  case unique => exact h.unique.sublist hsub
  case attempts =>
    intro row hrow
    rw [hpulls]
    exact h.attempts row (hsub.subset hrow)
  case pulls =>
    intro c s
    rw [hpulls]
    exact h.pulls c s
  case pulled =>
    intro c s hpos
    rw [hpulls] at hpos
    exact hsequence ▸ h.pulled c s hpos
  case responses =>
    intro row hrow
    rw [hrecorded]
    exact h.responses row (hsub.subset hrow)
  case answered =>
    intro s hsome
    rw [hrecorded] at hsome
    exact hsequence ▸ h.answered s hsome
  case leases =>
    intro c s leased heq
    obtain ⟨hne, hold⟩ := leaseEnd_edited (hentry.imp_right .inr) heq
    rw [hleases, leases_forget c s hne]
    exact h.leases c s leased hold

theorem keepsRow_resetAttempt : KeepsRow (resetAttempt id) := by
  constructor
  · intro row
    unfold resetAttempt
    split_ifs <;> rfl
  · intro row
    unfold resetAttempt
    split_ifs <;> rfl

theorem Books.retried {connection : Connection → Connection} (h : Books store journal)
    (hkeeps : KeepsPlace connection) : Books ({ store.mapRow id connection with
      deliveries := store.deliveries.map (resetAttempt id) }.forget id) (.retried id :: journal) := by
  have hpulls : ∀ c s, pullsSince c s (.retried id :: journal) =
      if id = c then 0 else pullsSince c s journal := fun _ _ => rfl
  refine h.map keepsRow_resetAttempt ?_ rfl rfl ?_ ?_ ?_ ?_ ?_
  · change ((store.mapRow id connection).connections.map Connection.id).Nodup
    rw [ids_mapRow hkeeps.id]
    exact h.ids
  · intro row hrow
    obtain ⟨hle, hmax⟩ := h.attempts row hrow
    rw [hpulls]
    by_cases hid : id = row.connectionId
    · rw [if_pos hid]
      refine ⟨Nat.zero_le _, ?_⟩
      unfold resetAttempt
      split_ifs
      · exact Nat.zero_le _
      · exact hmax
    · have hsame : resetAttempt id row = row := by
        unfold resetAttempt
        rw [if_neg]
        simp only [Delivery.pending, Bool.and_eq_true, decide_eq_true_eq, not_and]
        exact fun heq => absurd heq.symm hid
      rw [if_neg hid, hsame]
      exact ⟨hle, hmax⟩
  · intro c s
    rw [hpulls]
    split_ifs
    · exact ⟨Nat.zero_le _, fun hne => absurd rfl hne⟩
    · exact ⟨h.pulls c s, h.pulled c s⟩
  · intro row hrow
    have hresponse : (resetAttempt id row).response = row.response := by
      unfold resetAttempt
      split_ifs <;> rfl
    rw [hresponse]
    exact h.responses row hrow
  · exact h.answered
  · intro c s leased heq
    obtain ⟨hne, hold⟩ := leaseEnd_edited (.inr (.inl rfl)) heq
    refine (h.leases c s leased hold).trans (le_of_eq ?_)
    change _ = (store.forget id).leases (c, s)
    exact (leases_forget c s hne).symm

theorem Books.row_eq (h : Books store journal) {row other : Delivery} (hrow : row ∈ store.deliveries)
    (hother : other ∈ store.deliveries) (heq : other.sequence = row.sequence) : other = row :=
  h.sorted.eq_of_key_eq hother hrow heq

theorem keepsRow_answered (sequence : ℕ) (body : LabResponse) : KeepsRow fun other =>
    if other.sequence = sequence then { other with response := some body } else other := by
  constructor
  · intro other
    split_ifs <;> rfl
  · intro other
    split_ifs <;> rfl

theorem keepsRow_leased (sequence attempt : ℕ) : KeepsRow fun other =>
    if other.sequence = sequence then { other with attempt := attempt, sent := true }
    else other := by
  constructor
  · intro other
    split_ifs <;> rfl
  · intro other
    split_ifs <;> rfl

theorem Books.answeredRow {row : Delivery} {body : LabResponse} (h : Books store journal)
    (hrow : row ∈ store.deliveries) : Books (store.recordResponse id row body)
      (.answered row.sequence body row.response.isSome :: journal) := by
  let change : Delivery → Delivery := fun other =>
    if other.sequence = row.sequence then { other with response := some body } else other
  have hkeeps : KeepsRow change := keepsRow_answered row.sequence body
  have hattempt : ∀ other, (change other).attempt = other.attempt := by
    intro other
    dsimp only [change]
    split_ifs <;> rfl
  have hrecorded : ∀ s, recorded s (.answered row.sequence body row.response.isSome :: journal) =
      if row.sequence = s then some body else recorded s journal := fun _ => rfl
  have hleases : ∀ c s leased,
      leaseEnd c s (.answered row.sequence body row.response.isSome :: journal) = some leased →
      leased ≤ (store.recordResponse id row body).leases (c, s) := by
    intro c s leased heq
    unfold leaseEnd at heq
    split_ifs at heq with hsame
    have hkey : (c, s) ≠ (id, row.sequence) := fun hkey => hsame (congrArg Prod.snd hkey).symm
    change leased ≤ Function.update store.leases (id, row.sequence) 0 (c, s)
    rw [Function.update_of_ne hkey]
    exact h.leases c s leased heq
  have hids : ((store.recordResponse id row body).connections.map Connection.id).Nodup := by
    have hkept : (store.mapRow id fun row => { row with status := .ready }).connections.map
        Connection.id = store.connections.map Connection.id := ids_mapRow fun _ => rfl
    exact hkept ▸ h.ids
  -- first all rows, then those that are retained
  have hmapped : Books { store.recordResponse id row body with
      deliveries := store.deliveries.map change }
      (.answered row.sequence body row.response.isSome :: journal) := by
    refine h.map hkeeps hids rfl rfl ?_ ?_ ?_ ?_ hleases
    · intro other hother
      rw [hattempt]
      exact h.attempts other hother
    · exact fun c s => ⟨h.pulls c s, h.pulled c s⟩
    · intro other hother
      rw [hrecorded]
      dsimp only [change]
      by_cases hsame : other.sequence = row.sequence
      · rw [if_pos hsame, if_pos hsame.symm]
      · rw [if_neg hsame, if_neg (Ne.symm hsame)]
        exact h.responses other hother
    · intro s hsome
      rw [hrecorded] at hsome
      split_ifs at hsome with hsame
      · exact hsame ▸ h.bound row hrow
      · exact h.answered s hsome
  exact hmapped.sublist hids List.filter_sublist rfl hleases

theorem Books.leased {row : Delivery} {before clock : ℚ} (h : Books store journal)
    (hrow : row ∈ store.deliveries) (hid : row.connectionId = id)
    (hattempt : row.attempt < maxAttempts) :
    Books (store.lease id row clock) (.pulled id row.sequence (row.attempt + 1) before
      (clock + IntegrationStore.leaseSeconds (row.attempt + 1)) :: journal) := by
  let change : Delivery → Delivery := fun other =>
    if other.sequence = row.sequence then { other with attempt := row.attempt + 1, sent := true }
    else other
  have hkeeps : KeepsRow change := keepsRow_leased row.sequence (row.attempt + 1)
  have hpulls : ∀ c s, pullsSince c s (.pulled id row.sequence (row.attempt + 1) before
      (clock + IntegrationStore.leaseSeconds (row.attempt + 1)) :: journal) =
      pullsSince c s journal + if id = c ∧ row.sequence = s then 1 else 0 := fun _ _ => rfl
  have hthis := (h.attempts row hrow).1
  rw [hid] at hthis
  refine h.map hkeeps h.ids rfl rfl ?_ ?_ ?_ h.answered ?_
  · intro other hother
    obtain ⟨hle, hmax⟩ := h.attempts other hother
    rw [hpulls]
    dsimp only [change]
    by_cases hsame : other.sequence = row.sequence
    · rw [h.row_eq hrow hother hsame, if_pos rfl, if_pos ⟨hid.symm, rfl⟩, hid]
      dsimp only
      omega
    · rw [if_neg hsame, if_neg fun heq => hsame heq.2.symm]
      exact ⟨hle, hmax⟩
  · intro c s
    have hbound := h.pulled c s
    have hmax := h.pulls c s
    rw [hpulls]
    split_ifs with hsame
    · obtain ⟨rfl, rfl⟩ := hsame
      have := h.bound row hrow
      exact ⟨by omega, fun _ => this⟩
    · exact ⟨hmax, hbound⟩
  · intro other hother
    have hresponse : (change other).response = other.response := by
      dsimp only [change]
      split_ifs <;> rfl
    rw [hresponse]
    exact h.responses other hother
  · intro c s leased heq
    unfold leaseEnd at heq
    change leased ≤ Function.update store.leases (id, row.sequence) _ (c, s)
    split_ifs at heq with hsame
    · obtain ⟨rfl, rfl⟩ := hsame
      rw [Function.update_self]
      cases heq
      exact le_rfl
    · rw [Function.update_of_ne fun hkey => hsame ⟨(congrArg Prod.fst hkey).symm,
        (congrArg Prod.snd hkey).symm⟩]
      exact h.leases c s leased heq

theorem insertDelivery_cases {observation : Observation} {skipped : ℕ}
    {inserted : Bool × IntegrationStore}
    (h : store.insertDelivery id observation skipped = some inserted) :
    (inserted.1 = false ∧ (∃ row ∈ store.deliveries,
        row.pair = (id, observation.observationId)) ∧
      inserted.2 = { store with deliverySequence := store.deliverySequence + skipped }) ∨
    (inserted.1 = true ∧ (∀ row ∈ store.deliveries, row.pair ≠ (id, observation.observationId)) ∧
      inserted.2 = { store with
        deliveries := store.deliveries ++
          [⟨store.deliverySequence + 1 + skipped, id, observation, 0, none, false⟩]
        deliverySequence := store.deliverySequence + 1 + skipped }) := by
  unfold IntegrationStore.insertDelivery at h
  dsimp only at h
  split_ifs at h with hlarge hany
  · cases h
    obtain ⟨row, hrow, heq⟩ := List.any_eq_true.mp hany
    simp only [Bool.and_eq_true, decide_eq_true_eq] at heq
    exact .inl ⟨rfl, ⟨row, hrow, Prod.ext heq.1 heq.2⟩, rfl⟩
  · cases h
    refine .inr ⟨rfl, fun row hrow heq => hany (List.any_eq_true.mpr ⟨row, hrow, ?_⟩), rfl⟩
    simp only [Bool.and_eq_true, decide_eq_true_eq]
    exact ⟨congrArg Prod.fst heq, congrArg Prod.snd heq⟩

theorem Books.inserted {observation : Observation} {skipped : ℕ}
    {inserted : Bool × IntegrationStore} (h : Books store journal)
    (hinserted : store.insertDelivery id observation skipped = some inserted) :
    Books inserted.2 journal := by
  rcases insertDelivery_cases hinserted with ⟨-, -, heq⟩ | ⟨-, hnew, heq⟩
  · rw [heq]
    refine { h with
      bound := fun row hrow => (h.bound row hrow).trans (Nat.le_add_right _ _)
      pulled := fun c s hpos => (h.pulled c s hpos).trans (Nat.le_add_right _ _)
      answered := fun s hsome => (h.answered s hsome).trans (Nat.le_add_right _ _) }
  rw [heq]
  have hlast : ∀ row ∈ store.deliveries,
      row.sequence < store.deliverySequence + 1 + skipped := fun row hrow => by
    have := h.bound row hrow
    omega
  constructor
  case ids => exact h.ids
  case sorted => exact h.sorted.snoc hlast
  case bound =>
    intro row hrow
    dsimp only
    rcases List.mem_append.mp hrow with hold | hmem
    · exact (hlast row hold).le
    · rw [List.mem_singleton.mp hmem]
  case unique =>
    refine List.pairwise_append.mpr ⟨h.unique, List.pairwise_singleton _ _, ?_⟩
    intro row hrow other hother
    rw [List.mem_singleton.mp hother]
    exact hnew row hrow
  case attempts =>
    intro row hrow
    rcases List.mem_append.mp hrow with hold | hmem
    · exact h.attempts row hold
    rw [List.mem_singleton.mp hmem]
    dsimp only
    refine ⟨?_, Nat.zero_le _⟩
    by_contra hpos
    have := h.pulled id (store.deliverySequence + 1 + skipped) (by omega)
    omega
  case pulls => exact h.pulls
  case pulled =>
    intro c s hpos
    have := h.pulled c s hpos
    dsimp only
    omega
  case responses =>
    intro row hrow
    rcases List.mem_append.mp hrow with hold | hmem
    · exact h.responses row hold
    rw [List.mem_singleton.mp hmem]
    dsimp only
    by_contra hne
    have := h.answered (store.deliverySequence + 1 + skipped) (Ne.symm hne)
    omega
  case answered =>
    intro s hsome
    have := h.answered s hsome
    dsimp only
    omega
  case leases => exact h.leases

theorem Books.restarted (h : Books store journal) : Books store.restarted (.ended :: journal) where
  __ := h
  leases _ _ _ heq := by cases heq

end K5Vision.Operator.Integrations
