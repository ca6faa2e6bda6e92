import K5Vision.Operator.DeliverySafety

/-!
# What a pull hands out

A whole call of `pull`, whose rows are the steps of the task: the clock goes on before every row,
and before its lease is set.  Nothing is handed out if and only if every row that was read is
withheld when the loop comes to it (`pullRows_eq_nil`).  Only the first hundred rows are read, so
what is behind a hundred rows that are withheld waits for them (`pull_progresses_iff`).
-/

namespace K5Vision.Operator.Integrations

open PersonEvents

namespace System

variable (site : Site) (system : System)

def wait (elapsed : ℚ) : System := { system with clock := system.clock + max 0 elapsed }

/-- `pull` from a row on; a pause is before the row, and before its lease is set. -/
def pullRows (connection : Connection) (limit : ℕ) :
    List Delivery → List Pulled → (ℕ → ℚ × ℚ) → System → List Pulled × System
  | [], result, _, system => (result, { system with task := .idle })
  | row :: rows, result, pauses, system =>
      let now := system.wait (pauses 0).1
      let next := now.pullRow site connection row rows limit result (pauses 0).2
      if now.withheld connection row then
        pullRows connection limit rows result (fun n => pauses (n + 1)) next
      else
        let result := result ++ [pulledOf site connection.id row]
        if result.length = limit then (result, next)
        else pullRows connection limit rows result (fun n => pauses (n + 1)) next

def pull (id : ConnectionId) (token : String) (limit : ℕ) (pauses : ℕ → ℚ × ℚ) :
    Except IntegrationError (List Pulled) × System :=
  if limit < 1 || 20 < limit then (.error .invalidRequest, system)
  else
    match system.store.machineRow site id token .neural system.clock with
    | .error error => (.error error, system)
    | .ok connection =>
        let pulled := pullRows site connection limit (system.store.pullable id) [] pauses
          (system.beginPull site id token limit)
        (.ok pulled.1, pulled.2)

/-! ## A call is a run of the task -/

def pauseEvents (pause : ℚ × ℚ) : List Event := [.wait pause.1, .step 0 pause.2]

variable {site} {system : System} {connection : Connection} {limit : ℕ}

section Rows

variable {row : Delivery} {rows : List Delivery} {result : List Pulled} {elapsed : ℚ}

theorem task_pullRow_of_withheld (h : system.withheld connection row = true) :
    (system.pullRow site connection row rows limit result elapsed).task =
      .pulling connection rows limit result := by
  rw [pullRow, if_pos h]

theorem task_pullRow_of_given (h : ¬system.withheld connection row = true)
    (hlimit : (result ++ [pulledOf site connection.id row]).length ≠ limit) :
    (system.pullRow site connection row rows limit result elapsed).task =
      .pulling connection rows limit (result ++ [pulledOf site connection.id row]) := by
  rw [pullRow, if_neg h]
  exact if_neg hlimit

end Rows

theorem pullRows_steps (rows : List Delivery) (result : List Pulled) (pauses : ℕ → ℚ × ℚ)
    (system : System) (htask : system.task = .pulling connection rows limit result) :
    ∃ events : List Event, events.foldl (step site) system =
      (pullRows site connection limit rows result pauses system).2 := by
  induction rows generalizing result pauses system with
  | nil =>
      refine ⟨[.step 0 0], ?_⟩
      simp [step, advance, htask, pullRows]
  | cons row rows ih =>
      have hrow : (pauseEvents (pauses 0)).foldl (step site) system =
          (system.wait (pauses 0).1).pullRow site connection row rows limit result (pauses 0).2 := by
        simp [pauseEvents, step, advance, wait, htask]
      unfold pullRows
      dsimp only
      split_ifs with hwithheld hlimit
      · obtain ⟨events, hevents⟩ := ih result (fun n => pauses (n + 1)) _
          (task_pullRow_of_withheld hwithheld)
        exact ⟨pauseEvents (pauses 0) ++ events, by rw [List.foldl_append, hrow, hevents]⟩
      · exact ⟨pauseEvents (pauses 0), hrow⟩
      · obtain ⟨events, hevents⟩ := ih (result ++ [pulledOf site connection.id row])
          (fun n => pauses (n + 1)) _ (task_pullRow_of_given hwithheld hlimit)
        exact ⟨pauseEvents (pauses 0) ++ events, by rw [List.foldl_append, hrow, hevents]⟩

theorem beginPull_of_ok {id : ConnectionId} {token : String}
    (hlimit : ¬(limit < 1 || 20 < limit) = true)
    (hrow : system.store.machineRow site id token .neural system.clock = .ok connection) :
    system.beginPull site id token limit =
      { system with task := .pulling connection (system.store.pullable id) limit [] } := by
  rw [beginPull, if_neg hlimit, hrow]

theorem pull_steps (id : ConnectionId) (token : String) (pauses : ℕ → ℚ × ℚ)
    (hidle : system.task = .idle) :
    ∃ events : List Event, events.foldl (step site) system =
      (system.pull site id token limit pauses).2 := by
  have hbegin : step site system (.pull id token limit) = system.beginPull site id token limit := by
    simp [step, hidle]
  unfold pull
  split_ifs with hlimit
  · exact ⟨[], rfl⟩
  cases hrow : system.store.machineRow site id token .neural system.clock with
  | error error => exact ⟨[], rfl⟩
  | ok connection =>
      obtain ⟨events, hevents⟩ := pullRows_steps (system.store.pullable id) [] pauses
        (system.beginPull site id token limit) (by rw [beginPull_of_ok hlimit hrow])
      exact ⟨.pull id token limit :: events, by rw [List.foldl_cons, hbegin, hevents]⟩

/-! ## What is handed out -/

/-- The clock when the loop comes to a row, while nothing has been handed out. -/
def clockAt (clock : ℚ) (pauses : ℕ → ℚ × ℚ) : ℕ → ℚ
  | 0 => clock + max 0 (pauses 0).1
  | n + 1 => clockAt clock pauses n + max 0 (pauses (n + 1)).1

theorem clockAt_succ (clock : ℚ) (pauses : ℕ → ℚ × ℚ) (n : ℕ) : clockAt clock pauses (n + 1) =
      clockAt (clock + max 0 (pauses 0).1) (fun n => pauses (n + 1)) n := by
  induction n with
  | zero => rfl
  | succ n ih => rw [clockAt, ih, clockAt]

/-- A row that `pull` may hand out at some time. -/
def eligible (system : System) (connection : Connection) (clock : ℚ) (row : Delivery) : Bool :=
  system.store.leases (connection.id, row.sequence) ≤ clock &&
    system.wanted connection row.observation.sourceId

theorem withheld_eq_false {clock : ℚ} {row : Delivery} (hclock : system.clock = clock) :
    system.withheld connection row = false ↔ system.eligible connection clock row = true := by
  subst hclock
  simp [withheld, eligible]

theorem pullRows_ne_nil (rows : List Delivery) {result : List Pulled} (hresult : result ≠ [])
    (pauses : ℕ → ℚ × ℚ) (system : System) :
    (pullRows site connection limit rows result pauses system).1 ≠ [] := by
  induction rows generalizing result pauses system with
  | nil => exact hresult
  | cons row rows ih =>
      unfold pullRows
      dsimp only
      split_ifs
      · exact ih hresult _ _
      · simp
      · exact ih (by simp) _ _

/-- Something is handed out if and only if a row is eligible when the loop comes to it. -/
theorem pullRows_nil_ne_nil (rows : List Delivery) (pauses : ℕ → ℚ × ℚ) (system : System) :
    (pullRows site connection limit rows [] pauses system).1 ≠ [] ↔
      ∃ n row, rows[n]? = some row ∧
        system.eligible connection (clockAt system.clock pauses n) row = true := by
  induction rows generalizing pauses system with
  | nil => simp [pullRows]
  | cons row rows ih =>
      have hhead : (system.wait (pauses 0).1).withheld connection row = false ↔
          system.eligible connection (clockAt system.clock pauses 0) row = true :=
        withheld_eq_false rfl
      unfold pullRows
      dsimp only
      split_ifs with hwithheld hlimit
      · have hnext : (system.wait (pauses 0).1).pullRow site connection row rows limit []
            (pauses 0).2 = { system.wait (pauses 0).1 with
              task := .pulling connection rows limit [] } := by
          rw [pullRow, if_pos hwithheld]
        rw [hnext, ih]
        constructor
        · rintro ⟨n, later, hlater, heligible⟩
          exact ⟨n + 1, later, hlater, clockAt_succ system.clock pauses n ▸ heligible⟩
        rintro ⟨n, later, hlater, heligible⟩
        cases n with
        | zero =>
            obtain rfl := Option.some.inj hlater
            rw [hhead.mpr heligible] at hwithheld
            cases hwithheld
        | succ n => exact ⟨n, later, hlater, clockAt_succ system.clock pauses n ▸ heligible⟩
      · refine ⟨fun _ => ⟨0, row, rfl, hhead.mp (by simpa using hwithheld)⟩, fun _ => by simp⟩
      · refine ⟨fun _ => ⟨0, row, rfl, hhead.mp (by simpa using hwithheld)⟩, fun _ => ?_⟩
        exact pullRows_ne_nil rows (by simp) _ _

/-- Some delivery may be handed out to a connection: it is unanswered and has attempts left, no
lease is on it, and its camera is granted and known. -/
def HasEligible (system : System) (connection : Connection) : Prop :=
  ∃ row ∈ system.store.deliveries, row.pending connection.id = true ∧ row.attempt < maxAttempts ∧
    system.eligible connection system.clock row = true

/-- One of the first hundred rows that are unanswered and have attempts left is eligible when the
loop comes to it. -/
def FoundEarly (system : System) (connection : Connection) (pauses : ℕ → ℚ × ℚ) : Prop :=
  ∃ n row, n < 100 ∧
    (system.store.deliveries.filter fun row =>
      row.pending connection.id && row.attempt < maxAttempts)[n]? = some row ∧
        system.eligible connection (clockAt system.clock pauses n) row = true

/-- A `pull` that is admitted hands out something whenever there is something, if and only if it
finds it among the first hundred rows. -/
theorem pull_progresses_iff (site : Site) (system : System) {id : ConnectionId} {token : String}
    {limit : ℕ} (pauses : ℕ → ℚ × ℚ) {connection : Connection}
    (hlimit : 1 ≤ limit ∧ limit ≤ 20)
    (hadmitted : system.store.machineRow site id token .neural system.clock = .ok connection) :
    (system.HasEligible connection →
      ∃ requests, (system.pull site id token limit pauses).1 = .ok requests ∧ requests ≠ []) ↔
    (system.HasEligible connection → system.FoundEarly connection pauses) := by
  have hid : connection.id = id := row?_id (machineRow_row? hadmitted)
  have hbound : ¬(limit < 1 || 20 < limit) = true := by
    simp only [Bool.or_eq_true, decide_eq_true_eq]
    omega
  have hpull : (system.pull site id token limit pauses).1 =
      .ok (pullRows site connection limit (system.store.pullable id) [] pauses
        (system.beginPull site id token limit)).1 := by
    rw [pull, if_neg hbound, hadmitted]
  have hfound : (pullRows site connection limit (system.store.pullable id) [] pauses
      (system.beginPull site id token limit)).1 ≠ [] ↔ system.FoundEarly connection pauses := by
    rw [pullRows_nil_ne_nil, beginPull_of_ok hbound hadmitted, FoundEarly, hid]
    refine exists_congr fun n => exists_congr fun row => ?_
    rw [IntegrationStore.pullable, List.getElem?_take]
    split_ifs with hearly
    · simp only [hearly, true_and]
      rfl
    · simp [hearly]
  refine imp_congr_right fun _ => ?_
  rw [hpull, ← hfound]
  constructor
  · rintro ⟨requests, hrequests, hsome⟩
    rwa [Except.ok.inj hrequests]
  · intro hsome
    exact ⟨_, rfl, hsome⟩

end System

/-! ## A camera that is no longer known -/

def deliveryOf (camera : Camera) (sequence : ℕ) : Delivery where
  sequence := sequence
  connectionId := "lab"
  observation := ⟨toString sequence, camera, "2024-01-01T00:00:00Z", 9 / 10, 1, ""⟩
  attempt := 0
  response := none
  sent := false

def labConnection : Connection :=
  ⟨"lab", .neural, plainSite.sha256 labToken, true, ["yard", "gate"], 1, .ready, 0⟩

/-- So many events of the yard are queued, and one of the gate; then the yard is taken away. -/
def queuedSystem (yard : ℕ) : System where
  events := ⟨[], [], 0⟩
  store := {
    connections := [labConnection]
    deliveries := (List.range' 1 yard).map (deliveryOf "yard") ++ [deliveryOf "gate" (yard + 1)]
    deliverySequence := yard + 1
    received := []
    receivedSequence := 0
    handshakes := fun _ => 60
    leases := fun _ => 0 }
  known := ["gate"]
  clock := 0
  task := .idle

theorem hasEligible_queuedSystem (yard : ℕ) : (queuedSystem yard).HasEligible labConnection := by
  refine ⟨deliveryOf "gate" (yard + 1), List.mem_append_right _ (List.mem_singleton_self _), ?_⟩
  simp [deliveryOf, labConnection, queuedSystem, Delivery.pending, maxAttempts, System.eligible,
    System.wanted, System.knows]

theorem admitted_queuedSystem (yard : ℕ) :
    (queuedSystem yard).store.machineRow plainSite "lab" labToken .neural 0 =
      .ok labConnection := by
  rfl

/-- An event of the yard is passed over. -/
theorem pull_progresses_passed :
    ∃ requests, ((queuedSystem 1).pull plainSite "lab" labToken 10 fun _ => (0, 0)).1 =
      .ok requests ∧ requests ≠ [] := by
  refine (System.pull_progresses_iff plainSite (queuedSystem 1) (fun _ => (0, 0)) (by decide)
    (admitted_queuedSystem 1)).mpr (fun _ => ?_) (hasEligible_queuedSystem 1)
  exact ⟨1, deliveryOf "gate" 2, by decide, rfl, by decide +kernel⟩

/-- A hundred of them hide the event of the gate. -/
theorem pull_finds_nothing : (queuedSystem 100).HasEligible labConnection ∧
    ((queuedSystem 100).pull plainSite "lab" labToken 10 fun _ => (0, 0)).1 = .ok [] := by
  refine ⟨hasEligible_queuedSystem 100, ?_⟩
  decide +kernel

end K5Vision.Operator.Integrations
