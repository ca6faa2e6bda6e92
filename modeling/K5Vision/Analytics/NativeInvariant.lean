import K5Vision.Analytics.NativeSession

/-!
# What the tasks of a native session know

`Core` is what holds of a session whatever its tasks do, and `Knows` what a task may rely on, given
where it is.  Each part of the model keeps `Core`, and takes nothing from what the other tasks know
(`Later`).  A completed `aclose` is `Owed` the release: it has happened, or a callback that is still
to come will see to it.

This fails in one place.  The worker makes the new `_pending` public before it completes it, with
the lock in its hands; an `aclose` that adds its callback in between has the worker call
`_release_completed` again from inside itself.  `Apart` rules that out.
-/

namespace K5Vision.Analytics

open Function (update update_of_ne update_self)

variable {β : Type*}

namespace Session

variable {session before after final : Session β}

/-- The future that `_pending` refers to. -/
abbrev current (session : Session β) : Future β := session.futures session.pending

/-- What the place of the worker says of the queue and the pending future. -/
def Placed (queue : List ℕ) (pending : ℕ) (current : Future β) (closed released : Bool) :
    Worker → Prop
  | .idle => (queue = [] ∧ current.done = true) ∨ (queue = [pending] ∧ current.state = .pending)
  | .taken number => number = pending ∧ queue = [] ∧ current.state = .pending
  | .native number => number = pending ∧ queue = [] ∧ current.state = .running
  | .notifying _ => queue = [] ∧ current.done = true ∧ closed = true
  | .published number _ => number = pending ∧ queue = [] ∧ current.state = .pending ∧
      current.callbacks = 0 ∧ released = true
  | .marked _ | .completed _ => queue = [] ∧ current.done = true ∧ released = true
  | .deadlocked => False

/-- How often the permit is given back: once, but not before the lock is left again. -/
def returned : Bool → Bool → ℕ
  | true, false => 1
  | _, _ => 0

structure Core (session : Session β) : Prop where
  fresh : session.pending < session.count
  others : ∀ number < session.count, number ≠ session.pending →
    (session.futures number).done = true
  placed : Placed session.queue session.pending session.current session.closed session.released
    session.worker
  attached : 0 < session.current.callbacks → session.shutdown = true
  shutdown : session.shutdown = true → session.closed = true ∧ session.queue = []
  released : session.released = true → session.closed = true ∧
    (session.current.done = true ∨ ∃ left, session.worker = .published session.pending left)
  counted : session.releases = returned session.released session.worker.holdsLock

/-- The permit is given back, or a callback that does it is still to be called. -/
def Owed (session : Session β) : Prop :=
  session.released = true ∨
    (session.current.done = false ∧ 0 < session.current.callbacks) ∨
      ∃ left, session.worker = .notifying left

def Knows (session : Session β) : Task β → Prop
  | .closing _ _ => session.closed = true
  | .shutDown left _ => left = 0 ∧ session.shutdown = true
  | .attaching number _ => session.shutdown = true ∧ number < session.count ∧
      (number = session.pending ∨ session.released = true)
  | .closed _ => session.Owed
  | .idle | .starting _ | .calling _ | .ended _ => True

structure Later (before after : Session β) : Prop where
  closed : before.closed = true → after.closed = true
  shutdown : before.shutdown = true → after.shutdown = true
  released : before.released = true → after.released = true
  count : before.count ≤ after.count
  pending : before.shutdown = true → after.pending = before.pending ∨ after.released = true
  owed : before.Owed → after.Owed

theorem Later.refl (session : Session β) : Later session session :=
  ⟨id, id, id, Nat.le_refl _, fun _ => .inl rfl, id⟩

variable {point : Task β}

theorem Knows.later (h : before.Knows point) (hlater : Later before after) : after.Knows point := by
  cases point with
  | closing => exact hlater.closed h
  | shutDown => exact ⟨h.1, hlater.shutdown h.2⟩
  | attaching number =>
      refine ⟨hlater.shutdown h.1, Nat.lt_of_lt_of_le h.2.1 hlater.count, ?_⟩
      rcases h.2.2 with rfl | hreleased
      · rcases hlater.pending h.1 with heq | hreleased
        · exact .inl heq.symm
        · exact .inr hreleased
      · exact .inr (hlater.released hreleased)
  | closed => exact hlater.owed h
  | _ => trivial

structure Inv (session : Session β) : Prop where
  core : session.Core
  knows : ∀ task, session.Knows (session.tasks task)

variable {future : Future β}

theorem done_of_finished {result : Result β} (h : future.state = .finished result) :
    future.done = true := by
  rw [Future.done, h]

theorem done_eq_false (h : future.state = .pending ∨ future.state = .running) :
    future.done = false := by
  rcases h with h | h <;> rw [Future.done, h]

theorem Core.not_deadlocked (h : session.Core) : session.worker ≠ .deadlocked := by
  intro hworker
  have hplaced := h.placed
  rwa [hworker] at hplaced

theorem Core.rests (h : session.Core) (hdone : session.current.done = true) :
    session.queue = [] ∧ ∀ number, session.worker ≠ .taken number ∧
      session.worker ≠ .native number := by
  have hplaced := h.placed
  cases hworker : session.worker with
  | idle =>
      rw [hworker] at hplaced
      rcases hplaced with ⟨hqueue, -⟩ | ⟨-, hstate⟩
      · exact ⟨hqueue, fun _ => ⟨nofun, nofun⟩⟩
      · rw [done_eq_false (.inl hstate)] at hdone
        cases hdone
  | taken number =>
      rw [hworker] at hplaced
      rw [done_eq_false (.inl hplaced.2.2)] at hdone
      cases hdone
  | native number =>
      rw [hworker] at hplaced
      rw [done_eq_false (.inr hplaced.2.2)] at hdone
      cases hdone
  | published number left =>
      rw [hworker] at hplaced
      exact ⟨hplaced.2.1, fun _ => ⟨nofun, nofun⟩⟩
  | deadlocked => exact absurd hworker h.not_deadlocked
  | _ =>
      rw [hworker] at hplaced
      exact ⟨hplaced.1, fun _ => ⟨nofun, nofun⟩⟩

/-- What waits in the queue is the pending future, and nothing has been added to it. -/
theorem Core.queued (h : session.Core) : session.queue = [] ∨
    (session.queue = [session.pending] ∧ session.worker = .idle ∧
      session.current.state = .pending ∧ session.current.callbacks = 0) := by
  have hplaced := h.placed
  cases hworker : session.worker with
  | idle =>
      rw [hworker] at hplaced
      rcases hplaced with ⟨hqueue, -⟩ | ⟨hqueue, hstate⟩
      · exact .inl hqueue
      · refine .inr ⟨hqueue, rfl, hstate, Nat.eq_zero_of_not_pos fun hpos => ?_⟩
        rw [(h.shutdown (h.attached hpos)).2] at hqueue
        cases hqueue
  | taken number =>
      rw [hworker] at hplaced
      exact .inl hplaced.2.1
  | native number =>
      rw [hworker] at hplaced
      exact .inl hplaced.2.1
  | published number left =>
      rw [hworker] at hplaced
      exact .inl hplaced.2.1
  | deadlocked => exact absurd hworker h.not_deadlocked
  | _ =>
      rw [hworker] at hplaced
      exact .inl hplaced.1

/-! ## The event loop -/

theorem Core.setTask (h : session.Core) (task : ℕ) (point : Task β) :
    (session.setTask task point).Core :=
  ⟨h.fresh, h.others, h.placed, h.attached, h.shutdown, h.released, h.counted⟩

theorem later_setTask (task : ℕ) (point : Task β) (session : Session β) :
    Later session (session.setTask task point) :=
  ⟨id, id, id, Nat.le_refl _, fun _ => .inl rfl, id⟩

theorem Inv.move (h : session.Inv) (task : ℕ) (hcore : after.Core) (hlater : Later session after)
    (htasks : after.tasks = session.tasks) (hpoint : after.Knows point) :
    (after.setTask task point).Inv where
  core := hcore.setTask task point
  knows other := by
    have hafter := later_setTask task point after
    change (after.setTask task point).Knows (update after.tasks task point other)
    by_cases heq : other = task
    · subst heq
      rw [update_self]
      exact hpoint.later hafter
    · rw [update_of_ne heq, htasks]
      exact ((h.knows other).later hlater).later hafter

theorem Inv.turn (h : session.Inv) (task : ℕ) (hpoint : session.Knows point) :
    (session.setTask task point).Inv :=
  h.move task h.core (.refl session) rfl hpoint

theorem Placed.close {queue : List ℕ} {pending : ℕ} {current : Future β} {closed released : Bool}
    {worker : Worker} (h : Placed queue pending current closed released worker) :
    Placed queue pending current true released worker := by
  cases worker with
  | notifying => exact ⟨h.1, h.2.1, rfl⟩
  | _ => exact h

theorem Core.close (h : session.Core) : { session with closed := true }.Core where
  __ := h
  placed := h.placed.close
  shutdown hshut := ⟨rfl, (h.shutdown hshut).2⟩
  released hreleased := ⟨rfl, (h.released hreleased).2⟩

theorem Inv.beginClose (h : session.Inv) (task : ℕ) (outcome : Outcome β) :
    (session.beginClose task outcome).Inv := by
  rw [Session.beginClose]
  refine h.move task h.core.close ?_ rfl ?_
  · exact ⟨fun _ => rfl, id, id, Nat.le_refl _, fun _ => .inl rfl, id⟩
  · rw [Knows]

/-- Only where nothing is under way does `__call__` come to its submission. -/
theorem Core.idle (h : session.Core) (hclosed : session.closed = false)
    (hdone : session.current.done = true) : session.worker = .idle ∧ session.queue = [] := by
  have hreleased : session.released ≠ true := by
    intro hreleased
    rw [(h.released hreleased).1] at hclosed
    cases hclosed
  obtain ⟨hqueue, hrests⟩ := h.rests hdone
  refine ⟨?_, hqueue⟩
  have hplaced := h.placed
  cases hworker : session.worker with
  | idle => rfl
  | taken number => exact absurd hworker (hrests number).1
  | native number => exact absurd hworker (hrests number).2
  | notifying left =>
      rw [hworker] at hplaced
      rw [hplaced.2.2] at hclosed
      cases hclosed
  | published number left =>
      rw [hworker] at hplaced
      exact absurd hplaced.2.2.2.2 hreleased
  | deadlocked => exact absurd hworker h.not_deadlocked
  | _ =>
      rw [hworker] at hplaced
      exact absurd hplaced.2.2 hreleased

theorem Core.submit (h : session.Core) (hclosed : session.closed = false)
    (hdone : session.current.done = true) (job : Job) : (session.submit job).Core := by
  obtain ⟨hworker, hqueue⟩ := h.idle hclosed hdone
  have hcurrent : (session.submit job).current = ⟨job, .pending, 0⟩ := update_self ..
  have hshutdown : session.shutdown ≠ true := by
    intro hshutdown
    rw [(h.shutdown hshutdown).1] at hclosed
    cases hclosed
  refine ⟨Nat.lt_succ_self _, fun number hlt hne => ?_, ?_, fun hpos => ?_,
    fun hshut => absurd hshut hshutdown, fun hreleased => ?_, h.counted⟩
  · change number ≠ session.count at hne
    change (update session.futures session.count _ number).done = true
    rw [update_of_ne hne]
    by_cases heq : number = session.pending
    · rwa [heq]
    · exact h.others number (Nat.lt_of_le_of_ne (Nat.le_of_lt_succ hlt) hne) heq
  · have hidle : (session.submit job).worker = .idle := hworker
    rw [hidle, hcurrent]
    refine .inr ⟨?_, rfl⟩
    change session.queue ++ [session.count] = [session.count]
    rw [hqueue, List.nil_append]
  · rw [hcurrent] at hpos
    cases hpos
  · rw [(h.released hreleased).1] at hclosed
    cases hclosed

theorem Core.later_submit (h : session.Core) (hclosed : session.closed = false)
    (hdone : session.current.done = true) (job : Job) : Later session (session.submit job) := by
  refine ⟨id, id, id, Nat.le_succ _, fun hshut => ?_, ?_⟩
  · rw [(h.shutdown hshut).1] at hclosed
    cases hclosed
  rintro (hreleased | ⟨hnot, -⟩ | ⟨left, hnotifying⟩)
  · exact .inl hreleased
  · rw [hdone] at hnot
    cases hnot
  · rw [(h.idle hclosed hdone).1] at hnotifying
    cases hnotifying

theorem Inv.call (h : session.Inv) (task : ℕ) (frame : Frame) : (session.call task frame).Inv := by
  rw [Session.call]
  split_ifs with havailable
  · exact h.turn task trivial
  · exact h.turn task trivial
  · exact h.turn task trivial
  · exact h.turn task trivial
  have hclosed : session.closed = false := by simp_all
  have hdone : session.current.done = true := by simp_all
  exact h.move task (h.core.submit hclosed hdone .infer)
    (h.core.later_submit hclosed hdone .infer) rfl trivial

/-! ### `aclose` -/

theorem Core.cancelledCallbacks (h : session.Core) : session.cancelledCallbacks = 0 := by
  rw [Session.cancelledCallbacks]
  rcases h.queued with hqueue | ⟨hqueue, -, -, hzero⟩
  · rw [hqueue]
    rfl
  · rw [hqueue]
    exact hzero

theorem done_shutdownExecutor (number : ℕ) (session : Session β) :
    (session.shutdownExecutor.futures number).done =
      (decide (number ∈ session.queue) || (session.futures number).done) := by
  change (if number ∈ session.queue then _ else _ : Future β).done = _
  split_ifs with hmem
  · rw [decide_eq_true hmem, Bool.true_or]
    rfl
  · rw [decide_eq_false hmem, Bool.false_or]

theorem shutdownExecutor_of_empty (hqueue : session.queue = []) :
    session.shutdownExecutor = { session with shutdown := true } := by
  simp [Session.shutdownExecutor, hqueue]

theorem Core.shutdownExecutor (h : session.Core) (hclosed : session.closed = true) :
    session.shutdownExecutor.Core := by
  rcases h.queued with hqueue | ⟨hqueue, hworker, -⟩
  · rw [shutdownExecutor_of_empty hqueue]
    exact { h with
      attached := fun _ => rfl
      shutdown := fun _ => ⟨hclosed, hqueue⟩ }
  have hdone : session.shutdownExecutor.current.done = true := by
    change (session.shutdownExecutor.futures session.pending).done = true
    rw [done_shutdownExecutor, hqueue]
    simp
  refine ⟨h.fresh, fun number hlt hne => ?_, ?_, fun _ => rfl, fun _ => ⟨hclosed, rfl⟩,
    fun _ => ⟨hclosed, .inl hdone⟩, h.counted⟩
  · rw [done_shutdownExecutor, h.others number hlt hne, Bool.or_true]
  · have hidle : session.shutdownExecutor.worker = .idle := hworker
    rw [hidle]
    exact .inl ⟨rfl, hdone⟩

theorem Core.later_shutdownExecutor (h : session.Core) :
    Later session session.shutdownExecutor := by
  refine ⟨id, fun _ => rfl, id, Nat.le_refl _, fun _ => .inl rfl, ?_⟩
  rintro (hreleased | ⟨hnot, hpos⟩ | hnotifying)
  · exact .inl hreleased
  · rcases h.queued with hqueue | ⟨-, -, -, hzero⟩
    · rw [shutdownExecutor_of_empty hqueue]
      exact .inr (.inl ⟨hnot, hpos⟩)
    · rw [hzero] at hpos
      cases hpos
  · exact .inr (.inr hnotifying)

theorem Inv.closeWakes (h : session.Inv) (hclosed : session.closed = true) (task : ℕ)
    (outcome : Outcome β) (answer : Awaited β) :
    (session.closeWakes task outcome answer).Inv := by
  rw [Session.closeWakes, h.core.cancelledCallbacks]
  exact h.move task (h.core.shutdownExecutor hclosed) h.core.later_shutdownExecutor rfl ⟨rfl, rfl⟩

theorem Inv.interrupt (h : session.Inv) : { session with interrupted := true }.Inv where
  core := ⟨h.core.fresh, h.core.others, h.core.placed, h.core.attached, h.core.shutdown,
    h.core.released, h.core.counted⟩
  knows task := (h.knows task).later ⟨id, id, id, Nat.le_refl _, fun _ => .inl rfl, id⟩

theorem Inv.startEnds (h : session.Inv) (task : ℕ) (answer : Awaited β) :
    (session.startEnds task answer).Inv := by
  rw [Session.startEnds.eq_def]
  split
  · exact h.turn task trivial
  · exact h.beginClose task _
  · exact h.beginClose task _
  · exact h.beginClose task _

theorem Inv.callEnds (h : session.Inv) (task : ℕ) (answer : Awaited β) :
    (session.callEnds task answer).Inv := by
  rw [Session.callEnds.eq_def]
  split
  · exact h.turn task trivial
  · exact h.turn task trivial
  · exact h
  · exact h.interrupt.turn task trivial

theorem Inv.wake (h : session.Inv) (task : ℕ) (how : Wake) : (session.wake task how).Inv := by
  have hknows := h.knows task
  rw [Session.wake]
  split
  case h_1 number _ =>
    cases session.awaited number how with
    | none => exact h
    | some answer => exact h.startEnds task answer
  case h_2 number _ =>
    cases session.awaited number how with
    | none => exact h
    | some answer => exact h.callEnds task answer
  case h_3 number outcome hpoint =>
    rw [hpoint] at hknows
    cases session.awaited number how with
    | none => exact h
    | some answer => exact h.closeWakes hknows task outcome answer
  case h_4 => exact h

theorem releaseCompleted_of_held (h : session.released ≠ true) : session.releaseCompleted =
    { session with
      released := true
      backend := false
      count := session.count + 1
      futures := update session.futures session.count ⟨.completed, .finished .nothing, 0⟩
      pending := session.count
      releases := session.releases + 1 } := by
  rw [releaseCompleted, if_neg h]
  simp [giveBack, complete, setFuture, publish, addFuture, mark]

/-- Behind a new future the earlier ones are done, if the pending one was. -/
theorem Core.others_update (h : session.Core) (hdone : session.current.done = true)
    (future : Future β) {number : ℕ} (hlt : number < session.count + 1)
    (hne : number ≠ session.count) :
    (update session.futures session.count future number).done = true := by
  rw [update_of_ne hne]
  by_cases heq : number = session.pending
  · rwa [heq]
  · exact h.others number (Nat.lt_of_le_of_ne (Nat.le_of_lt_succ hlt) hne) heq

/-- Where the pending future is done, `Placed` only asks for what the callbacks find. -/
theorem Core.replaced (h : session.Core) (hdone : session.current.done = true) (pending : ℕ)
    (hfuture : future.done = true) (hlock : session.worker.holdsLock = false) :
    Placed session.queue pending future session.closed true session.worker := by
  obtain ⟨hqueue, hrests⟩ := h.rests hdone
  have hplaced := h.placed
  cases hworker : session.worker with
  | idle => exact .inl ⟨hqueue, hfuture⟩
  | taken number => exact absurd hworker (hrests number).1
  | native number => exact absurd hworker (hrests number).2
  | notifying left =>
      rw [hworker] at hplaced
      exact ⟨hqueue, hfuture, hplaced.2.2⟩
  | _ =>
      rw [hworker] at hlock
      cases hlock

theorem Core.releaseCompleted (h : session.Core) (hclosed : session.closed = true)
    (hdone : session.current.done = true) (hlock : session.worker.holdsLock = false) :
    session.releaseCompleted.Core := by
  by_cases hreleased : session.released = true
  · rw [Session.releaseCompleted, if_pos hreleased]
    exact h
  have hcounted : session.releases = 0 := by
    rw [h.counted, Bool.eq_false_iff.mpr hreleased]
    rfl
  rw [releaseCompleted_of_held hreleased]
  refine ⟨Nat.lt_succ_self _, fun number => h.others_update hdone _, ?_, fun hpos => ?_,
    h.shutdown, fun _ => ⟨hclosed, .inl ?_⟩, ?_⟩
  · exact h.replaced hdone _ (by simp [current, Future.done]) hlock
  · simp [current] at hpos
  · simp [current, Future.done]
  · rw [hlock, hcounted]
    rfl

theorem released_releaseCompleted (session : Session β) :
    session.releaseCompleted.released = true := by
  by_cases hreleased : session.released = true
  · rwa [releaseCompleted, if_pos hreleased]
  · rw [releaseCompleted_of_held hreleased]

theorem tasks_releaseCompleted (session : Session β) :
    session.releaseCompleted.tasks = session.tasks := by
  rw [releaseCompleted]
  split_ifs <;> rfl

theorem later_releaseCompleted (session : Session β) : Later session session.releaseCompleted := by
  have hafter := released_releaseCompleted session
  by_cases hreleased : session.released = true
  · rw [releaseCompleted, if_pos hreleased]
    exact .refl session
  · rw [releaseCompleted_of_held hreleased] at hafter ⊢
    exact ⟨id, id, fun _ => rfl, Nat.le_succ _, fun _ => .inr rfl, fun _ => .inl rfl⟩

theorem current_setFuture (future : Future β) (session : Session β) :
    (session.setFuture session.pending future).current = future :=
  update_self ..

theorem Core.setCurrent (h : session.Core) {worker : Worker}
    (hplaced : Placed session.queue session.pending future session.closed session.released worker)
    (hattached : 0 < future.callbacks → session.shutdown = true)
    (hreleased : session.released = true →
      future.done = true ∨ ∃ left, worker = .published session.pending left)
    (hlock : worker.holdsLock = session.worker.holdsLock) :
    ((session.setFuture session.pending future).setWorker worker).Core := by
  have hcurrent : ((session.setFuture session.pending future).setWorker worker).current = future :=
    current_setFuture future session
  refine ⟨h.fresh, fun number hlt hne => ?_, ?_, ?_, h.shutdown, fun hmarked => ?_, ?_⟩
  · change number ≠ session.pending at hne
    change (update session.futures session.pending _ number).done = true
    rw [update_of_ne hne]
    exact h.others number hlt hne
  · rw [hcurrent]
    exact hplaced
  · rw [hcurrent]
    exact hattached
  · rw [hcurrent]
    exact ⟨(h.released hmarked).1, hreleased hmarked⟩
  · change session.releases = returned session.released worker.holdsLock
    rw [hlock]
    exact h.counted

theorem Core.addCallback (h : session.Core) (hshutdown : session.shutdown = true)
    (hapart : ∀ left, session.worker ≠ .published session.pending left) :
    (session.setFuture session.pending { session.current with
      callbacks := session.current.callbacks + 1 }).Core := by
  refine h.setCurrent ?_ (fun _ => hshutdown)
    (fun hreleased => (h.released hreleased).2) rfl
  have hplaced := h.placed
  cases hworker : session.worker with
  | published number left =>
      rw [hworker] at hplaced
      rw [hplaced.1] at hworker
      exact absurd hworker (hapart left)
  | _ =>
      rw [hworker] at hplaced
      exact hplaced

theorem Inv.attach (h : session.Inv) (task number : ℕ) (outcome : Outcome β)
    (hknows : session.Knows (.attaching number outcome))
    (hapart : ∀ left, session.worker ≠ .published number left) :
    (session.attach task number outcome).Inv := by
  obtain ⟨hshutdown, hlt, hwhich⟩ := hknows
  obtain ⟨hclosed, hqueue⟩ := h.core.shutdown hshutdown
  rw [Session.attach]
  split_ifs with hdone hlock
  · exact h
  · have hlock : session.worker.holdsLock = false := by simpa using hlock
    refine h.move task ?_ (later_releaseCompleted session) (tasks_releaseCompleted session)
      (.inl (released_releaseCompleted session))
    by_cases hreleased : session.released = true
    · rw [releaseCompleted, if_pos hreleased]
      exact h.core
    · obtain rfl := hwhich.resolve_right hreleased
      exact h.core.releaseCompleted hclosed hdone hlock
  · have hpending : number = session.pending := by
      by_contra hne
      exact hdone (h.core.others number hlt hne)
    subst hpending
    have howed : (session.setFuture session.pending { session.current with
        callbacks := session.current.callbacks + 1 }).Owed := by
      refine .inr (.inl ?_)
      rw [current_setFuture]
      exact ⟨Bool.eq_false_iff.mpr hdone, Nat.succ_pos _⟩
    refine h.move task (h.core.addCallback hshutdown hapart) ?_ rfl howed
    exact ⟨id, id, id, Nat.le_refl _, fun _ => .inl rfl, fun _ => howed⟩

end Session

/-- No `aclose` adds its callback to the future that the worker has just made public. -/
def Apart (session : Session β) : Event β → Prop
  | .proceed task => ∀ number outcome left,
      session.tasks task = .attaching number outcome → session.worker ≠ .published number left
  | _ => True

namespace Session

variable {session after : Session β}

theorem Inv.proceed (h : session.Inv) {task : ℕ} (hapart : Apart session (.proceed task)) :
    (session.proceed task).Inv := by
  have hknows := h.knows task
  rw [Session.proceed]
  split
  case h_1 left outcome hpoint =>
    rw [hpoint] at hknows
    cases hknows.1
  case h_2 outcome hpoint =>
    rw [hpoint] at hknows
    exact h.turn task ⟨hknows.2, h.core.fresh, .inl rfl⟩
  case h_3 number outcome hpoint =>
    rw [hpoint] at hknows
    exact h.attach task number outcome hknows fun left => hapart number outcome left hpoint
  case h_4 => exact h

/-! ## The worker -/

/-- Where the pending future is not done, and not public just now, nobody has released. -/
theorem Core.not_released (h : session.Core) (hdone : session.current.done = false)
    (hworker : ∀ number left, session.worker ≠ .published number left) :
    session.released ≠ true := by
  intro hreleased
  rcases (h.released hreleased).2 with htrue | ⟨left, hpublished⟩
  · rw [hdone] at htrue
    cases htrue
  · exact hworker _ left hpublished

variable {number : ℕ}

theorem Core.take (h : session.Core) {rest : List ℕ} (hqueue : session.queue = number :: rest) :
    { session with queue := rest, worker := .taken number }.Core := by
  rcases h.queued with hempty | ⟨hsingle, hworker, hstate, hzero⟩
  · rw [hempty] at hqueue
    cases hqueue
  rw [hsingle] at hqueue
  cases hqueue
  have hshutdown : session.shutdown ≠ true := by
    intro hshutdown
    rw [(h.shutdown hshutdown).2] at hsingle
    cases hsingle
  have hreleased := h.not_released (done_eq_false (.inl hstate)) (by rw [hworker]; nofun)
  have hcounted := h.counted
  rw [hworker] at hcounted
  exact ⟨h.fresh, h.others, ⟨rfl, rfl, hstate⟩, h.attached, fun hshut => absurd hshut hshutdown,
    fun hmarked => absurd hmarked hreleased, hcounted⟩

variable {left : ℕ}

theorem Placed.before {queue : List ℕ} {pending : ℕ} {current : Future β} {closed released : Bool}
    (hqueue : queue = []) (hdone : current.done = true) (hclosed : 0 < left → closed = true) :
    Placed queue pending current closed released (.before left) := by
  cases left with
  | zero => exact .inl ⟨hqueue, hdone⟩
  | succ left => exact ⟨hqueue, hdone, hclosed (Nat.succ_pos left)⟩

theorem holdsLock_before (left : ℕ) : (Worker.before left).holdsLock = false := by
  cases left <;> rfl

theorem Core.begin (h : session.Core) (hworker : session.worker = .taken number) :
    ((session.setFuture number { session.futures number with state := .running }).setWorker
      (.native number)).Core := by
  have hplaced := h.placed
  rw [hworker] at hplaced
  obtain ⟨rfl, hqueue, hstate⟩ := hplaced
  have hreleased := h.not_released (done_eq_false (.inl hstate)) (by rw [hworker]; nofun)
  refine h.setCurrent ⟨rfl, hqueue, rfl⟩ h.attached (fun hmarked => absurd hmarked hreleased) ?_
  rw [hworker]
  rfl

theorem Core.finish (h : session.Core) (hworker : session.worker = .native number) (ready : Bool)
    (detections : Option β) :
    ((session.finish number ready detections).setWorker
      (.before (session.futures number).callbacks)).Core := by
  have hplaced := h.placed
  rw [hworker] at hplaced
  obtain ⟨rfl, hqueue, hstate⟩ := hplaced
  have hreleased := h.not_released (done_eq_false (.inr hstate)) (by rw [hworker]; nofun)
  have hset : ((session.setFuture session.pending { session.current with
      state := .finished (answer ready detections session.current.job) }).setWorker
        (.before session.current.callbacks)).Core := by
    refine h.setCurrent (.before hqueue (done_of_finished rfl) fun hpos => ?_) h.attached
      (fun hmarked => absurd hmarked hreleased) ?_
    · exact (h.shutdown (h.attached hpos)).1
    · rw [holdsLock_before, hworker]
      rfl
  exact ⟨hset.fresh, hset.others, hset.placed, hset.attached, hset.shutdown, hset.released,
    hset.counted⟩

theorem Core.notified (h : session.Core) (hworker : session.worker = .notifying left) :
    (session.setWorker (.before left)).Core := by
  have hplaced := h.placed
  rw [hworker] at hplaced
  obtain ⟨hqueue, hdone, hclosed⟩ := hplaced
  refine ⟨h.fresh, h.others, .before hqueue hdone fun _ => hclosed, h.attached, h.shutdown,
    fun _ => ⟨hclosed, .inl hdone⟩, ?_⟩
  change session.releases = returned session.released (Worker.before left).holdsLock
  rw [holdsLock_before, h.counted, hworker]
  rfl

theorem Core.marked (h : session.Core) (hworker : session.worker = .notifying left)
    (hreleased : session.released ≠ true) : (session.mark.setWorker (.marked left)).Core := by
  have hplaced := h.placed
  rw [hworker] at hplaced
  obtain ⟨hqueue, hdone, hclosed⟩ := hplaced
  refine ⟨h.fresh, h.others, ⟨hqueue, hdone, rfl⟩, h.attached, h.shutdown,
    fun _ => ⟨hclosed, .inl hdone⟩, ?_⟩
  change session.releases = 0
  rw [h.counted, Bool.eq_false_iff.mpr hreleased]
  rfl

theorem Core.published (h : session.Core) (hworker : session.worker = .marked left) :
    (session.publish.setWorker (.published session.count left)).Core := by
  have hplaced := h.placed
  rw [hworker] at hplaced
  obtain ⟨hqueue, hdone, hreleased⟩ := hplaced
  have hcurrent : (session.publish.setWorker (.published session.count left)).current =
      ⟨.completed, .pending, 0⟩ := update_self ..
  refine ⟨Nat.lt_succ_self _, fun number => h.others_update hdone _, ?_, fun hpos => ?_,
    h.shutdown, fun _ => ⟨(h.released hreleased).1, .inr ⟨left, rfl⟩⟩, ?_⟩
  · rw [hcurrent]
    exact ⟨rfl, hqueue, rfl, rfl, hreleased⟩
  · rw [hcurrent] at hpos
    cases hpos
  · have hcounted := h.counted
    rw [hworker] at hcounted
    exact hcounted

theorem Core.completed (h : session.Core) (hworker : session.worker = .published number left) :
    ((session.complete number).setWorker
      (if (session.futures number).callbacks = 0 then .completed left else .deadlocked)).Core := by
  have hplaced := h.placed
  rw [hworker] at hplaced
  obtain ⟨rfl, hqueue, -, hzero, hreleased⟩ := hplaced
  rw [if_pos hzero]
  refine h.setCurrent ⟨hqueue, done_of_finished rfl, hreleased⟩ h.attached
    (fun _ => .inl (done_of_finished rfl)) ?_
  rw [hworker]
  rfl

theorem Core.givenBack (h : session.Core) (hworker : session.worker = .completed left) :
    (session.giveBack.setWorker (.before left)).Core := by
  have hplaced := h.placed
  rw [hworker] at hplaced
  obtain ⟨hqueue, hdone, hreleased⟩ := hplaced
  have hclosed := (h.released hreleased).1
  refine ⟨h.fresh, h.others, .before hqueue hdone fun _ => hclosed, h.attached, h.shutdown,
    fun _ => ⟨hclosed, .inl hdone⟩, ?_⟩
  change session.releases + 1 = returned session.released (Worker.before left).holdsLock
  rw [h.counted, holdsLock_before, hworker, hreleased]
  rfl

theorem Inv.work_step (h : session.Inv) (hcore : after.Core) (htasks : after.tasks = session.tasks)
    (hlater : Later session after) : after.Inv where
  core := hcore
  knows task := by
    rw [htasks]
    exact (h.knows task).later hlater

theorem Core.later_take (h : session.Core) {rest : List ℕ}
    (hqueue : session.queue = number :: rest) :
    Later session { session with queue := rest, worker := .taken number } := by
  refine ⟨id, id, id, Nat.le_refl _, fun _ => .inl rfl, ?_⟩
  rintro (hreleased | hattached | ⟨left, hnotifying⟩)
  · exact .inl hreleased
  · exact .inr (.inl hattached)
  rcases h.queued with hempty | ⟨-, hidle, -⟩
  · rw [hempty] at hqueue
    cases hqueue
  · rw [hidle] at hnotifying
    cases hnotifying

theorem later_begin (hworker : session.worker = .taken session.pending) :
    Later session ((session.setFuture session.pending
      { session.current with state := .running }).setWorker (.native session.pending)) := by
  refine ⟨id, id, id, Nat.le_refl _, fun _ => .inl rfl, ?_⟩
  rintro (hreleased | ⟨-, hpos⟩ | ⟨left, hnotifying⟩)
  · exact .inl hreleased
  · refine .inr (.inl ?_)
    change (update session.futures session.pending _ session.pending).done = false ∧
      0 < (update session.futures session.pending _ session.pending).callbacks
    rw [update_self]
    exact ⟨rfl, hpos⟩
  · rw [hworker] at hnotifying
    cases hnotifying

theorem later_finish (hworker : session.worker = .native session.pending) (ready : Bool)
    (detections : Option β) :
    Later session ((session.finish session.pending ready detections).setWorker
      (.before session.current.callbacks)) := by
  refine ⟨id, id, id, Nat.le_refl _, fun _ => .inl rfl, ?_⟩
  rintro (hreleased | ⟨-, hpos⟩ | ⟨left, hnotifying⟩)
  · exact .inl hreleased
  · obtain ⟨left, hleft⟩ := Nat.exists_eq_succ_of_ne_zero (Nat.ne_of_gt hpos)
    refine .inr (.inr ⟨left, ?_⟩)
    change Worker.before session.current.callbacks = _
    rw [hleft]
    rfl
  · rw [hworker] at hnotifying
    cases hnotifying

theorem Inv.work (h : session.Inv) (ready : Bool) (detections : Option β) :
    (session.work ready detections).Inv := by
  have hplaced := h.core.placed
  rw [Session.work.eq_def]
  cases hworker : session.worker with
  | idle =>
      cases hqueue : session.queue with
      | nil => exact h
      | cons number rest =>
          exact h.work_step (h.core.take hqueue) rfl (h.core.later_take hqueue)
  | taken number =>
      rw [hworker] at hplaced
      obtain ⟨rfl, -, hstate⟩ := hplaced
      simp only [hstate]
      exact h.work_step (h.core.begin hworker) rfl (later_begin hworker)
  | native number =>
      rw [hworker] at hplaced
      obtain ⟨rfl, -⟩ := hplaced
      exact h.work_step (h.core.finish hworker ready detections) rfl
        (later_finish hworker ready detections)
  | notifying left =>
      simp only
      split_ifs with hreleased
      · exact h.work_step (h.core.notified hworker) rfl
          ⟨id, id, id, Nat.le_refl _, fun _ => .inl rfl, fun _ => .inl hreleased⟩
      · exact h.work_step (h.core.marked hworker hreleased) rfl
          ⟨id, id, fun _ => rfl, Nat.le_refl _, fun _ => .inl rfl, fun _ => .inl rfl⟩
  | marked left =>
      rw [hworker] at hplaced
      have hreleased := hplaced.2.2
      exact h.work_step (h.core.published hworker) rfl
        ⟨id, id, id, Nat.le_succ _, fun _ => .inr hreleased, fun _ => .inl hreleased⟩
  | published number left =>
      rw [hworker] at hplaced
      have hreleased := hplaced.2.2.2.2
      exact h.work_step (h.core.completed hworker) rfl
        ⟨id, id, id, Nat.le_refl _, fun _ => .inl rfl, fun _ => .inl hreleased⟩
  | completed left =>
      rw [hworker] at hplaced
      have hreleased := hplaced.2.2
      exact h.work_step (h.core.givenBack hworker) rfl
        ⟨id, id, id, Nat.le_refl _, fun _ => .inl rfl, fun _ => .inl hreleased⟩
  | deadlocked => exact h

theorem Inv.step (h : session.Inv) {event : Event β} (hapart : Apart session event) :
    (session.step event).Inv := by
  cases event with
  | call task frame =>
      rw [Session.step]
      split
      · exact h.call task frame
      · exact h
  | aclose task =>
      rw [Session.step]
      split
      · exact h.beginClose task .nothing
      · exact h
  | wake task how => exact h.wake task how
  | proceed task => exact h.proceed hapart
  | work ready detections => exact h.work ready detections

theorem inv_create : (create : Session β).Inv where
  core :=
    { fresh := Nat.one_pos
      others := by
        intro number hlt hne
        exact absurd (Nat.lt_one_iff.mp hlt) hne
      placed := .inr ⟨rfl, rfl⟩
      attached := nofun
      shutdown := nofun
      released := nofun
      counted := rfl }
  knows task := by
    change create.Knows (update (fun _ => Task.idle) 0 (.starting 0) task)
    by_cases heq : task = 0
    · subst heq
      trivial
    · rw [update_of_ne heq]
      trivial

end Session

end K5Vision.Analytics
