import K5Vision.Analytics.NativeInvariant
import Mathlib.Data.List.Count

/-!
# The capacity of the native workers

A permit that a factory has given out comes back once, when its session is closed and its worker
has left the native code.  `Safe` says so of one session.  That it does come back takes two facts:
where the worker rests behind a completed `aclose` the permit is back (`settled`), and until it
rests it can go on, with less before it (`ends`).

The two hold in the runs that keep `Apart`.  In `permit_lost` an `aclose` adds its callback to the
new `_pending` before the worker has completed it; the worker then waits for its own lock, and
nothing gives the permit back any more.
-/

namespace K5Vision.Analytics

open Library

variable {β : Type*}

namespace Session

variable {session before after final : Session β}

/-! ## What every step does -/

structure Onward (before after : Session β) : Prop where
  releases : before.releases ≤ after.releases
  halted : before.closed = true ∨ before.interrupted = true →
    after.closed = true ∨ after.interrupted = true
  silent : before.closed = true ∨ before.interrupted = true →
    ∀ number, (after.futures number).job = .infer → (before.futures number).job = .infer
  stuck : before.worker = .deadlocked →
    after.worker = .deadlocked ∧ after.releases = before.releases

theorem Onward.refl (session : Session β) : Onward session session :=
  ⟨Nat.le_refl _, id, fun _ _ => id, fun h => ⟨h, rfl⟩⟩

theorem Onward.setTask (h : Onward before after) (task : ℕ) (point : Task β) :
    Onward before (after.setTask task point) :=
  ⟨h.releases, h.halted, h.silent, h.stuck⟩

theorem onward_beginClose (task : ℕ) (outcome : Outcome β) (session : Session β) :
    Onward session (session.beginClose task outcome) :=
  ⟨Nat.le_refl _, fun _ => .inl rfl, fun _ _ => id, fun h => ⟨h, rfl⟩⟩

theorem onward_shutdownExecutor (session : Session β) :
    Onward session session.shutdownExecutor := by
  refine ⟨Nat.le_refl _, id, fun _ number hjob => ?_, fun h => ⟨h, rfl⟩⟩
  change (if number ∈ session.queue then _ else _ : Future β).job = .infer at hjob
  split_ifs at hjob <;> exact hjob

/-- A future changes that keeps its job, or is not one of an inference. -/
theorem silent_update {futures : ℕ → Future β} {number : ℕ} {future : Future β}
    (h : future.job = .infer → (futures number).job = .infer) (other : ℕ)
    (hjob : (Function.update futures number future other).job = .infer) :
    (futures other).job = .infer := by
  by_cases heq : other = number
  · subst heq
    rw [Function.update_self] at hjob
    exact h hjob
  · rwa [Function.update_of_ne heq] at hjob

theorem onward_call (task : ℕ) (frame : Frame) (session : Session β) :
    Onward session (session.call task frame) := by
  have hrefl := Onward.refl session
  rw [call]
  split_ifs with havailable
  · exact hrefl.setTask task _
  · exact hrefl.setTask task _
  · exact hrefl.setTask task _
  · exact hrefl.setTask task _
  refine ⟨Nat.le_refl _, id, fun hhalted => ?_, fun h => ⟨h, rfl⟩⟩
  rcases hhalted with hclosed | hinterrupted
  · simp [hclosed] at havailable
  · simp [hinterrupted] at havailable

theorem onward_wake (task : ℕ) (how : Wake) (session : Session β) :
    Onward session (session.wake task how) := by
  have hrefl := Onward.refl session
  rw [wake]
  split
  case h_1 number _ =>
    cases session.awaited number how with
    | none => exact hrefl
    | some answer =>
        change Onward session (session.startEnds task answer)
        rw [startEnds.eq_def]
        split
        · exact hrefl.setTask task _
        · exact onward_beginClose task _ session
        · exact onward_beginClose task _ session
        · exact onward_beginClose task _ session
  case h_2 number _ =>
    cases session.awaited number how with
    | none => exact hrefl
    | some answer =>
        change Onward session (session.callEnds task answer)
        rw [callEnds.eq_def]
        split
        · exact hrefl.setTask task _
        · exact hrefl.setTask task _
        · exact hrefl
        · exact ⟨Nat.le_refl _, fun _ => .inr rfl, fun _ _ => id, fun h => ⟨h, rfl⟩⟩
  case h_3 number outcome _ =>
    cases session.awaited number how with
    | none => exact hrefl
    | some answer => exact (onward_shutdownExecutor session).setTask task _
  case h_4 => exact hrefl

theorem onward_releaseCompleted (hlock : session.worker.holdsLock = false) :
    Onward session session.releaseCompleted := by
  by_cases hreleased : session.released = true
  · rw [releaseCompleted, if_pos hreleased]
    exact .refl session
  rw [releaseCompleted_of_held hreleased]
  refine ⟨Nat.le_succ _, id, fun _ => silent_update (by simp), fun hstuck => ?_⟩
  rw [hstuck] at hlock
  cases hlock

theorem onward_proceed (task : ℕ) (session : Session β) :
    Onward session (session.proceed task) := by
  have hrefl := Onward.refl session
  rw [proceed]
  split
  case h_1 =>
    split_ifs with hlock
    · exact hrefl
    · exact (onward_releaseCompleted (Bool.eq_false_iff.mpr hlock)).setTask task _
  case h_2 => exact hrefl.setTask task _
  case h_3 number outcome _ =>
    rw [attach]
    split_ifs with hdone hlock
    · exact hrefl
    · exact (onward_releaseCompleted (Bool.eq_false_iff.mpr hlock)).setTask task _
    · exact ⟨Nat.le_refl _, id, fun _ => silent_update id, fun h => ⟨h, rfl⟩⟩
  case h_4 => exact hrefl

theorem onward_work (ready : Bool) (detections : Option β) (session : Session β) :
    Onward session (session.work ready detections) := by
  by_cases hstuck : session.worker = .deadlocked
  · rw [work.eq_def, hstuck]
    exact .refl session
  have hnever : ∀ after : Session β, session.worker = .deadlocked →
      after.worker = .deadlocked ∧ after.releases = session.releases :=
    fun _ hworker => absurd hworker hstuck
  rw [work.eq_def]
  cases hworker : session.worker with
  | idle =>
      cases session.queue with
      | nil => exact .refl session
      | cons number rest => exact ⟨Nat.le_refl _, id, fun _ _ => id, hnever _⟩
  | taken number =>
      simp only
      split
      · exact ⟨Nat.le_refl _, id, fun _ => silent_update id, hnever _⟩
      · exact ⟨Nat.le_refl _, id, fun _ _ => id, hnever _⟩
  | native number => exact ⟨Nat.le_refl _, id, fun _ => silent_update id, hnever _⟩
  | notifying left =>
      simp only
      split_ifs
      · exact ⟨Nat.le_refl _, id, fun _ _ => id, hnever _⟩
      · exact ⟨Nat.le_refl _, id, fun _ _ => id, hnever _⟩
  | marked left => exact ⟨Nat.le_refl _, id, fun _ => silent_update (by simp), hnever _⟩
  | published number left => exact ⟨Nat.le_refl _, id, fun _ => silent_update id, hnever _⟩
  | completed left => exact ⟨Nat.le_succ _, id, fun _ _ => id, hnever _⟩
  | deadlocked => exact absurd hworker hstuck

theorem onward_step (event : Event β) (session : Session β) :
    Onward session (session.step event) := by
  cases event with
  | call task frame =>
      rw [step]
      split
      · exact onward_call task frame session
      · exact .refl session
  | aclose task =>
      rw [step]
      split
      · exact onward_beginClose task .nothing session
      · exact .refl session
  | wake task how => exact onward_wake task how session
  | proceed task => exact onward_proceed task session
  | work ready detections => exact onward_work ready detections session

theorem Onward.trans (hfirst : Onward before after) (hsecond : Onward after final) :
    Onward before final where
  releases := Nat.le_trans hfirst.releases hsecond.releases
  halted h := hsecond.halted (hfirst.halted h)
  silent h number hjob := hfirst.silent h number (hsecond.silent (hfirst.halted h) number hjob)
  stuck h :=
    ⟨(hsecond.stuck (hfirst.stuck h).1).1,
      (hsecond.stuck (hfirst.stuck h).1).2.trans (hfirst.stuck h).2⟩

/-! ## What the worker has before it -/

def AtRest (session : Session β) : Prop := session.worker = .idle ∧ session.queue = []

/-- The steps that a call of `_release_completed` takes at most. -/
def callbackSteps (calls : ℕ) : ℕ := 5 * calls

def workerSteps (futures : ℕ → Future β) : Worker → ℕ
  | .idle | .deadlocked => 0
  | .taken number => 2 + callbackSteps (futures number).callbacks
  | .native number => 1 + callbackSteps (futures number).callbacks
  | .notifying left => callbackSteps (left + 1)
  | .marked left => 4 + callbackSteps left
  | .published _ left => 3 + callbackSteps left
  | .completed left => 2 + callbackSteps left

/-- The steps that the worker has before it, if nothing is added. -/
def left (session : Session β) : ℕ :=
  (session.queue.map fun number => 3 + callbackSteps (session.futures number).callbacks).sum +
    workerSteps session.futures session.worker

theorem left_of_empty (hqueue : session.queue = []) :
    session.left = workerSteps session.futures session.worker := by
  rw [left, hqueue, List.map_nil, List.sum_nil, Nat.zero_add]

theorem workerSteps_before (futures : ℕ → Future β) (calls : ℕ) :
    workerSteps futures (.before calls) = callbackSteps calls := by
  cases calls <;> rfl

theorem queue_work (hqueue : session.queue = []) (ready : Bool) (detections : Option β) :
    (session.work ready detections).queue = [] := by
  rw [work.eq_def, hqueue]
  cases session.worker with
  | taken number =>
      simp only
      split <;> exact hqueue
  | notifying left =>
      simp only
      split_ifs <;> exact hqueue
  | _ => exact hqueue

theorem Core.left_work (h : session.Core) (hrest : ¬ session.AtRest) (ready : Bool)
    (detections : Option β) : (session.work ready detections).left < session.left := by
  have hplaced := h.placed
  rcases h.queued with hqueue | ⟨hqueue, hworker, -⟩
  · rw [left_of_empty (queue_work hqueue ready detections), left_of_empty hqueue, work.eq_def,
      hqueue]
    cases hworker : session.worker with
    | idle => exact absurd ⟨hworker, hqueue⟩ hrest
    | taken number =>
        rw [hworker] at hplaced
        obtain ⟨rfl, -, hstate⟩ := hplaced
        simp only [hstate]
        simp [setWorker, setFuture, workerSteps]
    | native number =>
        simp only [setWorker, workerSteps_before]
        rw [workerSteps]
        omega
    | notifying left =>
        simp only
        split_ifs
        · simp only [setWorker, workerSteps_before]
          simp only [workerSteps, callbackSteps]
          omega
        · simp only [setWorker, workerSteps, callbackSteps]
          omega
    | marked left =>
        simp only [setWorker, workerSteps]
        omega
    | published number left =>
        rw [hworker] at hplaced
        obtain ⟨rfl, -, -, hzero, -⟩ := hplaced
        simp only [hzero, setWorker, workerSteps, if_pos]
        omega
    | completed left =>
        simp only [setWorker, workerSteps_before]
        rw [workerSteps]
        omega
    | deadlocked => exact absurd hworker h.not_deadlocked
  · rw [left, left, work.eq_def, hworker, hqueue]
    simp only [workerSteps, List.map_cons, List.map_nil, List.sum_cons, List.sum_nil]
    omega

/-- The permit of a session comes back once, behind its close and its native code; a completed
`aclose` and a worker at rest see to it, and the worker comes to rest. -/
structure Safe (session : Session β) : Prop where
  once : session.releases ≤ 1
  behind : 0 < session.releases → session.closed = true ∧ session.queue = [] ∧
    ∀ number, session.worker ≠ .taken number ∧ session.worker ≠ .native number
  settled : (∃ task outcome, session.tasks task = .closed outcome) → session.AtRest →
    session.releases = 1
  alive : session.worker ≠ .deadlocked
  ends : ¬ session.AtRest → ∀ ready detections,
    (session.work ready detections).left < session.left

theorem Inv.safe (h : session.Inv) : session.Safe where
  once := by
    rw [h.core.counted]
    cases session.released <;> cases session.worker.holdsLock <;> decide
  behind hpos := by
    have hreleased : session.released = true ∧ session.worker.holdsLock = false := by
      rw [h.core.counted] at hpos
      cases hreleased : session.released <;> cases hlock : session.worker.holdsLock <;>
        simp_all [returned]
    obtain ⟨hclosed, hdone | ⟨left, hpublished⟩⟩ := h.core.released hreleased.1
    · exact ⟨hclosed, h.core.rests hdone⟩
    · rw [hpublished] at hreleased
      cases hreleased.2
  settled := by
    rintro ⟨task, outcome, hpoint⟩ ⟨hworker, hqueue⟩
    have howed := h.knows task
    have hplaced := h.core.placed
    rw [hpoint] at howed
    rw [hworker] at hplaced
    have hdone : session.current.done = true := by
      rcases hplaced with ⟨-, hdone⟩ | ⟨hsingle, -⟩
      · exact hdone
      · rw [hqueue] at hsingle
        cases hsingle
    have hreleased : session.released = true := by
      rcases howed with hreleased | ⟨hnot, -⟩ | ⟨left, hnotifying⟩
      · exact hreleased
      · rw [hdone] at hnot
        cases hnot
      · rw [hworker] at hnotifying
        cases hnotifying
    rw [h.core.counted, hreleased, hworker]
    rfl
  alive := h.core.not_deadlocked
  ends hrest := h.core.left_work hrest

end Session

/-! ## The factories -/

namespace Pool

variable {factory : Factory} {pool final : Pool β}

/-- `Apart`, for the session that a step belongs to. -/
def Apart (pool : Pool β) : Event β → Prop
  | .create _ => True
  | .session index event =>
      ∀ session, pool.sessions[index]? = some session → Analytics.Apart session event

/-- The semaphore counts exactly the permits that no session has. -/
structure Inv (factory : Factory) (pool : Pool β) : Prop where
  sessions : ∀ session ∈ pool.sessions, session.Inv
  exact : pool.available + pool.held = factory.permits

theorem Inv.create (h : Inv factory pool) (built : Bool) :
    Inv factory (pool.create factory built) := by
  rw [Pool.create]
  split_ifs with hnone hbuilt
  · exact ⟨h.sessions, h.exact⟩
  · refine ⟨fun session hmem => ?_, ?_⟩
    · rcases List.mem_append.mp hmem with hold | hnew
      · exact h.sessions session hold
      · rw [List.mem_singleton] at hnew
        subst hnew
        exact Session.inv_create
    · have hexact := h.exact
      simp only [held, List.countP_append] at hexact ⊢
      change pool.available - 1 + (_ + 1) = _
      omega
  · refine ⟨h.sessions, ?_⟩
    have hexact := h.exact
    change release factory (pool.available - 1) + pool.held = _
    rw [release, if_pos (by omega)]
    omega

theorem Inv.session (h : Inv factory pool) {index : ℕ} {session : Session β}
    (hsession : pool.sessions[index]? = some session) {event : Analytics.Event β}
    (hapart : Analytics.Apart session event) :
    Inv factory { pool with
      available := Nat.iterate (release factory)
        ((session.step event).releases - session.releases) pool.available
      sessions := pool.sessions.set index (session.step event) } := by
  obtain ⟨hindex, hget⟩ := List.getElem?_eq_some_iff.mp hsession
  have hold := h.sessions session (hget ▸ List.getElem_mem hindex)
  have hnext := hold.step hapart
  refine ⟨fun other hmem => ?_, ?_⟩
  · rcases List.mem_or_eq_of_mem_set hmem with hother | rfl
    · exact h.sessions other hother
    · exact hnext
  have hexact := h.exact
  have hmono := (Session.onward_step event session).releases
  have honce := hnext.safe.once
  have hmem : session.releases = 0 → 0 < pool.held := fun hzero =>
    List.countP_pos_iff.mpr ⟨session, hget ▸ List.getElem_mem hindex, decide_eq_true hzero⟩
  change Nat.iterate _ _ _ + List.countP _ (pool.sessions.set index (session.step event)) = _
  rw [List.countP_set hindex, hget]
  change _ + (pool.held - _ + _) = _
  rcases Nat.eq_or_lt_of_le hmono with heq | hlt
  · -- Nothing is released: the session has its permit as before.
    rw [← heq, Nat.sub_self]
    change pool.available + (pool.held - _ + _) = _
    split_ifs with hzero
    · have hpos := hmem (of_decide_eq_true hzero)
      omega
    · omega
  · have hzero : session.releases = 0 := by omega
    have hone : (session.step event).releases = 1 := by omega
    have hpos := hmem hzero
    rw [hone, hzero]
    change release factory pool.available + (pool.held - 1 + 0) = _
    rw [release, if_pos (by omega)]
    omega

theorem Inv.step (h : Inv factory pool) {event : Event β} (hapart : pool.Apart event) :
    Inv factory (pool.step factory event) := by
  cases event with
  | create built => exact h.create built
  | session index event =>
      rw [Pool.step]
      cases hsession : pool.sessions[index]? with
      | none => exact h
      | some session => exact h.session hsession (hapart session hsession)

theorem inv_empty (factory : Factory) : Inv factory (empty factory : Pool β) where
  sessions := nofun
  exact := rfl

/-- The session at an index goes on, and is not replaced. -/
def Continues (before after : Pool β) : Prop :=
  ∀ (index : ℕ) (session : Session β), before.sessions[index]? = some session →
    ∃ next, after.sessions[index]? = some next ∧ session.Onward next

theorem Continues.refl (pool : Pool β) : Continues pool pool :=
  fun _ session hsession => ⟨session, hsession, .refl session⟩

theorem Continues.step {before : Pool β} (h : Continues before pool) (event : Event β) :
    Continues before (pool.step factory event) := by
  intro index session hsession
  obtain ⟨next, hnext, honward⟩ := h index session hsession
  cases event with
  | create built =>
      refine ⟨next, ?_, honward⟩
      rw [Pool.step, Pool.create]
      split_ifs
      · exact hnext
      · exact (List.getElem?_append_left (List.getElem?_eq_some_iff.mp hnext).1).trans hnext
      · exact hnext
  | session other event =>
      rw [Pool.step]
      cases hother : pool.sessions[other]? with
      | none => exact ⟨next, hnext, honward⟩
      | some changed =>
          simp only [List.getElem?_set]
          by_cases heq : other = index
          · subst heq
            rw [hnext] at hother
            cases hother
            refine ⟨next.step event, ?_, honward.trans (Session.onward_step event next)⟩
            rw [if_pos rfl, if_pos (List.getElem?_eq_some_iff.mp hnext).1]
          · rw [if_neg heq]
            exact ⟨next, hnext, honward⟩

theorem continues {admissible : Pool β → Event β → Prop} {events : List (Event β)}
    (h : (machine factory admissible).Reaches pool events final) : Continues pool final := by
  have hstep : ∀ before state event, Continues before state →
      (machine factory admissible).admissible state event →
        Continues before ((machine factory admissible).step state event) :=
    fun _ _ event hcontinues _ => hcontinues.step event
  exact h.relation Continues.refl hstep

def Silent (before after : Session β) : Prop :=
  ∀ number, (after.futures number).job = .infer → (before.futures number).job = .infer

/-- At most four sessions have a permit, and every other permit is in the semaphore; each permit
comes back once, behind its session; and a session that was closed or interrupted starts no
inference, whatever comes next. -/
structure CapacityExact (factory : Factory) (pool : Pool β) : Prop where
  bound : pool.held ≤ 4
  exact : pool.available + pool.held = factory.permits
  sessions : ∀ session ∈ pool.sessions, session.Safe
  silent : ∀ (admissible : Pool β → Event β → Prop) events final,
    (machine factory admissible).Reaches pool events final →
      ∀ (index : ℕ) (session : Session β), pool.sessions[index]? = some session →
        session.closed = true ∨ session.interrupted = true →
          ∃ next, final.sessions[index]? = some next ∧ Silent session next

/-- In a run where no `aclose` adds its callback to the future that the worker has just made public
the native capacity of both factories is exact. -/
theorem capacity_exact (hfactory : factory ∈ [AnalyticsProviderFactory, PersonProviderFactory])
    {events : List (Event β)}
    (h : (machine factory Apart).Reaches (empty factory) events pool) :
    CapacityExact factory pool := by
  have hstep : ∀ (state : Pool β) event, Inv factory state →
      (machine factory Apart).admissible state event →
        Inv factory ((machine factory Apart).step state event) :=
    fun _ _ hinv hapart => hinv.step hapart
  have hinv : Inv factory pool := h.invariant hstep (inv_empty factory)
  have hpermits : factory.permits = 4 := by
    rcases List.mem_pair.mp hfactory with rfl | rfl <;> rfl
  refine ⟨?_, hinv.exact, fun session hmem => (hinv.sessions session hmem).safe, ?_⟩
  · have hexact := hinv.exact
    omega
  · intro admissible later final hlater index session hsession hhalted
    obtain ⟨next, hnext, honward⟩ := continues hlater index session hsession
    exact ⟨next, hnext, honward.silent hhalted⟩

/-! ## A worker that waits for itself -/

def sampleFrame : Frame := ⟨true, 1, 1, true, 4, 1, 4⟩

/-- A session is made and started, and an inference runs when it is closed.  The `aclose` of task 2
gives up waiting. -/
def closingEvents : List (Event Unit) :=
  [.create true, .session 0 (.work true none), .session 0 (.work true none),
    .session 0 (.work true none), .session 0 (.wake 0 .done), .session 0 (.call 1 sampleFrame),
    .session 0 (.work true none), .session 0 (.work true none), .session 0 (.aclose 2),
    .session 0 (.wake 2 .timeout)]

def attachingEvents : List (Event Unit) := [.session 0 (.proceed 2), .session 0 (.proceed 2)]

/-- The inference returns, and the worker enters `_release_completed` and leaves it. -/
def releasingEvents : List (Event Unit) :=
  [.session 0 (.work true (some ())), .session 0 (.work true none), .session 0 (.work true none),
    .session 0 (.work true none), .session 0 (.work true none)]

/-- The same with a second `aclose`, which goes on while the worker is inside. -/
def deadlockEvents : List (Event Unit) :=
  [.session 0 (.aclose 3), .session 0 (.work true (some ())), .session 0 (.wake 3 .done),
    .session 0 (.work true none), .session 0 (.work true none), .session 0 (.proceed 3),
    .session 0 (.proceed 3), .session 0 (.work true none)]

def sampleRun (events : List (Event Unit)) : Pool Unit :=
  events.foldl (step AnalyticsProviderFactory) (empty AnalyticsProviderFactory)

theorem capacity_exact_sample : CapacityExact AnalyticsProviderFactory
        (sampleRun (closingEvents ++ (attachingEvents ++ releasingEvents))) ∧
      (sampleRun closingEvents).held = 1 ∧
        (sampleRun (closingEvents ++ (attachingEvents ++ releasingEvents))).held = 0 := by
  have hclosing : ∀ event ∈ closingEvents, ∀ pool : Pool Unit, pool.Apart event := by
    simp [closingEvents, Apart, Analytics.Apart]
  have hreleasing : ∀ event ∈ releasingEvents, ∀ pool : Pool Unit, pool.Apart event := by
    simp [releasingEvents, Apart, Analytics.Apart]
  have hattaching : (machine AnalyticsProviderFactory Apart).Reaches (sampleRun closingEvents)
      attachingEvents (attachingEvents.foldl (step AnalyticsProviderFactory)
        (sampleRun closingEvents)) := by
    refine ⟨?_, ?_, rfl⟩
    · rintro session hsession number outcome left - hworker
      cases hsession
      cases hworker
    · rintro session hsession number outcome left - hworker
      cases hsession
      cases hworker
  have hopened : (machine AnalyticsProviderFactory Apart).Reaches (empty AnalyticsProviderFactory)
      closingEvents (sampleRun closingEvents) := Machine.reaches_foldl hclosing _
  have hreaches := hopened.append (hattaching.append (Machine.reaches_foldl hreleasing _))
  exact ⟨capacity_exact (List.mem_cons_self ..) hreaches, rfl, rfl⟩

def sampleView (session : Session Unit) : Task Unit × Task Unit × FutureState Unit × Worker × ℕ :=
  (session.tasks 2, session.tasks 3, (session.futures 1).state, session.worker, session.releases)

/-- Both calls of `aclose` and the inference are over, but the permit is not given back, and never
will be. -/
theorem permit_lost : ∃ (pool : Pool Unit) (session : Session Unit),
      (machine AnalyticsProviderFactory fun _ _ => True).Reaches (empty AnalyticsProviderFactory)
        (closingEvents ++ attachingEvents ++ deadlockEvents) pool ∧
      pool.sessions = [session] ∧
      sampleView session =
        (.closed (.runtimeError "Analytics native cleanup is incomplete."), .closed .nothing,
          .finished (.inferred (some ())), .deadlocked, 0) ∧
      (∀ events final,
        (machine AnalyticsProviderFactory fun _ _ => True).Reaches pool events final →
          ∃ next, final.sessions[0]? = some next ∧ next.releases = 0) ∧
      ¬ CapacityExact AnalyticsProviderFactory pool := by
  have hviews : (sampleRun (closingEvents ++ attachingEvents ++ deadlockEvents)).sessions.map
      sampleView = [(.closed (.runtimeError "Analytics native cleanup is incomplete."),
        .closed .nothing, .finished (.inferred (some ())), .deadlocked, 0)] := by decide +kernel
  obtain ⟨session, hsessions, hview⟩ := List.map_eq_singleton_iff.mp hviews
  have hview' := hview
  simp only [sampleView, Prod.mk.injEq] at hview'
  obtain ⟨-, -, -, hworker, hreleases⟩ := hview'
  refine ⟨_, session, Machine.reaches_foldl (fun _ _ _ => trivial) _, hsessions, hview, ?_, ?_⟩
  · intro events final hreaches
    obtain ⟨next, hnext, honward⟩ := continues hreaches 0 session (congrArg (·[0]?) hsessions)
    exact ⟨next, hnext, (honward.stuck hworker).2.trans hreleases⟩
  · intro hexact
    refine (hexact.sessions session ?_).alive hworker
    exact hsessions ▸ List.mem_singleton_self session

end Pool

end K5Vision.Analytics
