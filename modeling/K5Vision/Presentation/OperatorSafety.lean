import K5Vision.Presentation.RuntimeJobs

/-!
# The operator host does not fail

While no child of a runtime fails, the host fails all the same where a call comes to the lock of a
runtime that another call has ended: the runtime raises, and the host takes that for a failure.
Without such a step (`Clear`) it never fails.  `Inv` says what each call knows at its place, and
`Later` that the steps of the others leave it.  In the middle of a step nobody else has the lock
(`Amid`).
-/

namespace K5Vision.Presentation.Operator.Host

open Library

variable {host before after : Host} {call generation : ℕ} {outcome : Outcome}

/-! ## The invariant -/

/-- The job that a call has the runtime do. -/
def Purpose.job : Purpose → Option Runtime.Job
  | .start => some .start
  | .releaseStop _ => some .stop
  | .releaseClose _ => some .close
  | .relayout => some .relayout
  | .wait => some .wait
  | .stop => some .stop
  | .failure _ => none

def Purpose.releases : Purpose → Bool
  | .releaseStop _ | .releaseClose _ => true
  | .start | .relayout | .wait | .stop | .failure _ => false

/-- The generation is not the host's any more, or a call is about to take it away. -/
def Gone (host : Host) (generation : ℕ) : Prop :=
  host.runtime ≠ some generation ∨ ∃ other purpose place,
    host.phases other = .inner generation purpose place ∧ purpose.releases = true

/-- The media of the generation have ended, and nobody has stopped it. -/
def Completed (host : Host) (generation : ℕ) : Prop :=
  (host.runtimes generation).state ≠ .ready ∧ (host.runtimes generation).state ≠ .running ∧
    (host.runtimes generation).halted = false

/-- The call is one of `replace` or `close`. -/
def Replaces (host : Host) (call : ℕ) : Prop :=
  host.methods call = some .close ∨ ∃ layout, host.methods call = some (.replace layout)

def Serves (host : Host) (call : ℕ) : Purpose → Prop
  | .start => host.Replaces call ∨ host.state = .ready
  | .releaseStop _ | .releaseClose _ => host.Replaces call
  | .relayout => host.state = .running
  | .wait | .stop | .failure _ => True

def Knows (host : Host) (call : ℕ) : Phase → Prop
  | .idle => host.waited call = none
  | .entering => host.waited call = none ∧ ∀ method layout, host.methods call = some method →
      method.layout = some layout → validLayout layout = true
  | .inner generation purpose place => generation ≤ host.generation ∧
      (∃ job, purpose.job = some job ∧ job.At place) ∧
        (host.runtimes generation).Fits call place ∧
          (purpose.locks = true → host.lock = some call ∧ host.runtime = some generation) ∧
            host.Serves call purpose ∧
              host.waited call = if purpose = .wait then some generation else none
  | .reporting generation waits result => generation ≤ host.generation ∧
      host.waited call = (if waits then some generation else none) ∧
        if waits then result = some .complete ∧ host.Completed generation
        else (result = some .stopped ∧ (host.runtimes generation).halted = true) ∨
          (result = none ∧ host.Gone generation)
  | .ended outcome => ∀ generation, host.waited call = some generation →
      generation ≤ host.generation ∧
        ((∃ snapshot, outcome = .returned snapshot ∧ snapshot.state = .complete) ∨
          host.Completed generation)

structure Inv (host : Host) : Prop where
  failures : host.failures = 0
  alive : host.state ≠ .failed
  current : ∀ generation, host.runtime = some generation → generation = host.generation
  opened : host.lock = none → ∀ generation, host.runtime = some generation →
    (host.runtimes generation).state ≠ .ready
  halted : host.state = .stopped → host.lock = none → ∀ generation,
    host.runtime = some generation → (host.runtimes generation).halted = true
  sound : ∀ generation, (host.runtimes generation).Sound
  knows : ∀ call, host.Knows call (host.phases call)

structure Later (call : ℕ) (before after : Host) : Prop where
  generation : before.generation ≤ after.generation
  phases : ∀ other, other ≠ call → after.phases other = before.phases other
  methods : ∀ other, other ≠ call → after.methods other = before.methods other
  waited : ∀ other, other ≠ call → after.waited other = before.waited other
  held : ∀ other, other ≠ call → before.lock = some other →
    after.lock = some other ∧ after.runtime = before.runtime ∧ after.state = before.state
  evolves : ∀ generation ≤ before.generation,
    Runtime.Evolves call (before.runtimes generation) (after.runtimes generation)
  gone : ∀ other generation, other ≠ call →
    before.phases other = .reporting generation false none → after.Gone generation

theorem Completed.later (h : before.Completed generation) (hle : generation ≤ before.generation)
    (hlater : Later call before after) : after.Completed generation := by
  have hevolves := hlater.evolves generation hle
  obtain ⟨hready, hrunning, hcalm⟩ := h
  refine ⟨fun heq => hready (hevolves.ready heq), fun heq => ?_,
    Bool.eq_false_iff.mpr fun hhalted => ?_⟩
  · exact (hevolves.running heq).elim hrunning hready
  rcases hevolves.fresh hhalted with htrue | heq | heq
  · rw [hcalm] at htrue
    cases htrue
  · exact hrunning heq
  · exact hready heq

variable {purpose : Purpose}

theorem Serves.later {other : ℕ} (h : before.Serves other purpose) (hne : other ≠ call)
    (hlater : Later call before after) (hlock : purpose.locks = true → before.lock = some other) :
    after.Serves other purpose := by
  have hreplaces : before.Replaces other → after.Replaces other := by
    intro hreplaces
    rw [Replaces, hlater.methods other hne]
    exact hreplaces
  cases purpose with
  | start =>
      refine h.imp hreplaces fun hready => ?_
      rw [(hlater.held other hne (hlock rfl)).2.2]
      exact hready
  | releaseStop next => exact hreplaces h
  | releaseClose next => exact hreplaces h
  | relayout =>
      refine Eq.trans ?_ h
      exact (hlater.held other hne (hlock rfl)).2.2
  | wait => trivial
  | stop => trivial
  | failure error => trivial

theorem Knows.later {other : ℕ} (h : before.Knows other (before.phases other)) (hne : other ≠ call)
    (hlater : Later call before after) : after.Knows other (after.phases other) := by
  rw [hlater.phases other hne]
  cases hphase : before.phases other with
  | idle =>
      rw [hphase] at h
      exact (hlater.waited other hne).trans h
  | entering =>
      rw [hphase] at h
      refine ⟨(hlater.waited other hne).trans h.1, ?_⟩
      rw [hlater.methods other hne]
      exact h.2
  | inner generation purpose place =>
      rw [hphase] at h
      obtain ⟨hle, hjob, hfits, hlocks, hserves, hwaited⟩ := h
      refine ⟨hle.trans hlater.generation, hjob, hfits.evolves hne (hlater.evolves generation hle),
        fun hpurpose => ?_, hserves.later hne hlater fun hpurpose => (hlocks hpurpose).1,
        (hlater.waited other hne).trans hwaited⟩
      obtain ⟨hlock, hruntime⟩ := hlocks hpurpose
      obtain ⟨hstill, hsame, -⟩ := hlater.held other hne hlock
      exact ⟨hstill, hsame.trans hruntime⟩
  | reporting generation waits result =>
      rw [hphase] at h
      obtain ⟨hle, hwaited, hresult⟩ := h
      refine ⟨hle.trans hlater.generation, (hlater.waited other hne).trans hwaited, ?_⟩
      cases waits with
      | true => exact ⟨hresult.1, hresult.2.later hle hlater⟩
      | false =>
          refine hresult.imp (fun hstopped => ⟨hstopped.1, ?_⟩) fun hgone => ⟨hgone.1, ?_⟩
          · exact (hlater.evolves generation hle).halted hstopped.2
          · refine hlater.gone other generation hne ?_
            rw [hphase, hgone.1]
  | ended outcome =>
      rw [hphase] at h
      intro generation hwaited
      rw [hlater.waited other hne] at hwaited
      obtain ⟨hle, hends⟩ := h generation hwaited
      exact ⟨hle.trans hlater.generation, hends.imp_right fun hcompleted =>
        hcompleted.later hle hlater⟩

/-! ## In the middle of a step -/

structure Amid (call : ℕ) (host : Host) : Prop where
  failures : host.failures = 0
  alive : host.state ≠ .failed
  current : ∀ generation, host.runtime = some generation → generation = host.generation
  sound : ∀ generation, (host.runtimes generation).Sound
  lock : ∀ other, host.lock = some other → other = call
  knows : ∀ other, other ≠ call → host.Knows other (host.phases other)
  gone : ∀ other generation, other ≠ call →
    host.phases other = .reporting generation false none → host.runtime ≠ some generation

/-- A generation is only released by who has the lock. -/
theorem Inv.not_gone (h : Inv host) (hlock : ∀ other, host.lock = some other → other = call)
    (hown : ∀ generation purpose place, host.phases call = .inner generation purpose place →
      purpose.releases = false) (hgone : host.Gone generation) :
    host.runtime ≠ some generation := by
  rcases hgone with hne | ⟨other, purpose, place, hphase, hreleases⟩
  · exact hne
  have hknows := h.knows other
  rw [hphase] at hknows
  have hlocks : purpose.locks = true := by
    cases purpose with
    | releaseStop next => rfl
    | releaseClose next => rfl
    | _ => cases hreleases
  obtain rfl := hlock other (hknows.2.2.2.1 hlocks).1
  rw [hown generation purpose place hphase] at hreleases
  cases hreleases

theorem Inv.amid (h : Inv host) (hlock : ∀ other, host.lock = some other → other = call)
    (hown : ∀ generation purpose place, host.phases call = .inner generation purpose place →
      purpose.releases = false) : Amid call host where
  __ := h
  lock := hlock
  knows other _ := h.knows other
  gone other generation _ hphase := by
    have hknows := h.knows other
    rw [hphase] at hknows
    rcases hknows.2.2 with ⟨hnone, -⟩ | ⟨-, hgone⟩
    · cases hnone
    · exact h.not_gone hlock hown hgone

structure Ends (call : ℕ) (outcome : Outcome) (before after : Host) : Prop where
  failures : after.failures = before.failures
  generation : after.generation = before.generation
  runtimes : after.runtimes = before.runtimes
  runtime : after.runtime = before.runtime
  methods : after.methods = before.methods
  waited : after.waited = before.waited
  lock : after.lock = none
  phases : after.phases = Function.update before.phases call (.ended outcome)

theorem ends_giveSnapshot (call : ℕ) (host : Host) :
    Ends call (.returned host.snapshot) host (host.giveSnapshot call) :=
  ⟨rfl, rfl, rfl, rfl, rfl, rfl, rfl, rfl⟩

theorem ends_raise (call : ℕ) (code : HostErrorCode) (message : String) (host : Host) :
    Ends call (.raised ⟨code, message⟩) host (host.raise call code message) :=
  ⟨rfl, rfl, rfl, rfl, rfl, rfl, rfl, rfl⟩

theorem Amid.ends (h : Amid call before) (hends : Ends call outcome before after)
    (halive : after.state ≠ .failed)
    (hopened : ∀ generation, before.runtime = some generation →
      (before.runtimes generation).state ≠ .ready)
    (hhalted : after.state = .stopped → ∀ generation, before.runtime = some generation →
      (before.runtimes generation).halted = true)
    (hknows : before.Knows call (.ended outcome)) : Inv after := by
  have hlater : Later call before after := by
    refine ⟨hends.generation.ge, fun other hne => ?_, fun other _ => congrFun hends.methods other,
      fun other _ => congrFun hends.waited other, fun other hne hlock =>
        absurd (h.lock other hlock) hne, fun generation _ => ?_, fun other generation hne hphase =>
        .inl ?_⟩
    · rw [hends.phases, Function.update_of_ne hne]
    · rw [hends.runtimes]
      exact .refl _ _
    · rw [hends.runtime]
      exact h.gone other generation hne hphase
  refine ⟨hends.failures.trans h.failures, halive, ?_, fun _ => ?_, fun hstopped _ => ?_, ?_,
    fun other => ?_⟩
  · rw [hends.runtime, hends.generation]
    exact h.current
  · rw [hends.runtime, hends.runtimes]
    exact hopened
  · rw [hends.runtime, hends.runtimes]
    exact hhalted hstopped
  · rw [hends.runtimes]
    exact h.sound
  by_cases heq : other = call
  · subst heq
    rw [hends.phases, Function.update_self]
    intro generation hwaited
    rw [hends.waited] at hwaited
    rw [hends.generation, Completed, hends.runtimes]
    exact hknows generation hwaited
  · exact (h.knows other heq).later heq hlater

theorem knows_ended (h : host.waited call = none) : host.Knows call (.ended outcome) := by
  intro generation hwaited
  rw [h] at hwaited
  cases hwaited

/-! ## A generation starts, or is released -/

theorem Amid.startGeneration (h : Amid call host) (hlock : host.lock = some call)
    (hwaited : host.waited call = none)
    (hopened : ∀ generation, host.runtime = some generation →
      (host.runtimes generation).state ≠ .ready)
    (hhalted : host.state = .stopped → ∀ generation, host.runtime = some generation →
      (host.runtimes generation).halted = true)
    (hserves : host.Serves call .start) (layout : Layout) :
    Inv (host.startGeneration call layout) := by
  rw [Host.startGeneration]
  split_ifs with hlimit
  · exact h.ends (ends_raise ..) h.alive hopened hhalted (knows_ended hwaited)
  have hother : ∀ generation ≤ host.generation,
      Function.update host.runtimes (host.generation + 1)
        ((Runtime.create layout).start call) generation = host.runtimes generation :=
    fun generation hle => Function.update_of_ne (by omega) ..
  have hlater : Later call host
      (({ host with
        generation := host.generation + 1
        runtime := some (host.generation + 1) }.setRuntime (host.generation + 1)
          ((Runtime.create layout).start call)).setPhase call
            (.inner (host.generation + 1) .start .opening)) := by
    refine ⟨Nat.le_succ _, fun other hne => Function.update_of_ne hne .., fun _ _ => rfl,
      fun _ _ => rfl, fun other hne hother => absurd (h.lock other hother) hne,
      fun generation hle => ?_, fun other generation hne hphase => .inl fun heq => ?_⟩
    · change Runtime.Evolves call _ (Function.update host.runtimes _ _ generation)
      rw [hother generation hle]
      exact .refl _ _
    have hknows := h.knows other hne
    rw [hphase] at hknows
    have hsucc := Option.some.inj heq
    have hle := hknows.1
    omega
  refine ⟨h.failures, h.alive, fun generation hruntime => (Option.some.inj hruntime).symm,
    fun hfree => ?_, fun _ hfree => ?_, fun generation => ?_, fun other => ?_⟩
  · change host.lock = none at hfree
    rw [hlock] at hfree
    cases hfree
  · change host.lock = none at hfree
    rw [hlock] at hfree
    cases hfree
  · change (Function.update host.runtimes _ _ generation).Sound
    by_cases heq : generation = host.generation + 1
    · rw [heq, Function.update_self]
      exact ⟨nofun, nofun, nofun, nofun, nofun, nofun⟩
    · rw [Function.update_of_ne heq]
      exact h.sound generation
  by_cases heq : other = call
  · subst heq
    have hself : (({ host with
      generation := host.generation + 1
      runtime := some (host.generation + 1) }.setRuntime (host.generation + 1)
        ((Runtime.create layout).start other)).setPhase other
          (.inner (host.generation + 1) .start .opening)).phases other =
        .inner (host.generation + 1) .start .opening := Function.update_self ..
    rw [hself]
    have hfits : Runtime.Fits other ((Runtime.create layout).start other) .opening :=
      ⟨rfl, rfl, rfl, rfl⟩
    refine ⟨le_rfl, ⟨.start, rfl, rfl⟩, ?_, fun _ => ⟨hlock, rfl⟩, hserves, hwaited⟩
    change Runtime.Fits other (Function.update host.runtimes _ _ _) .opening
    rw [Function.update_self]
    exact hfits
  · exact (h.knows other heq).later heq hlater

theorem Amid.setState (h : Amid call host) {state : HostState} (hstate : state ≠ .failed) :
    Amid call (host.setState state) := by
  have hlater : Later call host (host.setState state) :=
    ⟨le_rfl, fun _ _ => rfl, fun _ _ => rfl, fun _ _ => rfl,
      fun other hne hother => absurd (h.lock other hother) hne, fun _ _ => .refl _ _,
      fun other generation hne hphase => .inl (h.gone other generation hne hphase)⟩
  exact { h with
    alive := hstate
    knows := fun other hne => (h.knows other hne).later hne hlater }

theorem Amid.enter (h : Amid call host) : Amid call { host with lock := some call } := by
  have hlater : Later call host { host with lock := some call } :=
    ⟨le_rfl, fun _ _ => rfl, fun _ _ => rfl, fun _ _ => rfl,
      fun other hne hother => absurd (h.lock other hother) hne, fun _ _ => .refl _ _,
      fun other generation hne hphase => .inl (h.gone other generation hne hphase)⟩
  exact { h with
    lock := fun other hother => (Option.some.inj hother).symm
    knows := fun other hne => (h.knows other hne).later hne hlater }

theorem Amid.released (h : Amid call host) (hlock : host.lock = some call)
    (hwaited : host.waited call = none) (hnone : host.runtime = none)
    (hreplaces : host.Replaces call) (next : Option Layout) : Inv (host.released call next) := by
  have hopened : ∀ generation, host.runtime = some generation →
      (host.runtimes generation).state ≠ .ready := by
    rw [hnone]
    nofun
  cases next with
  | some layout =>
      refine h.startGeneration hlock hwaited hopened (fun _ => ?_) (.inl hreplaces) layout
      rw [hnone]
      nofun
  | none =>
      have hclosed : Amid call (host.setState .closed) := h.setState nofun
      exact hclosed.ends (ends_giveSnapshot ..) nofun hopened nofun (knows_ended hwaited)

/-! ## A call goes to a runtime -/

/-- The call goes to a runtime that it has found. -/
structure Goes (call generation : ℕ) (purpose : Purpose) (place : Place) (before after : Host) :
    Prop where
  failures : after.failures = before.failures
  state : after.state = before.state
  generations : after.generation = before.generation
  runtimes : after.runtimes = before.runtimes
  runtime : after.runtime = before.runtime
  methods : after.methods = before.methods
  waited : after.waited = if purpose = .wait then
    Function.update before.waited call (some generation) else before.waited
  lock : after.lock = if purpose.locks then some call else none
  phases : after.phases = Function.update before.phases call (.inner generation purpose place)

theorem Inv.goes (h : Inv before) (hlock : before.lock = none)
    (hentering : before.phases call = .entering) {method : Operator.Method}
    (hgoes : Goes call generation purpose (.lock method) before after)
    (hruntime : before.runtime = some generation)
    (hjob : ∃ job, purpose.job = some job ∧ job.At (.lock method))
    (hserves : before.Serves call purpose) : Inv after := by
  have hown : ∀ other, before.lock = some other → other = call := by
    rw [hlock]
    nofun
  have hamid : Amid call before := h.amid hown fun generation purpose place hphase => by
    rw [hentering] at hphase
    cases hphase
  have hwaited : before.waited call = none := by
    have hknows := h.knows call
    rw [hentering] at hknows
    exact hknows.1
  have hlater : Later call before after := by
    refine ⟨hgoes.generations.ge, fun other hne => ?_, fun other _ => congrFun hgoes.methods other,
      fun other hne => ?_, fun other hne hother => absurd (hown other hother) hne,
      fun generation _ => ?_, fun other generation hne hphase => .inl ?_⟩
    · rw [hgoes.phases, Function.update_of_ne hne]
    · rw [hgoes.waited]
      split_ifs
      · rw [Function.update_of_ne hne]
      · rfl
    · rw [hgoes.runtimes]
      exact .refl _ _
    · rw [hgoes.runtime]
      exact hamid.gone other generation hne hphase
  refine ⟨hgoes.failures.trans h.failures, ?_, ?_, fun _ => ?_, fun hstopped _ => ?_, ?_,
    fun other => ?_⟩
  · rw [hgoes.state]
    exact h.alive
  · rw [hgoes.runtime, hgoes.generations]
    exact h.current
  · rw [hgoes.runtime, hgoes.runtimes]
    exact h.opened hlock
  · rw [hgoes.runtime, hgoes.runtimes]
    exact h.halted (hgoes.state ▸ hstopped) hlock
  · rw [hgoes.runtimes]
    exact h.sound
  by_cases heq : other = call
  · subst heq
    rw [hgoes.phases, Function.update_self]
    have hcurrent := h.current generation hruntime
    refine ⟨?_, hjob, ?_, fun hlocks => ⟨?_, ?_⟩, ?_, ?_⟩
    · rw [hgoes.generations, hcurrent]
    · rw [hgoes.runtimes]
      exact h.opened hlock generation hruntime
    · rw [hgoes.lock, if_pos hlocks]
    · rw [hgoes.runtime, hruntime]
    · have hreplaces : before.Replaces other → after.Replaces other := by
        rw [Replaces, Replaces, hgoes.methods]
        exact id
      cases purpose with
      | start =>
          refine hserves.imp hreplaces fun hready => ?_
          rw [hgoes.state]
          exact hready
      | releaseStop next => exact hreplaces hserves
      | releaseClose next => exact hreplaces hserves
      | relayout => exact hgoes.state.trans hserves
      | wait => trivial
      | stop => trivial
      | failure error => trivial
    · rw [hgoes.waited]
      split_ifs
      · rw [Function.update_self]
      · exact hwaited
  · exact (h.knows other).later heq hlater

/-! ## A call goes on in a runtime -/

/-- The call has taken the runtime of the generation a step further. -/
structure Turns (call generation : ℕ) (runtime : Runtime) (phase : Phase) (before after : Host) :
    Prop where
  failures : after.failures = before.failures
  generations : after.generation = before.generation
  runtimes : after.runtimes = Function.update before.runtimes generation runtime
  runtime : after.runtime = before.runtime
  methods : after.methods = before.methods
  waited : after.waited = before.waited
  lock : after.lock = before.lock
  phases : after.phases = Function.update before.phases call phase

variable {runtime : Runtime}

theorem evolves_update (hevolves : Runtime.Evolves call (before.runtimes generation) runtime)
    (other : ℕ) :
    Runtime.Evolves call (before.runtimes other)
      (Function.update before.runtimes generation runtime other) := by
  by_cases heq : other = generation
  · subst heq
    rwa [Function.update_self]
  · rw [Function.update_of_ne heq]
    exact .refl _ _

theorem sound_update (h : ∀ generation, (before.runtimes generation).Sound)
    (hsound : runtime.Sound) (other : ℕ) :
    (Function.update before.runtimes generation runtime other).Sound := by
  by_cases heq : other = generation
  · subst heq
    rwa [Function.update_self]
  · rw [Function.update_of_ne heq]
    exact h other

variable {place : Place}

theorem Inv.turns (h : Inv before) {phase : Phase}
    (hphase : before.phases call = .inner generation purpose place)
    (hturns : Turns call generation runtime phase before after) (hsound : runtime.Sound)
    (hevolves : Runtime.Evolves call (before.runtimes generation) runtime)
    (hstate : after.state = before.state ∨ (before.lock = some call ∧ after.state ≠ .failed))
    (hreleases : purpose.releases = true → ∃ purpose place,
      phase = .inner generation purpose place ∧ purpose.releases = true)
    (hknows : after.Knows call phase) : Inv after := by
  have hevolves := evolves_update hevolves
  have hgone : ∀ other, before.Gone other → after.Gone other := by
    rintro other (hne | ⟨third, found, there, hthird, hreleasing⟩)
    · exact .inl fun heq => hne (hturns.runtime.symm.trans heq)
    by_cases heq : third = call
    · subst heq
      rw [hphase] at hthird
      cases hthird
      obtain ⟨next, nextPlace, rfl, hnext⟩ := hreleases hreleasing
      refine .inr ⟨third, next, nextPlace, ?_, hnext⟩
      rw [hturns.phases, Function.update_self]
    · refine .inr ⟨third, found, there, ?_, hreleasing⟩
      rw [hturns.phases, Function.update_of_ne heq]
      exact hthird
  have hlater : Later call before after := by
    refine ⟨hturns.generations.ge, fun other hne => ?_,
      fun other _ => congrFun hturns.methods other,
      fun other _ => congrFun hturns.waited other, fun other hne hlock => ?_, fun other _ => ?_,
      fun other released hne hother => hgone released ?_⟩
    · rw [hturns.phases, Function.update_of_ne hne]
    · rw [hturns.lock, hturns.runtime]
      refine ⟨hlock, rfl, hstate.resolve_right fun hown => ?_⟩
      rw [hown.1] at hlock
      exact hne (Option.some.inj hlock).symm
    · rw [hturns.runtimes]
      exact hevolves other
    · have hknows := h.knows other
      rw [hother] at hknows
      rcases hknows.2.2 with ⟨hnone, -⟩ | ⟨-, hgone⟩
      · cases hnone
      · exact hgone
  refine ⟨hturns.failures.trans h.failures, ?_, ?_, fun hlock other hruntime => ?_,
    fun hstopped hlock other hruntime => ?_, ?_, fun other => ?_⟩
  · rcases hstate with hsame | ⟨-, hne⟩
    · rw [hsame]
      exact h.alive
    · exact hne
  · rw [hturns.runtime, hturns.generations]
    exact h.current
  · rw [hturns.lock] at hlock
    rw [hturns.runtime] at hruntime
    rw [hturns.runtimes]
    exact fun hready => h.opened hlock other hruntime ((hevolves other).ready hready)
  · rw [hturns.lock] at hlock
    rw [hturns.runtime] at hruntime
    rw [hturns.runtimes]
    have hsame : after.state = before.state := hstate.resolve_right fun hown => by
      rw [hlock] at hown
      cases hown.1
    exact (hevolves other).halted (h.halted (hsame ▸ hstopped) hlock other hruntime)
  · rw [hturns.runtimes]
    exact sound_update h.sound hsound
  · by_cases heq : other = call
    · subst heq
      rwa [hturns.phases, Function.update_self]
    · exact (h.knows other).later heq hlater

/-! ## A call takes the lock -/

theorem account_eq (host : Host) : ∃ completed stopped accounted, host.account = { host with
      completedGenerations := completed
      stoppedGenerations := stopped
      accountedGeneration := accounted } := by
  rw [account]
  split_ifs <;> exact ⟨_, _, _, rfl⟩

theorem Inv.releaseCurrent (h : Inv host) (hlock : host.lock = none)
    (hentering : host.phases call = .entering) (hreplaces : host.Replaces call)
    (next : Option Layout) :
    Inv (Host.releaseCurrent call next { host with lock := some call }) := by
  have hwaited : host.waited call = none := by
    have hknows := h.knows call
    rw [hentering] at hknows
    exact hknows.1
  have hamid : Amid call host := h.amid (by rw [hlock]; nofun) fun _ _ _ hphase => by
    rw [hentering] at hphase
    cases hphase
  rw [Host.releaseCurrent]
  split
  case h_1 hnone => exact hamid.enter.released rfl hwaited hnone hreplaces next
  case h_2 generation hruntime =>
    split_ifs
    · exact h.goes hlock hentering ⟨rfl, rfl, rfl, rfl, rfl, rfl, rfl, rfl, rfl⟩ hruntime
        ⟨.stop, rfl, rfl⟩ hreplaces
    obtain ⟨completed, stopped, accounted, haccount⟩ := account_eq { host with lock := some call }
    rw [closeRuntime, haccount]
    exact h.goes hlock hentering ⟨rfl, rfl, rfl, rfl, rfl, rfl, rfl, rfl, rfl⟩ hruntime
      ⟨.close, rfl, rfl⟩ hreplaces

theorem Inv.enter (h : Inv host) (hlock : host.lock = none)
    (hentering : host.phases call = .entering) {method : Method}
    (hmethod : host.methods call = some method) : Inv (host.enter call method) := by
  have hknows := h.knows call
  rw [hentering] at hknows
  obtain ⟨hwaited, hvalid⟩ := hknows
  have hamid : Amid call host := h.amid (by rw [hlock]; nofun) fun _ _ _ hphase => by
    rw [hentering] at hphase
    cases hphase
  have hopened := h.opened hlock
  have hhalted := fun hstopped => h.halted hstopped hlock
  have hraise : ∀ code message, Inv (host.raise call code message) := fun code message =>
    hamid.ends (ends_raise ..) h.alive hopened hhalted (knows_ended hwaited)
  have hsnapshot : Inv (host.giveSnapshot call) :=
    hamid.ends (ends_giveSnapshot ..) h.alive hopened hhalted (knows_ended hwaited)
  cases method with
  | start layout =>
      rw [Host.enter]
      split_ifs with hready
      · exact hraise _ _
      · exact hamid.enter.startGeneration rfl hwaited hopened hhalted
          (.inr (not_not.mp hready)) _
  | replace layout =>
      rw [Host.enter]
      split_ifs
      · exact hraise _ _
      · exact hraise _ _
      · exact h.releaseCurrent hlock hentering (.inr ⟨layout, hmethod⟩) layout
  | relayout layout =>
      rw [Host.enter.eq_def]
      simp only
      split
      case h_1 generation hrunning hruntime =>
        have hlayout := hvalid _ layout hmethod rfl
        cases layout with
        | none => cases hlayout
        | some layout =>
            exact h.goes hlock hentering ⟨rfl, rfl, rfl, rfl, rfl, rfl, rfl, rfl, rfl⟩ hruntime
              ⟨.relayout, rfl, rfl, of_decide_eq_true hlayout⟩ hrunning
      case h_2 => exact hraise _ _
  | wait =>
      rw [Host.enter.eq_def]
      simp only
      split
      case h_1 generation hrunning hruntime =>
        have hgoes : Goes call generation .wait (.lock .wait) host ({ host with
            waited := Function.update host.waited call (some generation) }.setPhase call
              (.inner generation .wait (.lock .wait))) :=
          ⟨rfl, rfl, rfl, rfl, rfl, rfl, rfl, hlock, rfl⟩
        exact h.goes hlock hentering hgoes hruntime ⟨.wait, rfl, rfl⟩ trivial
      case h_2 => exact hraise _ _
  | stop =>
      rw [Host.enter.eq_def]
      simp only
      split
      case h_1 => exact hsnapshot
      case h_2 generation hrunning hruntime =>
        have hgoes : Goes call generation .stop (.lock .stop) host
            (host.setPhase call (.inner generation .stop (.lock .stop))) :=
          ⟨rfl, rfl, rfl, rfl, rfl, rfl, rfl, hlock, rfl⟩
        exact h.goes hlock hentering hgoes hruntime ⟨.stop, rfl, rfl⟩ trivial
      case h_3 => exact hraise _ _
  | close =>
      rw [Host.enter.eq_def]
      simp only
      split
      case h_1 => exact hsnapshot
      case h_2 =>
        have hclosed : Amid call (host.setState .closed) := hamid.setState nofun
        exact hclosed.ends (ends_giveSnapshot ..) nofun hopened nofun (knows_ended hwaited)
      case h_3 => exact h.releaseCurrent hlock hentering (.inl hmethod) none

/-! ## A method of the runtime ends -/

theorem later_setRuntime (hevolves : Runtime.Evolves call (host.runtimes generation) runtime)
    (hgone : ∀ other released, other ≠ call →
      host.phases other = .reporting released false none → host.Gone released) :
    Later call host (host.setRuntime generation runtime) :=
  ⟨le_rfl, fun _ _ => rfl, fun _ _ => rfl, fun _ _ => rfl, fun _ _ hother => ⟨hother, rfl, rfl⟩,
    fun other _ => evolves_update hevolves other, hgone⟩

theorem Amid.setRuntime (h : Amid call host) (hsound : runtime.Sound)
    (hevolves : Runtime.Evolves call (host.runtimes generation) runtime) :
    Amid call (host.setRuntime generation runtime) := by
  have hlater := later_setRuntime hevolves fun other released hne hphase =>
    .inl (h.gone other released hne hphase)
  exact { h with
    sound := sound_update h.sound hsound
    knows := fun other hne => (h.knows other hne).later hne hlater }

theorem Inv.drop (h : Inv host) (hlock : host.lock = some call) (hsound : runtime.Sound)
    (hevolves : Runtime.Evolves call (host.runtimes generation) runtime) :
    Amid call { host.setRuntime generation runtime with runtime := none } := by
  have hown : ∀ other, host.lock = some other → other = call := by
    intro other hother
    rw [hlock] at hother
    exact (Option.some.inj hother).symm
  have hlater : Later call host { host.setRuntime generation runtime with runtime := none } :=
    ⟨le_rfl, fun _ _ => rfl, fun _ _ => rfl, fun _ _ => rfl,
      fun other hne hother => absurd (hown other hother) hne,
      fun other _ => evolves_update hevolves other, fun _ _ _ _ => .inl nofun⟩
  exact ⟨h.failures, h.alive, nofun, sound_update h.sound hsound, hown,
    fun other hne => (h.knows other).later hne hlater, fun _ _ _ _ => nofun⟩

theorem Inv.finish (h : Inv host) (hphase : host.phases call = .inner generation purpose place)
    {job : Runtime.Job} (hjob : purpose.job = some job) (hsound : runtime.Sound)
    (hevolves : Runtime.Evolves call (host.runtimes generation) runtime) {state : RuntimeState}
    (hdone : job.Done state runtime) :
    Inv ((host.setRuntime generation runtime).finish call generation purpose (some state)) := by
  have hknows := h.knows call
  rw [hphase] at hknows
  obtain ⟨hle, -, -, hlocks, hserves, hwaited⟩ := hknows
  have hself : Function.update host.runtimes generation runtime generation = runtime :=
    Function.update_self ..
  -- The purposes that have the lock.
  have hown : ∀ other, purpose.locks = true → host.lock = some other → other = call := by
    intro other hpurpose hother
    rw [(hlocks hpurpose).1] at hother
    exact (Option.some.inj hother).symm
  have hamid : purpose.locks = true → purpose.releases = false →
      Amid call (host.setRuntime generation runtime) := fun hpurpose hkeeps =>
    (h.amid (fun other => hown other hpurpose) fun other found there hthere => by
      rw [hphase] at hthere
      cases hthere
      exact hkeeps).setRuntime hsound hevolves
  have hopened : purpose.locks = true → ∀ other, host.runtime = some other →
      (Function.update host.runtimes generation runtime other).state ≠ .ready := by
    intro hpurpose other hother
    rw [(hlocks hpurpose).2] at hother
    rw [← Option.some.inj hother, hself]
    exact hdone.1
  cases purpose with
  | start =>
      have hrunning : Amid call ((host.setRuntime generation runtime).setState .running) :=
        (hamid rfl rfl).setState nofun
      exact hrunning.ends (ends_giveSnapshot ..) nofun (hopened rfl) nofun (knows_ended hwaited)
  | releaseStop next =>
      cases hjob
      obtain ⟨hready, rfl, hhalted⟩ := hdone
      obtain ⟨completed, stopped, accounted, haccount⟩ :=
        account_eq ((host.setRuntime generation runtime).setState .stopped)
      change Inv (((host.setRuntime generation runtime).setState .stopped).closeRuntime call
        generation next)
      rw [closeRuntime, haccount]
      refine h.turns hphase ⟨rfl, rfl, rfl, rfl, rfl, rfl, rfl, rfl⟩ hsound hevolves
        (.inr ⟨(hlocks rfl).1, nofun⟩) (fun _ => ⟨_, _, rfl, rfl⟩) ?_
      refine ⟨hle, ⟨.close, rfl, rfl⟩, ?_, fun _ => hlocks rfl, hserves, hwaited⟩
      change (Function.update host.runtimes generation runtime generation).state ≠ .ready
      rw [hself]
      exact hready
  | releaseClose next =>
      exact (h.drop (hlocks rfl).1 hsound hevolves).released (hlocks rfl).1 hwaited rfl hserves next
  | relayout =>
      cases hjob
      obtain ⟨hready, rfl⟩ := hdone
      refine (hamid rfl rfl).ends (ends_giveSnapshot ..) h.alive (hopened rfl) (fun hstopped => ?_)
        (knows_ended hwaited)
      have hrunning : host.state = .running := hserves
      exact HostState.noConfusion (hrunning.symm.trans hstopped)
  | wait =>
      cases hjob
      obtain ⟨hready, rfl, hrunning, hcalm⟩ := hdone
      refine h.turns hphase ⟨rfl, rfl, rfl, rfl, rfl, rfl, rfl, rfl⟩ hsound hevolves (.inl rfl)
        nofun ⟨hle, hwaited, rfl, ?_⟩
      change (Function.update host.runtimes generation runtime generation).state ≠ _ ∧
        (Function.update host.runtimes generation runtime generation).state ≠ _ ∧
          (Function.update host.runtimes generation runtime generation).halted = false
      rw [hself]
      exact ⟨hready, hrunning, hcalm⟩
  | stop =>
      cases hjob
      obtain ⟨-, rfl, hhalted⟩ := hdone
      refine h.turns hphase ⟨rfl, rfl, rfl, rfl, rfl, rfl, rfl, rfl⟩ hsound hevolves (.inl rfl)
        nofun ⟨hle, hwaited, .inl ⟨rfl, ?_⟩⟩
      change (Function.update host.runtimes generation runtime generation).halted = true
      rw [hself]
      exact hhalted
  | failure error => cases hjob

/-- The place is one where the call finds what it needs, or a `stop` of a generation that the host
gives away. -/
def Ready (host : Host) (generation : ℕ) (purpose : Purpose) (place : Place) : Prop :=
  (host.runtimes generation).Ready place ∨
    (purpose = .stop ∧ place = .lock .stop ∧ host.Gone generation)

theorem Inv.turn (h : Inv host) (hphase : host.phases call = .inner generation purpose place)
    (hready : (host.runtimes generation).lock = none → host.Ready generation purpose place)
    {turn : Turn} (hresume : (host.runtimes generation).resume call .returned place = some turn) :
    Inv (host.turn call generation purpose turn) := by
  have hknows := h.knows call
  rw [hphase] at hknows
  obtain ⟨hle, ⟨job, hjob, hat⟩, hfits, hlocks, hserves, hwaited⟩ := hknows
  by_cases hneeds : (host.runtimes generation).lock = none →
      (host.runtimes generation).Ready place
  · have hgoes := Runtime.goes_resume (h.sound generation) hat hfits hneeds hresume
    obtain ⟨runtime, progress⟩ := turn
    obtain ⟨hsound, hevolves, hprogress⟩ := hgoes
    cases progress with
    | awaits next =>
        refine h.turns hphase ⟨rfl, rfl, rfl, rfl, rfl, rfl, rfl, rfl⟩ hsound hevolves (.inl rfl)
          (fun hreleases => ⟨purpose, next, rfl, hreleases⟩) ?_
        refine ⟨hle, ⟨job, hjob, hprogress.1⟩, ?_, hlocks, hserves, hwaited⟩
        change Runtime.Fits call (Function.update host.runtimes generation runtime generation) next
        rw [Function.update_self]
        exact hprogress.2
    | returned state => exact h.finish hphase hjob hsound hevolves hprogress
    | raised => exact hprogress.elim
  · -- The runtime raises, and leaves everything as it was.
    obtain ⟨hlock, hnot⟩ := Classical.not_imp.mp hneeds
    obtain ⟨rfl, rfl, hgone⟩ := (hready hlock).resolve_left hnot
    have hraised : turn = (host.runtimes generation, .raised) := by
      rw [Runtime.resume, hlock] at hresume
      have hstate : (host.runtimes generation).state ≠ .running := hnot
      simp only [Option.isSome_none, Bool.false_eq_true, if_false, Runtime.enter, ne_eq, hstate,
        not_false_eq_true, if_true, Option.some.injEq] at hresume
      exact hresume.symm
    rw [hraised]
    refine h.turns hphase ⟨rfl, rfl, rfl, rfl, rfl, rfl, rfl, rfl⟩ (h.sound generation)
      (.refl _ _) (.inl rfl) (fun h => by cases h) ⟨hle, hwaited, .inr ⟨rfl, ?_⟩⟩
    refine hgone.imp_right fun hholder => ?_
    obtain ⟨other, purpose, place, hother, hreleases⟩ := hholder
    have hne : other ≠ call := by
      rintro rfl
      rw [hphase] at hother
      cases hother
      cases hreleases
    exact ⟨other, purpose, place, (Function.update_of_ne hne ..).trans hother, hreleases⟩

/-! ## `wait` and `stop` report -/

theorem Inv.report (h : Inv host) (hlock : host.lock = none) {waits : Bool}
    {result : Option RuntimeState}
    (hphase : host.phases call = .reporting generation waits result) :
    Inv (host.report call generation waits result) := by
  have hown : ∀ other, host.lock = some other → other = call := by
    rw [hlock]
    nofun
  have hnot : ∀ generation purpose place, host.phases call = .inner generation purpose place →
      purpose.releases = false := fun _ _ _ hinner => by
    rw [hphase] at hinner
    cases hinner
  have hamid : Amid call host := h.amid hown hnot
  have hopened := h.opened hlock
  have hhalted := fun hstopped => h.halted hstopped hlock
  have hknows := h.knows call
  rw [hphase] at hknows
  obtain ⟨hle, hwaited, hresult⟩ := hknows
  -- With the verdict the host keeps its books, and returns a snapshot.
  have haccounts : ∀ state, state ≠ .failed → (state = .stopped → ∀ other,
      host.runtime = some other → (host.runtimes other).halted = true) →
        (∀ snapshot : HostSnapshot, snapshot.state = state →
          host.Knows call (.ended (.returned snapshot))) →
            Inv ((host.setState state).account.giveSnapshot call) := by
    intro state hstate hstopped hends
    obtain ⟨completed, stopped, accounted, haccount⟩ := account_eq (host.setState state)
    rw [haccount]
    exact (hamid.setState hstate).ends ⟨rfl, rfl, rfl, rfl, rfl, rfl, rfl, rfl⟩ hstate hopened
      hstopped (hends _ rfl)
  rw [Host.report.eq_def]
  simp only
  cases waits with
  | true =>
      obtain ⟨rfl, hcompleted⟩ := hresult
      by_cases hcurrent : host.runtime = some generation
      · rw [if_pos hcurrent]
        refine haccounts .complete nofun nofun fun snapshot hsnapshot other hother => ?_
        rw [hwaited] at hother
        rw [← Option.some.inj hother]
        exact ⟨hle, .inl ⟨snapshot, rfl, hsnapshot⟩⟩
      · rw [if_neg hcurrent]
        refine hamid.ends (ends_raise ..) h.alive hopened hhalted fun other hother => ?_
        rw [hwaited] at hother
        rw [← Option.some.inj hother]
        exact ⟨hle, .inr hcompleted⟩
  | false =>
      rcases hresult with ⟨rfl, hhalt⟩ | ⟨rfl, hgone⟩
      · by_cases hcurrent : host.runtime = some generation
        · rw [if_pos hcurrent]
          refine haccounts .stopped nofun (fun _ other hother => ?_) fun _ _ => knows_ended hwaited
          rw [hcurrent] at hother
          rw [← Option.some.inj hother]
          exact hhalt
        · rw [if_neg hcurrent]
          exact hamid.ends (ends_raise ..) h.alive hopened hhalted (knows_ended hwaited)
      · rw [if_neg (h.not_gone hown hnot hgone)]
        exact hamid.ends (ends_raise ..) h.alive hopened hhalted (knows_ended hwaited)

/-! ## Every step -/

theorem Inv.begin (h : Inv host) (hidle : host.phases call = .idle) (method : Method) :
    Inv (host.begin call method) := by
  have hwaited : host.waited call = none := by
    have hknows := h.knows call
    rw [hidle] at hknows
    exact hknows
  have hbegins : ∀ phase : Phase,
      Knows ({ host with methods := Function.update host.methods call (some method) }.setPhase
        call phase) call phase →
          Inv ({ host with methods := Function.update host.methods call (some method) }.setPhase
            call phase) := by
    intro phase hphase
    have hlater : Later call host ({ host with
        methods := Function.update host.methods call (some method) }.setPhase call phase) := by
      refine ⟨le_rfl, fun _ hne => Function.update_of_ne hne .., fun _ hne =>
        Function.update_of_ne hne .., fun _ _ => rfl, fun _ _ hother => ⟨hother, rfl, rfl⟩,
        fun _ _ => .refl _ _, fun other released hne hother => ?_⟩
      have hknows := h.knows other
      rw [hother] at hknows
      rcases hknows.2.2 with ⟨hnone, -⟩ | ⟨-, hgone⟩
      · cases hnone
      refine hgone.imp_right fun ⟨third, purpose, place, hthird, hreleases⟩ => ?_
      have hne : third ≠ call := by
        rintro rfl
        rw [hidle] at hthird
        cases hthird
      exact ⟨third, purpose, place, (Function.update_of_ne hne ..).trans hthird, hreleases⟩
    refine { h with knows := fun other => ?_ }
    by_cases heq : other = call
    · subst heq
      have hself : ({ host with
          methods := Function.update host.methods other (some method) }.setPhase other
            phase).phases other = phase := Function.update_self ..
      rwa [hself]
    · exact (h.knows other).later heq hlater
  have hentering : (∀ layout, method.layout = some layout → validLayout layout = true) →
      Knows ({ host with methods := Function.update host.methods call (some method) }.setPhase
        call .entering) call .entering := by
    refine fun hvalid => ⟨hwaited, fun found layout hfound hlayout => ?_⟩
    change Function.update host.methods call (some method) call = some found at hfound
    rw [Function.update_self] at hfound
    cases hfound
    exact hvalid layout hlayout
  rw [Host.begin.eq_def]
  simp only
  split
  case h_1 layout hlayout =>
    split_ifs with hvalid
    · refine hbegins _ (hentering fun found hfound => ?_)
      rw [hlayout] at hfound
      cases hfound
      exact hvalid
    · exact hbegins _ (knows_ended hwaited)
  case h_2 hnone =>
    refine hbegins _ (hentering fun found hfound => ?_)
    rw [hnone] at hfound
    cases hfound

/-- No child fails in the step. -/
def Healthy : Event → Prop
  | .begin _ _ => True
  | .resume _ answer => answer = .returned
  | .media _ taskEnd => taskEnd ≠ .failed

/-- A call that comes to the lock of a runtime finds it as it needs it: running and with the slots
of the layout, and for the second lock of `wait` with its presentation. -/
def Clear (host : Host) : Event → Prop
  | .begin _ _ | .media _ _ => True
  | .resume call _ => ∀ generation purpose place,
      host.phases call = .inner generation purpose place →
        (host.runtimes generation).lock = none → host.Ready generation purpose place

variable {event : Event}

theorem Inv.step (h : Inv host) (hhealthy : Healthy event) (hclear : host.Clear event) :
    Inv (host.step event) := by
  cases event with
  | begin call method =>
      rw [Host.step]
      split_ifs with hidle
      · exact h.begin hidle method
      · exact h
  | resume call answer =>
      cases hhealthy
      rw [Host.step, Host.resume]
      cases hphase : host.phases call with
      | entering =>
          cases hmethod : host.methods call with
          | none => exact h
          | some method =>
              simp only
              split_ifs with hlock
              · exact h
              · exact h.enter (by simpa using hlock) hphase hmethod
      | inner generation purpose place =>
          cases hresume : (host.runtimes generation).resume call .returned place with
          | none => simpa only [hresume] using h
          | some turn =>
              simpa only [hresume] using
                h.turn hphase (hclear generation purpose place hphase) hresume
      | reporting generation waits result =>
          simp only
          split_ifs with hlock
          · exact h
          · exact h.report (by simpa using hlock) hphase
      | idle => exact h
      | ended outcome => exact h
  | media generation taskEnd =>
      have hlater : ∀ call, Later call host
          (host.setRuntime generation ((host.runtimes generation).endTask taskEnd)) := by
        refine fun call => later_setRuntime (Runtime.evolves_endTask ..)
          fun other released _ hother => ?_
        have hknows := h.knows other
        rw [hother] at hknows
        rcases hknows.2.2 with ⟨hnone, -⟩ | ⟨-, hgone⟩
        · cases hnone
        · exact hgone
      have hevolves : ∀ other, Runtime.Evolves 0 (host.runtimes other)
          (Function.update host.runtimes generation
            ((host.runtimes generation).endTask taskEnd) other) :=
        evolves_update (Runtime.evolves_endTask ..)
      refine ⟨h.failures, h.alive, h.current, fun hlock other hruntime hready => ?_,
        fun hstopped hlock other hruntime => ?_, ?_, fun other => ?_⟩
      · exact h.opened hlock other hruntime ((hevolves other).ready hready)
      · exact (hevolves other).halted (h.halted hstopped hlock other hruntime)
      · exact sound_update h.sound ((h.sound generation).endTask hhealthy)
      · exact (h.knows other).later (Nat.succ_ne_self other).symm (hlater (other + 1))

theorem inv_create (maxGenerations : ℕ) : Inv (create maxGenerations) where
  failures := rfl
  alive := nofun
  current := nofun
  opened _ := nofun
  halted := nofun
  sound _ := ⟨nofun, nofun, nofun, nofun, nofun, nofun⟩
  knows _ := rfl

/-! ## A host that has stopped -/

theorem enter_stopped (hstopped : host.state = .stopped) {method : Method}
    (hmethod : host.methods call = some method) (hkeeps : ¬ host.Replaces call) :
    (host.enter call method).state = .stopped := by
  cases method with
  | start layout =>
      rw [Host.enter, if_pos (by rw [hstopped]; nofun)]
      exact hstopped
  | replace layout => exact absurd (.inr ⟨layout, hmethod⟩) hkeeps
  | relayout layout =>
      rw [Host.enter.eq_def]
      simp only [hstopped]
      exact hstopped
  | wait =>
      rw [Host.enter.eq_def]
      simp only [hstopped]
      exact hstopped
  | stop =>
      rw [Host.enter.eq_def]
      simp only [hstopped]
      exact hstopped
  | close => exact absurd (.inl hmethod) hkeeps

theorem report_stopped (h : Inv host) (hlock : host.lock = none) {waits : Bool}
    {result : Option RuntimeState} (hphase : host.phases call = .reporting generation waits result)
    (hstopped : host.state = .stopped) :
    (host.report call generation waits result).state = .stopped := by
  have hknows := h.knows call
  rw [hphase] at hknows
  obtain ⟨-, -, hresult⟩ := hknows
  rw [Host.report.eq_def]
  simp only
  by_cases hcurrent : host.runtime = some generation
  · rw [if_pos hcurrent]
    cases waits with
    | true =>
        -- The generation of a host that has stopped did not complete.
        obtain ⟨-, -, -, hcalm⟩ := hresult
        rw [h.halted hstopped hlock generation hcurrent] at hcalm
        cases hcalm
    | false =>
        rcases hresult with ⟨rfl, -⟩ | ⟨-, hgone⟩
        · obtain ⟨completed, stopped, accounted, haccount⟩ :=
            account_eq (host.setState .stopped)
          simp only
          rw [haccount]
          rfl
        have hown : ∀ other, host.lock = some other → other = call := by
          rw [hlock]
          nofun
        have hnot : ∀ generation purpose place,
            host.phases call = .inner generation purpose place → purpose.releases = false := by
          intro _ _ _ hinner
          rw [hphase] at hinner
          cases hinner
        exact absurd hcurrent (h.not_gone hown hnot hgone)
  · rw [if_neg hcurrent]
    cases result <;> exact hstopped

/-- Only `replace` and `close` take a host on that has stopped. -/
theorem step_stopped (h : Inv host) (hstopped : host.state = .stopped) :
    (host.step event).state = .stopped ∨
      ∃ call answer, event = .resume call answer ∧ host.Replaces call := by
  cases event with
  | begin call method =>
      refine .inl ?_
      rw [Host.step]
      split_ifs
      · rw [Host.begin.eq_def]
        simp only
        split
        · split_ifs <;> exact hstopped
        · exact hstopped
      · exact hstopped
  | resume call answer =>
      by_cases hkeeps : host.Replaces call
      · exact .inr ⟨call, answer, rfl, hkeeps⟩
      refine .inl ?_
      rw [Host.step, Host.resume]
      cases hphase : host.phases call with
      | entering =>
          cases hmethod : host.methods call with
          | none => exact hstopped
          | some method =>
              simp only
              split_ifs
              · exact hstopped
              · exact enter_stopped hstopped hmethod hkeeps
      | inner generation purpose place =>
          have hknows := h.knows call
          rw [hphase] at hknows
          obtain ⟨-, ⟨job, hjob, -⟩, -, -, hserves, -⟩ := hknows
          cases hresume : (host.runtimes generation).resume call answer place with
          | none => simpa only [hresume] using hstopped
          | some turn =>
              obtain ⟨runtime, progress⟩ := turn
              simp only [hresume]
              cases purpose with
              | start =>
                  rcases hserves with hreplaces | hready
                  · exact absurd hreplaces hkeeps
                  · exact HostState.noConfusion (hready.symm.trans hstopped)
              | releaseStop next => exact absurd hserves hkeeps
              | releaseClose next => exact absurd hserves hkeeps
              | relayout =>
                  have hrunning : host.state = .running := hserves
                  exact HostState.noConfusion (hrunning.symm.trans hstopped)
              | wait => cases progress <;> exact hstopped
              | stop => cases progress <;> exact hstopped
              | failure error => cases hjob
      | reporting generation waits result =>
          simp only
          split_ifs with hlock
          · exact hstopped
          · exact report_stopped h (by simpa using hlock) hphase hstopped
      | idle => exact hstopped
      | ended outcome => exact hstopped
  | media generation taskEnd => exact .inl hstopped

/-! ## The host does not fail -/

/-- No call has turned the host to failed, a generation that was stopped has ended as stopped or
complete for every `wait` that is over, and a stopped host stays so but for `replace` and
`close`. -/
structure Unfailing (host : Host) : Prop where
  alive : host.state ≠ .failed
  failures : host.failures = 0
  waits : ∀ call generation outcome, host.waited call = some generation →
    (host.runtimes generation).halted = true → host.phases call = .ended outcome →
      ∃ snapshot, outcome = .returned snapshot ∧
        (snapshot.state = .stopped ∨ snapshot.state = .complete)
  stopped : ∀ event, host.state = .stopped → (host.step event).state = .stopped ∨
    ∃ call answer, event = .resume call answer ∧ host.Replaces call

theorem Inv.unfailing (h : Inv host) : Unfailing host where
  __ := h
  waits call generation outcome hwaited hhalted hended := by
    have hknows := h.knows call
    rw [hended] at hknows
    rcases (hknows generation hwaited).2 with ⟨snapshot, rfl, hcomplete⟩ | ⟨-, -, hcalm⟩
    · exact ⟨snapshot, rfl, .inr hcomplete⟩
    · rw [hcalm] at hhalted
      cases hhalted
  stopped _ hstopped := step_stopped h hstopped

/-- In a run where no child fails, and where each call that comes to the lock of a runtime finds it
as it needs it, the host does not fail. -/
theorem host_unfailing {maxGenerations : ℕ} {events : List Event}
    (h : (machine fun host event => Healthy event ∧ host.Clear event).Reaches
      (create maxGenerations) events host) : Unfailing host := by
  have hstep : ∀ (state : Host) event, Inv state →
      (machine fun host event => Healthy event ∧ host.Clear event).admissible state event →
        Inv ((machine fun host event => Healthy event ∧ host.Clear event).step state event) :=
    fun _ _ hinv hadmissible => hinv.step hadmissible.1 hadmissible.2
  have hinv : Inv host := h.invariant hstep (inv_create maxGenerations)
  exact hinv.unfailing

/-! ## A run without failures, and one with -/

/-- A check that is enough for `Healthy` and `Clear`. -/
def clearly (host : Host) : Event → Bool
  | .begin _ _ => true
  | .media _ taskEnd => taskEnd != .failed
  | .resume call answer =>
      answer == .returned &&
        match host.phases call with
        | .inner generation _ (.lock .wait) | .inner generation _ (.lock .stop) =>
            (host.runtimes generation).state == .running
        | .inner _ _ (.lock (.relayout _)) => false
        | .inner generation _ (.relock _) => (host.runtimes generation).presentation
        | _ => true

theorem clear_of_clearly (h : host.clearly event = true) : Healthy event ∧ host.Clear event := by
  cases event with
  | begin call method => exact ⟨trivial, trivial⟩
  | media generation taskEnd =>
      rw [clearly.eq_def] at h
      simpa [Healthy, Clear] using h
  | resume call answer =>
      rw [clearly.eq_def, Bool.and_eq_true] at h
      obtain ⟨hanswer, hready⟩ := h
      refine ⟨by simpa [Healthy] using hanswer, fun generation purpose place hphase _ => .inl ?_⟩
      simp only [hphase] at hready
      split at hready
      case h_1 hplace =>
        cases hplace
        simpa [Runtime.Ready] using hready
      case h_2 hplace =>
        cases hplace
        simpa [Runtime.Ready] using hready
      case h_3 => cases hready
      case h_4 hplace =>
        cases hplace
        exact hready
      case h_5 hwait hstop hrelayout hrelock =>
        cases place with
        | lock method =>
            cases method with
            | wait => exact absurd rfl (hwait _ _)
            | stop => exact absurd rfl (hstop _ _)
            | relayout layout => exact absurd rfl (hrelayout _ _ _)
            | close => trivial
        | relock child => exact absurd rfl (hrelock _ _ _)
        | _ => trivial

def clearlyRuns : Host → List Event → Bool
  | _, [] => true
  | host, event :: rest => host.clearly event && clearlyRuns (host.step event) rest

theorem reaches_of_clearlyRuns {events : List Event} (h : clearlyRuns host events = true) :
    (machine fun host event => Healthy event ∧ host.Clear event).Reaches host events
      (events.foldl step host) := by
  induction events generalizing host with
  | nil => rfl
  | cons event rest ih =>
      rw [clearlyRuns, Bool.and_eq_true] at h
      exact ⟨clear_of_clearly h.1, ih h.2⟩

def resumed (call : ℕ) : Event := .resume call .returned

def startEvents : List Event := [.begin 0 (.start (some [0, 1])), resumed 0, resumed 0]

def completeEvents : List Event :=
  [.begin 1 .wait, resumed 1, resumed 1, .media 1 .returned, resumed 1, resumed 1, resumed 1]

def replaceEvents : List Event :=
  [.begin 2 (.replace (some [0, 1, 2])), resumed 2, resumed 2, resumed 2, resumed 2, resumed 2]

def stopEvents (generation call : ℕ) : List Event :=
  [.begin call .stop, resumed call, resumed call, .media generation .cancelled, resumed call,
    resumed call, resumed call, resumed call, resumed call]

theorem host_unfailing_sample :
    Unfailing ((startEvents ++ completeEvents ++ replaceEvents ++ stopEvents 2 3).foldl step
        (create 4)) ∧
      ((startEvents ++ completeEvents ++ replaceEvents ++ stopEvents 2 3).foldl step
        (create 4)).snapshot = ⟨.stopped, 2, 4, 1, 1, 0, 3⟩ :=
  ⟨host_unfailing (reaches_of_clearlyRuns (by decide)), by decide⟩

def stoppedEvents : List Event :=
  startEvents ++ [.begin 1 .wait, resumed 1, resumed 1] ++ stopEvents 1 2

def wakeEvents : List Event := [resumed 1, resumed 1, resumed 1, resumed 1, resumed 1]

/-- No child fails, and `stop` returns that the generation has stopped; its waiter raises, and turns
the host to failed. -/
theorem waiter_fails_host : ∃ stopped failed : Host,
      (machine fun _ event => Healthy event).Reaches (create 4) stoppedEvents stopped ∧
      (machine fun _ event => Healthy event).Reaches stopped wakeEvents failed ∧
      stopped.phases 2 = .ended (.returned ⟨.stopped, 1, 4, 0, 1, 0, 2⟩) ∧
      failed.phases 1 = .ended
        (.raised ⟨.executionFailure, "operator host generation failed"⟩) ∧
      failed.snapshot = ⟨.failed, 1, 4, 0, 1, 1, 0⟩ := by
  refine ⟨stoppedEvents.foldl step (create 4), (stoppedEvents ++ wakeEvents).foldl step (create 4),
    ?_, ?_, by decide, by decide, by decide⟩
  · refine ⟨trivial, rfl, rfl, trivial, rfl, rfl, trivial, rfl, rfl, nofun, rfl, rfl, rfl, rfl, rfl,
      rfl⟩
  · exact ⟨rfl, rfl, rfl, rfl, rfl, rfl⟩

end K5Vision.Presentation.Operator.Host
