import K5Vision.Presentation.OperatorHost

/-!
# What the runtime does for its host

While its children do not fail, a runtime only goes from place to place of one `Job`, and its jobs
end as they should, if each of them finds the runtime as it needs it at the lock (`Ready`).  `Sound`
holds of the runtime, `Fits` of a call inside it, and `Evolves` is what the step of a call leaves to
the others: who has the lock finds everything as before, but for the controller's verdict.
-/

namespace K5Vision.Presentation.Operator

open Controller (ControllerState)

namespace Runtime

variable {call : ℕ} {before middle after runtime : Runtime} {cleanup : Cleanup} {place : Place}

/-! ## The invariant -/

structure Sound (runtime : Runtime) : Prop where
  task : runtime.control.state = .running → runtime.control.hasTask = true
  unfailed : runtime.control.task ≠ .ended .failed
  shown : runtime.presentation = true → runtime.control.state = .running ∨
    runtime.control.state = .complete ∨ runtime.control.state = .stopped
  free : runtime.lock = none → runtime.state = .running →
    runtime.presentation = true ∧ runtime.windows = true
  halted : runtime.lock = none → runtime.halted = true → runtime.presentation = false
  calm : runtime.presentation = true → runtime.halted = false →
    runtime.control.state ≠ .stopped ∧ runtime.control.cancelling = false ∧
      runtime.control.task ≠ .ended .cancelled

def Fits (call : ℕ) (runtime : Runtime) : Place → Prop
  | .lock _ | .media => runtime.state ≠ .ready
  | .opening => runtime.lock = some call ∧ runtime.state = .ready ∧ runtime.halted = false ∧
      runtime.windows = true
  | .relock child => runtime.state ≠ .ready ∧ (runtime.presentation = true →
      child = some .complete ∨ (child = some .stopped ∧ runtime.halted = true))
  | .relayouting _ => runtime.lock = some call ∧ runtime.state = .running ∧
      runtime.presentation = true ∧ runtime.windows = true ∧ runtime.halted = false
  | .stoppingTask stopper | .stoppingSession stopper => runtime.lock = some call ∧
      runtime.state ≠ .ready ∧
        match stopper with
        | .stop => runtime.halted = true
        | .close cleanup =>
            runtime.presentation = false ∧ (cleanup = .stop → runtime.halted = true)
  | .closingSession cleanup | .closingWindows cleanup _ => runtime.lock = some call ∧
      runtime.state ≠ .ready ∧ runtime.presentation = false ∧
        (cleanup = .stop → runtime.halted = true)

structure Evolves (call : ℕ) (before after : Runtime) : Prop where
  ready : after.state = .ready → before.state = .ready
  running : after.state = .running → before.state = .running ∨ before.state = .ready
  presentation : before.state ≠ .ready → after.presentation = true → before.presentation = true
  halted : before.halted = true → after.halted = true
  fresh : after.halted = true →
    before.halted = true ∨ before.state = .running ∨ before.state = .ready
  held : ∀ other, other ≠ call → before.lock = some other →
    after = { before with control := after.control }

theorem Evolves.refl (call : ℕ) (runtime : Runtime) : Evolves call runtime runtime :=
  ⟨id, .inl, fun _ => id, id, .inl, fun _ _ _ => rfl⟩

theorem Evolves.trans (hfirst : Evolves call before middle) (hsecond : Evolves call middle after) :
    Evolves call before after where
  ready h := hfirst.ready (hsecond.ready h)
  running h := by
    rcases hsecond.running h with hrunning | hready
    · exact hfirst.running hrunning
    · exact .inr (hfirst.ready hready)
  presentation hready h := hfirst.presentation hready
    (hsecond.presentation (fun hmiddle => hready (hfirst.ready hmiddle)) h)
  halted h := hsecond.halted (hfirst.halted h)
  fresh h := by
    rcases hsecond.fresh h with hhalted | hrunning | hready
    · exact hfirst.fresh hhalted
    · exact .inr (hfirst.running hrunning)
    · exact .inr (.inr (hfirst.ready hready))
  held other hne hlock := by
    have hmiddle := hfirst.held other hne hlock
    have hstill : middle.lock = some other := by
      rw [hmiddle]
      exact hlock
    rw [hsecond.held other hne hstill, hmiddle]

theorem evolves_of_own (hlock : ∀ other, before.lock = some other → other = call)
    (hready : after.state = .ready → before.state = .ready)
    (hrunning : after.state = .running → before.state = .running ∨ before.state = .ready)
    (hpresentation : before.state ≠ .ready → after.presentation = true →
      before.presentation = true)
    (hhalted : before.halted = after.halted) : Evolves call before after :=
  ⟨hready, hrunning, hpresentation, fun h => hhalted ▸ h, fun h => .inl (hhalted ▸ h),
    fun other hne hother => absurd (hlock other hother) hne⟩

theorem Fits.evolves {other : ℕ} (h : Fits other before place) (hne : other ≠ call)
    (hevolves : Evolves call before after) : Fits other after place := by
  have hstill : before.state ≠ .ready → after.state ≠ .ready :=
    fun hready hafter => hready (hevolves.ready hafter)
  cases place with
  | lock method | media => exact hstill h
  | relock child =>
      refine ⟨hstill h.1, fun hshown => ?_⟩
      exact (h.2 (hevolves.presentation h.1 hshown)).imp_right
        fun hstopped => ⟨hstopped.1, hevolves.halted hstopped.2⟩
  | opening | relayouting layout | stoppingTask stopper | stoppingSession stopper
  | closingSession cleanup | closingWindows cleanup failed =>
      rw [hevolves.held other hne h.1]
      exact h

/-! ## Jobs -/

/-- A method of the runtime, as its host calls it. -/
inductive Job
  | start
  | wait
  | stop
  | relayout
  | close
  deriving DecidableEq, Repr

/-- The places of a job that goes as it should. -/
def Job.At (job : Job) : Place → Prop
  | .lock .wait | .media => job = .wait
  | .lock .stop => job = .stop
  | .lock (.relayout layout) => job = .relayout ∧ 2 ≤ layout.length ∧ layout.length ≤ 16
  | .lock .close => job = .close
  | .opening => job = .start
  | .relock child => job = .wait ∧ child ≠ none
  | .relayouting _ => job = .relayout
  | .stoppingTask .stop | .stoppingSession .stop => job = .stop
  | .stoppingTask (.close cleanup) | .stoppingSession (.close cleanup) | .closingSession cleanup =>
      (cleanup = .stop ∧ job = .stop) ∨ (cleanup = .close ∧ job = .close)
  | .closingWindows cleanup failed => failed = false ∧
      ((cleanup = .stop ∧ job = .stop) ∨ (cleanup = .close ∧ job = .close))

def Job.Done (job : Job) (state : RuntimeState) (runtime : Runtime) : Prop :=
  runtime.state ≠ .ready ∧
    match job with
    | .start | .relayout => state = .running
    | .wait => state = .complete ∧ runtime.state ≠ .running ∧ runtime.halted = false
    | .stop => state = .stopped ∧ runtime.halted = true
    | .close => True

/-- The runtime is as the call needs it that is at the lock. -/
def Ready (runtime : Runtime) : Place → Prop
  | .lock .wait | .lock .stop => runtime.state = .running
  | .lock (.relayout layout) =>
      runtime.state = .running ∧ layout.toFinset = runtime.layout.toFinset
  | .relock _ => runtime.presentation = true
  | _ => True

/-- A step of a job goes as it should. -/
structure Goes (call : ℕ) (job : Job) (before : Runtime) (turn : Turn) : Prop where
  sound : turn.1.Sound
  evolves : Evolves call before turn.1
  progress : match turn.2 with
    | .awaits place => job.At place ∧ turn.1.Fits call place
    | .returned state => job.Done state turn.1
    | .raised => False

theorem Goes.behind {job : Job} {turn : Turn} (h : Goes call job middle turn)
    (hevolves : Evolves call before middle) : Goes call job before turn :=
  ⟨h.sound, hevolves.trans h.evolves, h.progress⟩

/-- `_cleanup` for a job, with the lock in hand and the presentation dropped. -/
structure Cleaning (call : ℕ) (cleanup : Cleanup) (job : Job) (runtime : Runtime) : Prop where
  sound : runtime.Sound
  lock : runtime.lock = some call
  ready : runtime.state ≠ .ready
  dropped : runtime.presentation = false
  serves : (cleanup = .stop ∧ job = .stop) ∨ (cleanup = .close ∧ job = .close)
  halted : cleanup = .stop → runtime.halted = true

theorem Cleaning.own {job : Job} (h : Cleaning call cleanup job runtime) (other : ℕ)
    (hother : runtime.lock = some other) : other = call := by
  rw [h.lock] at hother
  exact (Option.some.inj hother).symm

theorem Cleaning.cleaned {job : Job} (h : Cleaning call cleanup job runtime) :
    Goes call job runtime (runtime.cleaned cleanup false) := by
  have hsound : ∀ state : RuntimeState, state ≠ .running →
      ({ runtime with state := state, lock := none } : Runtime).Sound := fun state hstate =>
    ⟨h.sound.task, h.sound.unfailed, h.sound.shown, fun _ hrunning => absurd hrunning hstate,
      fun _ _ => h.dropped, h.sound.calm⟩
  have hevolves : ∀ state : RuntimeState, state ≠ .ready → state ≠ .running →
      Evolves call runtime { runtime with state := state, lock := none } :=
    fun state hready hrunning => evolves_of_own h.own (fun heq => absurd heq hready)
      (fun heq => absurd heq hrunning) (fun _ => id) rfl
  rcases h.serves with ⟨rfl, rfl⟩ | ⟨rfl, rfl⟩
  · exact ⟨hsound .stopped nofun, hevolves .stopped nofun nofun, nofun, rfl, h.halted rfl⟩
  · exact ⟨hsound .closed nofun, hevolves .closed nofun nofun, nofun, trivial⟩

theorem Cleaning.closeWindows {job : Job} (h : Cleaning call cleanup job runtime) :
    Goes call job runtime (runtime.closeWindows cleanup false) := by
  rw [Runtime.closeWindows]
  split_ifs with hwindows
  · refine ⟨⟨h.sound.task, h.sound.unfailed, h.sound.shown, fun hnone _ => ?_, h.sound.halted,
      h.sound.calm⟩, evolves_of_own h.own id .inl (fun _ => id) rfl,
      ⟨rfl, h.serves⟩, h.lock, h.ready, h.dropped, h.halted⟩
    change runtime.lock = none at hnone
    rw [h.lock] at hnone
    cases hnone
  · exact h.cleaned

theorem Cleaning.conclude {job : Job} (h : Cleaning call cleanup job runtime)
    {state : ControllerState} (hstate : state ≠ .running) :
    Cleaning call cleanup job (runtime.conclude state) where
  sound :=
    { task := fun hrunning => absurd hrunning hstate
      unfailed := h.sound.unfailed
      shown := fun hshown => by
        change runtime.presentation = true at hshown
        rw [h.dropped] at hshown
        cases hshown
      free := h.sound.free
      halted := h.sound.halted
      calm := fun hshown => by
        change runtime.presentation = true at hshown
        rw [h.dropped] at hshown
        cases hshown }
  __ := h

theorem evolves_conclude (call : ℕ) (state : ControllerState) (runtime : Runtime) :
    Evolves call runtime (runtime.conclude state) :=
  ⟨id, .inl, fun _ => id, id, .inl, fun _ _ _ => rfl⟩

theorem Cleaning.taskStopped {job : Job} (h : Cleaning call cleanup job runtime)
    {taskEnd : TaskEnd} (htask : taskEnd ≠ .failed) (raised : Runtime → Turn) :
    Goes call job runtime (runtime.taskStopped (.close cleanup) raised taskEnd) := by
  have hgoes : Goes call job runtime (runtime, .awaits (.stoppingSession (.close cleanup))) :=
    ⟨h.sound, .refl call runtime, h.serves, h.lock, h.ready, h.dropped, h.halted⟩
  cases taskEnd with
  | returned => exact hgoes
  | cancelled => exact hgoes
  | failed => exact absurd rfl htask

theorem Cleaning.closeController {job : Job} (h : Cleaning call cleanup job runtime) :
    Goes call job runtime (runtime.closeController cleanup) := by
  have hclosing : Goes call job runtime (runtime, .awaits (.closingSession cleanup)) :=
    ⟨h.sound, .refl call runtime, h.serves, h.lock, h.ready, h.dropped, h.halted⟩
  rw [Runtime.closeController]
  cases hstate : runtime.control.state with
  | closed => exact h.closeWindows
  | running =>
      have hhas : ¬ (!runtime.control.hasTask) = true := by
        rw [h.sound.task hstate]
        nofun
      simp only
      rw [stopTask, if_neg hhas]
      have hcancelling : Goes call job runtime
          ({ runtime with control := { runtime.control with cancelling := true } },
            .awaits (.stoppingTask (.close cleanup))) := by
        refine ⟨⟨h.sound.task, h.sound.unfailed, h.sound.shown, h.sound.free, h.sound.halted,
          fun hshown => ?_⟩, ⟨id, .inl, fun _ => id, id, .inl, fun _ _ _ => rfl⟩, h.serves, h.lock,
          h.ready, h.dropped, h.halted⟩
        change runtime.presentation = true at hshown
        rw [h.dropped] at hshown
        cases hshown
      cases htask : runtime.control.task with
      | absent => exact hcancelling
      | running => exact hcancelling
      | ended taskEnd =>
          have hne : taskEnd ≠ .failed := by
            rintro rfl
            exact h.sound.unfailed htask
          exact h.taskStopped hne _
  | _ => exact hclosing

theorem goes_clean {job : Job} (hsound : runtime.Sound) (hlock : runtime.lock = some call)
    (hready : runtime.state ≠ .ready)
    (hserves : (cleanup = .stop ∧ job = .stop) ∨ (cleanup = .close ∧ job = .close))
    (hhalted : cleanup = .stop → runtime.halted = true) :
    Goes call job runtime (runtime.clean cleanup) := by
  rw [clean]
  split_ifs with hshown
  · have hcleaning : Cleaning call cleanup job { runtime with presentation := false } := by
      refine ⟨⟨hsound.task, hsound.unfailed, nofun, fun hnone _ => ?_, fun _ _ => rfl, nofun⟩,
        hlock, hready, rfl, hserves, hhalted⟩
      change runtime.lock = none at hnone
      rw [hlock] at hnone
      cases hnone
    have hown : ∀ other, runtime.lock = some other → other = call := hcleaning.own
    exact hcleaning.closeController.behind (evolves_of_own hown id .inl (fun _ => nofun) rfl)
  · exact Cleaning.closeWindows
      ⟨hsound, hlock, hready, Bool.eq_false_iff.mpr hshown, hserves, hhalted⟩

/-! ## `wait` -/

theorem goes_settle (hsound : runtime.Sound) (hready : runtime.state ≠ .ready)
    {taskEnd : TaskEnd} (htask : runtime.control.task = .ended taskEnd) :
    Goes call .wait runtime (runtime.settle taskEnd) := by
  -- Whatever the task came to, the verdict that was reached first stands.
  have hgoes : ∀ state, state ≠ .running →
      (runtime.presentation = true →
        state = .complete ∨ (state = .stopped ∧ runtime.halted = true)) →
      Goes call .wait runtime (runtime.conclude state, .awaits (.relock (some state))) := by
    intro state hstate hshown
    refine ⟨⟨fun hrunning => absurd hrunning hstate, hsound.unfailed, fun hpresent => ?_,
      hsound.free, hsound.halted, fun hpresent hhalted => ?_⟩, evolves_conclude .., ⟨rfl, nofun⟩,
      hready, fun hpresent => ?_⟩
    · rcases hshown hpresent with hcomplete | ⟨hstopped, -⟩
      · exact .inr (.inl hcomplete)
      · exact .inr (.inr hstopped)
    · refine ⟨fun hstopped => ?_, (hsound.calm hpresent hhalted).2⟩
      rcases hshown hpresent with hcomplete | ⟨-, htrue⟩
      · exact ControllerState.noConfusion (hcomplete.symm.trans hstopped)
      · change runtime.halted = false at hhalted
        rw [htrue] at hhalted
        cases hhalted
    · exact (hshown hpresent).imp (congrArg some) fun hstopped =>
        ⟨congrArg some hstopped.1, hstopped.2⟩
  have hhalted : runtime.presentation = true →
      runtime.control.state = .stopped ∨ runtime.control.task = .ended .cancelled →
        runtime.halted = true := by
    intro hpresent hends
    by_contra hnot
    obtain ⟨hstate, -, hcancelled⟩ := hsound.calm hpresent (Bool.eq_false_iff.mpr hnot)
    exact hends.elim hstate hcancelled
  have hkept : runtime.control.state ≠ .running → runtime.presentation = true →
      runtime.control.state = .complete ∨
        (runtime.control.state = .stopped ∧ runtime.halted = true) := by
    intro hstate hpresent
    refine ((hsound.shown hpresent).resolve_left hstate).imp_right fun hstopped => ?_
    exact ⟨hstopped, hhalted hpresent (.inl hstopped)⟩
  rw [settle.eq_def]
  cases taskEnd with
  | returned =>
      simp only
      by_cases hrunning : runtime.control.state = .running
      · rw [if_pos hrunning]
        exact hgoes .complete nofun fun _ => .inl rfl
      · rw [if_neg hrunning]
        exact hgoes _ hrunning (hkept hrunning)
  | cancelled =>
      simp only
      by_cases hrunning : runtime.control.state = .running
      · rw [if_pos hrunning]
        exact hgoes .stopped nofun fun hpresent => .inr ⟨rfl, hhalted hpresent (.inr htask)⟩
      · rw [if_neg hrunning]
        exact hgoes _ hrunning (hkept hrunning)
  | failed => exact absurd htask hsound.unfailed

theorem goes_enter_wait (hsound : runtime.Sound) (hlock : runtime.lock = none)
    (hrunning : runtime.state = .running) :
    Goes call .wait runtime (runtime.enter call .wait) := by
  obtain ⟨hpresent, -⟩ := hsound.free hlock hrunning
  have hready : runtime.state ≠ .ready := by
    rw [hrunning]
    nofun
  have hcalm : runtime.halted = false := by
    refine Bool.eq_false_iff.mpr fun hhalted => ?_
    have hgone := hsound.halted hlock hhalted
    rw [hpresent] at hgone
    cases hgone
  have hcreated : runtime.control.state ≠ .created := by
    intro hcreated
    rcases hsound.shown hpresent with hstate | hstate | hstate <;> rw [hcreated] at hstate <;>
      cases hstate
  simp only [enter, hrunning, hpresent, ne_eq, not_true, Bool.not_true, Bool.false_eq_true,
    if_false]
  rw [awaitMedia, if_neg hcreated]
  split_ifs with hnone
  · have hcomplete : runtime.control.state = .complete := by
      rcases hsound.shown hpresent with hstate | hstate | hstate
      · rw [hsound.task hstate] at hnone
        cases hnone
      · exact hstate
      · exact absurd hstate (hsound.calm hpresent hcalm).1
    rw [hcomplete]
    exact ⟨hsound, .refl call runtime, ⟨rfl, nofun⟩, hready, fun _ => .inl rfl⟩
  · have hmedia : Goes call .wait runtime (runtime, .awaits .media) :=
      ⟨hsound, .refl call runtime, rfl, hready⟩
    cases htask : runtime.control.task with
    | absent => exact hmedia
    | running => exact hmedia
    | ended taskEnd => exact goes_settle hsound hready htask

theorem goes_reenter (hsound : runtime.Sound) (hlock : runtime.lock = none)
    (hpresent : runtime.presentation = true) {child : Option ControllerState}
    (hfits : runtime.Fits call (.relock child)) :
    Goes call .wait runtime (runtime.reenter call child) := by
  have hcalm : runtime.halted = false := by
    refine Bool.eq_false_iff.mpr fun hhalted => ?_
    have hgone := hsound.halted hlock hhalted
    rw [hpresent] at hgone
    cases hgone
  obtain ⟨hready, hchild⟩ := hfits
  rcases hchild hpresent with rfl | ⟨-, hhalted⟩
  · have hfree : ∀ other, runtime.lock = some other → other = call := by
      rw [hlock]
      nofun
    have hnot : ¬ (!runtime.presentation) = true := by
      rw [hpresent]
      nofun
    rw [reenter, if_neg hnot]
    exact ⟨{ hsound with free := fun _ => nofun }, evolves_of_own hfree nofun nofun (fun _ => id) rfl, nofun, rfl, nofun, hcalm⟩
  · rw [hcalm] at hhalted
    cases hhalted

/-! ## The other methods -/

theorem evolves_enter (hlock : runtime.lock = none) :
    Evolves call runtime { runtime with lock := some call } := by
  have hfree : ∀ other, runtime.lock = some other → other = call := by
    rw [hlock]
    nofun
  exact evolves_of_own hfree id .inl (fun _ => id) rfl

theorem Sound.enter (h : runtime.Sound) : Sound { runtime with lock := some call } :=
  { h with
    free := nofun
    halted := nofun }

theorem goes_taskStopped (hsound : runtime.Sound) (hlock : runtime.lock = some call)
    (hready : runtime.state ≠ .ready) (hhalted : runtime.halted = true) {taskEnd : TaskEnd}
    (htask : runtime.control.task = .ended taskEnd) (raised : Runtime → Turn) :
    Goes call .stop runtime (runtime.taskStopped .stop raised taskEnd) := by
  have hgoes : Goes call .stop runtime (runtime, .awaits (.stoppingSession .stop)) :=
    ⟨hsound, .refl call runtime, rfl, hlock, hready, hhalted⟩
  cases taskEnd with
  | returned => exact hgoes
  | cancelled => exact hgoes
  | failed => exact absurd htask hsound.unfailed

theorem goes_stopMedia (hsound : runtime.Sound) (hlock : runtime.lock = some call)
    (hready : runtime.state ≠ .ready) (hhalted : runtime.halted = true)
    (hpresent : runtime.presentation = true) : Goes call .stop runtime runtime.stopMedia := by
  rw [stopMedia.eq_def]
  split
  case h_1 hcreated =>
    rcases hsound.shown hpresent with hstate | hstate | hstate <;> rw [hcreated] at hstate <;>
      cases hstate
  case h_2 hrunning =>
    have hhas : ¬ (!runtime.control.hasTask) = true := by
      rw [hsound.task hrunning]
      nofun
    have hwait : Goes call .stop runtime
        ({ runtime with control := { runtime.control with cancelling := true } },
          .awaits (.stoppingTask .stop)) := by
      refine ⟨{ hsound with calm := fun _ hnot => ?_ }, ⟨id, .inl, fun _ => id, id, .inl, fun _ _ _ => rfl⟩, rfl, hlock, hready,
        hhalted⟩
      change runtime.halted = false at hnot
      rw [hhalted] at hnot
      cases hnot
    rw [stopTask, if_neg hhas]
    split
    case h_1 taskEnd htask => exact goes_taskStopped hsound hlock hready hhalted htask _
    case h_2 => exact hwait
    case h_3 => exact hwait
  case h_3 => exact goes_clean hsound hlock hready (.inl ⟨rfl, rfl⟩) fun _ => hhalted

theorem goes_enter_stop (hsound : runtime.Sound) (hlock : runtime.lock = none)
    (hrunning : runtime.state = .running) :
    Goes call .stop runtime (runtime.enter call .stop) := by
  obtain ⟨hpresent, -⟩ := hsound.free hlock hrunning
  have hready : runtime.state ≠ .ready := by
    rw [hrunning]
    nofun
  have hentered : Evolves call runtime { runtime with lock := some call, halted := true } := by
    refine ⟨id, .inl, fun _ => id, fun _ => rfl, fun _ => .inr (.inl hrunning), fun other _ h => ?_⟩
    rw [hlock] at h
    cases h
  have hsame : runtime.enter call .stop =
      stopMedia { runtime with lock := some call, halted := true } := by
    rw [enter.eq_def]
    simp only
    rw [if_neg (not_not_intro hrunning), if_neg]
    rw [hpresent]
    nofun
  rw [hsame]
  have hhalted : Sound { runtime with lock := some call, halted := true } :=
    ⟨hsound.task, hsound.unfailed, hsound.shown, nofun, nofun, fun _ => nofun⟩
  exact (goes_stopMedia hhalted rfl hready rfl hpresent).behind hentered

theorem goes_enter_relayout (hsound : runtime.Sound) (hlock : runtime.lock = none)
    (hrunning : runtime.state = .running) {layout : Layout}
    (hlength : 2 ≤ layout.length ∧ layout.length ≤ 16)
    (hslots : layout.toFinset = runtime.layout.toFinset) :
    Goes call .relayout runtime (runtime.enter call (.relayout layout)) := by
  obtain ⟨hpresent, hwindows⟩ := hsound.free hlock hrunning
  have hcalm : runtime.halted = false := by
    refine Bool.eq_false_iff.mpr fun hhalted => ?_
    have hgone := hsound.halted hlock hhalted
    rw [hpresent] at hgone
    cases hgone
  have hsame : runtime.enter call (.relayout layout) =
      ({ runtime with lock := some call }, .awaits (.relayouting layout)) := by
    rw [enter.eq_def]
    simp only
    rw [if_neg (not_not_intro hrunning), if_neg (not_not_intro hlength),
      if_neg (not_not_intro hslots), if_neg]
    rw [hwindows]
    nofun
  rw [hsame]
  exact ⟨hsound.enter, evolves_enter hlock, rfl, rfl, hrunning, hpresent, hwindows, hcalm⟩

theorem goes_enter_close (hsound : runtime.Sound) (hlock : runtime.lock = none)
    (hready : runtime.state ≠ .ready) :
    Goes call .close runtime (runtime.enter call .close) := by
  rw [enter.eq_def]
  simp only
  split_ifs with hclosed
  · exact ⟨hsound, .refl call runtime, hready, trivial⟩
  · exact (goes_clean hsound.enter rfl hready (.inr ⟨rfl, rfl⟩) nofun).behind (evolves_enter hlock)

theorem goes_opened (hfits : runtime.Fits call .opening) :
    Goes call .start runtime (runtime.opened .returned) := by
  obtain ⟨hlock, hready, hcalm, hwindows⟩ := hfits
  refine ⟨⟨fun _ => rfl, nofun, fun _ => .inl rfl, fun _ _ => ⟨rfl, hwindows⟩, fun _ hhalted => ?_,
    fun _ _ => ⟨nofun, rfl, nofun⟩⟩, ⟨nofun, fun _ => .inr hready, fun hnot => absurd hready hnot,
    id, .inl, fun other hne hother => ?_⟩, nofun, rfl⟩
  · change runtime.halted = true at hhalted
    rw [hcalm] at hhalted
    cases hhalted
  · rw [hlock] at hother
    exact absurd (Option.some.inj hother).symm hne

theorem goes_relayouted (hsound : runtime.Sound) {layout : Layout}
    (hfits : runtime.Fits call (.relayouting layout)) :
    Goes call .relayout runtime
      ({ runtime with layout := layout }.leave (.returned runtime.state)) := by
  obtain ⟨hlock, hrunning, hpresent, hwindows, hcalm⟩ := hfits
  refine ⟨{ hsound with
    free := fun _ _ => ⟨hpresent, hwindows⟩
    halted := fun _ hhalted => ?_ },
    ⟨id, .inl, fun _ => id, id, .inl, fun other hne hother => ?_⟩, ?_, hrunning⟩
  · change runtime.halted = true at hhalted
    rw [hcalm] at hhalted
    cases hhalted
  · rw [hlock] at hother
    exact absurd (Option.some.inj hother).symm hne
  · change runtime.state ≠ .ready
    rw [hrunning]
    nofun

/-! ## Every step -/

theorem goes_resume {job : Job} {turn : Turn} (hsound : runtime.Sound) (hat : job.At place)
    (hfits : runtime.Fits call place) (hneeds : runtime.lock = none → runtime.Ready place)
    (hresume : runtime.resume call .returned place = some turn) : Goes call job runtime turn := by
  rw [resume.eq_def] at hresume
  cases place with
  | lock method =>
      simp only at hresume
      split_ifs at hresume with hbusy
      cases hresume
      have hlock : runtime.lock = none := by simpa using hbusy
      have hready := hneeds hlock
      cases method with
      | wait => exact hat ▸ goes_enter_wait hsound hlock hready
      | stop => exact hat ▸ goes_enter_stop hsound hlock hready
      | relayout layout =>
          obtain ⟨rfl, hlength⟩ := hat
          exact goes_enter_relayout hsound hlock hready.1 hlength hready.2
      | close => exact hat ▸ goes_enter_close hsound hlock hfits
  | opening =>
      cases hresume
      exact hat ▸ goes_opened hfits
  | media =>
      simp only at hresume
      split at hresume
      case h_1 taskEnd htask =>
        cases hresume
        exact hat ▸ goes_settle hsound hfits htask
      case h_2 => cases hresume
  | relock child =>
      simp only at hresume
      split_ifs at hresume with hbusy
      cases hresume
      have hlock : runtime.lock = none := by simpa using hbusy
      obtain ⟨rfl, -⟩ := hat
      exact goes_reenter hsound hlock (hneeds hlock) hfits
  | relayouting layout =>
      cases hresume
      exact hat ▸ goes_relayouted hsound hfits
  | stoppingTask stopper =>
      simp only at hresume
      split at hresume
      case h_1 taskEnd htask =>
        cases hresume
        obtain ⟨hlock, hready, hstopper⟩ := hfits
        cases stopper with
        | stop => exact hat ▸ goes_taskStopped hsound hlock hready hstopper htask _
        | close cleanup =>
            have hne : taskEnd ≠ .failed := by
              rintro rfl
              exact hsound.unfailed htask
            exact Cleaning.taskStopped ⟨hsound, hlock, hready, hstopper.1, hat, hstopper.2⟩ hne _
      case h_2 => cases hresume
  | stoppingSession stopper =>
      cases hresume
      obtain ⟨hlock, hready, hstopper⟩ := hfits
      cases stopper with
      | stop =>
          have hstopped : (runtime.conclude .stopped).Sound := by
            refine ⟨nofun, hsound.unfailed, fun _ => .inr (.inr rfl), hsound.free, hsound.halted,
              fun _ hnot => ?_⟩
            change runtime.halted = false at hnot
            rw [hstopper] at hnot
            cases hnot
          have hclean : Goes call .stop (runtime.conclude .stopped)
              ((runtime.conclude .stopped).clean .stop) :=
            goes_clean hstopped hlock hready (.inl ⟨rfl, rfl⟩) fun _ => hstopper
          exact hat ▸ hclean.behind (evolves_conclude ..)
      | close cleanup =>
          have hcleaning : Cleaning call cleanup job (runtime.conclude .stopped) :=
            Cleaning.conclude ⟨hsound, hlock, hready, hstopper.1, hat, hstopper.2⟩ nofun
          exact ⟨hcleaning.sound, evolves_conclude .., hat, hlock, hready, hstopper.1, hstopper.2⟩
  | closingSession cleanup =>
      cases hresume
      obtain ⟨hlock, hready, hdropped, hhalted⟩ := hfits
      have hcleaning : Cleaning call cleanup job (runtime.conclude .closed) :=
        Cleaning.conclude ⟨hsound, hlock, hready, hdropped, hat, hhalted⟩ nofun
      exact hcleaning.closeWindows.behind (evolves_conclude ..)
  | closingWindows cleanup failed =>
      cases hresume
      obtain ⟨hlock, hready, hdropped, hhalted⟩ := hfits
      obtain ⟨rfl, hserves⟩ := hat
      exact Cleaning.cleaned ⟨hsound, hlock, hready, hdropped, hserves, hhalted⟩

theorem Sound.endTask (h : runtime.Sound) {taskEnd : TaskEnd} (hne : taskEnd ≠ .failed) :
    (runtime.endTask taskEnd).Sound := by
  rw [Runtime.endTask]
  split_ifs with hends
  · refine { h with
    unfailed := fun heq => hne (Task.ended.inj heq)
    calm := fun hpresent hhalted => ?_ }
    obtain ⟨hstate, hcancelling, -⟩ := h.calm hpresent hhalted
    refine ⟨hstate, hcancelling, fun heq => ?_⟩
    rw [hends.2 (Task.ended.inj heq)] at hcancelling
    cases hcancelling
  · exact h

theorem evolves_endTask (call : ℕ) (taskEnd : TaskEnd) (runtime : Runtime) :
    Evolves call runtime (runtime.endTask taskEnd) := by
  rw [Runtime.endTask]
  split_ifs
  · exact ⟨id, .inl, fun _ => id, id, .inl, fun _ _ _ => rfl⟩
  · exact .refl call runtime

end Runtime

end K5Vision.Presentation.Operator
