import K5Vision.Presentation.MixedPresentation
import Mathlib.Algebra.GroupWithZero.Nat

/-!
# What a mixed presentation keeps

In every run of a mixed presentation the consumer is entered by one frame consumer at a time and
within the limits, the counters are those of the frames that it has accepted, `COMPLETE` stands for
streams that are all complete, and no task is left when `run` has ended (`Inv`).  Its state is
terminal by then, as long as the caller is not cancelled while `run` awaits `_cancel_tasks`
(`mixed_presentation_safe`); a cancellation there leaves it at `RUNNING` (`left_running`).

The proof follows the steps.  `SameFrames` and `SameTasks` are the two frames: a step of a frame
consumer does not touch what is said of tasks, and a step of a task does not touch what is said of
frames.
-/

namespace K5Vision.Presentation.Mixed

open Library

variable {κ : Type} {streams : List Stream} {config : Config}
  {s next : System κ streams}

/-! ## What is to hold -/

def CallPhase.isConsuming {n : ℕ} : CallPhase n → Bool
  | .consuming _ _ => true
  | _ => false

def Entry.WithinLimits (config : Config) (entry : Entry) : Prop :=
  entry.deliveredFrames < config.maxTotalFrames ∧
    entry.deliveredFrameBytes + entry.frame.payloadBytes ≤ config.maxTotalFrameBytes

def MixedState.IsTerminal (state : MixedState) : Prop :=
  state = .complete ∨ state = .cancelled ∨ state = .failed

/-- `run` has ended. -/
def RunPhase.isEnded : RunPhase → Bool
  | .ended _ => true
  | _ => false

structure PresentationSafe (config : Config) (s : System κ streams) : Prop where
  exclusive : ∀ k k', (s.calls k).isConsuming = true → (s.calls k').isConsuming = true → k = k'
  limits : ∀ entry ∈ s.entries, entry.WithinLimits config
  frames : s.presentation.deliveredFrames = s.accepted.length
  bytes : s.presentation.deliveredFrameBytes = (s.accepted.map Frame.payloadBytes).sum
  complete : s.presentation.state = .complete →
    (∀ i, s.tasks i = .done .returned) ∧ s.presentation.completedStreams = streams.length
  ended : s.run.isEnded = true → s.presentation.state.IsTerminal ∧ allDone s

/-- The caller is not cancelled while `run` awaits `_cancel_tasks`. -/
def undisturbed (s : System κ streams) (event : Event κ streams.length) : Prop :=
  match event, s.run with
  | .cancelCaller, .cleaning _ _ => False
  | _, _ => True

/-! ## The frame consumers -/

structure FramesSafe (config : Config) (s : System κ streams) : Prop where
  holder : ∀ k, (s.calls k).isConsuming = true ↔ s.lock = some k
  limits : ∀ entry ∈ s.entries, entry.WithinLimits config
  frames : s.presentation.deliveredFrames = s.accepted.length
  bytes : s.presentation.deliveredFrameBytes = (s.accepted.map Frame.payloadBytes).sum

/-- A step that is none of a frame consumer. -/
structure SameFrames (s next : System κ streams) : Prop where
  calls : next.calls = s.calls
  lock : next.lock = s.lock
  entries : next.entries = s.entries
  accepted : next.accepted = s.accepted
  frames : next.presentation.deliveredFrames = s.presentation.deliveredFrames
  bytes : next.presentation.deliveredFrameBytes = s.presentation.deliveredFrameBytes

theorem FramesSafe.of_same (h : FramesSafe config s) (hsame : SameFrames s next) :
    FramesSafe config next where
  holder k := by
    rw [hsame.calls, hsame.lock]
    exact h.holder k
  limits := by
    rw [hsame.entries]
    exact h.limits
  frames := by rw [hsame.frames, hsame.accepted, h.frames]
  bytes := by rw [hsame.bytes, hsame.accepted, h.bytes]

section

variable [DecidableEq κ]

theorem FramesSafe.outside (h : FramesSafe config s) {k : κ} {phase : CallPhase streams.length}
    (hold : (s.calls k).isConsuming = false) (hphase : phase.isConsuming = false)
    (hcalls : next.calls = Function.update s.calls k phase) (hlock : next.lock = s.lock)
    (hentries : next.entries = s.entries) (haccepted : next.accepted = s.accepted)
    (hpresentation : next.presentation = s.presentation) : FramesSafe config next := by
  refine ⟨?_, ?_, ?_, ?_⟩
  · intro k'
    rw [hcalls, hlock, ← h.holder k']
    by_cases heq : k' = k
    · subst heq
      rw [Function.update_self, hphase, hold]
    · rw [Function.update_of_ne heq]
  · rw [hentries]
    exact h.limits
  · rw [hpresentation, haccepted, h.frames]
  · rw [hpresentation, haccepted, h.bytes]

theorem FramesSafe.emit (h : FramesSafe config s) (k : κ) (i : Fin streams.length)
    (frame : Option Frame) : FramesSafe config (emit k i frame s) := by
  unfold Mixed.emit
  split
  · next hidle =>
      exact h.outside (by rw [hidle]; rfl) rfl rfl rfl rfl rfl rfl
  · next hidle =>
      exact h.outside (by rw [hidle]; rfl) rfl rfl rfl rfl rfl rfl
  · exact h

theorem FramesSafe.enterConsumer (h : FramesSafe config s) (k : κ) :
    FramesSafe config (enterConsumer config k s) := by
  unfold Mixed.enterConsumer
  split
  · next i frame hwaiting hfree =>
      have hold : (s.calls k).isConsuming = false := by rw [hwaiting]; rfl
      split_ifs with hframes hbytes
      · exact h.outside hold rfl rfl rfl rfl rfl rfl
      · exact h.outside hold rfl rfl rfl rfl rfl rfl
      refine ⟨?_, ?_, h.frames, h.bytes⟩
      · intro k'
        simp only [setCall]
        by_cases heq : k' = k
        · subst heq
          simp [CallPhase.isConsuming]
        -- The lock was free, so no other frame consumer is in the consumer.
        have hother := h.holder k'
        rw [hfree] at hother
        rw [Function.update_of_ne heq, hother]
        simpa using Ne.symm heq
      · intro entry hentry
        rcases List.mem_append.mp hentry with hold | hnew
        · exact h.limits entry hold
        · rw [List.mem_singleton] at hnew
          subst hnew
          exact ⟨Nat.lt_of_not_le hframes, Nat.le_of_not_lt hbytes⟩
  · exact h

theorem FramesSafe.leave (h : FramesSafe config s) {k : κ} {callEnd : CallEnd}
    (hold : (s.calls k).isConsuming = true)
    (hcalls : next.calls = Function.update s.calls k (.ended callEnd)) (hlock : next.lock = none)
    (k' : κ) : (next.calls k').isConsuming = true ↔ next.lock = some k' := by
  have hholder := (h.holder k).mp hold
  rw [hcalls, hlock]
  by_cases heq : k' = k
  · subst heq
    simp [CallPhase.isConsuming]
  have hother := h.holder k'
  rw [hholder] at hother
  rw [Function.update_of_ne heq, hother]
  simpa using Ne.symm heq

theorem FramesSafe.consume (h : FramesSafe config s) (k : κ) (answer : ConsumerEnd) :
    FramesSafe config (consume k answer s) := by
  unfold Mixed.consume
  split
  · next i frame hconsuming =>
      have hold : (s.calls k).isConsuming = true := by rw [hconsuming]; rfl
      cases answer with
      | accepted =>
          refine ⟨h.leave hold rfl rfl, h.limits, ?_, ?_⟩
          · simp [Snapshot.deliver, h.frames]
          · simp [Snapshot.deliver, h.bytes]
      | timedOut => exact ⟨h.leave hold rfl rfl, h.limits, h.frames, h.bytes⟩
      | failed => exact ⟨h.leave hold rfl rfl, h.limits, h.frames, h.bytes⟩
      | cancelled => exact ⟨h.leave hold rfl rfl, h.limits, h.frames, h.bytes⟩
  · exact h

theorem FramesSafe.withdraw (h : FramesSafe config s) (k : κ) :
    FramesSafe config (withdraw k s) := by
  unfold Mixed.withdraw
  split
  · next i frame hwaiting =>
      exact h.outside (by rw [hwaiting]; rfl) rfl rfl rfl rfl rfl rfl
  · exact h

/-- A step of a frame consumer. -/
structure SameTasks (s next : System κ streams) : Prop where
  tasks : next.tasks = s.tasks
  run : next.run = s.run
  state : next.presentation.state = s.presentation.state
  completed : next.presentation.completedStreams = s.presentation.completedStreams

theorem sameTasks_emit (k : κ) (i : Fin streams.length) (frame : Option Frame) :
    SameTasks s (emit k i frame s) := by
  unfold emit
  split <;> exact ⟨rfl, rfl, rfl, rfl⟩

theorem sameTasks_enterConsumer (k : κ) : SameTasks s (enterConsumer config k s) := by
  unfold enterConsumer
  split
  · split_ifs <;> exact ⟨rfl, rfl, rfl, rfl⟩
  · exact ⟨rfl, rfl, rfl, rfl⟩

theorem sameTasks_consume (k : κ) (answer : ConsumerEnd) : SameTasks s (consume k answer s) := by
  unfold consume
  split
  · cases answer <;> exact ⟨rfl, rfl, rfl, rfl⟩
  · exact ⟨rfl, rfl, rfl, rfl⟩

theorem sameTasks_withdraw (k : κ) : SameTasks s (withdraw k s) := by
  unfold withdraw
  split <;> exact ⟨rfl, rfl, rfl, rfl⟩

end

/-! ## The tasks and `run` -/

/-- The task has counted its stream. -/
def TaskPhase.isCounted : TaskPhase → Bool
  | .done .returned => true
  | .done .broken => true
  | _ => false

def countedTasks (s : System κ streams) : ℕ :=
  (Finset.univ.filter fun i => (s.tasks i).isCounted = true).card

structure TasksSafe (s : System κ streams) : Prop where
  counted : s.presentation.completedStreams = countedTasks s
  /-- As long as `gather` has no exception, every task that has ended has returned. -/
  gathered : ∀ cancelled, s.run = .gathering none cancelled →
    ∀ i taskEnd, s.tasks i = .done taskEnd → taskEnd = .returned
  running : s.run.isEnded = false → s.presentation.state = .running
  ended : s.run.isEnded = true → allDone s
  complete : s.presentation.state = .complete → ∀ i, s.tasks i = .done .returned

theorem TasksSafe.of_same (h : TasksSafe s) (hsame : SameTasks s next) : TasksSafe next where
  counted := by
    rw [hsame.completed, h.counted, countedTasks, countedTasks, hsame.tasks]
  gathered := by
    rw [hsame.run, hsame.tasks]
    exact h.gathered
  running := by
    rw [hsame.run, hsame.state]
    exact h.running
  ended := by
    rw [hsame.run, allDone, hsame.tasks]
    exact h.ended
  complete := by
    rw [hsame.state, hsame.tasks]
    exact h.complete

theorem countedTasks_update {i : Fin streams.length} {phase : TaskPhase}
    (hold : (s.tasks i).isCounted = false) (htasks : next.tasks = Function.update s.tasks i phase) :
    countedTasks next = countedTasks s + if phase.isCounted then 1 else 0 := by
  have hmem : i ∉ Finset.univ.filter fun j => (s.tasks j).isCounted = true := by simp [hold]
  unfold countedTasks
  cases hphase : phase.isCounted with
  | true =>
      have hinsert : (Finset.univ.filter fun j => (next.tasks j).isCounted = true) =
          insert i (Finset.univ.filter fun j => (s.tasks j).isCounted = true) := by
        ext j
        rw [htasks]
        by_cases heq : j = i
        · subst heq
          simp [hphase]
        · simp [heq]
      rw [hinsert, Finset.card_insert_of_notMem hmem]
      rfl
  | false =>
      have hsame : (Finset.univ.filter fun j => (next.tasks j).isCounted = true) =
          Finset.univ.filter fun j => (s.tasks j).isCounted = true := by
        ext j
        rw [htasks]
        by_cases heq : j = i
        · subst heq
          simp [hphase, hold]
        · simp [Function.update_of_ne heq]
      rw [hsame]
      simp

theorem TasksSafe.update (h : TasksSafe s) {i : Fin streams.length} {phase : TaskPhase}
    (hold : (s.tasks i).isDone = false) (htasks : next.tasks = Function.update s.tasks i phase)
    (hcompleted : next.presentation.completedStreams =
      s.presentation.completedStreams + if phase.isCounted then 1 else 0)
    (hstate : next.presentation.state = s.presentation.state)
    (hended : next.run.isEnded = s.run.isEnded)
    (hgathered : ∀ cancelled, next.run = .gathering none cancelled →
      (∃ before, s.run = .gathering none before) ∧
        ∀ taskEnd, phase = .done taskEnd → taskEnd = .returned) : TasksSafe next := by
  have hcounted : (s.tasks i).isCounted = false := by
    cases htask : s.tasks i with
    | done taskEnd =>
        rw [htask] at hold
        cases hold
    | _ => rfl
  have hrunning : s.run.isEnded = false := by
    cases hrun : s.run.isEnded with
    | false => rfl
    | true =>
        have hdone := h.ended hrun i
        rw [hold] at hdone
        cases hdone
  refine ⟨?_, ?_, ?_, ?_, ?_⟩
  · rw [hcompleted, h.counted, countedTasks_update hcounted htasks]
  · intro cancelled hrun j taskEnd hdone
    obtain ⟨⟨before, hbefore⟩, hphase⟩ := hgathered cancelled hrun
    rw [htasks] at hdone
    by_cases heq : j = i
    · subst heq
      rw [Function.update_self] at hdone
      exact hphase taskEnd hdone
    · rw [Function.update_of_ne heq] at hdone
      exact h.gathered before hbefore j taskEnd hdone
  · intro _
    rw [hstate]
    exact h.running hrunning
  · intro hnext
    rw [hended, hrunning] at hnext
    cases hnext
  · intro hcomplete
    rw [hstate, h.running hrunning] at hcomplete
    cases hcomplete

theorem isEnded_taskDone (taskEnd : TaskEnd) (run : RunPhase) :
    (run.taskDone taskEnd).isEnded = run.isEnded := by
  unfold RunPhase.taskDone
  split <;> rfl

theorem gathering_taskDone {taskEnd : TaskEnd} {run : RunPhase} {cancelled : Bool}
    (h : run.taskDone taskEnd = .gathering none cancelled) :
    (∃ before, run = .gathering none before) ∧ taskEnd = .returned := by
  unfold RunPhase.taskDone at h
  split at h
  · next before =>
      refine ⟨⟨before, rfl⟩, ?_⟩
      cases taskEnd with
      | returned => rfl
      | _ => simp [TaskEnd.verdict] at h
  · next hne => exact absurd h (hne _)

theorem TasksSafe.endTask (h : TasksSafe s) {i : Fin streams.length} {taskEnd : TaskEnd}
    (hold : (s.tasks i).isDone = false) (hcounted : (TaskPhase.done taskEnd).isCounted = false) :
    TasksSafe (endTask i taskEnd s) := by
  refine h.update hold rfl (by simp [hcounted, Mixed.endTask]) rfl (isEnded_taskDone _ _) ?_
  intro cancelled hrun
  obtain ⟨hbefore, hreturned⟩ := gathering_taskDone hrun
  refine ⟨hbefore, ?_⟩
  intro other hother
  cases hother
  exact hreturned

theorem TasksSafe.deliveryEnds (h : TasksSafe s) (i : Fin streams.length) (answer : DeliveryEnd) :
    TasksSafe (deliveryEnds i answer s) := by
  unfold Mixed.deliveryEnds
  split
  · next hdelivering =>
      have hold : (s.tasks i).isDone = false := by rw [hdelivering]; rfl
      cases answer with
      | returned span =>
          refine h.update hold rfl (by simp [TaskPhase.isCounted]) rfl rfl ?_
          intro cancelled hrun
          exact ⟨⟨cancelled, hrun⟩, fun _ hdone => by cases hdone⟩
      | raised error => exact h.endTask hold rfl
      | cancelled => exact h.endTask hold rfl
  · exact h

theorem TasksSafe.finish (h : TasksSafe s) (i : Fin streams.length) : TasksSafe (finish i s) := by
  unfold Mixed.finish
  split
  · next span hfinishing _ =>
      have hold : (s.tasks i).isDone = false := by rw [hfinishing]; rfl
      refine h.update hold rfl ?_ rfl (isEnded_taskDone _ _) ?_
      · cases span <;> rfl
      intro cancelled hrun
      obtain ⟨hbefore, hreturned⟩ := gathering_taskDone hrun
      refine ⟨hbefore, ?_⟩
      intro other hother
      cases hother
      exact hreturned
  · exact h

theorem TasksSafe.abandon (h : TasksSafe s) (i : Fin streams.length) : TasksSafe (abandon i s) := by
  unfold Mixed.abandon
  split
  · next hfinishing => exact h.endTask (by rw [hfinishing]; rfl) rfl
  · exact h

theorem TasksSafe.cancelCaller (h : TasksSafe s) : TasksSafe (cancelCaller s) := by
  unfold Mixed.cancelCaller
  split
  · next first cancelled hrun =>
      refine ⟨h.counted, ?_, fun _ => h.running (by rw [hrun]; rfl), nofun, h.complete⟩
      intro after hafter
      cases hafter
      exact h.gathered cancelled hrun
  · next verdict interrupted hrun =>
      exact ⟨h.counted, nofun, fun _ => h.running (by rw [hrun]; rfl), nofun, h.complete⟩
  · exact h

theorem TasksSafe.clean (h : TasksSafe s) {verdict : Verdict} (hrun : s.run.isEnded = false) :
    TasksSafe { s with run := .cleaning verdict false } :=
  ⟨h.counted, nofun, fun _ => h.running hrun, nofun, h.complete⟩

theorem TasksSafe.resume (h : TasksSafe s) (byCancellation : Bool) :
    TasksSafe (resume byCancellation s) := by
  unfold Mixed.resume
  split
  · next first cancelled hrun =>
      have hrunning : s.run.isEnded = false := by rw [hrun]; rfl
      split
      · split
        · exact h.clean hrunning
        · exact h
      cases first with
      | some verdict => exact h.clean hrunning
      | none =>
          dsimp only
          split_ifs with hdone
          · -- Every task has ended, and none with an exception.
            have hreturned : ∀ i, s.tasks i = .done .returned := by
              intro i
              have hend := hdone.1 i
              cases htask : s.tasks i with
              | done taskEnd => rw [h.gathered cancelled hrun i taskEnd htask]
              | _ =>
                  rw [htask] at hend
                  cases hend
            exact ⟨h.counted, nofun, nofun, fun _ => hdone.1, fun _ => hreturned⟩
          · exact h
  · next verdict interrupted hrun =>
      have hrunning : s.presentation.state = .running := h.running (by rw [hrun]; rfl)
      split_ifs with hdone hinterrupted
      · exact ⟨h.counted, nofun, nofun, fun _ => hdone, h.complete⟩
      · refine ⟨h.counted, nofun, nofun, fun _ => hdone, ?_⟩
        intro hcomplete
        cases verdict <;> cases hcomplete
      · exact h
  · exact h

theorem sameFrames_deliveryEnds (i : Fin streams.length) (answer : DeliveryEnd) :
    SameFrames s (deliveryEnds i answer s) := by
  unfold deliveryEnds
  split
  · cases answer <;> exact ⟨rfl, rfl, rfl, rfl, rfl, rfl⟩
  · exact ⟨rfl, rfl, rfl, rfl, rfl, rfl⟩

theorem sameFrames_finish (i : Fin streams.length) : SameFrames s (finish i s) := by
  unfold finish
  split <;> exact ⟨rfl, rfl, rfl, rfl, rfl, rfl⟩

theorem sameFrames_abandon (i : Fin streams.length) : SameFrames s (abandon i s) := by
  unfold abandon
  split <;> exact ⟨rfl, rfl, rfl, rfl, rfl, rfl⟩

theorem sameFrames_cancelCaller : SameFrames s (cancelCaller s) := by
  unfold cancelCaller
  split <;> exact ⟨rfl, rfl, rfl, rfl, rfl, rfl⟩

theorem sameFrames_resume (byCancellation : Bool) : SameFrames s (resume byCancellation s) := by
  unfold resume
  split
  · next first _ _ =>
      split
      · split <;> exact ⟨rfl, rfl, rfl, rfl, rfl, rfl⟩
      cases first with
      | some verdict => exact ⟨rfl, rfl, rfl, rfl, rfl, rfl⟩
      | none =>
          dsimp only
          split_ifs <;> exact ⟨rfl, rfl, rfl, rfl, rfl, rfl⟩
  · split_ifs <;> exact ⟨rfl, rfl, rfl, rfl, rfl, rfl⟩
  · exact ⟨rfl, rfl, rfl, rfl, rfl, rfl⟩

/-! ## An undisturbed clean-up -/

structure Steady (s : System κ streams) : Prop where
  cleaning : ∀ verdict interrupted, s.run = .cleaning verdict interrupted → interrupted = false
  ended : s.run.isEnded = true → s.presentation.state.IsTerminal

theorem Steady.of_run (h : Steady s)
    (hcleaning : ∀ verdict interrupted, next.run = .cleaning verdict interrupted →
      s.run = .cleaning verdict interrupted)
    (hended : next.run.isEnded = s.run.isEnded)
    (hstate : next.presentation.state = s.presentation.state) : Steady next := by
  refine ⟨fun verdict interrupted hrun => h.cleaning verdict interrupted (hcleaning _ _ hrun), ?_⟩
  intro hnext
  rw [hstate]
  exact h.ended (hended ▸ hnext)

theorem Steady.of_same (h : Steady s) (hsame : SameTasks s next) : Steady next := by
  refine h.of_run ?_ ?_ hsame.state
  · intro verdict interrupted hrun
    rwa [hsame.run] at hrun
  · rw [hsame.run]

theorem cleaning_taskDone {taskEnd : TaskEnd} {run : RunPhase} {verdict : Verdict}
    {interrupted : Bool} (h : run.taskDone taskEnd = .cleaning verdict interrupted) :
    run = .cleaning verdict interrupted := by
  unfold RunPhase.taskDone at h
  split at h
  · cases h
  · exact h

theorem Steady.endTask (h : Steady s) (i : Fin streams.length) (taskEnd : TaskEnd) :
    Steady (endTask i taskEnd s) :=
  h.of_run (fun _ _ hrun => cleaning_taskDone hrun) (isEnded_taskDone _ _) rfl

theorem Steady.deliveryEnds (h : Steady s) (i : Fin streams.length) (answer : DeliveryEnd) :
    Steady (deliveryEnds i answer s) := by
  unfold Mixed.deliveryEnds
  split
  · cases answer with
    | returned span => exact h.of_run (fun _ _ hrun => hrun) rfl rfl
    | raised error => exact h.endTask i _
    | cancelled => exact h.endTask i _
  · exact h

theorem Steady.finish (h : Steady s) (i : Fin streams.length) : Steady (finish i s) := by
  unfold Mixed.finish
  split
  · exact h.of_run (fun _ _ hrun => cleaning_taskDone hrun) (isEnded_taskDone _ _) rfl
  · exact h

theorem Steady.abandon (h : Steady s) (i : Fin streams.length) : Steady (abandon i s) := by
  unfold Mixed.abandon
  split
  · exact h.endTask i _
  · exact h

theorem Steady.cancelCaller (h : Steady s) (hundisturbed : undisturbed s .cancelCaller) :
    Steady (cancelCaller s) := by
  unfold Mixed.cancelCaller
  split
  · exact ⟨nofun, nofun⟩
  · next verdict interrupted hrun => simp [undisturbed, hrun] at hundisturbed
  · exact h

theorem Steady.resume (h : Steady s) (byCancellation : Bool) :
    Steady (resume byCancellation s) := by
  have hclean (verdict : Verdict) : Steady { s with run := .cleaning verdict false } := by
    refine ⟨?_, nofun⟩
    intro verdict interrupted hrun
    cases hrun
    rfl
  unfold Mixed.resume
  split
  · next first _ _ =>
      split
      · split
        · exact hclean .cancelled
        · exact h
      cases first with
      | some verdict => exact hclean verdict
      | none =>
          dsimp only
          split_ifs
          · exact ⟨nofun, fun _ => .inl rfl⟩
          · exact h
  · next verdict interrupted hrun =>
      have hsteady := h.cleaning verdict interrupted hrun
      subst hsteady
      split
      · refine ⟨nofun, fun _ => ?_⟩
        cases verdict with
        | cancelled => exact .inr (.inl rfl)
        | failed error => exact .inr (.inr rfl)
      · exact h
  · exact h

/-! ## Every run -/

structure Inv (config : Config) (s : System κ streams) : Prop where
  frames : FramesSafe config s
  tasks : TasksSafe s

theorem inv_start {started : System κ streams}
    (h : start config Snapshot.create streams = .ok started) : Inv config started := by
  unfold start at h
  split_ifs at h
  · split at h
    · cases h
    · cases h
      refine ⟨⟨?_, nofun, rfl, rfl⟩, ⟨?_, nofun, fun _ => rfl, nofun, nofun⟩⟩
      · intro k
        simp [CallPhase.isConsuming]
      · simp [countedTasks, TaskPhase.isCounted, Snapshot.create]

theorem steady_start {started : System κ streams}
    (h : start config Snapshot.create streams = .ok started) : Steady started := by
  unfold start at h
  split_ifs at h
  split at h
  · cases h
  · cases h
    exact ⟨nofun, nofun⟩

theorem Inv.presentationSafe (h : Inv config s) (hsteady : Steady s) : PresentationSafe config s where
  exclusive k k' hk hk' := by
    rw [h.frames.holder] at hk hk'
    rw [hk] at hk'
    exact Option.some.inj hk'
  limits := h.frames.limits
  frames := h.frames.frames
  bytes := h.frames.bytes
  complete hstate := by
    have hreturned := h.tasks.complete hstate
    refine ⟨hreturned, ?_⟩
    rw [h.tasks.counted]
    simp [countedTasks, hreturned, TaskPhase.isCounted]
  ended hended := ⟨hsteady.ended hended, h.tasks.ended hended⟩

variable [DecidableEq κ]

theorem inv_step (condition : System κ streams → Event κ streams.length → Prop)
    (h : Inv config s) (event : Event κ streams.length) :
    Inv config ((machine config condition).step s event) := by
  cases event with
  | emit k i frame => exact ⟨h.frames.emit k i frame, h.tasks.of_same (sameTasks_emit k i frame)⟩
  | enterConsumer k =>
      exact ⟨h.frames.enterConsumer k, h.tasks.of_same (sameTasks_enterConsumer k)⟩
  | consume k answer =>
      exact ⟨h.frames.consume k answer, h.tasks.of_same (sameTasks_consume k answer)⟩
  | withdraw k => exact ⟨h.frames.withdraw k, h.tasks.of_same (sameTasks_withdraw k)⟩
  | deliveryEnds i answer =>
      exact ⟨h.frames.of_same (sameFrames_deliveryEnds i answer), h.tasks.deliveryEnds i answer⟩
  | finish i => exact ⟨h.frames.of_same (sameFrames_finish i), h.tasks.finish i⟩
  | abandon i => exact ⟨h.frames.of_same (sameFrames_abandon i), h.tasks.abandon i⟩
  | cancelCaller => exact ⟨h.frames.of_same sameFrames_cancelCaller, h.tasks.cancelCaller⟩
  | resume byCancellation =>
      exact ⟨h.frames.of_same (sameFrames_resume byCancellation), h.tasks.resume byCancellation⟩

theorem steady_step (h : Steady s) (event : Event κ streams.length)
    (hundisturbed : undisturbed s event) :
    Steady ((machine config undisturbed).step s event) := by
  cases event with
  | emit k i frame => exact h.of_same (sameTasks_emit k i frame)
  | enterConsumer k => exact h.of_same (sameTasks_enterConsumer k)
  | consume k answer => exact h.of_same (sameTasks_consume k answer)
  | withdraw k => exact h.of_same (sameTasks_withdraw k)
  | deliveryEnds i answer => exact h.deliveryEnds i answer
  | finish i => exact h.finish i
  | abandon i => exact h.abandon i
  | cancelCaller => exact h.cancelCaller hundisturbed
  | resume byCancellation => exact h.resume byCancellation

theorem inv_of_reaches (condition : System κ streams → Event κ streams.length → Prop)
    {started final : System κ streams} {events : List (Event κ streams.length)}
    (hstart : start config Snapshot.create streams = .ok started)
    (h : (machine config condition).Reaches started events final) : Inv config final :=
  h.invariant (fun _ event hstate _ => inv_step condition hstate event) (inv_start hstart)

/-- A mixed presentation of streams that it accepts is safe in every run in which its caller is
not cancelled while `run` awaits `_cancel_tasks`. -/
theorem mixed_presentation_safe (config : Config) {started final : System κ streams}
    {events : List (Event κ streams.length)}
    (hstart : start config Snapshot.create streams = .ok started)
    (h : (machine config undisturbed).Reaches started events final) :
    PresentationSafe config final := by
  have hinv : Inv config final := inv_of_reaches undisturbed hstart h
  have hsteady : Steady final :=
    h.invariant (fun _ event hstate hundisturbed => steady_step hstate event hundisturbed)
      (steady_start hstart)
  exact hinv.presentationSafe hsteady

/-! ## A live and a playback stream -/

theorem one_frame : 1 ≤ 1 ∧ 1 ≤ 1000000 := by decide

def plainConfig : Config := ⟨16, 1, 1000, false, by decide, one_frame, by decide⟩

def liveAndPlayback : List Stream := [⟨0, .live⟩, ⟨1, .playback⟩]

/-- A frame is delivered, and both streams end. -/
def bothComplete : List (Event ℕ 2) :=
  [.emit 0 0 (some ⟨10, 5⟩), .enterConsumer 0, .consume 0 .accepted,
    .deliveryEnds 1 (.returned (some 5)), .finish 1, .deliveryEnds 0 (.returned (some 9)), .finish 0,
    .resume false]

def cancelledTwice : List (Event ℕ 2) :=
  [.cancelCaller, .deliveryEnds 0 .cancelled, .resume false, .cancelCaller,
    .deliveryEnds 1 .cancelled, .resume false]

theorem mixed_presentation_safe_complete : ∃ started final : System ℕ liveAndPlayback,
      start plainConfig Snapshot.create liveAndPlayback = .ok started ∧
      (machine plainConfig undisturbed).Reaches started bothComplete final ∧
      final.presentation.state = .complete ∧ final.presentation.deliveredFrames = 1 ∧
      PresentationSafe plainConfig final := by
  have hreach (started : System ℕ liveAndPlayback) :
      (machine plainConfig undisturbed).Reaches started bothComplete
        (bothComplete.foldl (machine plainConfig undisturbed).step started) :=
    ⟨trivial, trivial, trivial, trivial, trivial, trivial, trivial, trivial, rfl⟩
  exact ⟨_, _, rfl, hreach _, rfl, rfl, mixed_presentation_safe plainConfig rfl (hreach _)⟩

/-- A second cancellation, while `run` awaits `_cancel_tasks`, leaves the state at `RUNNING`. -/
theorem left_running : ∃ started final : System ℕ liveAndPlayback,
      start plainConfig Snapshot.create liveAndPlayback = .ok started ∧
      (machine plainConfig fun _ _ => True).Reaches started cancelledTwice final ∧
      final.run = .ended .cancelled ∧ final.presentation.state = .running ∧
      ¬PresentationSafe plainConfig final := by
  refine ⟨_, _, rfl, Machine.reaches_foldl (fun _ _ _ => trivial) _, rfl, rfl, ?_⟩
  intro hsafe
  rcases (hsafe.ended rfl).1 with hstate | hstate | hstate <;> cases hstate

end K5Vision.Presentation.Mixed
