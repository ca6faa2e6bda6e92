import K5Vision.Analytics.ViewSteps

/-!
# What no step takes back

No step takes a mark from a view, or changes an operation that is done; one whose view is marked,
or whose broker is closed, ends without boxes (`Onward`).  A step of one call leaves the others
where they are (`Moves`), and a call that disposes of views keeps what it ends with (`Disposes`).
None of this needs an invariant.
-/

namespace K5Vision.Analytics.Views

open Library
open Function (update update_of_ne update_self)

variable {ω γ : Type}

def Outcome.active : Outcome → Bool
  | .result returned => decide (returned.status = .active)
  | .nothing | .valueError _ | .cancelled => false

/-- The operation has ended with boxes. -/
def OperationState.active : OperationState → Bool
  | .done (.returned result) => decide (result.status = .active)
  | _ => false

def Phase.outcome : Phase → Option Outcome
  | .locking _ _ outcome | .joining _ _ _ outcome | .closing _ _ outcome | .ended outcome =>
      some outcome
  | .idle | .running | .awaiting _ => none

def Event.call : Event ω γ → Option ℕ
  | .begin call _ _ | .resume call _ _ => some call
  | .cancel _ | .operate _ _ => none

namespace Broker

variable {broker before middle after : Broker ω γ} {call number operation : ℕ}
  {rest : List ℕ} {outcome : Outcome} {task next : Operation ω γ}

/-! ## Onward -/

/-- What is awaited on the view is not to have boxes. -/
def Shut (broker : Broker ω γ) (number : ℕ) : Prop :=
  broker.closed = true ∨ (broker.objects number).closed = true

/-- An operation goes from one task to the next. -/
structure Runs (broker : Broker ω γ) (task next : Operation ω γ) : Prop where
  view : next.view = task.view
  done : task.done = true → next.state = task.state
  shut : broker.Shut task.view → next.state.active = true → task.state.active = true

/-- Behind the start of a call, no step takes a mark away, and operations run on. -/
structure Onward (before after : Broker ω γ) : Prop where
  methods : after.methods = before.methods
  views : before.viewCount ≤ after.viewCount
  count : before.operationCount ≤ after.operationCount
  closed : before.closed = true → after.closed = true
  marked : ∀ number < before.viewCount,
    (before.objects number).closed = true → (after.objects number).closed = true
  tasks : ∀ operation < before.operationCount, ∀ task, before.operations operation = some task →
    task.view < before.viewCount →
      ∃ next, after.operations operation = some next ∧ before.Runs task next

theorem Runs.refl (broker : Broker ω γ) (task : Operation ω γ) : broker.Runs task task :=
  ⟨rfl, fun _ => rfl, fun _ => id⟩

theorem Onward.shut (h : Onward before after) (hnumber : number < before.viewCount)
    (hshut : before.Shut number) : after.Shut number :=
  hshut.imp h.closed (h.marked number hnumber)

theorem Onward.trans (hfirst : Onward before middle) (hsecond : Onward middle after) :
    Onward before after where
  methods := hsecond.methods.trans hfirst.methods
  views := hfirst.views.trans hsecond.views
  count := hfirst.count.trans hsecond.count
  closed h := hsecond.closed (hfirst.closed h)
  marked number hnumber h :=
    hsecond.marked number (hnumber.trans_le hfirst.views) (hfirst.marked number hnumber h)
  tasks operation hlt task htask hview := by
    obtain ⟨next, hnext, hruns⟩ := hfirst.tasks operation hlt task htask hview
    have hviews : next.view < middle.viewCount := hruns.view ▸ hview.trans_le hfirst.views
    obtain ⟨last, hlast, hagain⟩ :=
      hsecond.tasks operation (hlt.trans_le hfirst.count) next hnext hviews
    refine ⟨last, hlast, hagain.view.trans hruns.view, fun hdone => ?_, fun hshut hactive => ?_⟩
    · have hstate := hruns.done hdone
      have hstill : next.done = true := by
        rw [Operation.done, hstate]
        exact hdone
      exact (hagain.done hstill).trans hstate
    · have hlater : middle.Shut next.view := hruns.view ▸ hfirst.shut hview hshut
      exact hruns.shut hshut (hagain.shut hlater hactive)

theorem onward_of_operations (hmethods : after.methods = before.methods)
    (hviews : before.viewCount ≤ after.viewCount)
    (hcount : before.operationCount ≤ after.operationCount)
    (hclosed : before.closed = true → after.closed = true)
    (hmarked : ∀ number < before.viewCount,
      (before.objects number).closed = true → (after.objects number).closed = true)
    (hsame : ∀ operation < before.operationCount,
      after.operations operation = before.operations operation) : Onward before after :=
  ⟨hmethods, hviews, hcount, hclosed, hmarked,
    fun operation hlt task htask _ => ⟨task, (hsame operation hlt).trans htask, .refl _ _⟩⟩

theorem Onward.refl (broker : Broker ω γ) : Onward broker broker :=
  onward_of_operations rfl le_rfl le_rfl id (fun _ _ => id) fun _ _ => rfl

theorem onward_setPhase (call : ℕ) (phase : Phase) (broker : Broker ω γ) :
    Onward broker (broker.setPhase call phase) :=
  onward_of_operations rfl le_rfl le_rfl id (fun _ _ => id) fun _ _ => rfl

theorem onward_setFlag (call : ℕ) (flag : Bool) (broker : Broker ω γ) :
    Onward broker (broker.setFlag call flag) :=
  onward_of_operations rfl le_rfl le_rfl id (fun _ _ => id) fun _ _ => rfl

theorem onward_setView {view : View ω γ}
    (h : (broker.objects number).closed = true → view.closed = true) :
    Onward broker (broker.setView number view) := by
  refine onward_of_operations rfl le_rfl le_rfl id (fun other _ hclosed => ?_) fun _ _ => rfl
  change (update broker.objects number view other).closed = true
  by_cases heq : other = number
  · rw [heq, update_self]
    exact h (heq ▸ hclosed)
  · rwa [update_of_ne heq]

theorem onward_setOperation (htask : broker.operations operation = some task)
    (hruns : broker.Runs task next) : Onward broker (broker.setOperation operation next) := by
  refine ⟨rfl, le_rfl, le_rfl, id, fun _ _ => id, fun other _ found hfound _ => ?_⟩
  by_cases heq : other = operation
  · rw [heq, htask] at hfound
    cases hfound
    exact ⟨next, heq ▸ update_self .., hruns⟩
  · exact ⟨found, (update_of_ne heq ..).trans hfound, .refl _ _⟩

theorem onward_cancelOperation (htask : broker.operations operation = some task) :
    Onward broker (broker.cancelOperation call operation task) :=
  onward_setOperation htask ⟨rfl, fun _ => rfl, fun _ => id⟩

theorem onward_unlock : Onward broker (broker.unlock number) := onward_setView id

/-! ## A call disposes of views -/

/-- A step of the call leaves the other calls where they are. -/
structure Moves (call : ℕ) (before after : Broker ω γ) : Prop where
  onward : Onward before after
  others : ∀ other, other ≠ call → after.phases other = before.phases other

/-- The call goes on to the views before it, and keeps what it ends with. -/
structure Disposes (call : ℕ) (outcome : Outcome) (before after : Broker ω γ) : Prop
    extends Moves call before after where
  ends : (after.phases call).outcome = some outcome

theorem Moves.trans (hfirst : Moves call before middle) (hsecond : Moves call middle after) :
    Moves call before after :=
  ⟨hfirst.onward.trans hsecond.onward,
    fun other hne => (hsecond.others other hne).trans (hfirst.others other hne)⟩

theorem moves_setPhase (call : ℕ) (phase : Phase) (broker : Broker ω γ) :
    Moves call broker (broker.setPhase call phase) :=
  ⟨onward_setPhase .., fun _ hne => phases_setPhase_of_ne hne ..⟩

theorem Disposes.behind (h : Disposes call outcome middle after)
    (hmoves : Moves call before middle) : Disposes call outcome before after :=
  ⟨hmoves.trans h.toMoves, h.ends⟩

theorem Disposes.setPhase {phase : Phase} (h : phase.outcome = some outcome) :
    Disposes call outcome broker (broker.setPhase call phase) := by
  refine ⟨moves_setPhase .., ?_⟩
  rw [phases_setPhase]
  exact h

theorem disposes_takeProvider {later : Broker ω γ → Broker ω γ}
    (hlater : ∀ broker, Disposes call outcome broker (later broker)) :
    Disposes call outcome broker (broker.takeProvider call number rest outcome later) := by
  rw [takeProvider.eq_def]
  cases (broker.objects number).provider with
  | none => exact (hlater _).behind ⟨onward_unlock, fun _ _ => rfl⟩
  | some provider =>
      simp only
      rw [setView_eq_take]
      have htaken : Onward broker (broker.take number provider) :=
        onward_of_operations rfl le_rfl le_rfl id (fun _ _ => id) fun _ _ => rfl
      exact (Disposes.setPhase rfl).behind ⟨htaken, fun _ _ => rfl⟩

theorem disposes_enter {later : Broker ω γ → Broker ω γ}
    (hlater : ∀ broker, Disposes call outcome broker (later broker)) :
    Disposes call outcome broker (broker.enter call number rest outcome later) := by
  have hentered : Onward broker (broker.setView number { broker.objects number with
      closed := true, lock := some call }) := onward_setView fun _ => rfl
  rw [enter]
  cases hrunning : broker.running number with
  | none => exact (disposes_takeProvider hlater).behind ⟨hentered, fun _ _ => rfl⟩
  | some found =>
      obtain ⟨operation, task⟩ := found
      have htask := (running_eq_some hrunning).2.1
      exact (Disposes.setPhase rfl).behind
        ⟨hentered.trans (onward_cancelOperation htask), fun _ _ => rfl⟩

theorem disposes_disposeAll (views : List ℕ) (broker : Broker ω γ) :
    Disposes call outcome broker (disposeAll call outcome views broker) := by
  induction views generalizing broker with
  | nil => exact Disposes.setPhase rfl
  | cons number rest ih =>
      rw [disposeAll]
      split_ifs with hbusy
      · exact (Disposes.setPhase rfl).behind ⟨onward_setView id, fun _ _ => rfl⟩
      · exact disposes_enter ih

/-! ## Operations -/

theorem onward_finishOperation (htask : broker.operations operation = some task)
    (hdone : task.done = false) {ending : OperationEnd}
    (hshut : broker.Shut task.view → (OperationState.done ending).active = false) :
    Onward broker (broker.finishOperation operation task ending) := by
  refine onward_setOperation htask ⟨rfl, fun htrue => ?_, fun hnumber hactive => ?_⟩
  · rw [hdone] at htrue
    cases htrue
  · have hnot := hshut hnumber
    rw [hactive] at hnot
    cases hnot

theorem onward_callProvider (htask : broker.operations operation = some task)
    (hdone : task.done = false) : Onward broker (broker.callProvider operation task) := by
  rw [callProvider.eq_def]
  simp only
  split_ifs with hclosed
  · exact onward_finishOperation htask hdone fun _ => rfl
  cases (broker.objects task.view).provider with
  | none => exact onward_finishOperation htask hdone fun _ => rfl
  | some provider =>
      have hruns : broker.Runs task { task with
          state := .inferring provider, cancelling := false } := by
        refine ⟨rfl, fun htrue => ?_, fun _ h => by cases h⟩
        rw [hdone] at htrue
        cases htrue
      exact (onward_setOperation htask hruns).trans
        (onward_of_operations rfl le_rfl le_rfl id (fun _ _ => id) fun _ _ => rfl)

theorem onward_finishInference (htask : broker.operations operation = some task)
    (hdone : task.done = false) (values : List (Option Tracked)) :
    Onward broker (broker.finishInference operation task values) := by
  rw [finishInference]
  cases adapt values with
  | none => exact onward_finishOperation htask hdone fun _ => rfl
  | some observations =>
      refine onward_finishOperation htask hdone fun hshut => ?_
      have hclosed : ((broker.objects task.view).closed || broker.closed) = true := by
        rw [Bool.or_eq_true]
        exact hshut.symm
      rw [if_pos hclosed]
      rfl

theorem onward_operate (operation : ℕ) (answer : Answer) (broker : Broker ω γ) :
    Onward broker (broker.operate operation answer) := by
  rw [operate.eq_def]
  cases htask : broker.operations operation with
  | none => exact .refl broker
  | some task =>
      have hdone : ∀ {state}, task.state = state → (∀ ending, state ≠ .done ending) →
          task.done = false := by
        intro state hstate hnot
        rw [Operation.done]
        split
        case h_1 ending hended => exact absurd (hstate.symm.trans hended) (hnot ending)
        case h_2 => rfl
      simp only
      split
      case h_1 hstate =>
        have hopen := hdone hstate (by simp)
        split_ifs with hcancelling hnone
        · exact onward_finishOperation htask hopen fun _ => rfl
        · refine onward_setOperation htask ⟨rfl, fun htrue => ?_, fun _ h => by cases h⟩
          rw [hopen] at htrue
          cases htrue
        · exact onward_callProvider htask hopen
      case h_2 hstate =>
        have hprovided : Onward broker { broker.setView task.view { broker.objects task.view with
              provider := some broker.providerCount } with
            providerCount := broker.providerCount + 1
            providerViews := update broker.providerViews broker.providerCount
              task.view } := by
          rw [setView_eq_provide]
          exact onward_of_operations rfl le_rfl le_rfl id (fun _ _ => id) fun _ _ => rfl
        exact hprovided.trans (onward_callProvider htask (hdone hstate (by simp)))
      case h_3 hstate => exact onward_finishInference htask (hdone hstate (by simp)) _
      case h_4 hstate => exact onward_finishOperation htask (hdone hstate (by simp)) fun _ => rfl
      case h_5 hstate => exact onward_finishOperation htask (hdone hstate (by simp)) fun _ => rfl
      case h_6 hstate =>
        split_ifs with hcancelling
        · exact onward_finishOperation htask (hdone hstate (by simp)) fun _ => rfl
        · exact .refl broker
      case h_7 hstate =>
        split_ifs with hcancelling
        · exact onward_finishOperation htask (hdone hstate (by simp)) fun _ => rfl
        · exact .refl broker
      case h_8 => exact .refl broker

theorem phases_callProvider (operation : ℕ) (task : Operation ω γ) (broker : Broker ω γ) :
    (broker.callProvider operation task).phases = broker.phases := by
  rw [callProvider.eq_def]
  simp only
  split_ifs with hclosed
  · rfl
  · cases (broker.objects task.view).provider <;> rfl

theorem phases_operate (operation : ℕ) (answer : Answer) (broker : Broker ω γ) :
    (broker.operate operation answer).phases = broker.phases := by
  rw [operate.eq_def]
  cases broker.operations operation with
  | none => rfl
  | some task =>
      simp only
      split
      case h_1 =>
        split_ifs
        · rfl
        · rfl
        · exact phases_callProvider ..
      case h_2 => exact phases_callProvider ..
      case h_3 values _ =>
        rw [finishInference]
        cases adapt values <;> rfl
      case h_6 => split_ifs <;> rfl
      case h_7 => split_ifs <;> rfl
      all_goals rfl

/-! ## A caller cancels its call -/

theorem onward_cancel (call : ℕ) (broker : Broker ω γ) : Onward broker (broker.cancel call) := by
  have hasked : Onward broker { broker with
      requested := update broker.requested call true } :=
    onward_of_operations rfl le_rfl le_rfl id (fun _ _ => id) fun _ _ => rfl
  have hflag := hasked.trans (onward_setFlag call true _)
  rw [cancel.eq_def]
  cases broker.phases call with
  | awaiting operation | joining operation number rest outcome =>
      simp only
      cases htask : broker.operations operation with
      | none => exact .refl broker
      | some task =>
          simp only
          split_ifs
          · exact hflag
          · exact hasked.trans (onward_cancelOperation htask)
  | locking number rest outcome => exact hflag
  | closing number rest outcome => exact hflag
  | _ => exact .refl broker

theorem phases_cancel (call : ℕ) (broker : Broker ω γ) :
    (broker.cancel call).phases = broker.phases := by
  rw [cancel.eq_def]
  cases broker.phases call with
  | awaiting operation | joining operation number rest outcome =>
      simp only
      cases broker.operations operation with
      | none => rfl
      | some task =>
          simp only
          split_ifs <;> rfl
  | _ => rfl

/-! ## Calls begin -/

theorem moves_submit (submission : Submission ω γ) (now : ℚ) (broker : Broker ω γ) :
    Moves call broker (broker.submit call submission number now) := by
  rw [submit]
  simp only
  split_ifs
  · exact moves_setPhase ..
  · exact moves_setPhase ..
  · rw [submit_eq_launch]
    exact ⟨onward_of_operations rfl le_rfl (Nat.le_succ _) id (fun _ _ => id)
      fun _ hlt => update_of_ne hlt.ne .., fun _ hne => update_of_ne hne ..⟩

theorem moves_drop (mark : Bool) (dropped : (ω × γ) × ℕ → Bool) (broker : Broker ω γ) :
    Moves call broker (broker.drop mark dropped) := by
  rw [drop_eq]
  refine ⟨onward_of_operations rfl le_rfl le_rfl id (fun number _ hclosed => ?_) fun _ _ => rfl,
    fun _ _ => rfl⟩
  change ((mark && decide (number ∈ broker.selected dropped)) || _) = true
  rw [hclosed, Bool.or_true]

variable [DecidableEq ω] [DecidableEq γ]

theorem moves_addView (key : ω × γ) (now : ℚ) (broker : Broker ω γ) :
    Moves call broker (broker.addView key now) := by
  refine ⟨onward_of_operations rfl (Nat.le_succ _) le_rfl id (fun number hlt hclosed => ?_)
    fun _ _ => rfl, fun _ _ => rfl⟩
  rw [objects_addView_of_ne hlt.ne]
  exact hclosed

theorem moves_infer (arguments : Arguments ω γ) (now : ℚ) (broker : Broker ω γ) :
    Moves call broker (broker.infer call arguments now) := by
  rw [infer]
  cases arguments.validate with
  | error message => exact moves_setPhase ..
  | ok submission =>
      simp only
      cases broker.views.find? submission.key with
      | some number =>
          simp only
          split_ifs
          · exact moves_setPhase ..
          · exact moves_submit ..
      | none =>
          simp only
          split_ifs
          · exact moves_setPhase ..
          · exact moves_setPhase ..
          · exact (moves_addView ..).trans (moves_submit ..)

theorem moves_begin (method : Method ω γ) (now : ℚ) (broker : Broker ω γ) :
    Moves call (broker.start call method) (broker.begin call method now) := by
  unfold Broker.begin
  cases method with
  | infer arguments => exact moves_infer ..
  | closeOwner owner =>
      cases owner with
      | none => exact moves_setPhase ..
      | some owner => exact (moves_drop ..).trans (disposes_disposeAll ..).toMoves
  | expireIdle => exact (moves_drop ..).trans (disposes_disposeAll ..).toMoves
  | aclose =>
      have hshut : ∀ broker : Broker ω γ, Moves call broker { broker with closed := true } :=
        fun broker => ⟨onward_of_operations rfl le_rfl le_rfl (fun _ => rfl) (fun _ _ => id)
          fun _ _ => rfl, fun _ _ => rfl⟩
      exact ((moves_drop ..).trans (hshut _)).trans (disposes_disposeAll ..).toMoves

/-! ## Calls go on -/

theorem disposes_finishInfer (operation : ℕ) (task : Operation ω γ) (ending : OperationEnd)
    (now : ℚ) (broker : Broker ω γ) :
    Disposes call (settle (broker.flagged call) task.submission.frameId ending).2 broker
      (broker.finishInfer call operation task ending now) := by
  have hview : Onward broker (broker.setView task.view { broker.objects task.view with
      operation := if (broker.objects task.view).operation = some operation then none
        else (broker.objects task.view).operation
      lastUsed := now }) := onward_setView id
  have hleft : Moves call broker ((broker.setView task.view { broker.objects task.view with
      operation := if (broker.objects task.view).operation = some operation then none
        else (broker.objects task.view).operation
      lastUsed := now }).setFlag call false) :=
    ⟨hview.trans (onward_setFlag ..), fun _ _ => rfl⟩
  have hends : ∀ left outcome, Moves call broker left → ∀ failed : Bool,
      Disposes call outcome broker
        (if failed then
          disposeAll call outcome [task.view]
            (if left.views.find? task.submission.key = some task.view then
              { left with views := left.views.erase task.submission.key }
            else left)
        else left.setPhase call (.ended outcome)) := by
    intro left outcome hleft failed
    have herase : Moves call left { left with views := left.views.erase task.submission.key } :=
      ⟨onward_of_operations rfl le_rfl le_rfl id (fun _ _ => id) fun _ _ => rfl, fun _ _ => rfl⟩
    split_ifs
    · exact (disposes_disposeAll ..).behind (hleft.trans herase)
    · exact (disposes_disposeAll ..).behind hleft
    · exact (Disposes.setPhase rfl).behind hleft
  rw [finishInfer]
  exact hends _ _ hleft _

def Ends (broker : Broker ω γ) (call : ℕ) (outcome : Outcome) : Prop :=
  outcome = .cancelled ∨ (broker.phases call).outcome = some outcome ∨
    ∃ operation task ending flagged, broker.phases call = .awaiting operation ∧
      broker.operations operation = some task ∧ task.state = .done ending ∧
        outcome = (settle flagged task.submission.frameId ending).2

theorem resume_disposes (call : ℕ) (answer : Answer) (now : ℚ) (broker : Broker ω γ) :
    broker.resume call answer now = broker ∨ ∃ outcome, broker.Ends call outcome ∧
      Disposes call outcome broker (broker.resume call answer now) := by
  have hstarted : Moves call broker (broker.setPhase call .running) := moves_setPhase ..
  have hunflagged : ∀ broker : Broker ω γ, Moves call broker (broker.setFlag call false) :=
    fun broker => ⟨onward_setFlag .., fun _ _ => rfl⟩
  rw [resume.eq_def]
  cases hphase : broker.phases call with
  | awaiting operation =>
      simp only
      cases htask : broker.operations operation with
      | none => exact .inl rfl
      | some task =>
          simp only
          split
          case h_1 ending hstate =>
            refine .inr ⟨_, .inr (.inr ⟨operation, task, ending, broker.flagged call, hphase,
              htask, hstate, rfl⟩), ?_⟩
            exact (disposes_finishInfer operation task ending now
              (broker.setPhase call .running)).behind hstarted
          case h_2 => exact .inl rfl
  | locking number rest outcome =>
      have hview : Moves call (broker.setPhase call .running)
          ((broker.setPhase call .running).setView number
            { (broker.setPhase call .running).objects number with
              waiters := ((broker.setPhase call .running).objects number).waiters - 1 }) :=
        ⟨onward_setView id, fun _ _ => rfl⟩
      have hleft := (hstarted.trans hview).trans (hunflagged _)
      simp only
      split_ifs
      · exact .inr ⟨.cancelled, .inl rfl, (Disposes.setPhase rfl).behind hleft⟩
      · exact .inl rfl
      · exact .inr ⟨outcome, .inr (.inl (congrArg Phase.outcome hphase)),
          (disposes_enter fun broker => disposes_disposeAll _ broker).behind hleft⟩
  | joining operation number rest outcome =>
      simp only
      cases broker.operations operation with
      | none => exact .inl rfl
      | some task =>
          simp only
          split_ifs
          · exact .inr ⟨outcome, .inr (.inl (congrArg Phase.outcome hphase)),
              (disposes_takeProvider fun broker => disposes_disposeAll _ broker).behind
                (hstarted.trans (hunflagged _))⟩
          · exact .inl rfl
  | closing number rest outcome =>
      have hleft : Moves call broker
          (((broker.setPhase call .running).setFlag call false).unlock number) :=
        (hstarted.trans (hunflagged _)).trans ⟨onward_unlock, fun _ _ => rfl⟩
      cases answer with
      | cancelled =>
          simp only
          split_ifs
          · exact .inr ⟨.cancelled, .inl rfl, (Disposes.setPhase rfl).behind hleft⟩
          · exact .inl rfl
      | _ => exact .inr ⟨outcome, .inr (.inl (congrArg Phase.outcome hphase)),
          (disposes_disposeAll ..).behind hleft⟩
  | _ => exact .inl rfl

/-! ## Steps of others -/

theorem phases_step_of_ne {event : Event ω γ} (h : event.call ≠ some call) (broker : Broker ω γ) :
    (broker.step event).phases call = broker.phases call := by
  cases event with
  | begin other method now =>
      have hne : call ≠ other := fun heq => h (congrArg some heq.symm)
      rw [Broker.step]
      split
      case h_1 =>
        have hmoves : Moves other (broker.start other method) _ := moves_begin method now broker
        exact (hmoves.others call hne).trans (update_of_ne hne ..)
      case h_2 => rfl
  | resume other answer now =>
      have hne : call ≠ other := fun heq => h (congrArg some heq.symm)
      rcases resume_disposes other answer now broker with hsame | ⟨outcome, -, hdisposes⟩
      · exact congrArg (·.phases call) hsame
      · exact hdisposes.others call hne
  | cancel other => exact congrFun (phases_cancel other broker) call
  | operate operation answer => exact congrFun (phases_operate operation answer broker) call

theorem phases_run_of_notMem {events : List (Event ω γ)} (h : call ∉ events.filterMap Event.call)
    (broker : Broker ω γ) : (events.foldl step broker).phases call = broker.phases call := by
  induction events generalizing broker with
  | nil => rfl
  | cons event rest ih =>
      have hne : event.call ≠ some call := by
        intro heq
        rw [List.filterMap_cons_some heq] at h
        exact h List.mem_cons_self
      have hrest : call ∉ rest.filterMap Event.call := fun hmem =>
        h (List.mem_filterMap.mpr ((List.mem_filterMap.mp hmem).imp fun _ hother =>
          ⟨List.mem_cons_of_mem _ hother.1, hother.2⟩))
      rw [List.foldl_cons, ih hrest, phases_step_of_ne hne]

end Broker

end K5Vision.Analytics.Views
