import K5Vision.Analytics.ViewMoves

/-!
# Views stay apart

An `infer` that is `Barred` stays so in any run, whatever the others do, and what an `infer` ends
with is a result unless it is cancelled (`Replies`).  With the invariant that makes a broker
`Isolated` in every run.

Where `close_owner` comes between the end of an operation and its `infer`, the `infer` returns the
boxes all the same; and a `close_owner`, `expire_idle` or `aclose` that is cancelled leaves the
views before it with their providers.
-/

namespace K5Vision.Analytics.Views

open Library

variable {ω γ : Type} [DecidableEq ω] [DecidableEq γ]

namespace Broker

variable {broker before after : Broker ω γ} {call : ℕ} {outcome : Outcome}

/-! ## No boxes from a view that is shut -/

/-- The call will not end with boxes: its operation has ended without any, or runs on a view that
is shut, or the call is behind it. -/
def Barred (call : ℕ) (broker : Broker ω γ) : Prop :=
  (∃ operation task, broker.phases call = .awaiting operation ∧
    operation < broker.operationCount ∧ broker.operations operation = some task ∧
      task.view < broker.viewCount ∧ task.state.active = false ∧
        (task.done = true ∨ broker.Shut task.view)) ∨
  ∃ outcome, (broker.phases call).outcome = some outcome ∧ outcome.active = false

theorem settle_active {ending : OperationEnd} (h : (OperationState.done ending).active = false)
    (flagged : Bool) (frameId : ℕ) : (settle flagged frameId ending).2.active = false := by
  cases flagged with
  | true => rfl
  | false =>
      cases ending with
      | returned result => exact h
      | raised => rfl
      | cancelled => rfl

omit [DecidableEq ω] [DecidableEq γ] in
theorem Barred.onward (h : before.Barred call) (honward : Onward before after)
    (hphase : after.phases call = before.phases call) : after.Barred call := by
  rcases h with ⟨operation, task, hawaiting, hlt, htask, hview, hinactive, hends⟩ |
    ⟨outcome, houtcome, hinactive⟩
  · obtain ⟨next, hnext, hruns⟩ := honward.tasks operation hlt task htask hview
    refine .inl ⟨operation, next, hphase.trans hawaiting, hlt.trans_le honward.count, hnext,
      hruns.view ▸ hview.trans_le honward.views, ?_, ?_⟩
    · rcases hends with hdone | hshut
      · rw [hruns.done hdone]
        exact hinactive
      · refine Bool.eq_false_iff.mpr fun hactive => ?_
        rw [hruns.shut hshut hactive] at hinactive
        cases hinactive
    · rcases hends with hdone | hshut
      · refine .inl ?_
        rw [Operation.done, hruns.done hdone]
        exact hdone
      · exact .inr (hruns.view ▸ honward.shut hview hshut)
  · exact .inr ⟨outcome, (congrArg Phase.outcome hphase).trans houtcome, hinactive⟩

theorem Barred.resume (h : broker.Barred call) (answer : Answer) (now : ℚ) :
    (broker.resume call answer now).Barred call := by
  rcases resume_disposes call answer now broker with hsame | ⟨outcome, hends, hdisposes⟩
  · rwa [hsame]
  refine .inr ⟨outcome, hdisposes.ends, ?_⟩
  rcases hends with rfl | houtcome |
    ⟨operation, task, ending, flagged, hphase, htask, hstate, rfl⟩
  · rfl
  · rcases h with ⟨operation, task, hawaiting, -⟩ | ⟨found, hfound, hinactive⟩
    · rw [hawaiting] at houtcome
      cases houtcome
    · rw [hfound] at houtcome
      cases houtcome
      exact hinactive
  rcases h with ⟨found, running, hawaiting, -, hrunning, -, hinactive, -⟩ | ⟨found, hfound, -⟩
  · rw [hphase] at hawaiting
    cases hawaiting
    rw [htask] at hrunning
    cases hrunning
    rw [hstate] at hinactive
    exact settle_active hinactive flagged _
  · rw [hphase] at hfound
    cases hfound

omit [DecidableEq ω] [DecidableEq γ] in
theorem Barred.start {method : Method ω γ} {other : ℕ} (h : broker.Barred call)
    (hne : call ≠ other) : (broker.start other method).Barred call := by
  have hphase : (broker.start other method).phases call = broker.phases call :=
    Function.update_of_ne hne ..
  unfold Barred
  rw [hphase]
  exact h

theorem Barred.step (h : broker.Barred call) (event : Event ω γ) :
    (broker.step event).Barred call := by
  cases event with
  | begin other method now =>
      rw [Broker.step]
      split
      case h_1 hidle =>
        have hne : call ≠ other := by
          rintro rfl
          rcases h with ⟨operation, task, hawaiting, -⟩ | ⟨outcome, houtcome, -⟩
          · rw [hidle] at hawaiting
            cases hawaiting
          · rw [hidle] at houtcome
            cases houtcome
        have hmoves : Moves other (broker.start other method) _ := moves_begin method now broker
        exact (h.start hne).onward hmoves.onward (hmoves.others call hne)
      case h_2 => exact h
  | resume other answer now =>
      by_cases heq : call = other
      · subst heq
        exact h.resume answer now
      rcases resume_disposes other answer now broker with hsame | ⟨outcome, -, hdisposes⟩
      · change (broker.resume other answer now).Barred call
        rwa [hsame]
      · exact h.onward hdisposes.onward (hdisposes.others call heq)
  | cancel other =>
      exact h.onward (onward_cancel other broker) (congrFun (phases_cancel other broker) call)
  | operate operation answer =>
      exact h.onward (onward_operate operation answer broker)
        (congrFun (phases_operate operation answer broker) call)

theorem Barred.run {admissible : Broker ω γ → Event ω γ → Prop} {events : List (Event ω γ)}
    (h : before.Barred call) (hruns : (machine admissible).Reaches before events after) :
    after.Barred call := by
  have hstep : ∀ (state : Broker ω γ) event, state.Barred call →
      (machine admissible).admissible state event →
        ((machine admissible).step state event).Barred call :=
    fun _ event hbarred _ => hbarred.step event
  exact hruns.invariant hstep h

/-! ## What `infer` ends with -/

/-- An `infer` whose arguments are admitted ends with a result, or cancelled. -/
def Replies (broker : Broker ω γ) : Prop :=
  ∀ call arguments submission outcome, broker.methods call = some (.infer arguments) →
    arguments.validate = .ok submission → (broker.phases call).outcome = some outcome →
      outcome = .cancelled ∨ ∃ result, outcome = .result result

omit [DecidableEq ω] [DecidableEq γ] in
theorem submit_outcome (submission : Submission ω γ) (number : ℕ) (now : ℚ) (broker : Broker ω γ)
    (h : ((broker.submit call submission number now).phases call).outcome = some outcome) :
    ∃ result, outcome = .result result := by
  rw [submit] at h
  simp only at h
  split_ifs at h
  · rw [phases_setPhase] at h
    exact ⟨_, (Option.some.inj h).symm⟩
  · rw [phases_setPhase] at h
    exact ⟨_, (Option.some.inj h).symm⟩
  · rw [phases_setPhase] at h
    cases h

theorem infer_outcome {arguments : Arguments ω γ} {submission : Submission ω γ}
    (hvalid : arguments.validate = .ok submission) (now : ℚ) (broker : Broker ω γ)
    (h : ((broker.infer call arguments now).phases call).outcome = some outcome) :
    ∃ result, outcome = .result result := by
  rw [infer, hvalid] at h
  simp only at h
  cases hfind : broker.views.find? submission.key with
  | some number =>
      simp only [hfind] at h
      split_ifs at h
      · rw [phases_setPhase] at h
        exact ⟨_, (Option.some.inj h).symm⟩
      · exact submit_outcome submission number now broker h
  | none =>
      simp only [hfind] at h
      split_ifs at h
      · rw [phases_setPhase] at h
        exact ⟨_, (Option.some.inj h).symm⟩
      · rw [phases_setPhase] at h
        exact ⟨_, (Option.some.inj h).symm⟩
      · exact submit_outcome submission _ now _ h

omit [DecidableEq ω] [DecidableEq γ] in
theorem Replies.still (h : before.Replies) (hmethods : after.methods = before.methods)
    (hphases : after.phases = before.phases) : after.Replies := by
  intro call arguments submission outcome hmethod hvalid houtcome
  rw [hmethods] at hmethod
  rw [hphases] at houtcome
  exact h call arguments submission outcome hmethod hvalid houtcome

theorem Replies.begin (h : broker.Replies) (other : ℕ) (method : Method ω γ) (now : ℚ) :
    (broker.begin other method now).Replies := by
  intro call arguments submission outcome hmethod hvalid houtcome
  have hmoves : Moves other (broker.start other method) _ := moves_begin method now broker
  rw [hmoves.onward.methods] at hmethod
  by_cases heq : call = other
  · subst heq
    have hself : (broker.start call method).methods call = some method := Function.update_self ..
    rw [hself] at hmethod
    cases hmethod
    exact .inr (infer_outcome hvalid now _ houtcome)
  · have hbefore : (broker.start other method).methods call = broker.methods call :=
      Function.update_of_ne heq ..
    have hphase : (broker.start other method).phases call = broker.phases call :=
      Function.update_of_ne heq ..
    rw [hbefore] at hmethod
    rw [hmoves.others call heq, hphase] at houtcome
    exact h call arguments submission outcome hmethod hvalid houtcome

theorem settle_replies (flagged : Bool) (frameId : ℕ) (ending : OperationEnd) :
    (settle flagged frameId ending).2 = .cancelled ∨
      ∃ result, (settle flagged frameId ending).2 = .result result := by
  cases flagged with
  | true => exact .inl rfl
  | false =>
      cases ending with
      | returned result => exact .inr ⟨result, rfl⟩
      | raised => exact .inr ⟨_, rfl⟩
      | cancelled => exact .inl rfl

theorem Replies.resume (h : broker.Replies) (other : ℕ) (answer : Answer) (now : ℚ) :
    (broker.resume other answer now).Replies := by
  rcases resume_disposes other answer now broker with hsame | ⟨ended, hends, hdisposes⟩
  · rwa [hsame]
  intro call arguments submission outcome hmethod hvalid houtcome
  rw [hdisposes.onward.methods] at hmethod
  by_cases heq : call = other
  · subst heq
    rw [hdisposes.ends] at houtcome
    cases houtcome
    rcases hends with rfl | hbefore | ⟨operation, task, ending, flagged, -, -, -, rfl⟩
    · exact .inl rfl
    · exact h call arguments submission ended hmethod hvalid hbefore
    · exact settle_replies ..
  · rw [hdisposes.others call heq] at houtcome
    exact h call arguments submission outcome hmethod hvalid houtcome

theorem Replies.step (h : broker.Replies) (event : Event ω γ) : (broker.step event).Replies := by
  cases event with
  | begin call method now =>
      rw [Broker.step]
      split
      case h_1 => exact h.begin call method now
      case h_2 => exact h
  | resume call answer now => exact h.resume call answer now
  | cancel call => exact h.still (onward_cancel call broker).methods (phases_cancel call broker)
  | operate operation answer =>
      exact h.still (onward_operate operation answer broker).methods
        (phases_operate operation answer broker)

omit [DecidableEq ω] [DecidableEq γ] in
theorem replies_create (config : Config) : (create config : Broker ω γ).Replies :=
  fun _ _ _ _ hmethod => nomatch hmethod

/-! ## Views stay apart -/

def Resting (broker : Broker ω γ) : Prop :=
  ∀ call, broker.phases call = .idle ∨ ∃ outcome, broker.phases call = .ended outcome

/-- Where somebody sees to every view, a broker at rest has closed the provider of every view that
has left the dictionary. -/
theorem Inv.closed_of_resting (h : Inv True [] [] broker) (hrest : broker.Resting)
    {provider : ℕ} (hlt : provider < broker.providerCount)
    (hdropped : broker.Dropped (broker.providerViews provider)) : provider ∈ broker.closes := by
  refine (h.owned provider hlt).resolve_right fun hheld => ?_
  have hphase : ∀ call, (broker.phases call).rest = [] ∧ ∀ operation,
      broker.phases call ≠ .awaiting operation ∧
        ∀ number rest outcome, broker.phases call ≠ .joining operation number rest outcome := by
    intro call
    rcases hrest call with hidle | ⟨outcome, hended⟩
    · rw [hidle]
      exact ⟨rfl, fun _ => ⟨nofun, nofun⟩⟩
    · rw [hended]
      exact ⟨rfl, fun _ => ⟨nofun, nofun⟩⟩
  rcases (h.covered trivial _ hdropped).resolve_left List.not_mem_nil with
    (hsettled | ⟨call, operation, rest, outcome, hjoining⟩) | ⟨call, hmem⟩ | ⟨-, hoperation⟩
  · rw [hsettled.2.1] at hheld
    cases hheld
  · exact ((hphase call).2 operation).2 _ rest outcome hjoining
  · rw [(hphase call).1] at hmem
    cases hmem
  · obtain ⟨operation, hsome⟩ := Option.ne_none_iff_exists'.mp hoperation
    obtain ⟨task, -, -, hawaiting⟩ := h.current _ operation hsome
    exact ((hphase task.call).2 operation).1 hawaiting

/-- What holds of the broker behind any events.  Only the last line asks that no call is cancelled
where it leaves views behind. -/
structure Isolated (config : Config) (events : List (Event ω γ)) (broker : Broker ω γ) :
    Prop where
  size : broker.views.rows.length ≤ broker.config.maxViews
  single : ∀ first second number, broker.Live first number → broker.Live second number →
    first = second
  uses : ∀ first ∈ broker.uses, ∀ second ∈ broker.uses, first.provider = second.provider →
    first.key = second.key
  once : broker.closes.Nodup
  dropped : ∀ provider ∈ broker.closes, broker.Dropped (broker.providerViews provider)
  barred : ∀ call operation task, broker.phases call = .awaiting operation →
    broker.operations operation = some task → task.done = false → broker.Shut task.view →
      ∀ admissible later final, (machine admissible).Reaches broker later final →
        ∀ result, final.phases call = .ended (.result result) → result.status ≠ .active
  replies : ∀ call arguments submission outcome, broker.methods call = some (.infer arguments) →
    arguments.validate = .ok submission → broker.phases call = .ended outcome →
      (∃ result, outcome = .result result) ∨ broker.requested call = true ∨
        ∃ operation task other, broker.operations operation = some task ∧ task.call = call ∧
          other ∈ task.cancels ∧ broker.Stops other task.view
  closed : (machine Thorough).Reaches (create config) events broker → broker.Resting →
    ∀ provider < broker.providerCount,
      provider ∈ broker.closes ↔ broker.Dropped (broker.providerViews provider)

theorem Inv.barred {thorough : Prop} (h : Inv thorough [] [] broker) {operation : ℕ}
    {task : Operation ω γ} (hphase : broker.phases call = .awaiting operation)
    (htask : broker.operations operation = some task) (hopen : task.done = false)
    (hshut : broker.Shut task.view) : broker.Barred call := by
  obtain ⟨hlt, hview, -⟩ := h.tasks operation task htask
  refine .inl ⟨operation, task, hphase, hlt, htask, hview, ?_, .inr hshut⟩
  rw [Operation.done] at hopen
  cases hstate : task.state with
  | done ending =>
      rw [hstate] at hopen
      cases hopen
  | _ => rfl

/-- In every run views stay apart, and what cancels an `infer` is its caller, or a call that closes
its view. -/
theorem views_isolated {config : Config} {events : List (Event ω γ)}
    (h : (machine fun _ _ => True).Reaches (create config) events broker) :
    Isolated config events broker := by
  have hstep : ∀ (state : Broker ω γ) event, Inv False [] [] state →
      (machine fun _ _ => True).admissible state event →
        Inv False [] [] ((machine fun _ _ => True).step state event) :=
    fun _ _ hinv _ => hinv.step nofun
  have hthorough : ∀ (state : Broker ω γ) event, Inv True [] [] state →
      (machine Thorough).admissible state event →
        Inv True [] [] ((machine Thorough).step state event) :=
    fun _ _ hinv hadmissible => hinv.step fun _ => hadmissible
  have hreplies : ∀ (state : Broker ω γ) event, Replies state →
      (machine fun _ _ => True).admissible state event →
        Replies ((machine fun _ _ => True).step state event) :=
    fun _ event hstate _ => hstate.step event
  have hinv : Inv False [] [] broker := h.invariant hstep (inv_create config)
  refine ⟨hinv.size, ?_, ?_, hinv.once, fun provider hmem => (hinv.closes provider hmem).2, ?_, ?_,
    fun hruns hrest provider hlt => ⟨fun hmem => (hinv.closes provider hmem).2, fun hdropped => ?_⟩⟩
  · intro first second number hfirst hsecond
    exact Option.some.inj ((hinv.live first number hfirst).symm.trans
      (hinv.live second number hsecond))
  · intro first hfirst second hsecond hsame
    have hkey := (hinv.uses first hfirst).2
    rw [hsame, (hinv.uses second hsecond).2] at hkey
    exact (Option.some.inj hkey).symm
  · intro call operation task hphase htask hopen hshut admissible later final hlater result hended
    rcases (hinv.barred hphase htask hopen hshut).run hlater with
      ⟨operation, task, hawaiting, -⟩ | ⟨outcome, houtcome, hinactive⟩
    · rw [hended] at hawaiting
      cases hawaiting
    · rw [hended] at houtcome
      cases houtcome
      exact of_decide_eq_false hinactive
  · intro call arguments submission outcome hmethod hvalid hended
    have hall : Replies broker := h.invariant hreplies (replies_create config)
    have hexcused := hinv.knows call
    rw [hended] at hexcused
    rcases hall call arguments submission outcome hmethod hvalid
      (congrArg Phase.outcome hended) with hcancelled | hresult
    · exact .inr (hexcused hcancelled)
    · exact .inl hresult
  · have hwhole : Inv True [] [] broker := hruns.invariant hthorough (inv_create config)
    exact hwhole.closed_of_resting hrest hlt hdropped

/-! ## Runs -/

def sampleFrame : FrameArgument where
  frame := ⟨[0, 0, 0, 0], 1, 1, 4, 0, by decide, by decide, by decide, by decide⟩
  exactInts := true
  itemsize := 1
  ndim := 1
  cContiguous := true

def sampleConfig : Config := ⟨4, 1, 60, by decide, by decide +kernel⟩

def samplePerson : Tracked :=
  ⟨some "7", some "person", some (9 / 10), some 0, some 0, some (1 / 2), some 1⟩

def samplePersonBox : Observation := ⟨"person", 9 / 10, 0, 0, 1 / 2, 1⟩

/-- An `infer` for the owner 0, up to where its provider has the frame. -/
def inferEvents (call camera operation : ℕ) : List (Event ℕ ℕ) :=
  [.begin call (.infer ⟨some 0, some camera, some 5, some sampleFrame⟩) 0,
    .operate operation .returned, .operate operation .provider]

/-- The frame has a person, and `infer` returns. -/
def boxEvents (call operation : ℕ) : List (Event ℕ ℕ) :=
  [.operate operation (.values [some samplePerson]), .resume call .returned 0]

/-- The owner is closed while the provider has the frame. -/
def interruptEvents : List (Event ℕ ℕ) :=
  inferEvents 0 0 0 ++
    [.begin 1 (.closeOwner (some 0)) 0, .operate 0 .cancelled, .resume 0 .returned 0,
      .resume 1 .returned 0, .resume 1 .returned 0, .resume 0 .returned 0]

/-- The owner is closed between the end of the operation and its `infer`. -/
def lateEvents : List (Event ℕ ℕ) :=
  inferEvents 0 0 0 ++
    [.operate 0 (.values [some samplePerson]), .begin 1 (.closeOwner (some 0)) 0]

/-- Two cameras, and a `close_owner` that is cancelled at the first of them. -/
def leavingEvents : List (Event ℕ ℕ) :=
  inferEvents 0 0 0 ++ boxEvents 0 0 ++ (inferEvents 1 1 1 ++ boxEvents 1 1) ++
    [.begin 2 (.closeOwner (some 0)) 0, .cancel 2, .resume 2 .cancelled 0]

def sampleRun (events : List (Event ℕ ℕ)) : Broker ℕ ℕ := events.foldl step (create sampleConfig)

theorem sampleRun_reaches (events : List (Event ℕ ℕ)) :
    (machine fun _ _ => True).Reaches (create sampleConfig) events (sampleRun events) :=
  Machine.reaches_foldl (fun _ _ _ => trivial) _

theorem views_isolated_sample : Isolated sampleConfig interruptEvents (sampleRun interruptEvents) ∧
      (sampleRun interruptEvents).closes = [0] ∧
        (sampleRun interruptEvents).phases 1 = .ended .nothing :=
  ⟨views_isolated (sampleRun_reaches interruptEvents), by decide +kernel, by decide +kernel⟩

/-- An `infer` ends cancelled though its caller has not asked for it; an `infer` returns boxes
though its view is closed; and a provider stays open though its view is gone and all calls are
over. -/
theorem views_disturbed : ((sampleRun interruptEvents).phases 0 = .ended .cancelled ∧
      (sampleRun interruptEvents).requested 0 = false) ∧
    (((sampleRun lateEvents).objects 0).closed = true ∧
      (sampleRun (lateEvents ++ [.resume 1 .returned 0, .resume 0 .returned 0])).phases 0 =
        .ended (.result ⟨.active, 5, [samplePersonBox]⟩)) ∧
    ((sampleRun leavingEvents).Resting ∧ (sampleRun leavingEvents).Dropped 1 ∧
      (sampleRun leavingEvents).providerViews 1 = 1 ∧ (sampleRun leavingEvents).closes = [0]) := by
  refine ⟨⟨by decide +kernel, by decide +kernel⟩, ⟨by decide +kernel, by decide +kernel⟩,
    ?_, ?_, by decide +kernel, by decide +kernel⟩
  · intro call
    match call with
    | 0 => exact .inr ⟨.result ⟨.active, 5, [samplePersonBox]⟩, by decide +kernel⟩
    | 1 => exact .inr ⟨.result ⟨.active, 5, [samplePersonBox]⟩, by decide +kernel⟩
    | 2 => exact .inr ⟨.cancelled, by decide +kernel⟩
    | call + 3 =>
        refine .inl (phases_run_of_notMem ?_ _)
        have hcalls : leavingEvents.filterMap Event.call = [0, 0, 1, 1, 2, 2] := rfl
        simp [hcalls]
  · refine ⟨by decide +kernel, fun key hfind => ?_⟩
    have hrows : (sampleRun leavingEvents).views.rows = [] := by decide +kernel
    rw [Table.find?, hrows] at hfind
    cases hfind

end Broker

end K5Vision.Analytics.Views
