import K5Vision.Viewport.OperatorControl
import Mathlib.Data.List.Induction

/-!
# History, active layout and application agree

The layout of an operator session is held three times: by the history, by the controller and by
the application.  `process_effect` says once what a command can do; a command that is not
accepted changes none of the three, and one that is accepted changes them together
(`layouts_agree`).

The history recomputes the layout of an edit from its own current layout, behind the acceptance,
so the agreement before a command is what makes the commit behind it succeed.
-/

namespace K5Vision.Viewport

open Library

namespace OperatorControl

variable {config : ControlConfig} {control : OperatorControl}

/-- The three layouts of a session are the same. -/
structure Agrees (control : OperatorControl) : Prop where
  active : control.activeLayout = control.shown
  history : ∀ history, control.viewportHistory = some history → history.layout = control.shown

/-! ## The history that a command works on -/

theorem ensureHistory_eq_ok (config : ControlConfig) (control : OperatorControl) :
    ∃ history, control.ensureHistory config = .ok history ∧
      (control.viewportHistory = some history ∨
        control.viewportHistory = none ∧ history.layout = control.activeLayout) := by
  unfold ensureHistory
  cases hhistory : control.viewportHistory with
  | some history => exact ⟨history, rfl, .inl rfl⟩
  | none =>
      simp only [Editing.create, BoundedViewportEditorHistory.create]
      rw [dif_pos ⟨config.history_fits, config.operations_fit⟩]
      exact ⟨_, rfl, .inr ⟨trivial, rfl⟩⟩

/-- The session with the history that a command finds. -/
def prepared (config : ControlConfig) (control : OperatorControl) : OperatorControl :=
  if config.keepsHistory then
    { control with viewportHistory := (control.ensureHistory config).toOption }
  else control

theorem prepared_of_ok (hkeeps : config.keepsHistory) {history : BoundedViewportEditorHistory}
    (h : control.ensureHistory config = .ok history) :
    control.prepared config = { control with viewportHistory := some history } := by
  rw [prepared, if_pos hkeeps, h]
  rfl

@[simp] theorem ensureHistory_prepared (config : ControlConfig) (control : OperatorControl) :
    (control.prepared config).ensureHistory config = control.ensureHistory config := by
  by_cases hkeeps : config.keepsHistory
  · obtain ⟨history, hok, -⟩ := ensureHistory_eq_ok config control
    rw [prepared_of_ok hkeeps hok, hok]
    rfl
  · rw [prepared, if_neg hkeeps]

@[simp] theorem activeLayout_prepared (config : ControlConfig) (control : OperatorControl) :
    (control.prepared config).activeLayout = control.activeLayout := by
  unfold prepared
  split_ifs <;> rfl

@[simp] theorem shown_prepared (config : ControlConfig) (control : OperatorControl) :
    (control.prepared config).shown = control.shown := by
  unfold prepared
  split_ifs <;> rfl

@[simp] theorem counters_prepared (config : ControlConfig) (control : OperatorControl) :
    (control.prepared config).counters = control.counters := by
  unfold prepared
  split_ifs <;> rfl

theorem Agrees.prepared (h : control.Agrees) : (control.prepared config).Agrees := by
  by_cases hkeeps : config.keepsHistory
  · obtain ⟨history, hok, hfound⟩ := ensureHistory_eq_ok config control
    rw [prepared_of_ok hkeeps hok]
    refine ⟨h.active, ?_⟩
    intro found hsome
    cases hsome
    rcases hfound with hfound | ⟨-, hfresh⟩
    · exact h.history history hfound
    · exact hfresh.trans h.active
  · rw [OperatorControl.prepared, if_neg hkeeps]
    exact h

theorem Agrees.ensured (h : control.Agrees) {history : BoundedViewportEditorHistory}
    (hok : control.ensureHistory config = .ok history) :
    history.layout = control.activeLayout := by
  obtain ⟨found, hfound, hcases⟩ := ensureHistory_eq_ok config control
  rw [hfound] at hok
  cases hok
  rcases hcases with hsome | ⟨-, hfresh⟩
  · exact (h.history history hsome).trans h.active.symm
  · exact hfresh

/-! ## What a command does -/

inductive Effect (control : OperatorControl) : Verdict × OperatorControl → Prop
  | stopped (counters : ControlCounters) :
      Effect control (.terminal .complete, { control with counters := counters })
  | raised (raised : Raised) : Effect control (.raised raised, control)
  | gesture (counters : ControlCounters) :
      Effect control (.goOn, { control with counters := counters })
  /-- The application has accepted a layout. -/
  | shown (layout : ViewportLayout) (history : Option BoundedViewportEditorHistory)
      (drag : Option PointerDrag) (counters : ControlCounters)
      (hlayout : ∀ kept, history = some kept → kept.layout = layout) :
      Effect control (.goOn, { control with
        activeLayout := layout
        viewportHistory := history
        shown := layout
        pointerDrag := drag
        counters := counters })

theorem cancelInteraction_eq (control : OperatorControl) : ∃ counters, control.cancelInteraction =
      { control with pointerDrag := none, counters := counters } := by
  unfold cancelInteraction
  split
  · next hdrag => exact ⟨control.counters, by rw [← hdrag]⟩
  · exact ⟨_, rfl⟩

theorem refuseEdit_effect (control : OperatorControl) (pointerOrigin : Bool)
    (error : ViewportEditorError) : Effect control (control.refuseEdit pointerOrigin error) := by
  unfold refuseEdit
  split_ifs
  · exact .gesture _
  · exact .raised _

theorem processStop_effect (control : OperatorControl) (answer : Answer) :
    Effect control (control.processStop answer) := by
  cases answer with
  | accepted => exact .stopped _
  | rejected => exact .raised _
  | cancelled => exact .raised _

theorem rebaseHistory_effect (control : OperatorControl) (history : BoundedViewportEditorHistory)
    (layout : ViewportLayout) (change : ControlCounters → ControlCounters) :
    Effect control (.goOn, (control.rebaseHistory history layout).count change) := by
  obtain ⟨counters, hcancel⟩ := control.cancelInteraction_eq
  unfold rebaseHistory
  rw [hcancel]
  refine .shown layout _ none _ ?_
  intro kept hkept
  cases hkept
  rfl

theorem settle_effect {history : BoundedViewportEditorHistory} {answer : Answer}
    {candidate : Option ViewportLayout}
    {commit : BoundedViewportEditorHistory → Except HistoryFailure BoundedViewportEditorHistory}
    (hhistory : control.viewportHistory = some history)
    (hcommit : ∀ layout, candidate = some layout → history.available →
      ∃ committed, commit history = .ok committed ∧ committed.layout = layout)
    (unavailable refused mismatch : String) (change : ControlCounters → ControlCounters) :
    Effect control (control.settle change ((Editing.mk history control.shown).transact answer
      candidate commit unavailable refused mismatch)) := by
  rcases Editing.transact_cases ⟨history, control.shown⟩ answer candidate commit hcommit
      unavailable refused mismatch with ⟨raised, heq, -⟩ | ⟨layout, committed, -, -, -, -, hlayout, heq⟩
  · rw [heq]
    simp only [settle, ← hhistory]
    exact .raised _
  rw [heq]
  simp only [settle, BoundedViewportEditorHistory.snapshot, hlayout]
  refine .shown layout (some committed) control.pointerDrag _ ?_
  intro kept hkept
  cases hkept
  exact hlayout

theorem candidate_of_toOption {ε : Type} {result : Except ε ViewportLayout}
    {layout : ViewportLayout} (h : result.toOption = some layout) : result = .ok layout := by
  cases result with
  | error error => cases h
  | ok found =>
      cases h
      rfl

theorem processHistoryRequest_effect {history : BoundedViewportEditorHistory}
    (hhistory : control.viewportHistory = some history) (request : ControlRequest)
    (answer : Answer) :
    Effect control (control.processHistoryRequest history request answer) := by
  cases request with
  | stop => exact processStop_effect control answer
  | undo =>
      refine settle_effect hhistory ?_ _ _ _ _
      intro layout hcandidate havailable
      exact BoundedViewportEditorHistory.takeBack_eq_ok (candidate_of_toOption hcandidate)
        havailable
  | redo =>
      refine settle_effect hhistory ?_ _ _ _ _
      intro layout hcandidate havailable
      exact BoundedViewportEditorHistory.bringBack_eq_ok (candidate_of_toOption hcandidate)
        havailable
  | edit edit pointerOrigin =>
      cases hedit : applyViewportEdit control.activeLayout edit with
      | error error =>
          simp only [processHistoryRequest, hedit]
          exact refuseEdit_effect control pointerOrigin error
      | ok candidate =>
          simp only [processHistoryRequest, hedit]
          refine settle_effect hhistory ?_ _ _ _ _
          intro layout hcandidate havailable
          exact BoundedViewportEditorHistory.apply_eq_ok (candidate_of_toOption hcandidate)
            havailable
  | relayout layout =>
      cases answer with
      | accepted => exact rebaseHistory_effect control history layout _
      | rejected => exact .raised _
      | cancelled => exact .raised _
  | replace layout =>
      cases answer with
      | accepted => exact rebaseHistory_effect control history layout _
      | rejected => exact .raised _
      | cancelled => exact .raised _

theorem display_effect (hhistory : control.viewportHistory = none) (layout : ViewportLayout)
    (change : ControlCounters → ControlCounters) :
    Effect control (.goOn, (control.display layout).count change) := by
  refine .shown layout control.viewportHistory control.pointerDrag _ ?_
  intro kept hkept
  rw [hhistory] at hkept
  cases hkept

theorem processRequest_effect (hhistory : control.viewportHistory = none)
    (request : ControlRequest) (answer : Answer) :
    Effect control (control.processRequest request answer) := by
  cases request with
  | stop => exact processStop_effect control answer
  | undo => exact .raised _
  | redo => exact .raised _
  | edit edit pointerOrigin =>
      cases hedit : applyViewportEdit control.activeLayout edit with
      | error error =>
          simp only [processRequest, hedit]
          exact refuseEdit_effect control pointerOrigin error
      | ok candidate =>
          simp only [processRequest, hedit]
          cases answer with
          | accepted => exact display_effect hhistory candidate _
          | rejected => exact .raised _
          | cancelled => exact .raised _
  | relayout layout =>
      cases answer with
      | accepted => exact display_effect hhistory layout _
      | rejected => exact .raised _
      | cancelled => exact .raised _
  | replace layout =>
      cases answer with
      | accepted => exact display_effect hhistory layout _
      | rejected => exact .raised _
      | cancelled => exact .raised _

def Classed (config : ControlConfig) (control : OperatorControl) : Prop :=
  config.keepsHistory = false → control.viewportHistory = none

theorem process_effect (hclassed : control.Classed config) (request : ControlRequest)
    (answer : Answer) :
    Effect (control.prepared config) (control.process config request answer) := by
  unfold process
  by_cases hkeeps : config.keepsHistory
  · obtain ⟨history, hok, -⟩ := ensureHistory_eq_ok config control
    rw [if_pos hkeeps, hok, prepared_of_ok hkeeps hok]
    exact processHistoryRequest_effect rfl request answer
  · rw [if_neg hkeeps, OperatorControl.prepared, if_neg hkeeps]
    exact processRequest_effect (hclassed (by simpa using hkeeps)) request answer

/-! ## Commands one after the other -/

structure Sound (config : ControlConfig) (control : OperatorControl) : Prop where
  agrees : control.Agrees
  classed : control.Classed config

theorem Effect.agrees {ended : Verdict × OperatorControl} (h : Effect control ended)
    (hagrees : control.Agrees) : ended.2.Agrees := by
  cases h with
  | stopped counters => exact ⟨hagrees.active, hagrees.history⟩
  | raised raised => exact hagrees
  | gesture counters => exact ⟨hagrees.active, hagrees.history⟩
  | shown layout history drag counters hlayout => exact ⟨rfl, hlayout⟩

theorem process_classed (hclassed : control.Classed config) (request : ControlRequest)
    (answer : Answer) : (control.process config request answer).2.Classed config := by
  intro hkeeps
  have hnone := hclassed hkeeps
  unfold process
  rw [if_neg (by simp [hkeeps])]
  cases request with
  | edit edit pointerOrigin =>
      cases hedit : applyViewportEdit control.activeLayout edit with
      | error error =>
          simp only [processRequest, hedit, refuseEdit]
          split_ifs <;> exact hnone
      | ok candidate =>
          simp only [processRequest, hedit]
          cases answer <;> exact hnone
  | stop => cases answer <;> exact hnone
  | undo => exact hnone
  | redo => exact hnone
  | relayout layout => cases answer <;> exact hnone
  | replace layout => cases answer <;> exact hnone

theorem Sound.process (h : control.Sound config) (request : ControlRequest) (answer : Answer) :
    (control.process config request answer).2.Sound config :=
  ⟨(process_effect h.classed request answer).agrees h.agrees.prepared,
    process_classed h.classed request answer⟩

theorem sound_started (config : ControlConfig) (layout : ViewportLayout)
    (controls : List ControlRequest) : (started config layout controls).Sound config := by
  refine ⟨⟨rfl, ?_⟩, fun _ => rfl⟩
  intro history hhistory
  cases hhistory

/-- A session behind a list of commands, each with the answer of the application; it takes the
next one also when one was raised. -/
def commanded (config : ControlConfig) (layout : ViewportLayout)
    (commands : List (ControlRequest × Answer)) : OperatorControl :=
  commands.foldl (fun control command => (control.process config command.1 command.2).2)
    (started config layout [])

theorem sound_commanded (config : ControlConfig) (layout : ViewportLayout)
    (commands : List (ControlRequest × Answer)) : (commanded config layout commands).Sound config := by
  induction commands using List.reverseRecOn with
  | nil => exact sound_started config layout []
  | append_singleton commands command ih =>
      rw [commanded, List.foldl_append]
      exact ih.process command.1 command.2

/-- A command that raises has left the layouts, the history and the counters as they were. -/
theorem unchanged_of_raised (hclassed : control.Classed config) {request : ControlRequest}
    {answer : Answer} {raised : Raised}
    (h : (control.process config request answer).1 = .raised raised) :
    (control.process config request answer).2 = control.prepared config := by
  have heffect := process_effect hclassed request answer
  generalize control.process config request answer = ended at h heffect
  cases heffect with
  | raised found => rfl
  | stopped counters => cases h
  | gesture counters => cases h
  | shown layout history drag counters hlayout => cases h

/-- For every sequence of commands and answers: behind each of them the layout of the history, the
active layout and the layout that the application accepted last are the same; and the next
command, if it is not accepted, leaves the history with its counters, the active layout and the
counters of the session as they are. -/
theorem layouts_agree (config : ControlConfig) (layout : ViewportLayout)
    (commands : List (ControlRequest × Answer)) :
    let control := commanded config layout commands
    (∃ history, control.ensureHistory config = .ok history ∧
        history.layout = control.activeLayout ∧ control.activeLayout = control.shown) ∧
      ∀ request answer raised, (control.process config request answer).1 = .raised raised →
        let rejected := (control.process config request answer).2
        rejected.ensureHistory config = control.ensureHistory config ∧
          rejected.activeLayout = control.activeLayout ∧ rejected.shown = control.shown ∧
            rejected.counters = control.counters := by
  intro control
  have hsound : control.Sound config := sound_commanded config layout commands
  constructor
  · obtain ⟨history, hok, -⟩ := ensureHistory_eq_ok config control
    exact ⟨history, hok, hsound.agrees.ensured hok, hsound.agrees.active⟩
  · intro request answer raised hraised
    simp only [unchanged_of_raised hsound.classed hraised, ensureHistory_prepared,
      activeLayout_prepared, shown_prepared, counters_prepared, and_self]

end OperatorControl

end K5Vision.Viewport
