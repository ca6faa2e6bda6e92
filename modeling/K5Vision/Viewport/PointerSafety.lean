import K5Vision.Viewport.HistoryAgreement

/-!
# What pointer input can do to a session

A pointer event is ignored, begins or cancels a gesture, or puts an edit into the queue; an edit
from the pointer is applied, or cancels its gesture when its geometry is invalid.  The session
fails closed in the cases that `Overflows` and `Refused` list, and in no other
(`pointer_input_exact`): the queue is full when a drag is released, the slot has left the layout
in the meantime, the history has had its operations, or the application does not accept.

That an edit is only refused in these cases rests on the agreement of the layouts: the edit
is checked against the active layout and then applied to that of the history.
-/

namespace K5Vision.Viewport

open Library

namespace OperatorControl

variable {config : ControlConfig} {control : OperatorControl}

/-! ## Reachable sessions -/

theorem Sound.congr {other : OperatorControl} (h : control.Sound config)
    (hactive : other.activeLayout = control.activeLayout) (hshown : other.shown = control.shown)
    (hhistory : other.viewportHistory = control.viewportHistory) : other.Sound config := by
  refine ⟨⟨?_, ?_⟩, ?_⟩
  · rw [hactive, hshown]
    exact h.agrees.active
  · rw [hhistory, hshown]
    exact h.agrees.history
  · intro hkeeps
    rw [hhistory]
    exact h.classed hkeeps

structure SameLayouts (before after : OperatorControl) : Prop where
  active : after.activeLayout = before.activeLayout
  shown : after.shown = before.shown
  history : after.viewportHistory = before.viewportHistory
  status : after.status = before.status
  phase : after.phase = before.phase

theorem SameLayouts.sound {before after : OperatorControl} (h : SameLayouts before after)
    (hsound : before.Sound config) : after.Sound config :=
  hsound.congr h.active h.shown h.history

inductive PointerEffect (control : OperatorControl) : OperatorControl → Prop
  | ignored : PointerEffect control control
  /-- A gesture begins, in the place of one that is cancelled; or it ends where it began. -/
  | gesture (drag : Option PointerDrag) (counters : ControlCounters) :
      PointerEffect control { control with pointerDrag := drag, counters := counters }
  /-- The edit of a drag is in the queue. -/
  | queued (edit : ViewportEdit) :
      PointerEffect control { control with
        pointerDrag := none
        controls := control.controls ++ [.edit edit true] }

theorem PointerEffect.sameLayouts {after : OperatorControl} (h : PointerEffect control after) :
    SameLayouts control after := by
  cases h <;> exact ⟨rfl, rfl, rfl, rfl, rfl⟩

/-- The release of a drag raises: it has led too far for an edit, or the queue is full. -/
def Overflows (config : ControlConfig) (control : OperatorControl) (event : WindowsPointerEvent) :
    Prop :=
  event.kind = .up ∧ ∃ drag, control.pointerDrag = some drag ∧
    ¬ (event.x = drag.startX ∧ event.y = drag.startY) ∧
      (¬ editFits drag.logicalSlot (event.x - drag.startX) (event.y - drag.startY) ∨
        config.maxPendingControls ≤ control.controls.length)

def Consumed (config : ControlConfig) (control : OperatorControl) (event : WindowsPointerEvent) :
    Prop :=
  let ended := control.consumePointerEvent config event
  (ended.1 = .goOn ∧ PointerEffect control ended.2 ∧ ¬ Overflows config control event) ∨
    ((∃ raised, ended.1 = .raised raised) ∧ SameLayouts control ended.2 ∧
      Overflows config control event)

theorem edit_eq_none {drag : PointerDrag} {dx dy : ℤ} :
    drag.edit dx dy = none ↔ ¬ editFits drag.logicalSlot dx dy := by
  unfold PointerDrag.edit
  split_ifs with hfits
  · cases drag.kind <;> simp [hfits]
  · simp [hfits]

theorem cancelInteraction_effect (control : OperatorControl) :
    PointerEffect control control.cancelInteraction := by
  obtain ⟨counters, h⟩ := control.cancelInteraction_eq
  rw [h]
  exact .gesture none counters

theorem enqueue_cases (config : ControlConfig) (hrunning : control.status = .running) (request : ControlRequest) :
    (control.enqueue config request =
        .ok { control with controls := control.controls ++ [request] } ∧
        ¬ config.maxPendingControls ≤ control.controls.length) ∨
      ∃ error, control.enqueue config request = .error error ∧
        config.maxPendingControls ≤ control.controls.length := by
  unfold enqueue
  rw [if_neg (not_not_intro hrunning)]
  split_ifs with hfull
  · exact .inr ⟨_, rfl, hfull⟩
  · exact .inl ⟨rfl, hfull⟩

theorem releaseDrag_cases (config : ControlConfig) (hrunning : control.status = .running)
    (drag : PointerDrag) (dx dy : ℤ) :
    let released := { control with pointerDrag := none }
    let overflow := ¬ editFits drag.logicalSlot dx dy ∨
      config.maxPendingControls ≤ control.controls.length
    (∃ edit, released.releaseDrag config drag dx dy = (.goOn, { control with
        pointerDrag := none
        controls := control.controls ++ [.edit edit true] }) ∧ ¬ overflow) ∨
      ∃ raised, released.releaseDrag config drag dx dy = (.raised raised, released) ∧ overflow := by
  intro released overflow
  unfold releaseDrag
  cases hedit : drag.edit dx dy with
  | none => exact .inr ⟨_, rfl, .inl (edit_eq_none.mp hedit)⟩
  | some edit =>
      have hfits : editFits drag.logicalSlot dx dy := by
        by_contra hnot
        rw [edit_eq_none.mpr hnot] at hedit
        cases hedit
      have hreleased : released.status = .running := hrunning
      rcases enqueue_cases config hreleased (.edit edit true) with
        ⟨heq, hroom⟩ | ⟨error, heq, hfull⟩
      · simp only [heq]
        exact .inl ⟨edit, rfl, not_or.mpr ⟨not_not_intro hfits, hroom⟩⟩
      · simp only [heq]
        exact .inr ⟨_, rfl, .inr hfull⟩

theorem consumed (config : ControlConfig) (hrunning : control.status = .running)
    (event : WindowsPointerEvent) :
    Consumed config control event := by
  unfold Consumed consumePointerEvent
  cases hkind : event.kind with
  | cancel =>
      refine .inl ⟨rfl, cancelInteraction_effect control, ?_⟩
      simp [Overflows, hkind]
  | down =>
      refine .inl ⟨rfl, ?_, by simp [Overflows, hkind]⟩
      obtain ⟨counters, hcancel⟩ := control.cancelInteraction_eq
      simp only [hcancel]
      exact .gesture _ counters
  | move => exact .inl ⟨rfl, .ignored, by simp [Overflows, hkind]⟩
  | up =>
      cases hdrag : control.pointerDrag with
      | none => exact .inl ⟨rfl, .ignored, by simp [Overflows, hdrag]⟩
      | some drag =>
          simp only
          by_cases hplace : event.x - drag.startX = 0 ∧ event.y - drag.startY = 0
          · rw [if_pos hplace]
            refine .inl ⟨rfl, .gesture none control.counters, ?_⟩
            rintro ⟨-, other, hother, hne, -⟩
            rw [hdrag] at hother
            cases hother
            exact hne ⟨by omega, by omega⟩
          rw [if_neg hplace]
          have hmoved : ¬ (event.x = drag.startX ∧ event.y = drag.startY) := by omega
          rcases releaseDrag_cases config hrunning drag (event.x - drag.startX)
              (event.y - drag.startY) with ⟨edit, heq, hroom⟩ | ⟨raised, heq, hover⟩
          · rw [heq]
            refine .inl ⟨rfl, .queued edit, ?_⟩
            rintro ⟨-, other, hother, -, hover⟩
            rw [hdrag] at hother
            cases hother
            exact hroom hover
          · rw [heq]
            exact .inr ⟨⟨raised, rfl⟩, ⟨rfl, rfl, rfl, rfl, rfl⟩, hkind, drag, hdrag, hmoved, hover⟩

theorem consumed_batch (config : ControlConfig) (hrunning : control.status = .running)
    (events : List WindowsPointerEvent) :
    let ended := control.consumePointerEvents config events
    SameLayouts control ended.2 ∧
      (ended.1 = .goOn ∨ ∃ before event after middle, events = before ++ event :: after ∧
        control.consumePointerEvents config before = (.goOn, middle) ∧
          Overflows config middle event) := by
  induction events generalizing control with
  | nil => exact ⟨⟨rfl, rfl, rfl, rfl, rfl⟩, .inl rfl⟩
  | cons event events ih =>
      have hconsumed := consumed config hrunning event
      cases hended : control.consumePointerEvent config event with
      | mk verdict middle =>
          simp only [consumePointerEvents, Consumed, hended] at hconsumed ⊢
          rcases hconsumed with ⟨rfl, heffect, -⟩ | ⟨⟨raised, rfl⟩, hsame, hover⟩
          · have hfirst := heffect.sameLayouts
            obtain ⟨hsame, hcases⟩ := ih (hfirst.status.trans hrunning)
            refine ⟨⟨hsame.active.trans hfirst.active, hsame.shown.trans hfirst.shown,
              hsame.history.trans hfirst.history, hsame.status.trans hfirst.status,
              hsame.phase.trans hfirst.phase⟩, ?_⟩
            rcases hcases with hgo | ⟨before, last, after, final, rfl, hbefore, hover⟩
            · exact .inl hgo
            · refine .inr ⟨event :: before, last, after, final, rfl, ?_, hover⟩
              simp only [consumePointerEvents, hended, hbefore]
          · exact ⟨hsame, .inr ⟨[], event, events, control, rfl, rfl, hover⟩⟩

theorem Sound.finish (h : control.Sound config) (status : WindowsOperatorSessionState) :
    (control.finish status).Sound config := by
  obtain ⟨counters, hcancel⟩ := control.cancelInteraction_eq
  refine h.congr ?_ ?_ ?_ <;> simp only [OperatorControl.finish, hcancel]

theorem Sound.resume {next : OperatorControl → OperatorControl}
    (hnext : ∀ control : OperatorControl, control.Sound config → (next control).Sound config)
    {ended : Verdict × OperatorControl} (h : ended.2.Sound config) :
    (resume next ended).Sound config := by
  obtain ⟨verdict, after⟩ := ended
  cases verdict with
  | goOn => exact hnext after h
  | terminal status => exact h.finish status
  | raised raised => exact h.finish _

theorem Sound.advanceControls (h : control.Sound config) (left : ℕ) (answer : Answer) :
    (control.advanceControls config left answer).Sound config := by
  unfold OperatorControl.advanceControls
  split
  · exact h.congr rfl rfl rfl
  · exact h.congr rfl rfl rfl
  next left request rest _ =>
    have htaken : Sound config { control with controls := rest, phase := .controls left } :=
      h.congr rfl rfl rfl
    exact Sound.resume (fun _ hafter => hafter) (htaken.process request answer)

theorem Sound.advancePump (h : control.Sound config) (hrunning : control.status = .running)
    (pumped : Pumped) : (control.advancePump config pumped).Sound config := by
  unfold OperatorControl.advancePump
  cases pumped with
  | closed => exact h.finish _
  | failed => exact h.finish _
  | cancelled => exact h.finish _
  | events events =>
      have hsame := (consumed_batch config hrunning events).1
      refine Sound.resume ?_ (hsame.sound h)
      exact fun _ hafter => hafter.congr rfl rfl rfl
  | ended events completed =>
      have hsame := (consumed_batch config hrunning events).1
      refine Sound.resume ?_ (hsame.sound h)
      exact fun _ hafter => hafter.finish _

theorem Sound.step (h : control.Sound config) (event : Event) :
    (control.step config event).Sound config := by
  cases event with
  | request request =>
      simp only [OperatorControl.step, enqueue]
      split_ifs
      · exact h
      · exact h
      · exact h.congr rfl rfl rfl
  | control answer =>
      simp only [OperatorControl.step]
      split
      · exact h.advanceControls _ answer
      · exact h
  | pump pumped =>
      simp only [OperatorControl.step]
      split
      · next hrunning hphase => exact h.advancePump hrunning pumped
      · exact h

theorem sound_reaches {layout : ViewportLayout} {controls : List ControlRequest}
    {events : List Event}
    (h : (machine config).Reaches (started config layout controls) events control) :
    control.Sound config :=
  h.invariant
    (fun _ event hsound _ => hsound.step event) (sound_started config layout controls)

/-! ## Edits from the pointer -/

/-- An edit from the pointer is raised: its slot is not in the layout; or its geometry is valid,
and the history has had its operations or the application does not accept. -/
def Refused (config : ControlConfig) (control : OperatorControl) (edit : ViewportEdit)
    (answer : Answer) : Prop :=
  ¬ edit.Targets control.activeLayout ∨
    (∃ candidate, applyViewportEdit control.activeLayout edit = .ok candidate) ∧
      (answer ≠ .accepted ∨ config.keepsHistory ∧
        ∀ history, control.ensureHistory config = .ok history → ¬ history.available)

def Processed (config : ControlConfig) (control : OperatorControl) (edit : ViewportEdit)
    (answer : Answer) : Prop :=
  let ended := control.process config (.edit edit true) answer
  (ended.1 = .goOn ∧ ¬ Refused config control edit answer ∧
      ((∃ candidate, applyViewportEdit control.activeLayout edit = .ok candidate ∧
          ended.2.activeLayout = candidate ∧ ended.2.shown = candidate) ∨
        ((∃ error, applyViewportEdit control.activeLayout edit = .error error ∧
          error.code = .invalidEdit) ∧
          ended.2 = (control.prepared config).count fun counters =>
            { counters with cancelledInteractions := counters.cancelledInteractions + 1 }))) ∨
    ((∃ raised, ended.1 = .raised raised) ∧ ended.2 = control.prepared config ∧
      Refused config control edit answer)

theorem processed_of_error {edit : ViewportEdit} {answer : Answer} {error : ViewportEditorError}
    (hedit : applyViewportEdit control.activeLayout edit = .error error)
    (hprocess : control.process config (.edit edit true) answer =
      (control.prepared config).refuseEdit true error) :
    Processed config control edit answer := by
  unfold Processed
  rw [hprocess, hedit]
  rcases applyViewportEdit_cases control.activeLayout edit with
    ⟨candidate, hok, -⟩ | ⟨found, hfound, hcode, htargets⟩ | ⟨found, hfound, hcode, htargets⟩
  · rw [hedit] at hok
    cases hok
  · rw [hedit] at hfound
    cases hfound
    refine .inl ?_
    simp [refuseEdit, hcode, Refused, hedit, htargets]
  · rw [hedit] at hfound
    cases hfound
    refine .inr ?_
    simp [refuseEdit, hcode, Refused, htargets]

theorem processed_of_history {edit : ViewportEdit} {answer : Answer} {candidate : ViewportLayout}
    {history : BoundedViewportEditorHistory}
    (hedit : applyViewportEdit control.activeLayout edit = .ok candidate)
    (htargets : edit.Targets control.activeLayout) (hkeeps : config.keepsHistory)
    (hok : control.ensureHistory config = .ok history)
    (hlayout : history.layout = control.activeLayout) :
    Processed config control edit answer := by
  have hfound : applyViewportEdit history.layout edit = .ok candidate := by rw [hlayout, hedit]
  have hprocess : control.process config (.edit edit true) answer =
      (control.prepared config).settle (countEdit true)
        ((Editing.mk history control.shown).apply edit answer) := by
    simp only [process, if_pos hkeeps, hok, processHistoryRequest, hedit, prepared_of_ok hkeeps hok]
  unfold Processed
  rw [hprocess, prepared_of_ok hkeeps hok]
  have hcommit : ∀ layout, (applyViewportEdit history.layout edit).toOption = some layout →
      history.available →
        ∃ committed, history.apply edit = .ok committed ∧ committed.layout = layout :=
    fun layout hcandidate havailable =>
      BoundedViewportEditorHistory.apply_eq_ok (candidate_of_toOption hcandidate) havailable
  rcases Editing.transact_cases ⟨history, control.shown⟩ answer
      (applyViewportEdit history.layout edit).toOption (fun history => history.apply edit) hcommit
      "viewport edit is invalid" "viewport history could not accept edit"
      "viewport history state mismatch" with
    ⟨raised, heq, hwhy⟩ | ⟨layout, committed, hcandidate, havailable, haccepted, -, hcommitted, heq⟩
  · refine .inr ?_
    simp only [Editing.apply, BoundedViewportEditorHistory.snapshot, heq, settle]
    refine ⟨⟨_, rfl⟩, trivial, .inr ⟨⟨candidate, hedit⟩, ?_⟩⟩
    rcases hwhy with hnone | hunavailable | hanswer
    · rw [hfound] at hnone
      cases hnone
    · refine .inr ⟨hkeeps, ?_⟩
      intro other hother
      rw [hok] at hother
      cases hother
      exact hunavailable
    · exact .inl hanswer
  · refine .inl ?_
    have hlast : candidate = layout := by
      rw [hfound] at hcandidate
      cases hcandidate
      rfl
    simp only [Editing.apply, BoundedViewportEditorHistory.snapshot, heq, settle, count]
    refine ⟨trivial, ?_, .inl ⟨candidate, hedit, hcommitted.trans hlast.symm, hlast.symm⟩⟩
    rintro (hgone | ⟨-, hanswer | ⟨-, hunavailable⟩⟩)
    · exact hgone htargets
    · exact hanswer haccepted
    · exact hunavailable history hok havailable

theorem processed_of_display {edit : ViewportEdit} {answer : Answer} {candidate : ViewportLayout}
    (hedit : applyViewportEdit control.activeLayout edit = .ok candidate)
    (htargets : edit.Targets control.activeLayout) (hkeeps : config.keepsHistory = false) :
    Processed config control edit answer := by
  unfold Processed
  simp only [process, prepared, hkeeps, processRequest, hedit, Refused, htargets]
  cases answer with
  | accepted =>
      refine .inl ⟨rfl, ?_, .inl ⟨candidate, rfl, rfl, rfl⟩⟩
      simp
  | rejected => exact .inr ⟨⟨_, rfl⟩, rfl, by simp⟩
  | cancelled => exact .inr ⟨⟨_, rfl⟩, rfl, by simp⟩

theorem processed (h : control.Sound config) (edit : ViewportEdit) (answer : Answer) :
    Processed config control edit answer := by
  rcases applyViewportEdit_cases control.activeLayout edit with
    ⟨candidate, hedit, -, htargets⟩ | ⟨error, hedit, -⟩ | ⟨error, hedit, -⟩
  · by_cases hkeeps : config.keepsHistory
    · obtain ⟨history, hok, -⟩ := ensureHistory_eq_ok config control
      exact processed_of_history hedit htargets hkeeps hok (h.agrees.ensured hok)
    · exact processed_of_display hedit htargets (by simpa using hkeeps)
  all_goals
    refine processed_of_error hedit ?_
    by_cases hkeeps : config.keepsHistory
    · obtain ⟨history, hok, -⟩ := ensureHistory_eq_ok config control
      simp only [process, if_pos hkeeps, hok, processHistoryRequest, hedit,
        prepared_of_ok hkeeps hok]
    · simp only [process, prepared, if_neg hkeeps, processRequest, hedit]

/-! ## Every session -/

/-- A session with an edit from the pointer at the head of its queue. -/
def Takes (control : OperatorControl) (edit : ViewportEdit) (left : ℕ)
    (rest : List ControlRequest) : Prop :=
  control.phase = .controls (left + 1) ∧ control.controls = .edit edit true :: rest

theorem status_process (h : control.Sound config) (edit : ViewportEdit) (answer : Answer)
    (hgoOn : (control.process config (.edit edit true) answer).1 = .goOn) :
    (control.process config (.edit edit true) answer).2.status = control.status := by
  have hprepared : (control.prepared config).status = control.status := by
    unfold prepared
    split_ifs <;> rfl
  have heffect := process_effect h.classed (.edit edit true) answer
  generalize control.process config (.edit edit true) answer = ended at hgoOn heffect
  cases heffect with
  | raised raised => cases hgoOn
  | stopped counters => cases hgoOn
  | gesture counters => exact hprepared
  | shown layout history drag counters hlayout => exact hprepared

theorem Takes.step_eq {edit : ViewportEdit} {left : ℕ} {rest : List ControlRequest}
    (h : control.Takes edit left rest) (hrunning : control.status = .running) (answer : Answer) :
    control.step config (.control answer) = resume id
      (process config { control with controls := rest, phase := .controls left }
        (.edit edit true) answer) := by
  obtain ⟨hphase, hcontrols⟩ := h
  simp only [step, hrunning, hphase, advanceControls, hcontrols]

/-- In every state of every session, of either class, under every order of requests, pointer
batches and answers: a pointer event and an edit from the pointer have one of the effects named,
or raise, and they raise exactly if they overflow or are refused.  So a batch of pointer events
ends a running session only if one of them overflows, and an edit from the pointer only if it is
refused. -/
theorem pointer_input_exact (config : ControlConfig) (layout : ViewportLayout)
    (controls : List ControlRequest) (events : List Event) (control : OperatorControl)
    (h : (machine config).Reaches (started config layout controls) events control)
    (hrunning : control.status = .running) :
    (∀ event, Consumed config control event) ∧
      (∀ edit answer, Processed config control edit answer) ∧
      (∀ batch, control.phase = .pump →
        (control.step config (.pump (.events batch))).status = .running ∨
          ∃ before event after middle, batch = before ++ event :: after ∧
            control.consumePointerEvents config before = (.goOn, middle) ∧
              Overflows config middle event) ∧
      ∀ edit left rest answer, control.Takes edit left rest →
        (control.step config (.control answer)).status = .running ∨
          Refused config control edit answer := by
  have hsound := sound_reaches h
  refine ⟨consumed config hrunning, processed hsound, ?_, ?_⟩
  · intro batch hphase
    obtain ⟨hsame, hcases⟩ := consumed_batch config hrunning batch
    rcases hcases with hgo | hover
    · refine .inl ?_
      simp only [step, hrunning, hphase, advancePump]
      generalize control.consumePointerEvents config batch = ended at hgo hsame
      obtain ⟨verdict, after⟩ := ended
      cases hgo
      exact hsame.status.trans hrunning
    · exact .inr hover
  · intro edit left rest answer htakes
    have htaken : Sound config { control with controls := rest, phase := .controls left } :=
      hsound.congr rfl rfl rfl
    rw [htakes.step_eq hrunning]
    rcases processed htaken edit answer with ⟨hgoOn, -, -⟩ | ⟨-, -, hrefused⟩
    · refine .inl ?_
      have hstatus := status_process htaken edit answer hgoOn
      generalize process config _ (.edit edit true) answer = ended at hgoOn hstatus
      obtain ⟨verdict, after⟩ := ended
      cases hgoOn
      exact hstatus.trans hrunning
    · exact .inr hrefused

/-! ## A gesture whose slot has gone -/

def tile (logicalSlot : ℕ) (x : ℤ) (hslot : logicalSlot ≤ maxSlot)
    (hfits : geometryFits x 10 200 200 0) : ViewportPlacement :=
  ⟨logicalSlot, ⟨x, 10, 200, 200, 0, hfits⟩, hslot⟩

def firstTile : ViewportPlacement := tile 7 10 (by decide) (by decide)

def secondTile : ViewportPlacement := tile 4095 300 (by decide) (by decide)

def twoTiles : ViewportLayout := ⟨[firstTile, secondTile], by decide, by decide, by decide⟩

def secondTileOnly : ViewportLayout := ⟨[secondTile], by decide, by decide, by decide⟩

/-- The bounds that the constructor has by default. -/
def defaultConfig : ControlConfig where
  keepsHistory := true
  maxPendingControls := 16
  maxControlsPerCycle := 4
  maxViewportHistory := 128
  maxViewportHistoryOperations := 100000
  pending_fits := by decide
  cycle_fits := by decide
  history_fits := by decide
  operations_fit := by decide

/-- The first tile is dragged, while a layout without it is on its way. -/
def staleGesture : List Event :=
  [.control .accepted, .request (.replace secondTileOnly),
    .pump (.events [⟨.down, 100, 100, by decide⟩, ⟨.up, 120, 130, by decide⟩]),
    .control .accepted]

def staleSession : OperatorControl :=
  staleGesture.foldl (machine defaultConfig).step (started defaultConfig twoTiles [])

theorem reaches_staleSession : (machine defaultConfig).Reaches
    (started defaultConfig twoTiles []) staleGesture staleSession :=
  ⟨trivial, trivial, trivial, trivial, rfl⟩

theorem status_staleSession : staleSession.status = .running := by decide +kernel

theorem pointer_input_ends_session : ∃ config layout controls events control edit left rest,
    (machine config).Reaches (started config layout controls) events control ∧
      control.status = .running ∧ control.Takes edit left rest ∧
        (control.step config (.control .accepted)).status = .failed :=
  ⟨defaultConfig, twoTiles, [], staleGesture, staleSession, .move ⟨7, 20, 30, by decide⟩, 2, [],
    reaches_staleSession, status_staleSession, ⟨by decide +kernel, by decide +kernel⟩,
    by decide +kernel⟩

theorem pointer_input_exact_stale : (∀ event, Consumed defaultConfig staleSession event) ∧
      (∀ edit answer, Processed defaultConfig staleSession edit answer) ∧
      (∀ batch, staleSession.phase = .pump →
        (staleSession.step defaultConfig (.pump (.events batch))).status = .running ∨
          ∃ before event after middle, batch = before ++ event :: after ∧
            staleSession.consumePointerEvents defaultConfig before = (.goOn, middle) ∧
              Overflows defaultConfig middle event) ∧
      ∀ edit left rest answer, staleSession.Takes edit left rest →
        (staleSession.step defaultConfig (.control answer)).status = .running ∨
          Refused defaultConfig staleSession edit answer :=
  pointer_input_exact defaultConfig twoTiles [] staleGesture staleSession reaches_staleSession
    status_staleSession

end OperatorControl

end K5Vision.Viewport
