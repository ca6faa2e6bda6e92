import K5Vision.Library.Timeline
import K5Vision.Viewport.HistoryMethods

/-!
# A history is a place on a line of layouts

What a history is for: its layouts are in a line, of which the oldest can be out of reach, and it
stands at one of them (`EditorLine`).  Over any number of calls a history goes where the line goes,
and refuses where the line does (`history_is_line`); its two stacks are the two sides of the place
(`Represents`).
-/

namespace K5Vision.Viewport

open Library

/-- A line of layouts, and how many operations are left. -/
structure EditorLine where
  line : Timeline ViewportLayout
  left : ℕ

namespace EditorLine

def start (layout : ViewportLayout) (maxOperations : ℕ) : EditorLine :=
  ⟨.start layout, maxOperations⟩

def target (bound : ℕ) (editor : EditorLine) : HistoryCall → Option (Timeline ViewportLayout)
  | .apply edit => (applyViewportEdit editor.line.present edit).toOption.map
      (editor.line.visit bound)
  | .undo => editor.line.back
  | .redo => editor.line.forth

/-- A call; `none` where it is refused. -/
def call (bound : ℕ) (editor : EditorLine) (call : HistoryCall) : Option EditorLine :=
  match editor.left with
  | 0 => none
  | left + 1 => (editor.target bound call).map fun line => ⟨line, left⟩

def run (bound : ℕ) (editor : EditorLine) (calls : List HistoryCall) : EditorLine :=
  calls.foldl (fun editor call => (editor.call bound call).getD editor) editor

theorem run_concat (bound : ℕ) (editor : EditorLine) (calls : List HistoryCall)
    (last : HistoryCall) : editor.run bound (calls ++ [last]) =
      ((editor.run bound calls).call bound last).getD (editor.run bound calls) :=
  List.foldl_concat ..

end EditorLine

/-! ## The line of a history -/

/-- The line of a history: what is behind its place can be undone, and what is ahead redone. -/
structure Represents (fields : HistoryFields) (editor : EditorLine) : Prop where
  layout : fields.layout = editor.line.present
  undo : fields.undo = editor.line.past
  redo : fields.redo = editor.line.future
  left : fields.operations + editor.left = fields.maxOperations
  within : editor.line.Within fields.maxHistory

namespace BoundedViewportEditorHistory

variable {history : BoundedViewportEditorHistory} {editor : EditorLine}

/-- What a history does with a call, beside its line: both go on, or both refuse. -/
def Follows (history : BoundedViewportEditorHistory) (call : HistoryCall) : Option EditorLine → Prop
  | none => ∃ failure, history.call call = .error failure
  | some next => ∃ after, history.call call = .ok after ∧ after.maxHistory = history.maxHistory ∧
      Represents after.fields next

theorem left_eq_zero_iff (h : Represents history.fields editor) :
    editor.left = 0 ↔ ¬ history.operations < history.maxOperations := by
  have hleft : history.operations + editor.left = history.maxOperations := h.left
  omega

theorem call_eq_error (hleft : ¬ history.operations < history.maxOperations) (call : HistoryCall) :
    ∃ failure, history.call call = .error failure := by
  cases call with
  | apply edit =>
      change ∃ failure, history.apply edit = .error failure
      unfold apply
      cases applyViewportEdit history.layout edit with
      | error error => exact ⟨_, rfl⟩
      | ok candidate => exact ⟨_, dif_neg hleft⟩
  | undo =>
      change ∃ failure, history.takeBack = .error failure
      unfold takeBack
      split
      · exact ⟨_, rfl⟩
      · exact ⟨_, dif_neg hleft⟩
  | redo =>
      change ∃ failure, history.bringBack = .error failure
      unfold bringBack
      split
      · exact ⟨_, rfl⟩
      · exact ⟨_, dif_neg hleft⟩

/-- The code drops at most one layout, as its undo layouts are never too many. -/
theorem pushed_eq_drop {layouts : List ViewportLayout} {maxHistory : ℕ}
    (h : layouts.length ≤ maxHistory) (layout : ViewportLayout) :
    pushed layouts layout maxHistory =
      (layouts ++ [layout]).drop ((layouts ++ [layout]).length - maxHistory) := by
  have hlength : (layouts ++ [layout]).length = layouts.length + 1 := by simp
  unfold pushed
  simp only
  split_ifs with hfull
  · congr 1
    omega
  · have hnone : (layouts ++ [layout]).length - maxHistory = 0 := by omega
    rw [hnone, List.drop_zero]

theorem follows_apply (h : Represents history.fields editor) {left : ℕ}
    (hleft : editor.left = left + 1) (edit : ViewportEdit) :
    history.Follows (.apply edit)
      ((editor.target history.maxHistory (.apply edit)).map fun line => ⟨line, left⟩) := by
  have hsum : history.operations + editor.left = history.maxOperations := h.left
  have hlayout : history.layout = editor.line.present := h.layout
  have hundo : history.undo = editor.line.past := h.undo
  have hroom : history.operations < history.maxOperations := by omega
  simp only [EditorLine.target, ← hlayout]
  cases hedit : applyViewportEdit history.layout edit with
  | error error =>
      change ∃ failure, history.apply edit = .error failure
      unfold apply
      rw [hedit]
      exact ⟨_, rfl⟩
  | ok candidate =>
      have happly : ∃ after, history.apply edit = .ok after ∧ after.fields =
          { history.fields with
            layout := candidate
            operations := history.operations + 1
            undo := pushed history.undo history.layout history.maxHistory
            redo := [] } := by
        unfold apply
        rw [hedit]
        exact ⟨_, dif_pos hroom, rfl⟩
      obtain ⟨after, hok, hfields⟩ := happly
      refine ⟨after, hok, congrArg HistoryFields.maxHistory hfields, ?_⟩
      rw [hfields]
      refine ⟨Timeline.present_visit.symm, ?_, Timeline.future_visit.symm, ?_,
        Timeline.within_visit⟩
      · rw [Timeline.past_visit, ← hundo, ← hlayout]
        exact pushed_eq_drop (Nat.le_of_add_right_le history.depth_le) history.layout
      · change history.operations + 1 + left = history.maxOperations
        omega

theorem follows_undo (h : Represents history.fields editor) {left : ℕ}
    (hleft : editor.left = left + 1) :
    history.Follows .undo
      ((editor.target history.maxHistory .undo).map fun line => ⟨line, left⟩) := by
  have hsum : history.operations + editor.left = history.maxOperations := h.left
  have hundo : history.undo = editor.line.past := h.undo
  have hredo : history.redo = editor.line.future := h.redo
  have hroom : history.operations < history.maxOperations := by omega
  change history.Follows .undo (editor.line.back.map _)
  cases hback : editor.line.back with
  | none =>
      rw [Timeline.back_eq_none, ← hundo] at hback
      change ∃ failure, history.takeBack = .error failure
      unfold takeBack
      split
      · exact ⟨_, rfl⟩
      · next hlast =>
          rw [hback] at hlast
          cases hlast
  | some next =>
      have hforth := Timeline.forth_of_back hback
      have hpast := Timeline.past_of_forth hforth
      have hfuture := Timeline.future_of_forth hforth
      have htake : ∃ after, history.takeBack = .ok after ∧ after.fields =
          { history.fields with
            layout := next.present
            operations := history.operations + 1
            undo := next.past
            redo := history.redo ++ [history.layout] } := by
        unfold takeBack
        split
        · next hlast =>
            rw [hundo, hpast, List.getLast?_concat] at hlast
            cases hlast
        next previous hlast =>
          have hprevious : next.present = previous := by
            rw [hundo, hpast, List.getLast?_concat] at hlast
            exact Option.some.inj hlast
          have hdropped : next.past = history.undo.dropLast := by
            rw [hundo, hpast, List.dropLast_concat]
          subst hprevious
          rw [hdropped]
          exact ⟨_, dif_pos hroom, rfl⟩
      obtain ⟨after, hok, hfields⟩ := htake
      refine ⟨after, hok, congrArg HistoryFields.maxHistory hfields, ?_⟩
      rw [hfields]
      refine ⟨rfl, rfl, ?_, ?_, Timeline.within_of_back h.within hback⟩
      · change history.redo ++ [history.layout] = next.future
        rw [hfuture, hredo, show history.layout = _ from h.layout]
      · change history.operations + 1 + left = history.maxOperations
        omega

theorem follows_redo (h : Represents history.fields editor) {left : ℕ}
    (hleft : editor.left = left + 1) :
    history.Follows .redo
      ((editor.target history.maxHistory .redo).map fun line => ⟨line, left⟩) := by
  have hsum : history.operations + editor.left = history.maxOperations := h.left
  have hundo : history.undo = editor.line.past := h.undo
  have hredo : history.redo = editor.line.future := h.redo
  have hroom : history.operations < history.maxOperations := by omega
  change history.Follows .redo (editor.line.forth.map _)
  cases hforth : editor.line.forth with
  | none =>
      rw [Timeline.forth_eq_none, ← hredo] at hforth
      change ∃ failure, history.bringBack = .error failure
      unfold bringBack
      split
      · exact ⟨_, rfl⟩
      · next hlast =>
          rw [hforth] at hlast
          cases hlast
  | some next =>
      have hpast := Timeline.past_of_forth hforth
      have hfuture := Timeline.future_of_forth hforth
      have hbring : ∃ after, history.bringBack = .ok after ∧ after.fields =
          { history.fields with
            layout := next.present
            operations := history.operations + 1
            undo := history.undo ++ [history.layout]
            redo := next.future } := by
        unfold bringBack
        split
        · next hlast =>
            rw [hredo, hfuture, List.getLast?_concat] at hlast
            cases hlast
        next following hlast =>
          have hfollowing : next.present = following := by
            rw [hredo, hfuture, List.getLast?_concat] at hlast
            exact Option.some.inj hlast
          have hdropped : next.future = history.redo.dropLast := by
            rw [hredo, hfuture, List.dropLast_concat]
          subst hfollowing
          rw [hdropped]
          exact ⟨_, dif_pos hroom, rfl⟩
      obtain ⟨after, hok, hfields⟩ := hbring
      refine ⟨after, hok, congrArg HistoryFields.maxHistory hfields, ?_⟩
      rw [hfields]
      refine ⟨rfl, ?_, rfl, ?_, Timeline.within_of_forth h.within hforth⟩
      · change history.undo ++ [history.layout] = next.past
        rw [hpast, hundo, show history.layout = _ from h.layout]
      · change history.operations + 1 + left = history.maxOperations
        omega

theorem follows (h : Represents history.fields editor) (call : HistoryCall) :
    history.Follows call (editor.call history.maxHistory call) := by
  unfold EditorLine.call
  cases hleft : editor.left with
  | zero => exact call_eq_error ((left_eq_zero_iff h).mp hleft) call
  | succ left =>
      cases call with
      | apply edit => exact follows_apply h hleft edit
      | undo => exact follows_undo h hleft
      | redo => exact follows_redo h hleft

end BoundedViewportEditorHistory

/-! ## Any number of calls -/

/-- A history that has gone where its line has gone, and what this means for its next calls. -/
structure HistoryIsLine (maxHistory : ℕ) (fields : HistoryFields) (editor : EditorLine) : Prop where
  represents : Represents fields editor
  depth : fields.undo.length + fields.redo.length ≤ maxHistory
  accepted : ∀ call next, editor.call maxHistory call = some next → ∃ after,
    call.method.exec fields =
      (.ok ⟨after.layout, after.undo.length, after.redo.length, after.operations⟩, after) ∧
        Represents after next
  refused : ∀ call, editor.call maxHistory call = none →
    ∃ raised, call.method.exec fields = (.error raised, fields)
  unchanged : ∀ (call : HistoryCall) raised after,
    call.method.exec fields = (.error raised, after) → after = fields
  applied : ∀ edit snapshot after,
    (HistoryCall.apply edit).method.exec fields = (.ok snapshot, after) →
      after.redo = [] ∧ (after.operations < after.maxOperations → ∃ snapshot restored,
        HistoryCall.undo.method.exec after = (.ok snapshot, restored) ∧
          restored.layout = fields.layout)
  undone : ∀ snapshot after, HistoryCall.undo.method.exec fields = (.ok snapshot, after) →
    after.operations < after.maxOperations → ∃ snapshot restored,
      HistoryCall.redo.method.exec after = (.ok snapshot, restored) ∧
        restored.layout = fields.layout ∧ restored.undo = fields.undo ∧
          restored.redo = fields.redo

namespace BoundedViewportEditorHistory

variable {history : BoundedViewportEditorHistory} {editor : EditorLine}

theorem exec_accepted (h : Represents history.fields editor) {call : HistoryCall}
    {next : EditorLine} (hnext : editor.call history.maxHistory call = some next) :
    ∃ after, history.call call = .ok after ∧ after.maxHistory = history.maxHistory ∧
      call.method.exec history.fields = (.ok after.snapshot, after.fields) ∧
        Represents after.fields next := by
  have hfollows := follows h call
  rw [hnext] at hfollows
  obtain ⟨after, hok, hmax, hafter⟩ := hfollows
  refine ⟨after, hok, hmax, ?_, hafter⟩
  rw [exec_call, hok]
  rfl

theorem exec_refused (h : Represents history.fields editor) {call : HistoryCall}
    (hnone : editor.call history.maxHistory call = none) :
    ∃ raised, call.method.exec history.fields = (.error raised, history.fields) := by
  have hfollows := follows h call
  rw [hnone] at hfollows
  obtain ⟨failure, herror⟩ := hfollows
  refine ⟨.failure failure, ?_⟩
  rw [exec_call, herror]
  rfl

theorem call_eq_some (h : Represents history.fields editor) {call : HistoryCall}
    {snapshot : ViewportHistorySnapshot} {fields : HistoryFields}
    (hexec : call.method.exec history.fields = (.ok snapshot, fields)) :
    ∃ (line : Timeline ViewportLayout) (left : ℕ) (after : BoundedViewportEditorHistory),
      editor.target history.maxHistory call = some line ∧ fields = after.fields ∧
        after.maxHistory = history.maxHistory ∧ Represents after.fields ⟨line, left⟩ := by
  cases hcall : editor.call history.maxHistory call with
  | none =>
      obtain ⟨raised, herror⟩ := exec_refused h hcall
      rw [hexec] at herror
      cases herror
  | some next =>
      obtain ⟨after, -, hmax, hok, hafter⟩ := exec_accepted h hcall
      rw [hexec] at hok
      cases hok
      unfold EditorLine.call at hcall
      cases hleft : editor.left with
      | zero =>
          rw [hleft] at hcall
          cases hcall
      | succ left =>
          simp only [hleft, Option.map_eq_some_iff] at hcall
          obtain ⟨line, htarget, rfl⟩ := hcall
          exact ⟨line, left, after, htarget, rfl, hmax, hafter⟩

/-- While operations are left, a history goes where the line can go. -/
theorem exec_target (h : Represents history.fields editor) {call : HistoryCall}
    (hroom : history.operations < history.maxOperations) {line : Timeline ViewportLayout}
    (htarget : editor.target history.maxHistory call = some line) :
    ∃ snapshot restored left, call.method.exec history.fields = (.ok snapshot, restored) ∧
      Represents restored ⟨line, left⟩ := by
  cases hleft : editor.left with
  | zero => exact absurd hroom ((left_eq_zero_iff h).mp hleft)
  | succ left =>
      have hcall : editor.call history.maxHistory call = some ⟨line, left⟩ := by
        simp only [EditorLine.call, hleft, htarget, Option.map_some]
      obtain ⟨after, -, -, hok, hafter⟩ := exec_accepted h hcall
      exact ⟨_, _, left, hok, hafter⟩

theorem historyIsLine (h : Represents history.fields editor) :
    HistoryIsLine history.maxHistory history.fields editor where
  represents := h
  depth := history.depth_le
  accepted call next hnext := by
    obtain ⟨after, -, -, hok, hafter⟩ := exec_accepted h hnext
    exact ⟨after.fields, hok, hafter⟩
  refused call hnone := exec_refused h hnone
  unchanged call raised after hexec := by
    rw [exec_call] at hexec
    cases hcall : history.call call with
    | error failure =>
        rw [hcall] at hexec
        exact (Prod.mk.inj hexec).2.symm
    | ok next =>
        rw [hcall] at hexec
        cases hexec
  applied edit snapshot fields hexec := by
    obtain ⟨line, left, after, htarget, rfl, hmax, hafter⟩ := call_eq_some h hexec
    obtain ⟨candidate, -, rfl⟩ := Option.map_eq_some_iff.mp htarget
    refine ⟨hafter.redo.trans Timeline.future_visit, fun hroom => ?_⟩
    obtain ⟨before, hback, hpresent⟩ := Timeline.back_visit history.history_fits.1 candidate
    have hundo : EditorLine.target after.maxHistory
        ⟨editor.line.visit history.maxHistory candidate, left⟩ .undo = some before := hback
    obtain ⟨returned, restored, _, hok, hrestored⟩ := exec_target hafter hroom hundo
    exact ⟨returned, restored, hok, hrestored.layout.trans (hpresent.trans h.layout.symm)⟩
  undone snapshot fields hexec hroom := by
    obtain ⟨line, left, after, htarget, rfl, hmax, hafter⟩ := call_eq_some h hexec
    have hforth : EditorLine.target after.maxHistory ⟨line, left⟩ .redo = some editor.line :=
      Timeline.forth_of_back htarget
    obtain ⟨returned, restored, _, hok, hrestored⟩ := exec_target hafter hroom hforth
    exact ⟨returned, restored, hok, hrestored.layout.trans h.layout.symm,
      hrestored.undo.trans h.undo.symm, hrestored.redo.trans h.redo.symm⟩

theorem represents_create {layout : ViewportLayout} {maxHistory maxOperations : ℕ}
    (hcreate : create layout maxHistory maxOperations = .ok history) :
    history.maxHistory = maxHistory ∧
      Represents history.fields (EditorLine.start layout maxOperations) := by
  unfold create at hcreate
  split_ifs at hcreate
  cases hcreate
  exact ⟨rfl, rfl, rfl, rfl, Nat.zero_add _, Timeline.within_start layout⟩

/-- A history that has gone where its line has gone. -/
def OnLine (layout : ViewportLayout) (maxHistory maxOperations : ℕ) (calls : List HistoryCall)
    (fields : HistoryFields) : Prop :=
  ∃ history : BoundedViewportEditorHistory, fields = history.fields ∧
    history.maxHistory = maxHistory ∧ Represents history.fields
      ((EditorLine.start layout maxOperations).run maxHistory calls)

theorem onLine_step {layout : ViewportLayout} {maxHistory maxOperations : ℕ}
    {past : List HistoryCall} {fields : HistoryFields}
    (h : OnLine layout maxHistory maxOperations past fields) (call : HistoryCall) :
    OnLine layout maxHistory maxOperations (past ++ [call]) (historyMachine.step fields call) := by
  obtain ⟨before, rfl, rfl, hline⟩ := h
  unfold OnLine
  rw [EditorLine.run_concat]
  change ∃ history : BoundedViewportEditorHistory, (call.method.exec before.fields).2 =
    history.fields ∧ _ ∧ _
  cases hnext : EditorLine.call before.maxHistory
      ((EditorLine.start layout maxOperations).run before.maxHistory past) call with
  | none =>
      obtain ⟨raised, herror⟩ := exec_refused hline hnext
      rw [herror]
      exact ⟨before, rfl, rfl, hline⟩
  | some next =>
      obtain ⟨after, -, hmax, hok, hafter⟩ := exec_accepted hline hnext
      rw [hok]
      exact ⟨after, rfl, hmax, hafter⟩

/-- Over any number of calls a history goes where its line goes. -/
theorem history_is_line {layout : ViewportLayout} {maxHistory maxOperations : ℕ}
    (hcreate : create layout maxHistory maxOperations = .ok history) {calls : List HistoryCall}
    {fields : HistoryFields} (hreaches : historyMachine.Reaches history.fields calls fields) :
    HistoryIsLine maxHistory fields
      ((EditorLine.start layout maxOperations).run maxHistory calls) := by
  obtain ⟨hmax, hrepresents⟩ := represents_create hcreate
  have hstep : ∀ past state call, OnLine layout maxHistory maxOperations past state →
      historyMachine.admissible state call →
        OnLine layout maxHistory maxOperations (past ++ [call]) (historyMachine.step state call) :=
    fun _ _ call hline _ => onLine_step hline call
  obtain ⟨after, rfl, rfl, hafter⟩ := hreaches.history hstep ⟨history, rfl, hmax, hrepresents⟩
  exact historyIsLine hafter

def oneTile : ViewportLayout where
  placements := [⟨3, ⟨0, 0, 100, 100, 0, by decide⟩, by decide⟩]
  length_pos := by decide
  length_le := by decide
  nodup_slots := by decide

def freshHistory : BoundedViewportEditorHistory :=
  ⟨oneTile, 2, 6, 0, [], [], by decide, by decide, by decide, by decide⟩

def moveRight : HistoryCall := .apply (.move ⟨3, 10, 0, by decide⟩)

/-- Three moves, of which the first is out of reach then; the third `undo` is refused. -/
def movedBack : List HistoryCall := [moveRight, moveRight, moveRight, .undo, .undo, .undo, .redo]

theorem history_is_line_sample :
    HistoryIsLine 2 (movedBack.foldl historyMachine.step freshHistory.fields)
        ((EditorLine.start oneTile 6).run 2 movedBack) ∧
      (movedBack.foldl historyMachine.step freshHistory.fields).snapshot.toOption.map
        (fun snapshot => (snapshot.undoDepth, snapshot.redoDepth, snapshot.operations)) =
          some (1, 1, 6) := by
  have hcreate : create oneTile 2 6 = .ok freshHistory := rfl
  exact ⟨history_is_line hcreate (Machine.reaches_foldl (fun _ _ _ => trivial) _), by decide⟩

end BoundedViewportEditorHistory

end K5Vision.Viewport
