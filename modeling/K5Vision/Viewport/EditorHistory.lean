import K5Vision.Viewport.Editor

/-!
# Undo and redo of viewport edits

`media/viewport_editor_history.py` and `media/viewport_history_control.py`: a bounded history of
layouts, and the control that commits to it only after the application has accepted a layout.
The application is asked in the middle of an operation; its `Answer` is an argument.

The history carries the bounds that its snapshot checks: undo and redo together are never
deeper than the history may be, as an undo moves a layout from one to the other.
-/

namespace K5Vision.Viewport

/-! ## The history -/

def maxHistoryBound : ℕ := 1024

def maxOperationsBound : ℕ := 1000000

inductive ViewportEditorHistoryErrorCode
  | invalidConfiguration
  | nothingToUndo
  | nothingToRedo
  | operationLimit
  deriving DecidableEq, Repr

structure ViewportEditorHistoryError where
  code : ViewportEditorHistoryErrorCode
  message : String
  deriving DecidableEq, Repr

/-- The newest layout of `undo` and of `redo` is the last one. -/
structure BoundedViewportEditorHistory where
  layout : ViewportLayout
  maxHistory : ℕ
  maxOperations : ℕ
  operations : ℕ
  undo : List ViewportLayout
  redo : List ViewportLayout
  history_fits : 1 ≤ maxHistory ∧ maxHistory ≤ maxHistoryBound
  operations_fit : 1 ≤ maxOperations ∧ maxOperations ≤ maxOperationsBound
  operations_le : operations ≤ maxOperations
  depth_le : undo.length + redo.length ≤ maxHistory
  deriving DecidableEq

inductive HistoryFailure
  | editor (error : ViewportEditorError)
  | history (error : ViewportEditorHistoryError)
  deriving DecidableEq, Repr

structure ViewportHistorySnapshot where
  layout : ViewportLayout
  undoDepth : ℕ
  redoDepth : ℕ
  operations : ℕ
  deriving DecidableEq

namespace BoundedViewportEditorHistory

variable (history : BoundedViewportEditorHistory)

def create (layout : ViewportLayout) (maxHistory maxOperations : ℕ) :
    Except ViewportEditorHistoryError BoundedViewportEditorHistory :=
  if h : (1 ≤ maxHistory ∧ maxHistory ≤ maxHistoryBound) ∧
      (1 ≤ maxOperations ∧ maxOperations ≤ maxOperationsBound) then
    .ok ⟨layout, maxHistory, maxOperations, 0, [], [], h.1, h.2, Nat.zero_le _, Nat.zero_le _⟩
  else .error ⟨.invalidConfiguration, "viewport history configuration is invalid"⟩

def snapshot : ViewportHistorySnapshot :=
  ⟨history.layout, history.undo.length, history.redo.length, history.operations⟩

theorem snapshot_fits : history.snapshot.undoDepth ≤ maxHistoryBound ∧
    history.snapshot.redoDepth ≤ maxHistoryBound ∧
      history.snapshot.operations ≤ maxOperationsBound := by
  have hdepth := history.depth_le
  have hhistory := history.history_fits.2
  have hoperations := history.operations_le
  have hbound := history.operations_fit.2
  simp only [snapshot]
  omega

def undoCandidate : Except ViewportEditorHistoryError ViewportLayout :=
  match history.undo.getLast? with
  | none => .error ⟨.nothingToUndo, "no viewport edit is available to undo"⟩
  | some layout => .ok layout

def redoCandidate : Except ViewportEditorHistoryError ViewportLayout :=
  match history.redo.getLast? with
  | none => .error ⟨.nothingToRedo, "no viewport edit is available to redo"⟩
  | some layout => .ok layout

/-- `ensure_operation_available` lets an operation through. -/
def available : Bool := history.operations < history.maxOperations

def operationLimit : ViewportEditorHistoryError :=
  ⟨.operationLimit, "viewport history operation limit reached"⟩

def rebase (layout : ViewportLayout) : BoundedViewportEditorHistory :=
  { history with layout := layout, undo := [], redo := [], depth_le := Nat.zero_le _ }

/-- The undo layouts with one more, of which the oldest goes when they are too many. -/
def pushed (layouts : List ViewportLayout) (layout : ViewportLayout) (maxHistory : ℕ) :
    List ViewportLayout :=
  let pushed := layouts ++ [layout]
  if maxHistory < pushed.length then pushed.drop 1 else pushed

theorem length_pushed_le {layouts : List ViewportLayout} {maxHistory : ℕ}
    (h : layouts.length ≤ maxHistory) (layout : ViewportLayout) :
    (pushed layouts layout maxHistory).length ≤ maxHistory := by
  unfold pushed
  simp only [List.length_append, List.length_singleton]
  split_ifs with hfull
  · simp
    omega
  · simp
    omega

def apply (edit : ViewportEdit) : Except HistoryFailure BoundedViewportEditorHistory :=
  match applyViewportEdit history.layout edit with
  | .error error => .error (.editor error)
  | .ok candidate =>
      if h : history.operations < history.maxOperations then
        .ok { history with
          layout := candidate
          operations := history.operations + 1
          undo := pushed history.undo history.layout history.maxHistory
          redo := []
          operations_le := h
          depth_le := length_pushed_le
            (Nat.le_of_add_right_le history.depth_le) history.layout }
      else .error (.history operationLimit)

/-- Taking the last layout of one list and putting another behind the second keeps the depth. -/
theorem depth_moved {first : List ViewportLayout} {layout : ViewportLayout}
    (h : first.getLast? = some layout) (second : List ViewportLayout) (other : ViewportLayout) :
    first.dropLast.length + (second ++ [other]).length = first.length + second.length := by
  have hne : first ≠ [] := by
    rintro rfl
    cases h
  have hpos := List.length_pos_iff.mpr hne
  simp only [List.length_dropLast, List.length_append, List.length_singleton]
  omega

def takeBack : Except HistoryFailure BoundedViewportEditorHistory :=
  match hlast : history.undo.getLast? with
  | none => .error (.history ⟨.nothingToUndo, "no viewport edit is available to undo"⟩)
  | some previous =>
      if h : history.operations < history.maxOperations then
        .ok { history with
          layout := previous
          operations := history.operations + 1
          undo := history.undo.dropLast
          redo := history.redo ++ [history.layout]
          operations_le := h
          depth_le := by
            rw [depth_moved hlast history.redo history.layout]
            exact history.depth_le }
      else .error (.history operationLimit)

def bringBack : Except HistoryFailure BoundedViewportEditorHistory :=
  match hlast : history.redo.getLast? with
  | none => .error (.history ⟨.nothingToRedo, "no viewport edit is available to redo"⟩)
  | some following =>
      if h : history.operations < history.maxOperations then
        .ok { history with
          layout := following
          operations := history.operations + 1
          undo := history.undo ++ [history.layout]
          redo := history.redo.dropLast
          operations_le := h
          depth_le := by
            have hmoved := depth_moved hlast history.undo history.layout
            have hdepth := history.depth_le
            omega }
      else .error (.history operationLimit)

variable {history}

theorem apply_eq_ok {edit : ViewportEdit} {candidate : ViewportLayout}
    (hedit : applyViewportEdit history.layout edit = .ok candidate)
    (havailable : history.available) :
    ∃ applied, history.apply edit = .ok applied ∧ applied.layout = candidate := by
  have h : history.operations < history.maxOperations := of_decide_eq_true havailable
  unfold apply
  rw [hedit]
  simp only [dif_pos h]
  exact ⟨_, rfl, rfl⟩

theorem takeBack_eq_ok {candidate : ViewportLayout}
    (hundo : history.undoCandidate = .ok candidate) (havailable : history.available) :
    ∃ undone, history.takeBack = .ok undone ∧ undone.layout = candidate := by
  have h : history.operations < history.maxOperations := of_decide_eq_true havailable
  unfold undoCandidate at hundo
  unfold takeBack
  split
  · next hlast =>
      rw [hlast] at hundo
      cases hundo
  next previous hlast =>
    rw [hlast] at hundo
    cases hundo
    rw [dif_pos h]
    exact ⟨_, rfl, rfl⟩

theorem bringBack_eq_ok {candidate : ViewportLayout}
    (hredo : history.redoCandidate = .ok candidate) (havailable : history.available) :
    ∃ redone, history.bringBack = .ok redone ∧ redone.layout = candidate := by
  have h : history.operations < history.maxOperations := of_decide_eq_true havailable
  unfold redoCandidate at hredo
  unfold bringBack
  split
  · next hlast =>
      rw [hlast] at hredo
      cases hredo
  next following hlast =>
    rw [hlast] at hredo
    cases hredo
    rw [dif_pos h]
    exact ⟨_, rfl, rfl⟩

end BoundedViewportEditorHistory

/-! ## Commits behind the acceptance of the application -/

inductive Answer
  | accepted
  | rejected
  | cancelled
  deriving DecidableEq, Repr

inductive ViewportHistoryControlErrorCode
  | invalidConfiguration
  | historyFailure
  | relayoutFailure
  deriving DecidableEq, Repr

structure ViewportHistoryControlError where
  code : ViewportHistoryControlErrorCode
  message : String
  deriving DecidableEq, Repr

inductive HistoryRaised
  | control (error : ViewportHistoryControlError)
  | editor (error : ViewportEditorError)
  | cancelled
  deriving DecidableEq, Repr

/-- The history of a `TransactionalViewportHistoryControl`, and the layout that the application
accepted last. -/
structure Editing where
  history : BoundedViewportEditorHistory
  shown : ViewportLayout
  deriving DecidableEq

namespace Editing

variable (editing : Editing)

def create (layout : ViewportLayout) (maxHistory maxOperations : ℕ) :
    Except ViewportHistoryControlError Editing :=
  match BoundedViewportEditorHistory.create layout maxHistory maxOperations with
  | .error _ =>
      .error ⟨.invalidConfiguration, "viewport history control configuration is invalid"⟩
  | .ok history => .ok ⟨history, layout⟩

/-- `_relayout`: what it raises, if the application does not accept. -/
def relayout : Answer → Except HistoryRaised Unit
  | .accepted => .ok ()
  | .rejected => .error (.control ⟨.relayoutFailure, "viewport relayout was rejected"⟩)
  | .cancelled => .error .cancelled

/-- `rebase`, to a layout that the application has accepted. -/
def rebase (layout : ViewportLayout) : Editing := ⟨editing.history.rebase layout, layout⟩

/-- What `apply`, `undo` and `redo` have in common: a candidate is found or `unavailable`, the
application is asked to show it, and the operation is committed to the history. -/
def transact (answer : Answer) (candidate : Option ViewportLayout)
    (commit : BoundedViewportEditorHistory → Except HistoryFailure BoundedViewportEditorHistory)
    (unavailable refused mismatch : String) :
    Except HistoryRaised ViewportHistorySnapshot × Editing :=
  match candidate with
  | none => (.error (.control ⟨.historyFailure, unavailable⟩), editing)
  | some candidate =>
      if !editing.history.available then
        (.error (.control ⟨.historyFailure, "viewport history operation limit reached"⟩), editing)
      else
        match relayout answer with
        | .error raised => (.error raised, editing)
        | .ok _ =>
            match commit editing.history with
            | .error (.history _) =>
                (.error (.control ⟨.historyFailure, refused⟩), ⟨editing.history, candidate⟩)
            | .error (.editor error) => (.error (.editor error), ⟨editing.history, candidate⟩)
            | .ok history =>
                if history.layout ≠ candidate then
                  (.error (.control ⟨.historyFailure, mismatch⟩), ⟨history, candidate⟩)
                else (.ok history.snapshot, ⟨history, candidate⟩)

def apply (edit : ViewportEdit) (answer : Answer) :
    Except HistoryRaised ViewportHistorySnapshot × Editing :=
  editing.transact answer (applyViewportEdit editing.history.snapshot.layout edit).toOption
    (fun history => history.apply edit) "viewport edit is invalid"
    "viewport history could not accept edit" "viewport history state mismatch"

def undo (answer : Answer) : Except HistoryRaised ViewportHistorySnapshot × Editing :=
  editing.transact answer editing.history.undoCandidate.toOption
    BoundedViewportEditorHistory.takeBack "no viewport edit is available to undo"
    "viewport history could not commit undo" "viewport undo state mismatch"

def redo (answer : Answer) : Except HistoryRaised ViewportHistorySnapshot × Editing :=
  editing.transact answer editing.history.redoCandidate.toOption
    BoundedViewportEditorHistory.bringBack "no viewport edit is available to redo"
    "viewport history could not commit redo" "viewport redo state mismatch"

variable {editing}

/-- A transaction is committed as a whole or changes nothing.  It raises when there is no
candidate, no operation left, or no acceptance. -/
theorem transact_cases (editing : Editing) (answer : Answer) (candidate : Option ViewportLayout)
    (commit : BoundedViewportEditorHistory → Except HistoryFailure BoundedViewportEditorHistory)
    (hcommit : ∀ layout, candidate = some layout → editing.history.available →
      ∃ committed, commit editing.history = .ok committed ∧ committed.layout = layout)
    (unavailable refused mismatch : String) :
    (∃ raised, editing.transact answer candidate commit unavailable refused mismatch =
        (.error raised, editing) ∧
        (candidate = none ∨ ¬ editing.history.available ∨ answer ≠ .accepted)) ∨
      ∃ layout committed, candidate = some layout ∧ editing.history.available ∧
        answer = .accepted ∧ commit editing.history = .ok committed ∧
        committed.layout = layout ∧
        editing.transact answer candidate commit unavailable refused mismatch =
          (.ok committed.snapshot, ⟨committed, layout⟩) := by
  unfold transact
  cases candidate with
  | none => exact .inl ⟨_, rfl, .inl rfl⟩
  | some layout =>
      simp only
      by_cases havailable : editing.history.available
      · rw [if_neg (by simp [havailable])]
        cases answer with
        | rejected => exact .inl ⟨_, rfl, .inr (.inr (by decide))⟩
        | cancelled => exact .inl ⟨_, rfl, .inr (.inr (by decide))⟩
        | accepted =>
            obtain ⟨committed, hok, hlayout⟩ := hcommit layout rfl havailable
            refine .inr ⟨layout, committed, rfl, havailable, rfl, hok, hlayout, ?_⟩
            simp [relayout, hok, hlayout]
      · rw [if_pos (by simpa using havailable)]
        exact .inl ⟨_, rfl, .inr (.inl havailable)⟩

end Editing

end K5Vision.Viewport
