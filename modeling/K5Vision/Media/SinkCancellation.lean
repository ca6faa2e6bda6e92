import K5Vision.Media.AttemptSafety
import K5Vision.Media.RecordingSink

/-!
# Cancelled calls of a sink

A call that ends with `CancelledError` leaves a sink that is aborted or failed, no published
file, and neither marker nor staging file, as long as at most one cancellation arrives while
its worker is awaited and the published file can be removed again
(`ended_cleanly`).  The assertions are those of the attempts: what an attempt knows of its
marker, its staging file and its publication.

A second cancellation ends the call from within its own handler, and the sink goes on as if
nothing had been cancelled (`not_ended_cleanly`).
-/

namespace K5Vision.Media.Sinks

open Library Routine Attempts

variable {ι : Type} [DecidableEq ι] {tokens : ι → Token} {policy : Policy ι} {i : ι}
  {view : View} {sink : Sink} {made : SinkCall} {file : Option BinaryFile}

set_option linter.unusedSectionVars false

/-- The published file can always be removed again. -/
def removable : Policy ι where
  allowed choice request state := permits choice request state ∧
    (choice.failure ≠ none → request ≠ .stat .final ∧ request ≠ .unlink .final)
  permitted h := h.1

theorem not_removalCanFail_removable : ¬ (removable : Policy ι).RemovalCanFail := by
  rintro ⟨choice, state, hfailure, hstat | hunlink⟩
  · exact (hstat.2 hfailure).1 rfl
  · exact (hunlink.2 hfailure).2 rfl

/-! ## The assertions -/

def BinaryFile.handle (file : BinaryFile) : Option Inode :=
  if file.closed then none else some file.inode

def handlesOf (file : Option BinaryFile) : Handles := ⟨file.bind BinaryFile.handle, none⟩

/-- The attempt has not published. -/
def unpublished : View := fun _ _ published => ¬ published

/-- Neither the marker, nor the staging file, nor a publication is there. -/
def gone : View := fun lock staging published => lock = false ∧ staging = false ∧ ¬ published

/-- What a call that ended with `CancelledError` leaves. -/
def cancelledView (made : SinkCall) (sink : Sink) : View := fun lock staging published =>
  (sink.state = .aborted ∨ sink.state = .failed) ∧ ¬ published ∧
    (lock = false ∧ staging = false ∨
      sink.state = .failed ∧ made.method = .finalize ∧ made.cancellations.deletion ≠ .undisturbed)

def endedView (made : SinkCall) (ended : Sink × CallEnd) : View := fun lock staging published =>
  (published → ended.1.state = .finalized) ∧
    (ended.2 = .cancelled → cancelledView made ended.1 lock staging published)

/-- A sink gets its file when it is opened. -/
def Sink.Fresh (sink : Sink) : Prop := sink.state = .created → sink.file = none

/-- A call with its variables behind it. -/
structure Holds (tokens : ι → Token) (i : ι) (made : SinkCall) (ended : Sink × CallEnd)
    (state : State ι) : Prop where
  fresh : ended.1.Fresh
  own : Own tokens i (handlesOf ended.1.file) (endedView made ended) state

theorem Own.forget {state : State ι} {file : Option Inode}
    (h : Own tokens i ⟨file, none⟩ (View.anyFlags unpublished) state) :
    Own tokens i ⟨file, none⟩ unpublished state :=
  h.mono fun _ _ _ ⟨_, _, hview⟩ => hview

theorem Own.gone_of_cleared {state : State ι} {file : Option Inode}
    (h : Own tokens i ⟨file, none⟩ (View.cleared unpublished) state) :
    Own tokens i ⟨file, none⟩ gone state :=
  h.mono fun _ _ _ ⟨hlock, hstaging, _, _, hview⟩ => ⟨hlock, hstaging, hview⟩

/-! ## The file work -/

section Workers

theorem binaryClose_spec (file : BinaryFile) :
    Spec (among tokens policy i) (Own tokens i ⟨file.handle, none⟩ view) file.close
      (fun _ => Own tokens i ⟨none, none⟩ view) (fun _ => Own tokens i ⟨none, none⟩ view) := by
  unfold BinaryFile.close BinaryFile.handle
  split_ifs
  · exact Spec.pure fun _ h => h
  · exact close_spec

theorem binaryWrite_spec (file : BinaryFile) (data : List UInt8) :
    Spec (among tokens policy i) (Own tokens i ⟨file.handle, none⟩ view) (file.write data)
      (fun _ => Own tokens i ⟨file.handle, none⟩ view)
      (fun _ => Own tokens i ⟨file.handle, none⟩ view) := by
  unfold BinaryFile.write BinaryFile.handle
  split_ifs
  · exact Spec.raise fun _ h => h
  · exact writeAll_spec data

theorem sync_spec (file : BinaryFile) :
    Spec (among tokens policy i) (Own tokens i ⟨file.handle, none⟩ view) file.sync
      (fun _ => Own tokens i ⟨file.handle, none⟩ view)
      (fun _ => Own tokens i ⟨file.handle, none⟩ view) := by
  unfold BinaryFile.sync
  split_ifs
  · exact Spec.raise fun _ h => h
  · exact touch_spec.bind fun _ => touch_spec

theorem writeAllSync_spec (data : List UInt8) :
    Spec (among tokens policy i) (Own tokens i (handlesOf file) view) (writeAllSync file data)
      (fun _ => Own tokens i (handlesOf file) view)
      (fun _ => Own tokens i (handlesOf file) view) := by
  cases file with
  | none => exact Spec.raise fun _ h => h
  | some file => exact binaryWrite_spec file data

theorem writeRecordSync_spec (packet : Packet) :
    Spec (among tokens policy i) (Own tokens i (handlesOf file) view)
      (writeRecordSync file packet) (fun _ => Own tokens i (handlesOf file) view)
      (fun _ => Own tokens i (handlesOf file) view) :=
  (writeAllSync_spec _).bind fun _ => writeAllSync_spec _

theorem cleanup_gone_spec :
    Spec (among tokens policy i) (Own tokens i ⟨none, none⟩ unpublished) (cleanup (tokens i))
      (fun _ => Own tokens i ⟨none, none⟩ gone)
      (fun _ => Own tokens i ⟨none, none⟩ unpublished) :=
  cleanup_spec.mono (fun _ _ h => Own.gone_of_cleared h) fun _ _ h => Own.forget h

theorem abortSync_spec : Spec (among tokens policy i) (Own tokens i (handlesOf file) unpublished)
      (abortSync (tokens i) file) (fun _ => Own tokens i ⟨none, none⟩ gone)
      (fun _ => Own tokens i ⟨none, none⟩ unpublished) := by
  cases file with
  | none => exact cleanup_gone_spec
  | some file => exact (binaryClose_spec file).bind fun _ => cleanup_gone_spec

theorem exists_final_spec :
    Spec (among tokens policy i) (Own tokens i ⟨none, none⟩ view) (pathExists .final)
      (fun _ => Own tokens i ⟨none, none⟩ view) (fun _ => Own tokens i ⟨none, none⟩ view) := by
  refine Spec.operation (fun _ _ h hrely => h.of_rely hrely) ?_
  intro state choice hown _ _
  unfold serve
  cases choice.failure with
  | none => exact ⟨guar_refl state, hown⟩
  | some raised => exact ⟨guar_refl state, hown⟩

theorem openSync_spec :
    Spec (among tokens policy i) (Own tokens i ⟨none, none⟩ unpublished) (openSync (tokens i))
      (fun inode => Own tokens i ⟨some inode, none⟩ unpublished)
      (fun _ => Own tokens i ⟨none, none⟩ unpublished) := by
  refine exists_final_spec.bind fun present => ?_
  split_ifs
  · exact Spec.raise fun _ h => h
  have hacquire : Spec (among tokens policy i) (Own tokens i ⟨none, none⟩ unpublished)
      (acquireStaging (tokens i)) (fun inode => Own tokens i ⟨some inode, none⟩ unpublished)
      (fun _ => Own tokens i ⟨none, none⟩ unpublished) :=
    acquireStaging_spec.mono (fun _ _ h => h.mono fun _ _ _ hview => hview.2.2)
      fun _ _ h => Own.forget h
  refine hacquire.bind fun inode => ?_
  have hcleanup : Spec (among tokens policy i) (Own tokens i ⟨none, none⟩ unpublished)
      (ignoringOsErrors (cleanup (tokens i))) (fun _ => Own tokens i ⟨none, none⟩ unpublished)
      (fun _ => Own tokens i ⟨none, none⟩ unpublished) :=
    ignoringOsErrors_spec
      (cleanup_gone_spec.mono (fun _ _ h => h.mono fun _ _ _ hview => hview.2.2) fun _ _ h => h)
  exact (onRaise_spec (writeAll_spec magic)
    (close_spec.ensure (fun _ => hcleanup) fun _ => hcleanup)).bind fun _ => Spec.pure fun _ h => h

theorem cleanupOpenResultSync_spec (opened : Option Inode) :
    Spec (among tokens policy i) (Own tokens i ⟨opened, none⟩ unpublished)
      (cleanupOpenResultSync (tokens i) opened) (fun _ => Own tokens i ⟨none, none⟩ gone)
      (fun _ => Own tokens i ⟨none, none⟩ unpublished) := by
  cases opened with
  | none => exact cleanup_gone_spec
  | some inode => exact close_spec.bind fun _ => cleanup_gone_spec

/-- What `_finalize_sync` leaves: a publication with its identity, or none. -/
def Worked (tokens : ι → Token) (i : ι) (worked : Option BinaryFile × Except Raised Inode) :
    State ι → Prop :=
  match worked.2 with
  | .ok identity => Own tokens i ⟨(handlesOf worked.1).file, some identity⟩ fun _ _ _ => True
  | .error _ => Own tokens i (handlesOf worked.1) unpublished

theorem finalizeSync_spec (hremove : ¬ policy.RemovalCanFail) :
    Spec (among tokens policy i) (Own tokens i (handlesOf file) unpublished)
      (finalizeSync (tokens i) file) (fun worked => Worked tokens i worked)
      (fun _ _ => False) := by
  cases file with
  | none => exact Spec.pure fun _ h => h
  | some file =>
      refine (sync_spec file).follow (fun _ => ?_) fun raised => Spec.pure fun _ h => h
      refine (binaryClose_spec file).follow (fun _ => ?_) fun raised => Spec.pure fun _ h => h
      refine publish_spec.follow (fun identity => Spec.pure fun _ h => ?_)
        fun raised => Spec.pure fun _ h => ?_
      · exact h.mono fun _ _ _ _ => trivial
      refine h.mono fun _ _ published hview hpublished => ?_
      rcases hview hpublished with hfails | ⟨_, _, hnot⟩
      · exact hremove hfails
      · exact hnot trivial

theorem withdrawSync_spec (hremove : ¬ policy.RemovalCanFail)
    (worked : Option BinaryFile × Except Raised Inode) :
    Spec (among tokens policy i) (Worked tokens i worked)
      (withdrawSync (tokens i) worked.1 worked.2) (fun _ => Own tokens i ⟨none, none⟩ gone)
      (fun _ => Own tokens i ⟨none, none⟩ unpublished) := by
  obtain ⟨file, outcome⟩ := worked
  cases outcome with
  | error raised => exact abortSync_spec
  | ok identity =>
      refine Spec.bind (rollbackPublished_spec.mono (fun _ _ h => h)
        fun _ _ h => absurd h.1 hremove) fun _ => ?_
      exact abortSync_spec.imp fun _ h => h.mono fun _ _ _ hview => hview.1

end Workers

/-! ## The calls -/

section Calls

variable {state : State ι}

/-- What is known between the calls of a sink. -/
def betweenView (sink : Sink) : View := fun _ _ published => published → sink.state = .finalized

theorem holds_of_between {ended : CallEnd} (hended : ended ≠ .cancelled) (hfresh : sink.Fresh)
    (h : Own tokens i (handlesOf sink.file) (betweenView sink) state) :
    Holds tokens i made (sink, ended) state :=
  ⟨hfresh, h.mono fun _ _ _ hview => ⟨hview, fun heq => absurd heq hended⟩⟩

theorem holds_of_unpublished {ended : CallEnd} (hended : ended ≠ .cancelled)
    (hfresh : sink.Fresh) (h : Own tokens i (handlesOf sink.file) unpublished state) :
    Holds tokens i made (sink, ended) state :=
  holds_of_between hended hfresh
    (h.mono fun _ _ _ hview hpublished => absurd hpublished hview)

theorem unpublished_of_between (hstate : sink.state ≠ .finalized)
    (h : Own tokens i (handlesOf sink.file) (betweenView sink) state) :
    Own tokens i (handlesOf sink.file) unpublished state :=
  h.mono fun _ _ _ hview hpublished => hstate (hview hpublished)

theorem afterCleanup_spec {cleaning : Method Unit} {pre : State ι → Prop} (hfile : sink.file = none)
    (h : Spec (among tokens policy i) pre cleaning (fun _ => Own tokens i ⟨none, none⟩ gone)
      (fun _ => Own tokens i ⟨none, none⟩ unpublished)) :
    Spec (among tokens policy i) pre
      (cleaning.follow fun cleaned => pure (sink.afterCleanup cleaned))
      (Holds tokens i made) (fun _ _ => False) := by
  have hhandles : handlesOf sink.file = ⟨none, none⟩ := by rw [hfile]; rfl
  refine h.follow (fun _ => Spec.pure fun state hgone => ?_) fun raised => Spec.pure fun state h => ?_
  · refine ⟨by rintro ⟨⟩, ?_⟩
    unfold Sink.afterCleanup
    dsimp only
    rw [hhandles]
    refine hgone.mono ?_
    rintro lock staging published ⟨hlock, hstaging, hpublished⟩
    exact ⟨fun h => absurd h hpublished, fun _ => ⟨.inl rfl, hpublished, .inl ⟨hlock, hstaging⟩⟩⟩
  · rw [← hhandles] at h
    cases raised with
    | base => exact holds_of_unpublished (by rintro ⟨⟩) (fun _ => hfile) h
    | fileExists | fileNotFound | os =>
        exact holds_of_unpublished (by rintro ⟨⟩) (by rintro ⟨⟩) h

variable (hawait : made.cancellations.awaiting ≤ 1) (hfresh : sink.Fresh)
include hawait hfresh

theorem openCall_spec :
    Spec (among tokens policy i) (Own tokens i (handlesOf sink.file) (betweenView sink))
      (openCall (tokens i) made.cancellations sink) (Holds tokens i made)
      (fun _ _ => False) := by
  unfold openCall
  split_ifs with hopened hstate
  · exact Spec.pure fun _ h => holds_of_between (by rintro ⟨⟩) hfresh h
  · exact Spec.pure fun _ h => holds_of_between (by rintro ⟨⟩) hfresh h
  rw [not_not] at hstate
  have hfile := hfresh hstate
  have hhandles : handlesOf sink.file = ⟨none, none⟩ := by rw [hfile]; rfl
  have hpre : ∀ state, Own tokens i (handlesOf sink.file) (betweenView sink) state →
      Own tokens i ⟨none, none⟩ unpublished state := fun state h => by
    rw [← hhandles]
    exact unpublished_of_between (by rw [hstate]; rintro ⟨⟩) h
  generalize made.cancellations.awaiting = awaiting at hawait
  match awaiting, hawait with
  | 0, _ =>
      refine (openSync_spec.imp hpre).follow (fun inode => Spec.pure fun _ h => ?_) fun raised => ?_
      · exact holds_of_unpublished (by rintro ⟨⟩) (by rintro ⟨⟩) h
      rw [← hhandles]
      cases raised with
      | base => exact Spec.pure fun _ h => holds_of_unpublished (by rintro ⟨⟩) hfresh h
      | fileExists | fileNotFound | os =>
          exact Spec.pure fun _ h => holds_of_unpublished (by rintro ⟨⟩) (by rintro ⟨⟩) h
  | 1, _ =>
      refine (openSync_spec.imp hpre).follow (fun inode => ?_) fun raised => ?_
      · exact afterCleanup_spec hfile (cleanupOpenResultSync_spec (some inode))
      · exact afterCleanup_spec hfile (cleanupOpenResultSync_spec none)

theorem writeCall_spec (packet : Packet) :
    Spec (among tokens policy i) (Own tokens i (handlesOf sink.file) (betweenView sink))
      (writeCall (tokens i) made.cancellations sink packet) (Holds tokens i made)
      (fun _ _ => False) := by
  unfold writeCall
  split_ifs with hstate
  · exact Spec.pure fun _ h => holds_of_between (by rintro ⟨⟩) hfresh h
  all_goals
    have hpre : ∀ state, Own tokens i (handlesOf sink.file) (betweenView sink) state →
        Own tokens i (handlesOf sink.file) unpublished state := fun state h =>
      unpublished_of_between (by rw [not_not.mp hstate]; rintro ⟨⟩) h
  · exact Spec.pure fun _ h => holds_of_unpublished (by rintro ⟨⟩) (by rintro ⟨⟩) (hpre _ h)
  · exact Spec.pure fun _ h => holds_of_unpublished (by rintro ⟨⟩) (by rintro ⟨⟩) (hpre _ h)
  generalize made.cancellations.awaiting = awaiting at hawait
  match awaiting, hawait with
  | 0, _ =>
      refine ((writeRecordSync_spec packet).imp hpre).follow (fun _ => ?_) fun raised => ?_
      · exact Spec.pure fun _ h => holds_of_unpublished (by rintro ⟨⟩) hfresh h
      cases raised with
      | base => exact Spec.pure fun _ h => holds_of_unpublished (by rintro ⟨⟩) hfresh h
      | fileExists | fileNotFound | os =>
          exact Spec.pure fun _ h => holds_of_unpublished (by rintro ⟨⟩) (by rintro ⟨⟩) h
  | 1, _ =>
      exact ((writeRecordSync_spec packet).imp hpre).follow
        (fun _ => afterCleanup_spec rfl abortSync_spec)
        fun _ => afterCleanup_spec rfl abortSync_spec

theorem abortCall_spec :
    Spec (among tokens policy i) (Own tokens i (handlesOf sink.file) (betweenView sink))
      (abortCall (tokens i) made.cancellations sink) (Holds tokens i made)
      (fun _ _ => False) := by
  unfold abortCall
  split_ifs with haborted hfinalized
  · exact Spec.pure fun _ h => holds_of_between (by rintro ⟨⟩) hfresh h
  · exact Spec.pure fun _ h => holds_of_between (by rintro ⟨⟩) hfresh h
  have hpre : ∀ state, Own tokens i (handlesOf sink.file) (betweenView sink) state →
      Own tokens i (handlesOf sink.file) unpublished state :=
    fun _ => unpublished_of_between hfinalized
  generalize made.cancellations.awaiting = awaiting at hawait
  match awaiting, hawait with
  | 0, _ =>
      refine (abortSync_spec.imp hpre).follow (fun _ => Spec.pure fun _ h => ?_) fun raised => ?_
      · exact holds_of_unpublished (by rintro ⟨⟩) (by rintro ⟨⟩)
          (h.mono fun _ _ _ hview => hview.2.2)
      cases raised with
      | base => exact Spec.pure fun _ h => holds_of_unpublished (by rintro ⟨⟩) (fun _ => rfl) h
      | fileExists | fileNotFound | os =>
          exact Spec.pure fun _ h => holds_of_unpublished (by rintro ⟨⟩) (by rintro ⟨⟩) h
  | 1, _ => exact afterCleanup_spec rfl (abortSync_spec.imp hpre)

omit hawait hfresh in
theorem deletePart_spec (hmethod : made.method = .finalize) (code : FramedRecordingErrorCode)
    (message : String) :
    Spec (among tokens policy i) (Own tokens i (handlesOf sink.file) unpublished)
      (deletePart (tokens i) made.cancellations sink code message) (Holds tokens i made)
      (fun _ _ => False) := by
  have hleft : ∀ {file : Option BinaryFile} {state : State ι},
      made.cancellations.deletion ≠ .undisturbed →
      Own tokens i (handlesOf file) unpublished state →
      Holds tokens i made ({ sink with state := .failed, file := file }, .cancelled) state := by
    intro file state hdeletion h
    refine ⟨by rintro ⟨⟩, h.mono fun _ _ _ hview =>
      ⟨fun hpublished => absurd hpublished hview, fun _ => ?_⟩⟩
    exact ⟨.inr rfl, hview, .inr ⟨rfl, hmethod, hdeletion⟩⟩
  unfold deletePart
  cases hdeletion : made.cancellations.deletion with
  | undisturbed =>
      refine abortSync_spec.follow (fun _ => Spec.pure fun _ h => ?_) fun raised => ?_
      · exact holds_of_unpublished (by rintro ⟨⟩) (by rintro ⟨⟩)
          (h.mono fun _ _ _ hview => hview.2.2)
      · cases raised with
        | fileExists | fileNotFound | os | base =>
            exact Spec.pure fun _ h => holds_of_unpublished (by rintro ⟨⟩) (by rintro ⟨⟩) h
  | left =>
      refine abortSync_spec.follow (fun _ => Spec.pure fun _ h => ?_) fun _ =>
        Spec.pure fun _ h => hleft (by rw [hdeletion]; rintro ⟨⟩) h
      exact hleft (by rw [hdeletion]; rintro ⟨⟩) (h.mono fun _ _ _ hview => hview.2.2)
  | dropped => exact Spec.pure fun _ h => hleft (by rw [hdeletion]; rintro ⟨⟩) h

theorem finalizeCall_spec (hremove : ¬ policy.RemovalCanFail) (hmethod : made.method = .finalize) :
    Spec (among tokens policy i) (Own tokens i (handlesOf sink.file) (betweenView sink))
      (finalizeCall (tokens i) made.cancellations sink) (Holds tokens i made)
      (fun _ _ => False) := by
  unfold finalizeCall
  split_ifs with hfinalized hopened
  · exact Spec.pure fun _ h => holds_of_between (by rintro ⟨⟩) hfresh h
  · exact Spec.pure fun _ h => holds_of_between (by rintro ⟨⟩) hfresh h
  have hpre : ∀ state, Own tokens i (handlesOf sink.file) (betweenView sink) state →
      Own tokens i (handlesOf sink.file) unpublished state :=
    fun _ => unpublished_of_between hfinalized
  refine Spec.bind ((finalizeSync_spec hremove).imp hpre) fun worked => ?_
  have hdelete : ∀ (sink : Sink) (code : FramedRecordingErrorCode) (message : String),
      Spec (among tokens policy i) (Own tokens i (handlesOf sink.file) unpublished)
        (deletePart (tokens i) made.cancellations sink code message) (Holds tokens i made)
        (fun _ _ => False) :=
    fun _ code message => deletePart_spec hmethod code message
  dsimp only
  split
  · split
    case h_1 identity houtcome =>
      refine Spec.pure fun _ h => ?_
      unfold Worked at h
      rw [houtcome] at h
      refine holds_of_between (by rintro ⟨⟩) (by rintro ⟨⟩) ⟨⟨h.base.inv, h.base.file, ?_⟩, fun _ => rfl⟩
      rintro _ ⟨⟩
    case h_2 houtcome =>
      refine (hdelete _ _ _).imp fun _ h => ?_
      unfold Worked at h
      rwa [houtcome] at h
    case h_3 houtcome =>
      refine Spec.pure fun _ h => holds_of_unpublished (by rintro ⟨⟩) ?_ ?_
      · intro hcreated
        rw [not_not] at hopened
        rw [hopened] at hcreated
        cases hcreated
      · unfold Worked at h
        rwa [houtcome] at h
    case h_4 raised hother hbase houtcome =>
      refine (hdelete _ _ _).imp fun _ h => ?_
      unfold Worked at h
      rwa [houtcome] at h
  · exact afterCleanup_spec rfl (withdrawSync_spec hremove worked)
  · omega

end Calls

/-! ## Every interleaving -/

theorem sinkCall_spec (hremove : ¬ policy.RemovalCanFail)
    (hawait : made.cancellations.awaiting ≤ 1) (hfresh : sink.Fresh) :
    Spec (among tokens policy i) (Own tokens i (handlesOf sink.file) (betweenView sink))
      (sinkCall (tokens i) sink made) (Holds tokens i made) (fun _ _ => False) := by
  unfold sinkCall
  cases hmethod : made.method with
  | «open» => exact openCall_spec hawait hfresh
  | write packet => exact writeCall_spec hawait hfresh packet
  | finalize => exact finalizeCall_spec hawait hfresh hremove hmethod
  | abort => exact abortCall_spec hawait hfresh

structure Between (tokens : ι → Token) (i : ι) (result : Sink × Ended) (state : State ι) :
    Prop where
  fresh : result.1.Fresh
  own : Own tokens i (handlesOf result.1.file) (betweenView result.1) state
  last : ∀ made ended, result.2 = some (made, ended) →
    Own tokens i (handlesOf result.1.file) (endedView made (result.1, ended)) state

theorem Holds.between {ended : Sink × CallEnd} {state : State ι}
    (h : Holds tokens i made ended state) :
    Between tokens i (ended.1, some (made, ended.2)) state where
  fresh := h.fresh
  own := h.own.mono fun _ _ _ hview => hview.1
  last := by
    rintro _ _ ⟨⟩
    exact h.own

theorem Between.of_rely {result : Sink × Ended} {before after : State ι}
    (h : Between tokens i result before) (hrely : (among tokens policy i).rely before after) :
    Between tokens i result after :=
  ⟨h.fresh, h.own.of_rely hrely, fun made ended heq => (h.last made ended heq).of_rely hrely⟩

theorem sinkCalls_spec (hremove : ¬ policy.RemovalCanFail) (last : Ended) (calls : List SinkCall)
    (hawait : ∀ made ∈ calls, made.cancellations.awaiting ≤ 1) :
    Spec (among tokens policy i) (Between tokens i (sink, last))
      (sinkCalls (tokens i) sink last calls) (Between tokens i) (fun _ _ => False) := by
  induction calls generalizing sink last with
  | nil => exact Spec.pure fun _ h => h
  | cons made rest ih =>
      constructor
      intro state hbetween
      have hfirst : Spec (among tokens policy i)
          (Own tokens i (handlesOf sink.file) (betweenView sink)) (sinkCall (tokens i) sink made)
          (Holds tokens i made) (fun _ _ => False) :=
        sinkCall_spec hremove (hawait made (List.mem_cons_self ..)) hbetween.fresh
      have hrest : ∀ (sink : Sink) (last : Ended), Spec (among tokens policy i)
          (Between tokens i (sink, last)) (sinkCalls (tokens i) sink last rest)
          (Between tokens i) (fun _ _ => False) :=
        fun _ last => ih last fun next hnext => hawait next (List.mem_cons_of_mem _ hnext)
      exact (hfirst.bind fun ended => (hrest ended.1 (some (made, ended.2))).imp
        fun _ h => h.between).run state hbetween.own

/-- What is left behind a call that ended with `CancelledError`, and its worker. -/
structure CancelledCleanly (tokens : ι → Token) (i : ι) (made : SinkCall) (sink : Sink)
    (state : State ι) : Prop where
  terminal : sink.state = .aborted ∨ sink.state = .failed
  withdrawn : ¬ Has state .final i
  /-- The marker and the staging file are gone, or the sink has failed: in the deletion behind a
  failed `finalize`. -/
  gone : ¬ Has state .marker i ∧ ¬ Has state (.staging (tokens i)) i ∨
    sink.state = .failed ∧ made.method = .finalize ∧ made.cancellations.deletion ≠ .undisturbed

theorem Between.cancelledCleanly {state : State ι}
    (h : Between tokens i (sink, some (made, .cancelled)) state) :
    CancelledCleanly tokens i made sink state := by
  have hlast := h.last made .cancelled rfl
  obtain ⟨hterminal, hwithdrawn, hgone⟩ := hlast.view.2 rfl
  refine ⟨hterminal, hwithdrawn, hgone.imp_left ?_⟩
  rintro ⟨hlock, hstaging⟩
  constructor
  · rw [← hlast.base.inv.lock i, hlock]
    exact Bool.false_ne_true
  · rw [← hlast.base.inv.staging i, hstaging]
    exact Bool.false_ne_true

variable {limits : ι → FramedLimits} {calls : ι → List SinkCall} {links : Name → Option Inode}
  {content : Inode → List UInt8} {events : List (ι × Choice)}
  {threads : Threads interface Raised (Sink × Ended) (State ι) ι}

/-- **A cancelled call ends cleanly**, whatever other sinks do: any calls of any sinks on one
identifier, at most one cancellation for each await of a worker. -/
theorem ended_cleanly (hawait : ∀ i, ∀ made ∈ calls i, made.cancellations.awaiting ≤ 1)
    (h : (machine (Sink × Ended) (server tokens removable)).Reaches
      (begin tokens limits calls links content) events threads)
    (hdone : threads.routine i = .done (.ok (sink, some (made, .cancelled)))) :
    CancelledCleanly tokens i made sink threads.state := by
  have hfits : Routine.Fits (among tokens removable)
      (fun i outcome => Ends (Between tokens i) (fun _ _ => False) outcome) := by
    refine fits_of_stable fun i outcome before after hpost hrely => ?_
    cases outcome with
    | ok result => exact hpost.of_rely hrely
    | error => exact hpost
  have hstart : ∀ i, ((begin tokens limits calls links content).routine i).Meets
      (among tokens removable i) (Ends (Between tokens i) fun _ _ => False)
      (State.initial links content) := by
    intro i
    refine (sinkCalls_spec not_removalCanFail_removable none (calls i) (hawait i)).run _ ?_
    have hnot : ¬ Has (State.initial links content : State ι) .final i := by
      rintro ⟨_, -, ⟨⟩⟩
    refine ⟨fun _ => rfl, ⟨⟨inv_initial links content, ?_, ?_⟩, fun h => absurd h hnot⟩, ?_⟩
    · rintro _ ⟨⟩
    · rintro _ ⟨⟩
    · rintro _ _ ⟨⟩
  have hmeets := reaches_meets hfits h hstart i
  rw [hdone] at hmeets
  exact Between.cancelledCleanly hmeets

/-! ### A second cancellation -/

def succeeds (count : ℕ) (inode : Inode) : Unit × Choice := ((), ⟨none, count, inode⟩)

def openOperations : List (Unit × Choice) :=
  [succeeds 0 0, succeeds 0 0, succeeds 0 0, succeeds 1 0, succeeds 0 0, succeeds 0 0,
    succeeds 0 1, succeeds 0 0, succeeds 8 0]

/-- Those of the cleanup behind a cancelled `open`. -/
def cleanupOperations : List (Unit × Choice) :=
  [succeeds 0 0, succeeds 0 0, succeeds 0 0, succeeds 0 0, succeeds 0 0, succeeds 0 0]

def cancelledOpen (awaiting : ℕ) : SinkCall := ⟨.open, ⟨awaiting, .undisturbed⟩⟩

def opening (awaiting : ℕ) : Threads interface Raised (Sink × Ended) (State Unit) Unit :=
  begin (fun _ => [1]) (fun _ => .default) (fun _ => [cancelledOpen awaiting]) (fun _ => none)
    fun _ => []

def afterOperations (awaiting : ℕ) (operations : List (Unit × Choice)) :
    Threads interface Raised (Sink × Ended) (State Unit) Unit :=
  operations.foldl (Threads.advance (server (fun _ => [1]) removable)) (opening awaiting)

/-- The end of `open` in a run of its own. -/
def openEnd (state : FramedRecordingState) (awaiting : ℕ) : Sink × Ended :=
  ({ Sink.create .default with state := state }, some (cancelledOpen awaiting, .cancelled))

theorem allowed_succeeds {count : ℕ} {inode : Inode} {request : Request} {state : State Unit}
    (hfree : ∀ name, request = .create name → Free state inode) :
    removable.allowed (succeeds count inode).2 request state :=
  ⟨⟨by rintro ⟨⟩, by rintro ⟨⟩, hfree⟩, fun h => absurd rfl h⟩

theorem allowed_other {count : ℕ} {inode : Inode} {request : Request} {state : State Unit}
    (h : ∀ name, request ≠ .create name) :
    removable.allowed (succeeds count inode).2 request state :=
  allowed_succeeds fun name heq => absurd heq (h name)

theorem free_marker : Free (afterOperations 1 [succeeds 0 0, succeeds 0 0]).state 0 :=
  ⟨fun name => by rintro ⟨⟩, fun _ h => by cases h⟩

theorem free_staging : Free (afterOperations 1 (openOperations.take 6)).state 1 :=
  ⟨fun name => by cases name <;> rintro ⟨⟩, fun _ h => by cases h⟩

theorem reaches_cleanedUp :
    (machine (Sink × Ended) (server (fun _ => [1]) removable)).Reaches (opening 1)
      (openOperations ++ cleanupOperations)
      (afterOperations 1 (openOperations ++ cleanupOperations)) :=
  ⟨allowed_other (by rintro _ ⟨⟩), allowed_other (by rintro _ ⟨⟩),
    allowed_succeeds (fun _ _ => free_marker), allowed_other (by rintro _ ⟨⟩),
    allowed_other (by rintro _ ⟨⟩), allowed_other (by rintro _ ⟨⟩),
    allowed_succeeds (fun _ _ => free_staging), allowed_other (by rintro _ ⟨⟩),
    allowed_other (by rintro _ ⟨⟩), allowed_other (by rintro _ ⟨⟩),
    allowed_other (by rintro _ ⟨⟩), allowed_other (by rintro _ ⟨⟩),
    allowed_other (by rintro _ ⟨⟩), allowed_other (by rintro _ ⟨⟩),
    allowed_other (by rintro _ ⟨⟩), rfl⟩

/-- Cancelled once, `open` cleans up behind its worker. -/
theorem ended_cleanly_open :
    CancelledCleanly (fun _ => [1]) () (cancelledOpen 1) (openEnd .aborted 1).1
      (afterOperations 1 (openOperations ++ cleanupOperations)).state := by
  refine ended_cleanly ?_ reaches_cleanedUp rfl
  rintro _ made hmade
  rw [List.mem_singleton.mp hmade]
  exact le_rfl

/-- Cancelled twice, it leaves the sink as it was, and the files of a worker that nobody awaits. -/
theorem not_ended_cleanly :
    (machine (Sink × Ended) (server (fun _ => [1]) removable)).Reaches (opening 2) openOperations
        (afterOperations 2 openOperations) ∧
      (afterOperations 2 openOperations).routine () = .done (.ok (openEnd .created 2)) ∧
      Has (afterOperations 2 openOperations).state .marker () ∧
      Has (afterOperations 2 openOperations).state (.staging [1]) () ∧
      ¬ CancelledCleanly (fun _ => [1]) () (cancelledOpen 2) (openEnd .created 2).1
        (afterOperations 2 openOperations).state := by
  refine ⟨?_, rfl, ⟨0, rfl, rfl⟩, ⟨1, rfl, rfl⟩, ?_⟩
  · exact ⟨allowed_other (by rintro _ ⟨⟩), allowed_other (by rintro _ ⟨⟩),
      allowed_succeeds (fun _ _ => free_marker), allowed_other (by rintro _ ⟨⟩),
      allowed_other (by rintro _ ⟨⟩), allowed_other (by rintro _ ⟨⟩),
      allowed_succeeds (fun _ _ => free_staging), allowed_other (by rintro _ ⟨⟩),
      allowed_other (by rintro _ ⟨⟩), rfl⟩
  · rintro ⟨haborted | hfailed, -, -⟩
    · cases haborted
    · cases hfailed

end K5Vision.Media.Sinks
