import K5Vision.Library.Machine

/-!
# An owned native process

`OwnedNativeProcess` of `operator_native_process.py`, once it is constructed: `poll` and `stop` are
called from any threads.  A `stop` has the lock until it ends, and takes one operation of the system
after the other; in between the leader may exit, and the others poll.  On Linux the leader's PID is
free once it is reaped, and on Windows the handle of the process keeps it.
-/

namespace K5Vision.Operator.NativeProcess

open Library

/-! ## The process and its stops -/

inductive Platform
  | windows
  | linux
  deriving DecidableEq

inductive Leader
  | running
  | exited
  | reaped
  deriving DecidableEq

/-- The operation that a `stop` is at, of `_stop_windows` and of `_stop_linux`; both reap last.  The
job may be closed because of an error, which is raised behind that. -/
inductive Phase
  | look
  | interrupt
  | grace
  | terminateJob
  | closeJob (raised : Bool)
  | terminate
  | watch
  | kill
  | reap
  deriving DecidableEq

/-- How an operation ends; where there is nothing to wait for, `expires` is like `done`. -/
inductive Outcome
  | done
  | expires
  | fails
  deriving DecidableEq

inductive Ending
  | returned
  | nativeProcessError
  | assertionError
  deriving DecidableEq

/-- Beside the attributes of the object, how the leader is, where the `stop` with the lock is, how
the leader was at each signal to its group, and how the calls of `stop` ended. -/
structure OwnedNativeProcess where
  platform : Platform
  leader : Leader
  returncode : Bool
  job : Bool
  stopped : Bool
  call : Option Phase
  signals : List Leader
  ends : List Ending

inductive Event
  | exits
  | poll
  | stop
  | proceed (outcome : Outcome)
  deriving DecidableEq

namespace OwnedNativeProcess

def start (platform : Platform) : OwnedNativeProcess :=
  ⟨platform, .running, false, platform = .windows, false, none, [], []⟩

/-- The exit is observed for good, and that reaps a leader on Linux. -/
def observe (owned : OwnedNativeProcess) : OwnedNativeProcess :=
  { owned with
    returncode := true
    leader := if owned.platform = .linux then .reaped else owned.leader }

/-- `Popen.poll`. -/
def processPoll (owned : OwnedNativeProcess) : OwnedNativeProcess :=
  if owned.returncode ∨ owned.leader = .running then owned else owned.observe

/-- `poll`; `waitid` only fails for a leader that was reaped. -/
def poll (owned : OwnedNativeProcess) : OwnedNativeProcess :=
  if owned.platform = .windows ∨ owned.returncode ∨ owned.leader = .reaped then owned.processPoll
  else owned

def goOn (owned : OwnedNativeProcess) (phase : Phase) : OwnedNativeProcess :=
  { owned with call := some phase }

def finish (owned : OwnedNativeProcess) (ending : Ending) : OwnedNativeProcess :=
  { owned with call := none, ends := ending :: owned.ends }

def signalGroup (owned : OwnedNativeProcess) : OwnedNativeProcess :=
  { owned with signals := owned.leader :: owned.signals }

def result (owned : OwnedNativeProcess) (outcome : Outcome) : Outcome :=
  if owned.returncode then .done else outcome

/-- `stop`, up to its first operation. -/
def stop (owned : OwnedNativeProcess) : OwnedNativeProcess :=
  if owned.stopped then owned.finish .returned
  else
    match owned.platform with
    | .linux => owned.goOn .terminate
    | .windows => if owned.job then owned.goOn .look else owned.finish .assertionError

/-- `os.killpg`; a group that is gone is passed over. -/
def killpg (owned : OwnedNativeProcess) (outcome : Outcome) (next : Phase) : OwnedNativeProcess :=
  if outcome = .fails then owned.signalGroup.finish .nativeProcessError
  else owned.signalGroup.goOn next

def proceed (owned : OwnedNativeProcess) (outcome : Outcome) : Phase → OwnedNativeProcess
  | .look =>
      if owned.result outcome = .fails then owned.goOn (.closeJob true)
      else if owned.processPoll.returncode then owned.processPoll.goOn (.closeJob false)
      else owned.processPoll.goOn .interrupt
  | .interrupt => (if owned.returncode then owned else owned.signalGroup).goOn .grace
  | .grace =>
      match owned.result outcome with
      | .done => if owned.leader = .running then owned else owned.observe.goOn (.closeJob false)
      | .expires => owned.goOn .terminateJob
      | .fails => owned.goOn (.closeJob true)
  | .terminateJob => owned.goOn (.closeJob false)
  | .closeJob raised =>
      if outcome = .fails then owned.finish .nativeProcessError
      else if raised then { owned with job := false }.finish .nativeProcessError
      else { owned with job := false }.goOn .reap
  | .terminate => owned.killpg outcome .watch
  | .watch =>
      if outcome = .fails then owned.finish .nativeProcessError
      else if outcome = .done ∧ owned.leader = .running then owned.poll.goOn .watch
      else owned.poll.goOn .kill
  | .kill => owned.killpg outcome .reap
  | .reap =>
      match owned.result outcome with
      | .done =>
          if owned.leader = .running then owned
          else { owned.observe with stopped := true }.finish .returned
      | _ => owned.finish .nativeProcessError

def step (owned : OwnedNativeProcess) : Event → OwnedNativeProcess
  | .exits => if owned.leader = .running then { owned with leader := .exited } else owned
  | .poll => owned.poll
  | .stop => if owned.call = none then owned.stop else owned
  | .proceed outcome => owned.call.elim owned (owned.proceed outcome)

def machine (condition : OwnedNativeProcess → Event → Prop) : Machine OwnedNativeProcess Event :=
  ⟨step, condition⟩

/-- What `stop` is for, on both platforms. -/
def Released (owned : OwnedNativeProcess) : Prop :=
  owned.returncode = true ∧ owned.job = false ∧
    (owned.platform = .linux → owned.leader = .reaped)

/-- The job is not closed because of an error, and behind it the leader is reaped in time. -/
def Completes (owned : OwnedNativeProcess) (event : Event) : Prop :=
  owned.platform = .windows → ∀ outcome, event = .proceed outcome →
    (owned.call = some (.closeJob true) → outcome = .fails) ∧
      (owned.call = some .reap → owned.result outcome = .done)

/-! ## Runs -/

variable {owned : OwnedNativeProcess} {phase : Phase} {outcome : Outcome}

/-- What is there while a `stop` is at an operation. -/
def Fits (owned : OwnedNativeProcess) : Phase → Prop
  | .terminate | .watch | .kill => owned.platform = .linux
  | .reap => owned.job = false
  | _ => owned.platform = .windows ∧ owned.job = true

/-- Only a `stop` that returns reaps, so that the others find the leader, and the job. -/
structure Inv (owned : OwnedNativeProcess) : Prop where
  known : owned.returncode = true → owned.leader ≠ .running
  reaped : owned.leader = .reaped → owned.stopped = true
  signals : Leader.reaped ∉ owned.signals
  job : owned.platform = .linux → owned.job = false
  stopped : owned.stopped = true → owned.Released ∧ owned.call = none
  fits : ∀ phase, owned.call = some phase → owned.Fits phase
  held : owned.platform = .windows → owned.job = false → owned.stopped = true ∨ owned.call ≠ none
  returned : Ending.returned ∈ owned.ends → owned.stopped = true
  resumes : Ending.assertionError ∉ owned.ends

theorem Inv.goes (h : Inv owned) (hstopped : owned.stopped = false) (hfits : owned.Fits phase) :
    Inv (owned.goOn phase) :=
  { h with
    stopped := fun howned => absurd howned (by simp [goOn, hstopped])
    fits := by
      rintro _ ⟨⟩
      cases phase <;> exact hfits
    held := fun _ _ => .inr (by simp [goOn]) }

theorem Inv.raises (h : Inv owned) (hheld : owned.platform = .windows → owned.job = true) :
    Inv (owned.finish .nativeProcessError) :=
  { h with
    stopped := fun howned => ⟨(h.stopped howned).1, rfl⟩
    fits := by simp [finish]
    held := fun hplatform hjob => by simp [finish, hheld hplatform] at hjob
    returned := fun hmem => h.returned (by simpa [finish] using hmem)
    resumes := by simpa [finish] using h.resumes }

theorem Inv.sends (h : Inv owned) (hstopped : owned.stopped = false) :
    Inv owned.signalGroup :=
  { h with
    signals := by
      have hleader : owned.leader ≠ .reaped := fun hleader => by simp [h.reaped hleader] at hstopped
      simpa [signalGroup, hleader.symm] using h.signals }

theorem Inv.observes (h : Inv owned) (hleader : owned.leader ≠ .running)
    (hlinux : owned.platform = .linux → owned.leader = .reaped) : Inv owned.observe := by
  have hsame : owned.observe = { owned with returncode := true } := by
    simp +contextual [observe, hlinux]
  rw [hsame]
  exact { h with
    known := fun _ => hleader
    stopped := fun hstopped => ⟨⟨rfl, (h.stopped hstopped).1.2⟩, (h.stopped hstopped).2⟩
    fits := fun phase hphase => by have := h.fits phase hphase; cases phase <;> exact this }

theorem Inv.polls (h : Inv owned) : Inv owned.poll := by
  unfold poll processPoll
  split_ifs with hobserves hover
  · exact h
  · rw [not_or] at hover
    refine h.observes hover.2 fun hlinux => ?_
    rcases hobserves with hwindows | hreturncode | hreaped
    · rw [hlinux] at hwindows
      cases hwindows
    · exact absurd hreturncode hover.1
    · exact hreaped
  · exact h

theorem poll_same (owned : OwnedNativeProcess) :
    owned.poll.platform = owned.platform ∧ owned.poll.job = owned.job ∧
      owned.poll.stopped = owned.stopped := by
  unfold poll processPoll
  split_ifs <;> exact ⟨rfl, rfl, rfl⟩

theorem Inv.job_held (h : Inv owned) (hcall : owned.call = none) (hstopped : owned.stopped = false)
    (hwindows : owned.platform = .windows) : owned.job = true := by
  by_contra hjob
  rcases h.held hwindows (by simpa using hjob) with hends | hcalls
  · simp [hstopped] at hends
  · exact hcalls hcall

theorem Inv.enters (h : Inv owned) (hcall : owned.call = none) : Inv owned.stop := by
  unfold stop
  by_cases hstopped : owned.stopped = true
  · rw [if_pos hstopped]
    exact { h with
      stopped := fun _ => ⟨(h.stopped hstopped).1, rfl⟩
      fits := by simp [finish]
      held := fun _ _ => .inl hstopped
      returned := fun _ => hstopped
      resumes := by simpa [finish] using h.resumes }
  rw [if_neg hstopped]
  rw [Bool.not_eq_true] at hstopped
  split <;> rename_i hplatform
  · exact h.goes hstopped hplatform
  · have hjob := h.job_held hcall hstopped hplatform
    rw [if_pos hjob]
    exact h.goes hstopped ⟨hplatform, hjob⟩

theorem Inv.kills (h : Inv owned) (hstopped : owned.stopped = false)
    (hlinux : owned.platform = .linux) (hfits : owned.Fits phase) :
    Inv (owned.killpg outcome phase) := by
  unfold killpg
  split_ifs
  · refine (h.sends hstopped).raises fun hwindows => ?_
    cases hlinux.symm.trans hwindows
  · refine (h.sends hstopped).goes hstopped ?_
    cases phase <;> exact hfits

/-- The last wait; it reaps the leader, and the `stop` returns. -/
theorem Inv.returns (h : Inv owned) (hleader : owned.leader ≠ .running) (hjob : owned.job = false) :
    Inv ({ owned.observe with stopped := true }.finish .returned) where
  known _ := by
    unfold observe finish
    dsimp only
    split_ifs
    · simp
    · exact hleader
  reaped _ := rfl
  signals := h.signals
  job _ := hjob
  stopped _ := ⟨⟨rfl, hjob, fun hlinux => if_pos hlinux⟩, rfl⟩
  fits := by simp [finish]
  held _ _ := .inl rfl
  returned _ := rfl
  resumes := by simpa [finish, observe] using h.resumes

theorem Inv.proceeds (h : Inv owned) (hcall : owned.call = some phase)
    (hcompletes : owned.Completes (.proceed outcome)) : Inv (owned.proceed outcome phase) := by
  have hfits := h.fits phase hcall
  have hstopped : owned.stopped = false := by
    by_contra hstopped
    have hover := (h.stopped (by simpa using hstopped)).2
    rw [hcall] at hover
    cases hover
  obtain ⟨hplatform, hjob, hkeeps⟩ := poll_same owned
  cases phase with
  | look =>
      have hpoll : owned.poll = owned.processPoll := if_pos (.inl hfits.1)
      have hfound : owned.poll.platform = .windows ∧ owned.poll.job = true :=
        ⟨hplatform.trans hfits.1, hjob.trans hfits.2⟩
      simp only [proceed]
      rw [← hpoll]
      split_ifs
      · exact h.goes hstopped hfits
      all_goals exact h.polls.goes (hkeeps.trans hstopped) hfound
  | interrupt =>
      simp only [proceed]
      split_ifs
      · exact h.goes hstopped hfits
      · exact (h.sends hstopped).goes hstopped hfits
  | grace =>
      have hobserve (hleader : owned.leader ≠ .running) : Inv owned.observe :=
        h.observes hleader fun hlinux => by cases hfits.1.symm.trans hlinux
      simp only [proceed]
      split
      · split_ifs with hleader
        · exact h
        · exact (hobserve hleader).goes hstopped hfits
      all_goals exact h.goes hstopped hfits
  | terminateJob => exact h.goes hstopped hfits
  | closeJob raised =>
      obtain ⟨hraised, -⟩ := hcompletes hfits.1 outcome rfl
      simp only [proceed]
      split_ifs with hfails hraises
      · exact h.raises fun _ => hfits.2
      · subst hraises
        exact absurd (hraised hcall) hfails
      · exact { h with
          job := fun _ => rfl
          stopped := fun howned => absurd howned (by simp [goOn, hstopped])
          fits := by
            rintro _ ⟨⟩
            rfl
          held := fun _ _ => .inr (by simp [goOn]) }
  | terminate => exact h.kills hstopped hfits hfits
  | watch =>
      have hlinux : owned.poll.platform = .linux := hplatform.trans hfits
      simp only [proceed]
      split_ifs
      · exact h.raises fun hwindows => by cases hlinux.symm.trans (hplatform.trans hwindows)
      all_goals exact h.polls.goes (hkeeps.trans hstopped) hlinux
  | kill => exact h.kills hstopped hfits (h.job hfits)
  | reap =>
      have hreaps := fun hwindows => (hcompletes hwindows outcome rfl).2 hcall
      simp only [proceed]
      split
      · split_ifs with hleader
        · exact h
        · exact h.returns hleader hfits
      · rename_i hlate
        exact h.raises fun hwindows => absurd (hreaps hwindows) hlate

theorem Inv.steps (h : Inv owned) {event : Event} (hcompletes : owned.Completes event) :
    Inv (owned.step event) := by
  cases event with
  | exits =>
      simp only [step]
      split_ifs with hleader
      · exact { h with
          known := fun _ => by simp
          reaped := fun hreaped => by simp at hreaped
          stopped := fun hstopped => absurd hleader (h.known (h.stopped hstopped).1.1)
          fits := fun phase hphase => by have := h.fits phase hphase; cases phase <;> exact this }
      · exact h
  | poll => exact h.polls
  | stop =>
      simp only [step]
      split_ifs with hcall
      · exact h.enters hcall
      · exact h
  | proceed outcome =>
      cases hcall : owned.call with
      | none => simpa [step, hcall] using h
      | some phase => simpa [step, hcall] using h.proceeds hcall hcompletes

/-- A run in which no `stop` loses the job over an error: the group is signalled while the leader
holds its PID, a `stop` that has returned has reaped and released, and each of the others has raised
`NativeProcessError` and is taken up by the next one. -/
theorem stop_resumes {platform : Platform} {events : List Event} {final : OwnedNativeProcess}
    (hrun : (machine Completes).Reaches (start platform) events final) :
    Leader.reaped ∉ final.signals ∧ (Ending.returned ∈ final.ends → final.Released) ∧
      (∀ ending ∈ final.ends, ending = .returned ∨ ending = .nativeProcessError) ∧
      (final.stopped = false → final.call = none → (final.step .stop).call ≠ none) := by
  have hstart : Inv (start platform) := by
    cases platform <;> constructor <;> simp [start]
  have hinv : Inv final := hrun.invariant (fun _ _ h hcompletes => h.steps hcompletes) hstart
  refine ⟨hinv.signals, fun hmem => (hinv.stopped (hinv.returned hmem)).1, ?_, ?_⟩
  · rintro (_ | _ | _) hmem
    · exact .inl rfl
    · exact .inr rfl
    · exact absurd hmem hinv.resumes
  · intro hstopped hcall
    simp only [step, if_pos hcall, stop, hstopped]
    cases hplatform : final.platform with
    | linux => simp [goOn]
    | windows => simp [goOn, hinv.job_held hcall hstopped hplatform]

/-- A `stop` that may not signal the group is taken up. -/
theorem stop_resumes_refused :
    ([.stop, .proceed .fails, .stop].foldl step (start .linux)).call ≠ none := by
  have hlinux (owned : OwnedNativeProcess) (event : Event) (hplatform : owned.platform = .linux) :
      owned.Completes event := fun hwindows => by cases hplatform.symm.trans hwindows
  have hrun : (machine Completes).Reaches (start .linux) [.stop, .proceed .fails] _ :=
    ⟨hlinux _ _ rfl, hlinux _ _ rfl, rfl⟩
  exact (stop_resumes hrun).2.2.2 rfl rfl

/-- The last wait expires behind the closing of the job, and the next `stop` fails its assertion. -/
theorem stop_asserts :
    ([.stop, .proceed .done, .proceed .done, .proceed .expires, .proceed .done, .proceed .done,
      .proceed .expires, .stop].foldl step (start .windows)).ends =
      [.assertionError, .nativeProcessError] := rfl

end OwnedNativeProcess

end K5Vision.Operator.NativeProcess
