import K5Vision.Presentation.PresentationSupervisor

/-!
# Supervisor and host agree

While no call has the supervisor's lock, the state of a supervisor that is not failed is the one
that its host's state maps to (`supervisor_agrees`), as long as no caller is cancelled while the
host awaits the start of a runtime, or the closing of a runtime that the same call has stopped.
Those two cancellations leave the host in a state of its own (`start_cancelled`).

Who has the lock sees nothing change but the runtime, so a call is followed from one request to the
next by what it knows of the two states and the counters, its `View`.  The calls of the host are
specified first: what they return, and where a cancellation leaves them.
-/

namespace K5Vision.Presentation

open Library Routine

/-! ## What is to hold -/

/-- The states and the counters. -/
structure View where
  supervisor : SupervisorState
  host : HostState
  generation : ℕ
  replacements : ℕ
  limit : ℕ

def viewOf (control : Control) : View where
  supervisor := control.supervisor.state
  host := control.host.state
  generation := control.host.generation
  replacements := control.supervisor.replacements
  limit := control.supervisor.maxReplacements

/-- The supervisor is failed, or in the state of its host. -/
def Agree (view : View) : Prop :=
  view.supervisor = .failed ∨ view.supervisor = supervisorStateOf view.host

/-- Replacements are bounded, and each has started a generation. -/
def Counted (limit : ℕ) (view : View) : Prop :=
  view.limit = limit ∧ view.replacements ≤ limit ∧ view.replacements ≤ view.generation

structure Kept {ι : Type} (limit : ℕ) (state : State ι) : Prop where
  counted : Counted limit (viewOf state.control)
  agree : state.holder = none → Agree (viewOf state.control)

/-- No caller is cancelled while the host awaits the start of a runtime, nor while it awaits the
closing of one that was running, but if the supervisor is failed. -/
def uncancelled (choice : Choice) (request : Request) (control : Control) : Prop :=
  choice.awaitEnd = .cancelled →
    match request with
    | .await .start => control.supervisor.state = .failed
    | .await .close => control.supervisor.state ≠ .running
    | _ => True

/-! ## One call among others -/

variable {ι : Type} {limit : ℕ} {i : ι}

/-- The calls among each other: only who has the lock changes anything. -/
def among (limit : ℕ) (i : ι) : Among interface Raised (State ι) Choice where
  toServer := server uncancelled i
  rely before after := (before.holder = some i → after = before) ∧
    (before.holder ≠ some i → after.holder ≠ some i) ∧ (Kept limit before → Kept limit after)
  guar before after := (Kept limit before → Kept limit after) ∧ ∀ j, j ≠ i →
    (before.holder = some j → after = before) ∧ (before.holder ≠ some j → after.holder ≠ some j)

/-- The call does not have the lock. -/
def Outside (limit : ℕ) (i : ι) (state : State ι) : Prop := state.holder ≠ some i ∧ Kept limit state

/-- The call has the lock, and knows something of what it finds. -/
def Inside (limit : ℕ) (i : ι) (P : View → Prop) (state : State ι) : Prop :=
  state.holder = some i ∧ P (viewOf state.control) ∧ Counted limit (viewOf state.control)

theorem fits : Fits (among (ι := ι) limit) fun i outcome =>
    Ends (fun _ : SupervisorSnapshot => Outside limit i) (fun _ => Outside limit i) outcome where
  refl _ _ := ⟨fun _ => rfl, id, id⟩
  trans i first second third hfirst hsecond := by
    refine ⟨?_, fun hne => hsecond.2.1 (hfirst.2.1 hne), fun hkept => hsecond.2.2 (hfirst.2.2 hkept)⟩
    intro hholder
    have heq := hfirst.1 hholder
    subst heq
    exact hsecond.1 hholder
  guar i j before after hne hguar := ⟨(hguar.2 j hne.symm).1, (hguar.2 j hne.symm).2, hguar.1⟩
  stable i outcome before after hpost hrely := by
    have houtside : Outside limit i before → Outside limit i after := fun h =>
      ⟨hrely.2.1 h.1, hrely.2.2 h.2⟩
    cases outcome with
    | ok snapshot => exact houtside hpost
    | error raised => exact houtside hpost

variable {P Q : View → Prop} {failed : Raised → State ι → Prop}

theorem Inside.mono {state : State ι} (h : Inside limit i P state) (himp : ∀ view, P view → Q view) :
    Inside limit i Q state :=
  ⟨h.1, himp _ h.2.1, h.2.2⟩

theorem guar_of_inside {before after : State ι} (hbefore : before.holder = some i)
    (hafter : Inside limit i Q after) : (among limit i).guar before after := by
  refine ⟨fun _ => ⟨hafter.2.2, fun hnone => ?_⟩, fun j hj => ⟨fun hholder => ?_, fun _ => ?_⟩⟩
  · rw [hafter.1] at hnone
    cases hnone
  · rw [hbefore] at hholder
    cases hholder
    exact absurd rfl hj
  · rw [hafter.1]
    simpa using Ne.symm hj

theorem inside_spec {request : Request} {done : interface.Answer request → State ι → Prop}
    (hserve : ∀ state choice, Inside limit i P state → uncancelled choice request state.control →
      (∃ Q, Inside limit i Q (serve i choice request state).2) ∧
        Ends done failed (serve i choice request state).1 (serve i choice request state).2) :
    Spec (among limit i) (Inside limit i P) (Routine.call (I := interface) request) done failed := by
  refine Spec.call ?_ ?_
  · intro state now hinside hrely
    have heq := hrely.1 hinside.1
    subst heq
    exact hinside
  · intro state choice hinside hpermits
    obtain ⟨⟨Q, hafter⟩, hends⟩ := hserve state choice hinside hpermits.2
    exact ⟨guar_of_inside hinside.1 hafter, hends⟩

theorem look_spec : Spec (among limit i) (Inside limit i P) look
    (fun control => Inside limit i fun view => P view ∧ view = viewOf control) failed := by
  refine inside_spec ?_
  intro state choice hinside _
  exact ⟨⟨P, hinside⟩, hinside.1, ⟨hinside.2.1, rfl⟩, hinside.2.2⟩

variable {α : Type}

/-- What the call reads is what it knows from then on. -/
theorem look_then {next : Control → Call α} {done : α → State ι → Prop}
    (h : ∀ control, P (viewOf control) →
      Spec (among limit i) (Inside limit i fun view => view = viewOf control) (next control) done failed) :
    Spec (among limit i) (Inside limit i P) (look >>= next) done failed := by
  refine look_spec.bind ?_
  intro control
  constructor
  intro state hinside
  have hview : P (viewOf control) := hinside.2.1.2 ▸ hinside.2.1.1
  exact (h control hview).run state (hinside.mono fun _ hnow => hnow.2)

theorem update_spec {f : Control → Control}
    (h : ∀ control, P (viewOf control) → Counted limit (viewOf control) →
      Q (viewOf (f control)) ∧ Counted limit (viewOf (f control))) :
    Spec (among limit i) (Inside limit i P) (update f) (fun _ => Inside limit i Q) failed := by
  refine inside_spec ?_
  intro state choice hinside _
  have hafter : Inside limit i Q { state with control := f state.control } :=
    ⟨hinside.1, h _ hinside.2.1 hinside.2.2⟩
  exact ⟨⟨Q, hafter⟩, hafter⟩

def Cancellable (call : RuntimeCall) (view : View) : Prop :=
  match call with
  | .start => view.supervisor = .failed
  | .close => view.supervisor ≠ .running
  | _ => True

theorem await_spec (call : RuntimeCall) : Spec (among limit i) (Inside limit i P) (await call)
    (fun _ => Inside limit i P)
    (fun raised => Inside limit i fun view => P view ∧ (raised = .cancelled → Cancellable call view)) := by
  refine inside_spec ?_
  intro state choice hinside huncancelled
  have hafter : Inside limit i P (state.observe choice.snapshot) := hinside
  unfold serve
  cases hend : choice.awaitEnd with
  | returned => exact ⟨⟨P, hafter⟩, hafter⟩
  | raised => exact ⟨⟨P, hafter⟩, hinside.1, ⟨hinside.2.1, by simp⟩, hinside.2.2⟩
  | cancelled =>
      refine ⟨⟨P, hafter⟩, hinside.1, ⟨hinside.2.1, fun _ => ?_⟩, hinside.2.2⟩
      have hallowed := huncancelled hend
      cases call with
      | start => exact hallowed
      | wait => trivial
      | stop => trivial
      | close => exact hallowed
  | timedOut => exact ⟨⟨P, hafter⟩, hinside.1, ⟨hinside.2.1, by simp⟩, hinside.2.2⟩

variable {post : α → State ι → Prop} {pre : State ι → Prop}

theorem raise_spec {raised : Raised} (h : ∀ state, pre state → failed raised state) :
    Spec (among limit i) pre (Routine.raise raised) post failed :=
  Spec.raise h

variable {routine : Call α}

/-- `CancelledError` goes through an `except Exception`. -/
theorem onException_spec {handle : Call α} {raises : Raised → State ι → Prop}
    (h : Spec (among limit i) pre routine post raises)
    (hcancel : ∀ raised, raised.isCancelledError = true →
      ∀ state, raises raised state → failed raised state)
    (hhandle : ∀ raised, raised.isCancelledError = false →
      Spec (among limit i) (raises raised) handle post failed) :
    Spec (among limit i) pre (onException routine handle) post failed := by
  refine h.recover ?_
  intro raised
  cases hraised : raised.isCancelledError with
  | true => exact Spec.raise (hcancel raised hraised)
  | false => exact hhandle raised hraised

/-! ## The calls of the host -/

/-- The host has changed, and the supervisor not. -/
def SameSupervisor (view now : View) : Prop :=
  now.supervisor = view.supervisor ∧ now.limit = view.limit ∧
    now.replacements = view.replacements ∧ view.generation ≤ now.generation

theorem SameSupervisor.refl (view : View) : SameSupervisor view view := ⟨rfl, rfl, rfl, Nat.le_refl _⟩

/-- The caller is cancelled; or its time is up, where that is of interest. -/
def Raised.ends (timed : Bool) : Raised → Prop
  | .cancelled => True
  | .timedOut => timed = true
  | _ => False

/-- A call of the host has raised; a cancellation leaves what `cancelled` says. -/
def HostRaised (limit : ℕ) (i : ι) (view : View) (timed : Bool) (cancelled : View → Prop) (raised : Raised) :
    State ι → Prop :=
  Inside limit i fun now => SameSupervisor view now ∧ (raised.ends timed → cancelled now)

@[simp] theorem accountCurrent_state (host : Host) : host.accountCurrent.state = host.state := by
  unfold Host.accountCurrent
  split
  · rfl
  · split <;> rfl

@[simp] theorem accountCurrent_generation (host : Host) :
    host.accountCurrent.generation = host.generation := by
  unfold Host.accountCurrent
  split
  · rfl
  · split <;> rfl

theorem SameSupervisor.counted {view now : View} (h : SameSupervisor view now)
    (hcounted : Counted limit view) : Counted limit now := by
  obtain ⟨-, hlimit, hreplacements, hgeneration⟩ := h
  unfold Counted at hcounted ⊢
  omega

variable {f : Host → Host}

theorem mapHost_spec (hgeneration : ∀ host, host.generation ≤ (f host).generation)
    (h : ∀ control, P (viewOf control) → Q (viewOf (control.mapHost f))) :
    Spec (among limit i) (Inside limit i P) (update fun control => control.mapHost f)
      (fun _ => Inside limit i Q) failed := by
  refine update_spec ?_
  intro control hview hcounted
  have hsame : SameSupervisor (viewOf control) (viewOf (control.mapHost f)) :=
    ⟨rfl, rfl, rfl, hgeneration control.host⟩
  exact ⟨h control hview, hsame.counted hcounted⟩

variable {view : View} {timed : Bool} {cancelled : View → Prop}

theorem hostUpdate_spec (hgeneration : ∀ host, (f host).generation = host.generation)
    (h : ∀ now, P now → SameSupervisor view now) :
    Spec (among limit i) (Inside limit i P) (update fun control => control.mapHost f)
      (fun _ => Inside limit i (SameSupervisor view)) failed := by
  refine mapHost_spec (fun host => Nat.le_of_eq (hgeneration host).symm) ?_
  intro control hnow
  obtain ⟨hsupervisor, hlimit, hreplacements, hle⟩ := h _ hnow
  exact ⟨hsupervisor, hlimit, hreplacements,
    Nat.le_trans hle (Nat.le_of_eq (hgeneration control.host).symm)⟩

variable {message : String}

theorem hostRaise_spec {code : HostErrorCode} (h : ∀ now, P now → SameSupervisor view now) :
    Spec (among limit i) (Inside limit i P) (Host.raise code message) post (HostRaised limit i view timed cancelled) := by
  refine raise_spec ?_
  intro state hinside
  exact hinside.mono fun now hnow => ⟨h now hnow, by simp [Raised.ends]⟩

theorem hostHandle_spec {code : HostErrorCode}
    (hgeneration : ∀ host, (f host).generation = host.generation)
    (h : ∀ now, P now → SameSupervisor view now) :
    Spec (among limit i) (Inside limit i P) (do
        update fun control => control.mapHost f
        Host.raise code message) post (HostRaised limit i view timed cancelled) :=
  (hostUpdate_spec hgeneration h).bind fun _ => hostRaise_spec fun _ hnow => hnow

theorem hostFailWith_spec {code : HostErrorCode} (h : ∀ now, P now → SameSupervisor view now) :
    Spec (among limit i) (Inside limit i P) (Host.failWith code message) post
      (HostRaised limit i view timed cancelled) :=
  hostHandle_spec (fun _ => rfl) h

theorem hostAwait_spec {call : RuntimeCall} {handle : Call RuntimeSnapshot}
    (h : ∀ now, P now → SameSupervisor view now)
    (hcancelled : ∀ now, P now → Cancellable call now → cancelled now)
    (htimed : timed = true → ∀ now, P now → cancelled now)
    (hhandle : Spec (among limit i) (Inside limit i P) handle (fun _ => Inside limit i P)
      (HostRaised limit i view timed cancelled)) :
    Spec (among limit i) (Inside limit i P) (onException (await call) handle) (fun _ => Inside limit i P)
      (HostRaised limit i view timed cancelled) := by
  refine onException_spec (await_spec call) ?_ ?_
  · intro raised hraised state hinside
    refine hinside.mono ?_
    rintro now ⟨hnow, hcancellable⟩
    refine ⟨h now hnow, fun hends => ?_⟩
    cases raised with
    | cancelled => exact hcancelled now hnow (hcancellable rfl)
    | timedOut => exact htimed hends now hnow
    | _ => cases hraised
  · intro raised _
    exact hhandle.imp fun state hinside => hinside.mono fun now hnow => hnow.1

theorem isCurrent_cases {runtime : Runtime} (h : ∀ host, (f host).generation = host.generation)
    (host : Host) :
    (if host.isCurrent runtime then f host else host).generation = host.generation := by
  split
  · exact h host
  · rfl

theorem fail_accountCurrent_generation (host : Host) :
    host.fail.accountCurrent.generation = host.generation := by
  rw [accountCurrent_generation]
  rfl

theorem viewOf_accountCurrent (control : Control) :
    viewOf (control.mapHost Host.accountCurrent) = viewOf control := by
  simp [viewOf, Control.mapHost]

theorem accountCurrent_spec :
    Spec (among limit i) (Inside limit i P) (update fun control => control.mapHost Host.accountCurrent)
      (fun _ => Inside limit i P) failed := by
  refine mapHost_spec (fun host => Nat.le_of_eq (accountCurrent_generation host).symm) ?_
  intro control hview
  rw [viewOf_accountCurrent]
  exact hview

theorem closePrevious_spec (view : View) :
    Spec (among limit i) (Inside limit i fun now => now = view) Host.closePrevious
      (fun _ => Inside limit i fun now => now = view)
      (HostRaised limit i view false fun now => now.host = view.host ∧ view.supervisor ≠ .running) := by
  refine look_then ?_
  rintro control rfl
  have hsame : ∀ now, now = viewOf control → SameSupervisor (viewOf control) now := by
    rintro now rfl
    exact SameSupervisor.refl _
  split_ifs
  · refine accountCurrent_spec.bind fun _ => (hostAwait_spec hsame ?_ ?_ ?_).bind fun _ => ?_
    · rintro now rfl hcancellable
      exact ⟨rfl, hcancellable⟩
    · simp
    · exact hostFailWith_spec hsame
    · refine mapHost_spec (fun host => Nat.le_refl _) ?_
      intro now hnow
      exact hnow
  · exact Spec.pure fun _ h => h

theorem assembleRuntime_spec (view : View) :
    Spec (among limit i) (Inside limit i fun now => now = view) Host.assembleRuntime
      (fun _ => Inside limit i fun now => now = view) (HostRaised limit i view false fun _ => False) := by
  have hsame : ∀ now, now = view → SameSupervisor view now := by
    rintro now rfl
    exact SameSupervisor.refl _
  have hassemble : Spec (among limit i) (Inside limit i fun now => now = view)
      (Routine.call (I := interface) .assemble) (fun _ => Inside limit i fun now => now = view)
      (fun raised state => raised = .runtime ∧ Inside limit i (fun now => now = view) state) := by
    refine inside_spec ?_
    intro state choice hinside _
    by_cases hraised : choice.awaitEnd = .raised
    · simp only [serve, if_pos hraised]
      exact ⟨⟨_, hinside⟩, rfl, hinside⟩
    · simp only [serve, if_neg hraised]
      exact ⟨⟨_, hinside⟩, hinside⟩
  refine (onException_spec hassemble ?_ ?_).bind ?_
  · rintro raised hraised state ⟨rfl, -⟩
    cases hraised
  · intro raised _
    exact (hostFailWith_spec hsame).imp fun _ h => h.2
  intro made
  cases made with
  | none => exact hostFailWith_spec hsame
  | some snapshot => exact Spec.pure fun _ h => h

/-- Where a cancelled `start` leaves the host. -/
def StartCancelled (view now : View) : Prop :=
  now.supervisor = .failed ∨ now.host = view.host ∧ view.supervisor ≠ .running

theorem startRuntime_spec (h : ∀ now, P now → SameSupervisor view now) :
    Spec (among limit i) (Inside limit i P) ((await .start).recover fun raised => do
        update fun control => control.mapHost Host.fail
        if raised.isCancelledError then Routine.raise raised
        else Host.raise .startFailure "presentation host generation failed to start")
      (fun _ => Inside limit i P) (HostRaised limit i view false (StartCancelled view)) := by
  refine (await_spec .start).recover ?_
  intro raised
  have hfail : Spec (among limit i)
      (Inside limit i fun now => P now ∧ (raised = .cancelled → Cancellable .start now))
      (update fun control => control.mapHost Host.fail)
      (fun _ => Inside limit i fun now => SameSupervisor view now ∧
        (raised.ends false → StartCancelled view now)) (HostRaised limit i view false (StartCancelled view)) := by
    refine mapHost_spec (fun host => Nat.le_refl _) ?_
    rintro control ⟨hview, hcancelled⟩
    have hsame := h _ hview
    refine ⟨hsame, fun hends => ?_⟩
    cases raised with
    | cancelled => exact .inl (hcancelled rfl)
    | timedOut => cases hends
    | _ => cases hends
  refine hfail.bind fun _ => ?_
  split_ifs
  · exact raise_spec fun _ hinside => hinside
  · exact hostRaise_spec fun _ hnow => hnow.1

theorem hostSnapshot_spec : Spec (among limit i) (Inside limit i P) (do
      let control ← look
      pure control.host.snapshot)
    (fun child => Inside limit i fun now => P now ∧ child.state = now.host) failed := by
  refine look_then ?_
  intro control hview
  refine Spec.pure ?_
  intro state hinside
  exact hinside.mono fun now hnow => ⟨hnow ▸ hview, hnow ▸ rfl⟩

theorem hostStart_spec (view : View) :
    Spec (among limit i) (Inside limit i fun now => now = view) Host.start
      (fun child => Inside limit i fun now => (SameSupervisor view now ∧
        now.generation = view.generation + 1 ∧ now.host = .running) ∧ child.state = now.host)
      (HostRaised limit i view false (StartCancelled view)) := by
  have hsame : ∀ now, now = view → SameSupervisor view now := by
    rintro now rfl
    exact SameSupervisor.refl _
  refine look_then ?_
  rintro control rfl
  split_ifs
  · exact hostRaise_spec hsame
  · exact hostRaise_spec hsame
  refine ((closePrevious_spec (viewOf control)).mono (fun _ _ h => h) ?_).bind fun _ => ?_
  · intro raised state h
    exact h.mono fun now hnow => ⟨hnow.1, fun hraised => .inr (hnow.2 hraised)⟩
  refine ((assembleRuntime_spec (viewOf control)).mono (fun _ _ h => h) ?_).bind fun made => ?_
  · intro raised state h
    exact h.mono fun now hnow => ⟨hnow.1, fun hraised => (hnow.2 hraised).elim⟩
  have hstarts : Spec (among limit i) (Inside limit i fun now => now = viewOf control)
      (update fun control => control.mapHost fun host =>
        { host with
          generation := host.generation + 1
          runtime := some ⟨host.generation + 1, made⟩ })
      (fun _ => Inside limit i fun now => SameSupervisor (viewOf control) now ∧
        now.generation = (viewOf control).generation + 1)
      (HostRaised limit i (viewOf control) false (StartCancelled (viewOf control))) := by
    refine mapHost_spec (fun host => Nat.le_succ _) ?_
    intro now hnow
    obtain ⟨hsupervisor, hlimit, hreplacements, hgeneration⟩ := hsame _ hnow
    exact ⟨⟨hsupervisor, hlimit, hreplacements, Nat.le_succ_of_le hgeneration⟩,
      congrArg (fun view => View.generation view + 1) hnow⟩
  refine hstarts.bind fun _ => (startRuntime_spec fun now hnow => hnow.1).bind fun _ => ?_
  have hruns : Spec (among limit i) (Inside limit i fun now => SameSupervisor (viewOf control) now ∧
        now.generation = (viewOf control).generation + 1)
      (update fun control => control.mapHost fun host => { host with state := .running })
      (fun _ => Inside limit i fun now => SameSupervisor (viewOf control) now ∧
        now.generation = (viewOf control).generation + 1 ∧ now.host = .running)
      (HostRaised limit i (viewOf control) false (StartCancelled (viewOf control))) := by
    refine mapHost_spec (fun host => Nat.le_refl _) ?_
    rintro now ⟨hsupervisor, hgeneration⟩
    exact ⟨hsupervisor, hgeneration, rfl⟩
  exact hruns.bind fun _ => hostSnapshot_spec

/-- What `wait` and `stop` of the host do: they return its state, and a cancellation leaves it. -/
def HostEnds (limit : ℕ) (i : ι) (routine : Call HostSnapshot) : Prop :=
  ∀ view, Spec (among limit i) (Inside limit i fun now => now = view) routine
    (fun child => Inside limit i fun now => SameSupervisor view now ∧ child.state = now.host)
    (HostRaised limit i view true fun now => now.host = view.host)

theorem hostEnd_spec (hgeneration : ∀ host, (f host).generation = host.generation)
    (h : ∀ now, P now → SameSupervisor view now) :
    Spec (among limit i) (Inside limit i P) (do
        update fun control => control.mapHost f
        let control ← look
        pure control.host.snapshot)
      (fun child => Inside limit i fun now => SameSupervisor view now ∧ child.state = now.host)
      (HostRaised limit i view timed cancelled) :=
  (hostUpdate_spec hgeneration h).bind fun _ => hostSnapshot_spec

theorem returnSnapshot_spec {control : Control} (h : SameSupervisor view (viewOf control)) :
    Spec (among limit i) (Inside limit i fun now => now = viewOf control) (pure control.host.snapshot)
      (fun child => Inside limit i fun now => SameSupervisor view now ∧ child.state = now.host)
      failed := by
  refine Spec.pure ?_
  intro state hinside
  exact hinside.mono fun now hnow => ⟨hnow ▸ h, hnow ▸ rfl⟩

theorem hostWait_spec : HostEnds limit i Host.wait := by
  intro view
  have hsame : ∀ now, now = view → SameSupervisor view now := by
    rintro now rfl
    exact SameSupervisor.refl _
  refine look_then ?_
  rintro control rfl
  split
  · exact hostRaise_spec hsame
  next runtime _ =>
    split_ifs
    · exact hostRaise_spec hsame
    refine (hostAwait_spec hsame ?_ ?_ ?_).bind fun child => ?_
    · rintro now rfl _
      rfl
    · rintro _ now rfl
      rfl
    · exact hostHandle_spec (isCurrent_cases fail_accountCurrent_generation) hsame
    refine look_then ?_
    intro now hnow
    have hsame' : ∀ view, view = viewOf now → SameSupervisor (viewOf control) view := hnow ▸ hsame
    split_ifs
    · exact hostRaise_spec hsame'
    · exact returnSnapshot_spec (hsame' _ rfl)
    · exact hostEnd_spec (fun _ => accountCurrent_generation _) hsame'
    · exact hostEnd_spec (fun _ => accountCurrent_generation _) hsame'
    · exact hostHandle_spec fail_accountCurrent_generation hsame'

theorem hostStop_spec : HostEnds limit i Host.stop := by
  intro view
  have hsame : ∀ now, now = view → SameSupervisor view now := by
    rintro now rfl
    exact SameSupervisor.refl _
  refine look_then ?_
  rintro control rfl
  split_ifs
  · exact hostRaise_spec hsame
  · exact returnSnapshot_spec (SameSupervisor.refl _)
  split
  · exact hostFailWith_spec hsame
  next runtime _ =>
    refine (hostAwait_spec hsame ?_ ?_ ?_).bind fun child => ?_
    · rintro now rfl _
      rfl
    · rintro _ now rfl
      rfl
    · exact hostHandle_spec (isCurrent_cases fail_accountCurrent_generation) hsame
    refine look_then ?_
    intro now hnow
    have hsame' : ∀ view, view = viewOf now → SameSupervisor (viewOf control) view := hnow ▸ hsame
    split_ifs
    · exact hostHandle_spec fail_accountCurrent_generation hsame'
    · exact hostEnd_spec (fun _ => accountCurrent_generation _) hsame'
    · exact returnSnapshot_spec (hsame' _ rfl)

/-- Where a cancelled `close` leaves the host. -/
def CloseCancelled (view now : View) : Prop :=
  now.host = view.host ∨ view.host = .running ∧ view.supervisor ≠ .running

theorem stopRunning_spec (runtime : Runtime) (view : View) :
    Spec (among limit i) (Inside limit i fun now => now = view) (Host.stopRunning runtime)
      (fun _ => Inside limit i (SameSupervisor view)) (HostRaised limit i view false (CloseCancelled view)) := by
  have hsame : ∀ now, now = view → SameSupervisor view now := by
    rintro now rfl
    exact SameSupervisor.refl _
  refine (hostAwait_spec hsame ?_ ?_ ?_).bind fun child => ?_
  · rintro now rfl _
    exact .inl rfl
  · simp
  · exact hostHandle_spec (isCurrent_cases fail_accountCurrent_generation) hsame
  · exact hostUpdate_spec (isCurrent_cases fun _ => accountCurrent_generation _) hsame

/-- The runtime is closed.  A cancellation arrives only when the supervisor is not running. -/
theorem closeRuntime_spec {cancelled : View → Prop} (runtime : Runtime)
    (h : ∀ now, P now → SameSupervisor view now)
    (hcancelled : ∀ now, P now → now.supervisor ≠ .running → cancelled now) :
    Spec (among limit i) (Inside limit i P) (Host.closeRuntime runtime)
      (fun _ => Inside limit i P) (HostRaised limit i view false cancelled) := by
  have haccount : Spec (among limit i) (Inside limit i P)
      (update fun control => control.mapHost fun host =>
        if host.isCurrent runtime then host.accountCurrent else host)
      (fun _ => Inside limit i P) (HostRaised limit i view false cancelled) := by
    refine mapHost_spec (fun host => Nat.le_of_eq ?_) ?_
    · exact (isCurrent_cases accountCurrent_generation host).symm
    intro control hview
    have heq : viewOf (control.mapHost fun host =>
        if host.isCurrent runtime then host.accountCurrent else host) = viewOf control := by
      by_cases hcurrent : control.host.isCurrent runtime = true
      · simp only [Control.mapHost, if_pos hcurrent]
        exact viewOf_accountCurrent control
      · simp only [Control.mapHost, if_neg hcurrent]
    rw [heq]
    exact hview
  have hclose : Spec (among limit i) (Inside limit i P) (onException (await .close) (do
        update fun control => control.mapHost fun host =>
          if host.isCurrent runtime then host.fail else host
        Host.raise .cleanupFailure "presentation host cleanup failed"))
      (fun _ => Inside limit i P) (HostRaised limit i view false cancelled) :=
    hostAwait_spec h hcancelled (by simp) (hostHandle_spec (isCurrent_cases fun _ => rfl) h)
  exact haccount.bind fun _ => hclose.bind fun _ => Spec.pure fun _ h => h

theorem releaseRuntime_spec (control : Control) :
    Spec (among limit i) (Inside limit i fun now => now = viewOf control) (Host.releaseRuntime control)
      (fun _ => Inside limit i (SameSupervisor (viewOf control)))
      (HostRaised limit i (viewOf control) false (CloseCancelled (viewOf control))) := by
  have hsame : ∀ now, now = viewOf control → SameSupervisor (viewOf control) now := by
    rintro now rfl
    exact SameSupervisor.refl _
  unfold Host.releaseRuntime
  split
  · exact Spec.pure fun _ h => h.mono hsame
  next runtime _ =>
    split_ifs with hrunning
    · refine (stopRunning_spec runtime (viewOf control)).bind fun _ => ?_
      refine closeRuntime_spec runtime (fun _ hnow => hnow) ?_
      intro now hnow hsupervisor
      exact .inr ⟨hrunning, hnow.1 ▸ hsupervisor⟩
    · refine (closeRuntime_spec runtime hsame ?_).mono (fun _ _ h => h.mono hsame)
        fun _ _ h => h
      rintro now rfl _
      exact .inl rfl

theorem hostClose_spec (view : View) :
    Spec (among limit i) (Inside limit i fun now => now = view) Host.close
      (fun child => Inside limit i fun now => SameSupervisor view now ∧ child.state = now.host)
      (HostRaised limit i view false (CloseCancelled view)) := by
  refine look_then ?_
  rintro control rfl
  split_ifs
  · exact returnSnapshot_spec (SameSupervisor.refl _)
  · exact (releaseRuntime_spec control).bind fun _ =>
      hostEnd_spec (fun _ => rfl) fun _ hnow => hnow

/-! ## The calls of the supervisor -/

theorem Agree.of_host {view now : View} (h : Agree view) (hsame : SameSupervisor view now)
    (hhost : now.host = view.host) : Agree now := by
  unfold Agree at h ⊢
  rw [hsame.1, hhost]
  exact h

/-- A call of the supervisor raises, and the states agree. -/
def Agreed (limit : ℕ) (i : ι) (_ : Raised) : State ι → Prop := Inside limit i Agree

variable {code : SupervisorErrorCode}

theorem failWith_spec :
    Spec (among limit i) (Inside limit i P) (Supervisor.failWith code message) post (Agreed limit i) := by
  have hfail : Spec (among limit i) (Inside limit i P) (update fun control => control.setState .failed)
      (fun _ => Inside limit i Agree) (Agreed limit i) := by
    refine update_spec ?_
    intro control _ hcounted
    exact ⟨.inl rfl, hcounted⟩
  exact hfail.bind fun _ => raise_spec fun _ h => h

theorem raiseAgreed_spec (h : ∀ view, P view → Agree view) :
    Spec (among limit i) (Inside limit i P) (Supervisor.raise code message) post (Agreed limit i) :=
  raise_spec fun _ hinside => hinside.mono h

/-- Behind `wait_for` no `CancelledError` is one of a time-out. -/
theorem waitFor_spec {raises : Raised → State ι → Prop}
    (h : Spec (among limit i) pre routine post raises) :
    Spec (among limit i) pre (Supervisor.waitFor routine) post fun raised state =>
      raised ≠ .timedOut ∧ (raised = .timeout ∧ raises .timedOut state ∨ raises raised state) := by
  refine h.recover ?_
  intro raised
  cases raised with
  | timedOut => exact Spec.raise fun state hraises => ⟨by simp, .inl ⟨rfl, hraises⟩⟩
  | _ => exact Spec.raise fun state hraises => ⟨by simp, .inr hraises⟩

theorem from_view (h : ∀ view, P view → Counted limit view →
      Spec (among limit i) (Inside limit i fun now => now = view) routine post failed) :
    Spec (among limit i) (Inside limit i P) routine post failed :=
  ⟨fun state hinside =>
    (h _ hinside.2.1 hinside.2.2).run state ⟨hinside.1, rfl, hinside.2.2⟩⟩

/-- A call of the host within the supervisor: an exception fails the supervisor, and a
cancellation leaves an agreement. -/
theorem guarded_spec (h : Spec (among limit i) (Inside limit i fun now => now = view) routine post
      (HostRaised limit i view true cancelled))
    (hagree : ∀ now, SameSupervisor view now → cancelled now → Agree now) :
    Spec (among limit i) (Inside limit i fun now => now = view)
      (onException routine (Supervisor.failWith code message)) post (Agreed limit i) := by
  refine onException_spec h ?_ fun raised _ => failWith_spec
  intro raised hraised state hinside
  refine hinside.mono fun now hnow => hagree now hnow.1 (hnow.2 ?_)
  cases raised with
  | cancelled => trivial
  | timedOut => rfl
  | _ => cases hraised

theorem guardedFor_spec
    (h : Spec (among limit i) (Inside limit i fun now => now = view) routine post
      (HostRaised limit i view timed cancelled))
    (hagree : ∀ now, SameSupervisor view now → cancelled now → Agree now) :
    Spec (among limit i) (Inside limit i fun now => now = view)
      (onException (Supervisor.waitFor routine) (Supervisor.failWith code message)) post
      (Agreed limit i) := by
  refine onException_spec (waitFor_spec h) ?_ fun raised _ => ?_
  · rintro raised hraised state ⟨hne, ⟨rfl, -⟩ | hinside⟩
    · cases hraised
    · refine hinside.mono fun now hnow => hagree now hnow.1 (hnow.2 ?_)
      cases raised with
      | cancelled => trivial
      | timedOut => exact absurd rfl hne
      | _ => cases hraised
  · refine (failWith_spec (P := fun _ => True)).imp ?_
    rintro state ⟨-, ⟨-, hinside⟩ | hinside⟩
    · exact hinside.mono fun _ _ => trivial
    · exact hinside.mono fun _ _ => trivial

/-- The host starts a generation, from states that agree, or behind the end of a generation. -/
theorem startHost_spec (h : view.supervisor ≠ .running → Agree view) :
    Spec (among limit i) (Inside limit i fun now => now = view) (Supervisor.startHost code message)
      (fun _ => Inside limit i fun now => SameSupervisor view now ∧
        now.generation = view.generation + 1 ∧ now.host = .running) (Agreed limit i) := by
  refine (guardedFor_spec (hostStart_spec view) ?_).bind fun child => ?_
  · rintro now hsame (hfailed | ⟨hhost, hsupervisor⟩)
    · exact .inl hfailed
    · exact (h hsupervisor).of_host hsame hhost
  · split_ifs
    · exact failWith_spec
    · exact Spec.pure fun _ hinside => hinside.mono fun _ hnow => hnow.1

theorem endHost_spec {routine : Call HostSnapshot}
    (h : Spec (among limit i) (Inside limit i fun now => now = view)
      (onException routine (Supervisor.failWith code message))
      (fun child => Inside limit i fun now => SameSupervisor view now ∧ child.state = now.host)
      (Agreed limit i)) :
    Spec (among limit i) (Inside limit i fun now => now = view) (Supervisor.endHost routine code message)
      (fun child => Inside limit i fun now => SameSupervisor view now ∧ child.state = now.host)
      (Agreed limit i) := by
  refine h.bind fun child => ?_
  split_ifs
  · exact failWith_spec
  · exact Spec.pure fun _ hinside => hinside

theorem setState_spec {state : SupervisorState}
    (h : ∀ now, P now → state = supervisorStateOf now.host) :
    Spec (among limit i) (Inside limit i P) (update fun control => control.setState state)
      (fun _ => Inside limit i Agree) failed := by
  refine update_spec ?_
  intro control hview hcounted
  have hstate := h _ hview
  exact ⟨.inr hstate, hcounted⟩

theorem currentSnapshot_spec : Spec (among limit i) (Inside limit i P) Supervisor.currentSnapshot
    (fun _ => Inside limit i P) failed := by
  refine look_then ?_
  intro control hview
  exact Spec.pure fun _ hinside => hinside.mono fun now hnow => hnow ▸ hview

theorem acquire_spec : Spec (among limit i) (Outside limit i) (Routine.call (I := interface) .acquire)
    (fun _ => Inside limit i Agree) (fun _ => Outside limit i) := by
  refine Spec.call ?_ ?_
  · rintro state now ⟨hne, hkept⟩ hrely
    exact ⟨hrely.2.1 hne, hrely.2.2 hkept⟩
  rintro state choice ⟨hne, hkept⟩ ⟨hpossible, -⟩
  by_cases hcancelled : choice.awaitEnd = .cancelled
  · have hserve : (among limit i).serve choice Request.acquire state = (.error .cancelled, state) :=
      if_pos hcancelled
    rw [hserve]
    exact ⟨⟨id, fun _ _ => ⟨fun _ => rfl, id⟩⟩, hne, hkept⟩
  have hserve : (among limit i).serve choice Request.acquire state =
      (.ok (), { state with holder := some i }) := if_neg hcancelled
  have hfree : state.holder = none := hpossible hcancelled
  rw [hserve]
  refine ⟨⟨fun _ => ⟨hkept.counted, by simp⟩, fun j hj => ⟨?_, ?_⟩⟩, rfl,
    hkept.agree hfree, hkept.counted⟩
  · simp [hfree]
  · intro _ heq
    exact hj (Option.some.inj heq).symm

theorem release_spec : Spec (among limit i) (Inside limit i Agree) (Routine.call (I := interface) .release)
    (fun _ => Outside limit i) (fun _ => Outside limit i) := by
  refine Spec.call ?_ ?_
  · intro state now hinside hrely
    have heq := hrely.1 hinside.1
    subst heq
    exact hinside
  rintro state choice ⟨hholder, hagree, hcounted⟩ -
  have hkept : Kept (ι := ι) limit ⟨state.control, none⟩ := ⟨hcounted, fun _ => hagree⟩
  refine ⟨⟨fun _ => hkept, fun j hj => ⟨?_, ?_⟩⟩, nofun, hkept⟩
  · intro hother
    rw [hholder] at hother
    exact absurd (Option.some.inj hother).symm hj
  · intro _ heq
    cases heq

theorem locked_spec {body : Call α}
    (h : Spec (among limit i) (Inside limit i Agree) body (fun _ => Inside limit i Agree) (Agreed limit i)) :
    Spec (among limit i) (Outside limit i) (Supervisor.locked body) (fun _ => Outside limit i)
      (fun _ => Outside limit i) :=
  acquire_spec.bind fun _ => h.ensure (fun _ => release_spec) fun _ => release_spec

theorem present_spec : Spec (among limit i) (Outside limit i) Supervisor.present (fun _ => Outside limit i)
    (fun _ => Outside limit i) := by
  refine locked_spec (look_then ?_)
  intro control hagree
  split_ifs
  · exact raiseAgreed_spec fun _ hnow => hnow ▸ hagree
  refine (startHost_spec fun _ => hagree).bind fun _ => Spec.bind (setState_spec ?_) fun _ =>
    currentSnapshot_spec
  rintro now ⟨-, -, hrunning⟩
  rw [hrunning]
  rfl

theorem replaced_spec (hlimit : view.replacements < view.limit) (hcounted : Counted limit view) :
    Spec (among limit i) (Inside limit i fun now => SameSupervisor view now ∧
        now.generation = view.generation + 1 ∧ now.host = .running)
      (update fun control =>
        { control with
          supervisor :=
            { control.supervisor with
              replacements := control.supervisor.replacements + 1
              state := .running } })
      (fun _ => Inside limit i Agree) failed := by
  refine update_spec ?_
  rintro control ⟨⟨-, hlimit', hreplacements, -⟩, hgeneration, hrunning⟩ -
  obtain ⟨hbound, -, hstarted⟩ := hcounted
  refine ⟨.inr ?_, ?_⟩
  · change SupervisorState.running = supervisorStateOf control.host.state
    rw [show control.host.state = .running from hrunning]
    rfl
  · simp only [viewOf, Counted] at hlimit' hreplacements hgeneration ⊢
    omega

theorem startReplacement_spec (hagree : ∀ view, P view → view.supervisor ≠ .running → Agree view)
    (hlimit : ∀ view, P view → view.replacements < view.limit) :
    Spec (among limit i) (Inside limit i P) (do
        Supervisor.startHost code message
        update fun control =>
          { control with
            supervisor :=
              { control.supervisor with
                replacements := control.supervisor.replacements + 1
                state := .running } }
        Supervisor.currentSnapshot)
      (fun _ => Inside limit i Agree) (Agreed limit i) := by
  refine from_view ?_
  intro view hview hcounted
  exact (startHost_spec (hagree view hview)).bind fun _ =>
    (replaced_spec (hlimit view hview) hcounted).bind fun _ => currentSnapshot_spec

theorem replace_spec : Spec (among limit i) (Outside limit i) Supervisor.replace (fun _ => Outside limit i)
    (fun _ => Outside limit i) := by
  refine locked_spec (look_then ?_)
  intro control hagree
  split_ifs with _ hfull hrunning
  · exact raiseAgreed_spec fun _ hnow => hnow ▸ hagree
  · exact raiseAgreed_spec fun _ hnow => hnow ▸ hagree
  · refine (endHost_spec (guardedFor_spec (hostStop_spec _) ?_)).bind fun child =>
      startReplacement_spec ?_ ?_
    · intro now hsame hhost
      exact hagree.of_host hsame hhost
    · -- The supervisor has not changed since the host was running.
      rintro now ⟨hsame, -⟩ hsupervisor
      refine .inl (hsame.1.trans ?_)
      rcases hagree with hfailed | hmapped
      · exact hfailed
      · rw [show (viewOf control).host = .running from hrunning] at hmapped
        exact absurd (hsame.1.trans hmapped) hsupervisor
    · rintro now ⟨⟨-, hlimit, hreplacements, -⟩, -⟩
      simp only [viewOf] at hlimit hreplacements
      omega
  · refine startReplacement_spec ?_ ?_
    · rintro now rfl _
      exact hagree
    · rintro now rfl
      exact Nat.lt_of_not_le hfull

theorem wait_spec : Spec (among limit i) (Outside limit i) Supervisor.wait (fun _ => Outside limit i)
    (fun _ => Outside limit i) := by
  refine locked_spec (look_then ?_)
  intro control hagree
  split_ifs
  · exact raiseAgreed_spec fun _ hnow => hnow ▸ hagree
  refine (endHost_spec (guarded_spec (hostWait_spec _) ?_)).bind fun child =>
    Spec.bind (setState_spec ?_) fun _ => currentSnapshot_spec
  · intro now hsame hhost
    exact hagree.of_host hsame hhost
  · rintro now ⟨-, hstate⟩
    rw [hstate]

theorem stop_spec : Spec (among limit i) (Outside limit i) Supervisor.stop (fun _ => Outside limit i)
    (fun _ => Outside limit i) := by
  refine locked_spec (look_then ?_)
  intro control hagree
  split_ifs
  · exact raiseAgreed_spec fun _ hnow => hnow ▸ hagree
  · exact currentSnapshot_spec.imp fun _ hinside => hinside.mono fun _ hnow => hnow ▸ hagree
  refine (endHost_spec (guardedFor_spec (hostStop_spec _) ?_)).bind fun child =>
    Spec.bind (setState_spec ?_) fun _ => currentSnapshot_spec
  · intro now hsame hhost
    exact hagree.of_host hsame hhost
  · rintro now ⟨-, hstate⟩
    rw [hstate]

theorem close_spec : Spec (among limit i) (Outside limit i) Supervisor.close (fun _ => Outside limit i)
    (fun _ => Outside limit i) := by
  refine locked_spec (look_then ?_)
  intro control hagree
  split_ifs
  · exact currentSnapshot_spec.imp fun _ hinside => hinside.mono fun _ hnow => hnow ▸ hagree
  refine (guardedFor_spec (hostClose_spec _) ?_).bind fun child => ?_
  · rintro now hsame (hhost | ⟨hrunning, hsupervisor⟩)
    · exact hagree.of_host hsame hhost
    · -- The states agree, and the host is running: a supervisor that is not is failed.
      refine .inl (hsame.1.trans ?_)
      rcases hagree with hfailed | hmapped
      · exact hfailed
      · rw [hrunning] at hmapped
        exact absurd hmapped hsupervisor
  · split_ifs with hclosed
    · exact failWith_spec
    · refine Spec.bind (setState_spec ?_) fun _ => currentSnapshot_spec
      rintro now ⟨-, hstate⟩
      rw [← hstate, not_not.mp hclosed]
      rfl

/-! ## Every run -/

theorem run_spec (method : Supervisor.Method) :
    Spec (among limit i) (Outside limit i) (Supervisor.run method) (fun _ => Outside limit i)
      (fun _ => Outside limit i) := by
  cases method with
  | present => exact present_spec
  | replace => exact replace_spec
  | wait => exact wait_spec
  | stop => exact stop_spec
  | close => exact close_spec

variable [DecidableEq ι]

/-- In every run of any calls, replacements are bounded and have a generation each; and while no
call is in progress, a supervisor that is not failed is in the state of its host, as long as no
caller is cancelled while the host awaits the start of a runtime, or the closing of a runtime
that the same call has stopped. -/
theorem supervisor_agrees (maxReplacements maxGenerations : ℕ) (calls : ι → Supervisor.Method)
    {events : List (ι × Choice)}
    {threads : Threads interface Raised SupervisorSnapshot (State ι) ι}
    (h : (machine SupervisorSnapshot (server uncancelled)).Reaches
      (fresh maxReplacements maxGenerations calls) events threads) :
    threads.state.control.supervisor.replacements ≤ maxReplacements ∧
      threads.state.control.supervisor.replacements ≤ threads.state.control.host.generation ∧
      (threads.state.holder = none → threads.state.control.supervisor.state ≠ .failed →
        threads.state.control.supervisor.state =
          supervisorStateOf threads.state.control.host.state) := by
  have hfresh : Kept maxReplacements (fresh maxReplacements maxGenerations calls).state :=
    ⟨⟨rfl, Nat.zero_le _, Nat.le_refl _⟩, fun _ => .inr rfl⟩
  have hkept : Kept maxReplacements threads.state :=
    reaches_kept fits (fun i before after hguar => hguar.1) h
      (fun i => (run_spec (calls i)).run _ ⟨nofun, hfresh⟩) hfresh
  obtain ⟨⟨-, hbound, hstarted⟩, hagree⟩ := hkept
  refine ⟨hbound, hstarted, fun hfree hfailed => ?_⟩
  exact (hagree hfree).resolve_left hfailed

/-! ## Cancelled calls -/

def runningRuntime : RuntimeSnapshot := ⟨.running, ⟨2, 1, 1, 2⟩, ⟨0, 0, 0⟩⟩

def answers (i : Bool) (ends : List AwaitEnd) : List (Bool × Choice) :=
  ends.map fun awaitEnd => (i, ⟨awaitEnd, runningRuntime, true⟩)

def presentAndStop : Bool → Supervisor.Method
  | true => .present
  | false => .stop

/-- The presentation starts, and the other call is cancelled while the runtime stops. -/
def stopCancelled : List (Bool × Choice) :=
  answers true (List.replicate 12 .returned) ++
    answers false [.returned, .returned, .returned, .cancelled, .returned]

def startCancelled : List (Bool × Choice) :=
  answers true (List.replicate 6 .returned ++ [.cancelled, .returned, .returned])

def threadsAfter (events : List (Bool × Choice)) :
    Threads interface Raised SupervisorSnapshot (State Bool) Bool :=
  events.foldl (Threads.advance (server uncancelled)) (fresh 1 2 presentAndStop)

/-- A `stop` that is cancelled leaves both of them running. -/
theorem supervisor_agrees_stopCancelled :
    (threadsAfter stopCancelled).state.control.supervisor.state =
      supervisorStateOf (threadsAfter stopCancelled).state.control.host.state ∧
    (threadsAfter stopCancelled).state.control.supervisor.state = .running := by
  have hreach : (machine SupervisorSnapshot (server uncancelled)).Reaches
      (fresh 1 2 presentAndStop) stopCancelled (threadsAfter stopCancelled) := by
    refine ⟨⟨fun _ => rfl, nofun⟩, ⟨trivial, nofun⟩, ⟨trivial, nofun⟩, ⟨trivial, nofun⟩,
      ⟨trivial, nofun⟩, ⟨trivial, nofun⟩, ⟨trivial, nofun⟩, ⟨trivial, nofun⟩, ⟨trivial, nofun⟩,
      ⟨trivial, nofun⟩, ⟨trivial, nofun⟩, ⟨trivial, nofun⟩, ⟨fun _ => rfl, nofun⟩,
      ⟨trivial, nofun⟩, ⟨trivial, nofun⟩, ⟨trivial, fun _ => trivial⟩, ⟨trivial, nofun⟩, rfl⟩
  have hagrees := supervisor_agrees 1 2 presentAndStop hreach
  exact ⟨hagrees.2.2 rfl (by decide), rfl⟩

/-- A `present` that is cancelled while the runtime starts leaves a supervisor that is ready, and a
host that is failed. -/
theorem start_cancelled :
    (machine SupervisorSnapshot (server fun _ _ _ => True)).Reaches (fresh 1 2 presentAndStop)
        startCancelled (threadsAfter startCancelled) ∧
      (threadsAfter startCancelled).routine true = .done (.error .cancelled) ∧
      (threadsAfter startCancelled).state.holder = none ∧
      (threadsAfter startCancelled).state.control.supervisor.state = .ready ∧
      supervisorStateOf (threadsAfter startCancelled).state.control.host.state = .failed := by
  refine ⟨⟨⟨fun _ => rfl, trivial⟩, ⟨trivial, trivial⟩, ⟨trivial, trivial⟩, ⟨trivial, trivial⟩,
    ⟨trivial, trivial⟩, ⟨trivial, trivial⟩, ⟨trivial, trivial⟩, ⟨trivial, trivial⟩,
    ⟨trivial, trivial⟩, rfl⟩, rfl, rfl, rfl, rfl⟩

end K5Vision.Presentation
