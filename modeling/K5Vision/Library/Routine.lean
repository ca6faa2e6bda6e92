import K5Vision.Library.Machine

/-!
# Routines and their interleavings

A routine is code that asks something of its surroundings from time to time, and goes on
with the answer or with the exception that it gets.  Between two requests it does nothing
that others can see, so routines on one state are interleaved at their requests.

`Meets` is the contract of one routine among others: `rely` bounds what the others may do
before each of its requests, `guar` what its own requests may do.  `Reaches.meets` puts the
contracts of all routines together.
-/

namespace Library

structure Interface where
  Request : Type
  Answer : Request → Type

/-- A routine that returns an `α` or raises an `ε`. -/
inductive Routine (I : Interface) (ε α : Type) : Type
  | done (outcome : Except ε α)
  | ask (request : I.Request) (next : Except ε (I.Answer request) → Routine I ε α)

namespace Routine

variable {I : Interface} {ε α β σ φ ι : Type}

def bind (next : α → Routine I ε β) : Routine I ε α → Routine I ε β
  | .done (.ok a) => next a
  | .done (.error error) => .done (.error error)
  | .ask request after => .ask request fun answer => bind next (after answer)

instance : Monad (Routine I ε) where
  pure a := .done (.ok a)
  bind routine next := routine.bind next

/-- One request; what it raises is raised. -/
def call (request : I.Request) : Routine I ε (I.Answer request) := .ask request .done

def raise (error : ε) : Routine I ε α := .done (.error error)

/-- Go on with what a routine ends with, be it an exception. -/
def follow (next : Except ε α → Routine I ε β) : Routine I ε α → Routine I ε β
  | .done outcome => next outcome
  | .ask request after => .ask request fun answer => follow next (after answer)

def recover (routine : Routine I ε α) (handle : ε → Routine I ε α) : Routine I ε α :=
  routine.follow fun outcome =>
    match outcome with
    | .ok a => .done (.ok a)
    | .error error => handle error

/-- Clean up behind a routine, however it ends.  An exception of the cleanup comes in the
place of an earlier one. -/
def ensure (routine : Routine I ε α) (cleanup : Routine I ε Unit) : Routine I ε α :=
  routine.follow fun outcome => cleanup.bind fun _ => .done outcome

def isDone : Routine I ε α → Bool
  | .done _ => true
  | .ask _ _ => false

theorem bind_eq_follow (next : α → Routine I ε β) (routine : Routine I ε α) :
    routine.bind next = routine.follow fun outcome =>
      match outcome with
      | .ok a => next a
      | .error error => .done (.error error) := by
  induction routine with
  | done outcome => cases outcome <;> rfl
  | ask request after ih => exact congrArg _ (funext ih)

theorem bind_assoc {γ : Type} (first : α → Routine I ε β) (second : β → Routine I ε γ)
    (routine : Routine I ε α) :
    (routine.bind first).bind second = routine.bind fun a => (first a).bind second := by
  induction routine with
  | done outcome => cases outcome <;> rfl
  | ask request after ih => exact congrArg _ (funext ih)

/-! ## The requests of a routine -/

def Asks (p : I.Request → Prop) : Routine I ε α → Prop
  | .done _ => True
  | .ask request next => p request ∧ ∀ answer, Asks p (next answer)

section Asks

variable {p : I.Request → Prop} {routine : Routine I ε α}

theorem asks_call {request : I.Request} (h : p request) : Asks p (call request : Routine I ε _) :=
  ⟨h, fun _ => trivial⟩

theorem Asks.mono {q : I.Request → Prop} (h : routine.Asks p)
    (himp : ∀ request, p request → q request) : routine.Asks q := by
  induction routine with
  | done outcome => trivial
  | ask request next ih => exact ⟨himp request h.1, fun answer => ih answer (h.2 answer)⟩

theorem Asks.follow {next : Except ε α → Routine I ε β} (h : routine.Asks p)
    (hnext : ∀ outcome, (next outcome).Asks p) : (routine.follow next).Asks p := by
  induction routine with
  | done outcome => exact hnext outcome
  | ask request after ih => exact ⟨h.1, fun answer => ih answer (h.2 answer)⟩

theorem Asks.bind {next : α → Routine I ε β} (h : routine.Asks p)
    (hnext : ∀ a, (next a).Asks p) : (routine >>= next).Asks p := by
  change (routine.bind next).Asks p
  rw [bind_eq_follow]
  refine h.follow fun outcome => ?_
  cases outcome with
  | ok a => exact hnext a
  | error => trivial

theorem Asks.recover {handle : ε → Routine I ε α} (h : routine.Asks p)
    (hhandle : ∀ error, (handle error).Asks p) : (routine.recover handle).Asks p := by
  refine h.follow fun outcome => ?_
  cases outcome with
  | ok => trivial
  | error error => exact hhandle error

end Asks

/-! ## Contracts -/

/-- How requests are answered.  A `φ` says what is left open: a fault, a choice. -/
structure Server (I : Interface) (ε σ φ : Type) where
  serve : φ → (request : I.Request) → σ → Except ε (I.Answer request) × σ
  permits : φ → (request : I.Request) → σ → Prop

structure Among (I : Interface) (ε σ φ : Type) extends Server I ε σ φ where
  rely : σ → σ → Prop
  guar : σ → σ → Prop

/-- With others at work as `rely` says, the routine does at each request what `guar` says, and
ends as `post` says. -/
def Meets (among : Among I ε σ φ) (post : Except ε α → σ → Prop) : Routine I ε α → σ → Prop
  | .done outcome, state => post outcome state
  | .ask request next, state => ∀ now, among.rely state now →
      ∀ choice, among.permits choice request now →
        among.guar now (among.serve choice request now).2 ∧
          Meets among post (next (among.serve choice request now).1)
            (among.serve choice request now).2

/-- A postcondition for the two ends of a routine. -/
def Ends (post : α → σ → Prop) (failed : ε → σ → Prop) : Except ε α → σ → Prop
  | .ok a => post a
  | .error error => failed error

/-- From a state in `pre` the routine returns as `post` says, or raises as `failed` says. -/
structure Spec (among : Among I ε σ φ) (pre : σ → Prop) (routine : Routine I ε α)
    (post : α → σ → Prop) (failed : ε → σ → Prop) : Prop where
  run : ∀ state, pre state → routine.Meets among (Ends post failed) state

section Spec

variable {among : Among I ε σ φ} {pre : σ → Prop} {post : α → σ → Prop}
  {failed : ε → σ → Prop} {routine : Routine I ε α}

theorem Meets.mono {first second : Except ε α → σ → Prop}
    (himp : ∀ outcome state, first outcome state → second outcome state) {state : σ}
    (h : routine.Meets among first state) : routine.Meets among second state := by
  induction routine generalizing state with
  | done outcome => exact himp outcome state h
  | ask request next ih =>
      intro now hrely choice hpermits
      have hstep := h now hrely choice hpermits
      exact ⟨hstep.1, ih _ hstep.2⟩

theorem Meets.follow {next : Except ε α → Routine I ε β} {done : Except ε β → σ → Prop}
    {state : σ} (h : routine.Meets among (fun outcome => (next outcome).Meets among done) state) :
    (routine.follow next).Meets among done state := by
  induction routine generalizing state with
  | done outcome => exact h
  | ask request after ih =>
      intro now hrely choice hpermits
      have hstep := h now hrely choice hpermits
      exact ⟨hstep.1, ih _ hstep.2⟩

theorem Spec.pure {a : α} (h : ∀ state, pre state → post a state) :
    Spec among pre (pure a : Routine I ε α) post failed :=
  ⟨h⟩

theorem Spec.raise {error : ε} (h : ∀ state, pre state → failed error state) :
    Spec among pre (raise error : Routine I ε α) post failed :=
  ⟨h⟩

theorem Spec.imp {pre' : σ → Prop} (h : Spec among pre routine post failed)
    (hpre : ∀ state, pre' state → pre state) : Spec among pre' routine post failed :=
  ⟨fun state hstate => h.run state (hpre state hstate)⟩

theorem Spec.mono {post' : α → σ → Prop} {failed' : ε → σ → Prop}
    (h : Spec among pre routine post failed) (hpost : ∀ a state, post a state → post' a state)
    (hfailed : ∀ error state, failed error state → failed' error state) :
    Spec among pre routine post' failed' := by
  constructor
  intro state hpre
  refine (h.run state hpre).mono ?_
  intro outcome final hends
  cases outcome with
  | ok a => exact hpost a final hends
  | error error => exact hfailed error final hends

/-- A request, in a state that the others leave as it is needed. -/
theorem Spec.call {request : I.Request} {done : I.Answer request → σ → Prop}
    (hstable : ∀ state now, pre state → among.rely state now → pre now)
    (hserve : ∀ state choice, pre state → among.permits choice request state →
      among.guar state (among.serve choice request state).2 ∧
        Ends done failed (among.serve choice request state).1
          (among.serve choice request state).2) :
    Spec among pre (call request) done failed :=
  ⟨fun state hpre now hrely choice hpermits =>
    hserve now choice (hstable state now hpre hrely) hpermits⟩

/-- The parts of a sequence are specified one after the other. -/
theorem Spec.bind {next : α → Routine I ε β} {done : β → σ → Prop}
    (hfirst : Spec among pre routine post failed)
    (hnext : ∀ a, Spec among (post a) (next a) done failed) :
    Spec among pre (routine >>= next) done failed := by
  constructor
  intro state hpre
  change (routine.bind next).Meets among (Ends done failed) state
  rw [bind_eq_follow]
  refine ((hfirst.run state hpre).mono ?_).follow
  intro outcome middle hends
  cases outcome with
  | ok a => exact (hnext a).run middle hends
  | error error => exact hends

/-- What goes on behind a routine is specified for both of its ends. -/
theorem Spec.follow {next : Except ε α → Routine I ε β} {done : β → σ → Prop}
    {raised : ε → σ → Prop} (hfirst : Spec among pre routine post raised)
    (hok : ∀ a, Spec among (post a) (next (.ok a)) done failed)
    (hraised : ∀ error, Spec among (raised error) (next (.error error)) done failed) :
    Spec among pre (routine.follow next) done failed := by
  constructor
  intro state hpre
  refine ((hfirst.run state hpre).mono ?_).follow
  intro outcome middle hends
  cases outcome with
  | ok a => exact (hok a).run middle hends
  | error error => exact (hraised error).run middle hends

theorem Spec.recover {handle : ε → Routine I ε α} {raised : ε → σ → Prop}
    (hfirst : Spec among pre routine post raised)
    (hhandle : ∀ error, Spec among (raised error) (handle error) post failed) :
    Spec among pre (routine.recover handle) post failed :=
  hfirst.follow (fun _ => ⟨fun _ h => h⟩) hhandle

/-- A cleanup is specified behind both ends of its routine. -/
theorem Spec.ensure {cleanup : Routine I ε Unit} {done : α → σ → Prop} {raised : ε → σ → Prop}
    (hfirst : Spec among pre routine post raised)
    (hok : ∀ a, Spec among (post a) cleanup (fun _ => done a) failed)
    (hraised : ∀ error, Spec among (raised error) cleanup (fun _ => failed error) failed) :
    Spec among pre (routine.ensure cleanup) done failed := by
  constructor
  intro state hpre
  refine ((hfirst.run state hpre).mono ?_).follow
  intro outcome middle hends
  rw [bind_eq_follow]
  cases outcome with
  | ok a =>
      refine (((hok a).run middle hends).mono ?_).follow
      intro cleaned final hcleaned
      cases cleaned <;> exact hcleaned
  | error error =>
      refine (((hraised error).run middle hends).mono ?_).follow
      intro cleaned final hcleaned
      cases cleaned <;> exact hcleaned

/-- What every request of one kind keeps, a routine of such requests keeps. -/
theorem Spec.of_asks {p : I.Request → Prop} {inv : σ → Prop} (h : routine.Asks p)
    (hstable : ∀ state now, inv state → among.rely state now → inv now)
    (hserve : ∀ request state choice, p request → inv state →
      among.guar state (among.serve choice request state).2 ∧
        inv (among.serve choice request state).2) :
    Spec among inv routine (fun _ => inv) (fun _ => inv) := by
  constructor
  intro state hinv
  induction routine generalizing state with
  | done outcome => cases outcome <;> exact hinv
  | ask request next ih =>
      intro now hrely choice _
      have hserved := hserve request now choice h.1 (hstable state now hinv hrely)
      exact ⟨hserved.1, ih _ (h.2 _) _ hserved.2⟩

end Spec

/-! ## Interleavings -/

/-- Routines at work on one state. -/
structure Threads (I : Interface) (ε α σ ι : Type) where
  state : σ
  routine : ι → Routine I ε α

/-- One thread goes on to its next request. -/
def Threads.advance [DecidableEq ι] (servers : ι → Server I ε σ φ) (threads : Threads I ε α σ ι)
    (event : ι × φ) : Threads I ε α σ ι :=
  match threads.routine event.1 with
  | .done _ => threads
  | .ask request next =>
      let served := (servers event.1).serve event.2 request threads.state
      ⟨served.2, Function.update threads.routine event.1 (next served.1)⟩

/-- The threads in any order, each with any of the answers that it can get. -/
def machine [DecidableEq ι] (α : Type) (servers : ι → Server I ε σ φ) :
    Machine (Threads I ε α σ ι) (ι × φ) where
  step := Threads.advance servers
  admissible threads event :=
    match threads.routine event.1 with
    | .done _ => True
    | .ask request _ => (servers event.1).permits event.2 request threads.state

variable {among : ι → Among I ε σ φ} {post : ι → Except ε α → σ → Prop}
  {start threads : Threads I ε α σ ι} {events : List (ι × φ)}

/-- The contracts of threads fit together. -/
structure Fits (among : ι → Among I ε σ φ) (post : ι → Except ε α → σ → Prop) : Prop where
  refl : ∀ i state, (among i).rely state state
  trans : ∀ i first second third, (among i).rely first second → (among i).rely second third →
    (among i).rely first third
  guar : ∀ i j before after, i ≠ j → (among i).guar before after → (among j).rely before after
  stable : ∀ i outcome before after, post i outcome before → (among i).rely before after →
    post i outcome after

theorem Meets.of_rely (hfits : Fits among post) {i : ι} {routine : Routine I ε α}
    {before after : σ} (h : routine.Meets (among i) (post i) before)
    (hrely : (among i).rely before after) : routine.Meets (among i) (post i) after := by
  cases routine with
  | done outcome => exact hfits.stable i outcome before after h hrely
  | ask request next =>
      intro now hnow
      exact h now (hfits.trans i before after now hrely hnow)

/-- A step of a thread does what the thread promises. -/
theorem guar_advance [DecidableEq ι] (hfits : Fits among post) {event : ι × φ}
    (hmeets : (threads.routine event.1).Meets (among event.1) (post event.1) threads.state)
    (hadmissible : (machine α fun i => (among i).toServer).admissible threads event) :
    (threads.advance (fun i => (among i).toServer) event).state = threads.state ∨
      (among event.1).guar threads.state
        (threads.advance (fun i => (among i).toServer) event).state := by
  unfold Threads.advance
  simp only [machine] at hadmissible
  cases hroutine : threads.routine event.1 with
  | done outcome => exact .inl rfl
  | ask request next =>
      rw [hroutine] at hadmissible hmeets
      exact .inr (hmeets threads.state (hfits.refl _ _) event.2 hadmissible).1

theorem meets_advance [DecidableEq ι] (hfits : Fits among post) {event : ι × φ}
    (hmeets : ∀ i, (threads.routine i).Meets (among i) (post i) threads.state)
    (hadmissible : (machine α fun i => (among i).toServer).admissible threads event) (i : ι) :
    ((threads.advance (fun i => (among i).toServer) event).routine i).Meets (among i) (post i)
      (threads.advance (fun i => (among i).toServer) event).state := by
  unfold Threads.advance
  simp only [machine] at hadmissible
  cases hroutine : threads.routine event.1 with
  | done outcome => exact hmeets i
  | ask request next =>
      rw [hroutine] at hadmissible
      have hthread := hmeets event.1
      rw [hroutine] at hthread
      have hstep := hthread threads.state (hfits.refl _ _) event.2 hadmissible
      dsimp only
      by_cases heq : i = event.1
      · subst heq
        rw [Function.update_self]
        exact hstep.2
      · rw [Function.update_of_ne heq]
        exact (hmeets i).of_rely hfits (hfits.guar _ _ _ _ (Ne.symm heq) hstep.1)

/-- Threads that keep their contracts at the start keep them in every interleaving. -/
theorem reaches_meets [DecidableEq ι] (hfits : Fits among post)
    (h : (machine α fun i => (among i).toServer).Reaches start events threads)
    (hstart : ∀ i, (start.routine i).Meets (among i) (post i) start.state) :
    ∀ i, (threads.routine i).Meets (among i) (post i) threads.state :=
  h.invariant (fun _ _ hmeets hadmissible => meets_advance hfits hmeets hadmissible) hstart

/-- What every thread promises to keep is kept in every interleaving. -/
theorem reaches_kept [DecidableEq ι] {inv : σ → Prop} (hfits : Fits among post)
    (hkept : ∀ i before after, (among i).guar before after → inv before → inv after)
    (h : (machine α fun i => (among i).toServer).Reaches start events threads)
    (hstart : ∀ i, (start.routine i).Meets (among i) (post i) start.state)
    (hinv : inv start.state) : inv threads.state := by
  induction events generalizing start with
  | nil =>
      cases h
      exact hinv
  | cons event rest ih =>
      refine ih h.2 (meets_advance hfits hstart h.1) ?_
      rcases guar_advance hfits (hstart event.1) h.1 with heq | hguar
      · exact heq ▸ hinv
      · exact hkept _ _ _ hguar hinv

end Routine

end Library
