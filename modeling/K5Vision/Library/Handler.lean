import Mathlib.Order.Basic

/-!
# Request handlers

A handler reads and changes a state, and returns a value or raises an error; what
it did to the state before it raised stays.  `Spec pre handler post failed` is
its contract: from a state in `pre` it returns a value as `post` says, or leaves
a state in `failed`.  A sequence of steps is specified step by step with
`Spec.bind`.
-/

namespace Library

/-- A computation on a state `σ` that can raise an `ε`. -/
abbrev Handler (σ ε α : Type) := ExceptT ε (StateM σ) α

namespace Handler

variable {σ ε ε' α β : Type}

def exec (handler : Handler σ ε α) (state : σ) : Except ε α × σ := handler state

def of (f : σ → Except ε α × σ) : Handler σ ε α := f

def require (condition : Bool) (error : ε) : Handler σ ε Unit :=
  of fun state => (if condition then .ok () else .error error, state)

def read (f : σ → Except ε α) : Handler σ ε α := of fun state => (f state, state)

def raise (error : ε) : Handler σ ε α := of fun state => (.error error, state)

def zoom {τ : Type} (get : σ → τ) (put : τ → σ → σ) (handler : Handler τ ε α) : Handler σ ε α :=
  of fun state => ((handler.exec (get state)).1, put (handler.exec (get state)).2 state)

def translate (f : ε → ε') (handler : Handler σ ε α) : Handler σ ε' α :=
  of fun state => ((handler.exec state).1.mapError f, (handler.exec state).2)

def recover (handler : Handler σ ε α) (handle : ε → Handler σ ε α) : Handler σ ε α :=
  of fun state =>
    match handler.exec state with
    | (.ok a, after) => (.ok a, after)
    | (.error error, after) => (handle error).exec after

/-- Clean up behind a handler, however it ends.  What the cleanup raises comes in the place
of an earlier error, as `merge` says. -/
def ensure (handler : Handler σ ε α) (cleanup : Handler σ ε Unit) (merge : ε → ε → ε) :
    Handler σ ε α :=
  of fun state =>
    match handler.exec state with
    | (outcome, after) =>
        match cleanup.exec after with
        | (.ok (), ended) => (outcome, ended)
        | (.error late, ended) =>
            match outcome with
            | .ok _ => (.error late, ended)
            | .error early => (.error (merge early late), ended)

def forEach (f : α → Handler σ ε Unit) : List α → Handler σ ε Unit
  | [] => pure ()
  | a :: rest => f a >>= fun _ => forEach f rest

@[simp] theorem exec_of (f : σ → Except ε α × σ) (state : σ) : (of f).exec state = f state := rfl

@[simp] theorem exec_pure (a : α) (state : σ) :
    (pure a : Handler σ ε α).exec state = (.ok a, state) := rfl

theorem exec_bind (handler : Handler σ ε α) (next : α → Handler σ ε β) (state : σ) :
    (handler >>= next).exec state =
      match handler.exec state with
      | (.ok a, after) => (next a).exec after
      | (.error error, after) => (.error error, after) := by
  change (ExceptT.bindCont next (handler state).1) (handler state).2 = _
  unfold exec
  rcases handler state with ⟨outcome, after⟩
  cases outcome <;> rfl

theorem exec_modify_bind (change : σ → σ) (next : PUnit → Handler σ ε α) (state : σ) :
    ((modify change : Handler σ ε PUnit) >>= next).exec state =
      (next ⟨⟩).exec (change state) := rfl

theorem exec_read_bind (f : σ → Except ε α) (next : α → Handler σ ε β) (state : σ) :
    (read f >>= next).exec state =
      match f state with
      | .ok a => (next a).exec state
      | .error error => (.error error, state) := by
  rw [exec_bind]
  simp only [read, exec_of]
  cases f state <;> rfl

/-! ## Contracts -/

/-- From a state in `pre` the handler returns as `post` says, or raises in a state
in `failed`. -/
structure Spec (pre : σ → Prop) (handler : Handler σ ε α) (post : α → σ → Prop)
    (failed : σ → Prop) : Prop where
  run : ∀ state, pre state →
    match handler.exec state with
    | (.ok a, after) => post a after
    | (.error _, after) => failed after

section Spec

variable {pre failed : σ → Prop} {post : α → σ → Prop} {handler : Handler σ ε α}

theorem Spec.of_ok (h : Spec pre handler post failed) {state after : σ} {a : α}
    (hpre : pre state) (hexec : handler.exec state = (.ok a, after)) : post a after := by
  have := h.run state hpre
  rwa [hexec] at this

theorem Spec.of_error (h : Spec pre handler post failed) {state after : σ} {error : ε}
    (hpre : pre state) (hexec : handler.exec state = (.error error, after)) : failed after := by
  have := h.run state hpre
  rwa [hexec] at this

theorem Spec.leaves {kept : σ → Prop} (h : Spec pre handler (fun _ => kept) kept) {state : σ}
    (hpre : pre state) : kept (handler.exec state).2 := by
  have hstep := h.run state hpre
  rcases hrun : handler.exec state with ⟨outcome, after⟩
  rw [hrun] at hstep
  cases outcome with
  | ok => exact hstep
  | error => exact hstep

theorem Spec.pure {a : α} (h : ∀ state, pre state → post a state) :
    Spec pre (pure a : Handler σ ε α) post failed :=
  ⟨h⟩

theorem Spec.require {condition : Bool} {error : ε} {done : Unit → σ → Prop}
    (hok : condition = true → ∀ state, pre state → done () state)
    (hfail : ∀ state, pre state → failed state) :
    Spec pre (Handler.require condition error) done failed := by
  constructor
  intro state hpre
  cases condition with
  | true => exact hok rfl state hpre
  | false => exact hfail state hpre

theorem Spec.read {f : σ → Except ε α} (hok : ∀ state a, pre state → f state = .ok a → post a state)
    (hfail : ∀ state, pre state → failed state) : Spec pre (Handler.read f) post failed := by
  constructor
  intro state hpre
  unfold Handler.read
  rw [exec_of]
  cases hf : f state with
  | ok a => exact hok state a hpre hf
  | error error => exact hfail state hpre

theorem Spec.modify {change : σ → σ} {done : PUnit → σ → Prop}
    (h : ∀ state, pre state → done ⟨⟩ (change state)) :
    Spec pre (modify change : Handler σ ε PUnit) done failed :=
  ⟨fun state hpre => h state hpre⟩

theorem Spec.raise {error : ε} (h : ∀ state, pre state → failed state) :
    Spec pre (Handler.raise error) post failed :=
  ⟨h⟩

/-- What a handler does to its part of a state; the other parts stay. -/
theorem Spec.zoom {τ : Type} {get : σ → τ} {put : τ → σ → σ} {inner : Handler τ ε α}
    {before : σ → τ → Prop} {done : σ → α → τ → Prop} {raised : σ → τ → Prop}
    (h : ∀ state, pre state → Spec (before state) inner (done state) (raised state))
    (hbefore : ∀ state, pre state → before state (get state))
    (hdone : ∀ state a part, pre state → done state a part → post a (put part state))
    (hraised : ∀ state part, pre state → raised state part → failed (put part state)) :
    Spec pre (Handler.zoom get put inner) post failed := by
  constructor
  intro state hpre
  have hstep := (h state hpre).run (get state) (hbefore state hpre)
  unfold Handler.zoom
  rw [exec_of]
  rcases hrun : inner.exec (get state) with ⟨outcome, part⟩
  rw [hrun] at hstep
  cases outcome with
  | ok a => exact hdone state a part hpre hstep
  | error error => exact hraised state part hpre hstep

theorem Spec.each (h : ∀ state, pre state → Spec (fun now => now = state) handler post failed) :
    Spec pre handler post failed :=
  ⟨fun state hpre => (h state hpre).run state rfl⟩

/-- The steps of a sequence are specified one after the other. -/
theorem Spec.bind {next : α → Handler σ ε β} {mid : α → σ → Prop} {done : β → σ → Prop}
    (hfirst : Spec pre handler mid failed) (hnext : ∀ a, Spec (mid a) (next a) done failed) :
    Spec pre (handler >>= next) done failed := by
  constructor
  intro state hpre
  have hstep := hfirst.run state hpre
  rw [exec_bind]
  rcases hrun : handler.exec state with ⟨outcome, after⟩
  rw [hrun] at hstep
  cases outcome with
  | ok a => exact (hnext a).run after hstep
  | error error => exact hstep

theorem Spec.translate {f : ε → ε'} (h : Spec pre handler post failed) :
    Spec pre (handler.translate f) post failed := by
  constructor
  intro state hpre
  have hstep := h.run state hpre
  unfold Handler.translate
  rw [exec_of]
  rcases hrun : handler.exec state with ⟨outcome, after⟩
  rw [hrun] at hstep
  cases outcome with
  | ok a => exact hstep
  | error error => exact hstep

theorem Spec.recover {handle : ε → Handler σ ε α} {raised : σ → Prop}
    (hfirst : Spec pre handler post raised)
    (hhandle : ∀ error, Spec raised (handle error) post failed) :
    Spec pre (handler.recover handle) post failed := by
  constructor
  intro state hpre
  have hstep := hfirst.run state hpre
  unfold Handler.recover
  rw [exec_of]
  rcases hrun : handler.exec state with ⟨outcome, after⟩
  rw [hrun] at hstep
  cases outcome with
  | ok a => exact hstep
  | error error => exact (hhandle error).run after hstep

/-- A cleanup is specified behind both ends of its handler. -/
theorem Spec.ensure {cleanup : Handler σ ε Unit} {merge : ε → ε → ε} {raised : σ → Prop}
    {done : α → σ → Prop} (hfirst : Spec pre handler post raised)
    (hok : ∀ a, Spec (post a) cleanup (fun _ => done a) failed)
    (hraised : Spec raised cleanup (fun _ => failed) failed) :
    Spec pre (handler.ensure cleanup merge) done failed := by
  constructor
  intro state hpre
  have hstep := hfirst.run state hpre
  unfold Handler.ensure
  rw [exec_of]
  rcases hrun : handler.exec state with ⟨outcome, after⟩
  rw [hrun] at hstep
  cases outcome with
  | ok a =>
      have hclean := (hok a).run after hstep
      dsimp only
      cases hcleanup : cleanup.exec after with
      | mk cleaned ended =>
          rw [hcleanup] at hclean
          cases cleaned <;> exact hclean
  | error early =>
      have hclean := hraised.run after hstep
      dsimp only
      cases hcleanup : cleanup.exec after with
      | mk cleaned ended =>
          rw [hcleanup] at hclean
          cases cleaned <;> exact hclean

/-- What each of the handlers for a list keeps. -/
theorem Spec.forEach {inv : σ → Prop} {f : α → Handler σ ε Unit}
    (h : ∀ item, Spec inv (f item) (fun _ => inv) failed) (items : List α) :
    Spec inv (Handler.forEach f items) (fun _ => inv) failed := by
  induction items with
  | nil => exact Spec.pure fun _ hstate => hstate
  | cons item rest ih => exact (h item).bind fun _ => ih

theorem Spec.given {fact : Prop} (h : fact → Spec pre handler post failed) :
    Spec (fun state => fact ∧ pre state) handler post failed :=
  ⟨fun state hstate => (h hstate.1).run state hstate.2⟩

theorem Spec.imp {pre' : σ → Prop} (h : Spec pre handler post failed)
    (hpre : ∀ state, pre' state → pre state) : Spec pre' handler post failed :=
  ⟨fun state hstate => h.run state (hpre state hstate)⟩

theorem Spec.mono {post' : α → σ → Prop} {failed' : σ → Prop} (h : Spec pre handler post failed)
    (hpost : ∀ a state, post a state → post' a state)
    (hfailed : ∀ state, failed state → failed' state) : Spec pre handler post' failed' := by
  constructor
  intro state hpre
  have hstep := h.run state hpre
  rcases hrun : handler.exec state with ⟨outcome, after⟩
  rw [hrun] at hstep
  cases outcome with
  | ok a => exact hpost a after hstep
  | error error => exact hfailed after hstep

end Spec

/-! ## Errors -/

structure Raises (pre : σ → Prop) (handler : Handler σ ε α) (raised : ε → σ → Prop) : Prop where
  run : ∀ state error after, pre state → handler.exec state = (.error error, after) →
    raised error after

section Raises

variable {pre mid : σ → Prop} {raised : ε → σ → Prop} {post : α → σ → Prop}
  {handler : Handler σ ε α}

theorem Raises.raise {error : ε} (h : ∀ state, pre state → raised error state) :
    Raises pre (Handler.raise error : Handler σ ε α) raised := by
  constructor
  intro state _ _ hpre hexec
  obtain ⟨herror, hafter⟩ := Prod.mk.inj hexec
  rw [← Except.error.inj herror, ← hafter]
  exact h state hpre

theorem Raises.pure {a : α} : Raises pre (pure a : Handler σ ε α) raised :=
  ⟨fun _ _ _ _ hexec => nomatch (Prod.mk.inj hexec).1⟩

theorem Spec.never (h : Spec pre handler post fun _ => False) : Raises pre handler raised :=
  ⟨fun _ _ _ hpre hexec => (h.of_error hpre hexec).elim⟩

/-- Behind the errors of the first handler, and those of the next ones. -/
theorem Raises.bind {next : α → Handler σ ε β} (hfirst : Raises pre handler raised)
    (hok : Spec pre handler post fun _ => True) (hnext : ∀ a, Raises (post a) (next a) raised) :
    Raises pre (handler >>= next) raised := by
  constructor
  intro state error after hpre hexec
  rw [exec_bind] at hexec
  rcases hrun : handler.exec state with ⟨outcome, between⟩
  rw [hrun] at hexec
  cases outcome with
  | ok a => exact (hnext a).run between error after (hok.of_ok hpre hrun) hexec
  | error early =>
      obtain ⟨herror, hafter⟩ := Prod.mk.inj hexec
      rw [← Except.error.inj herror, ← hafter]
      exact hfirst.run state early between hpre hrun

theorem Raises.recover {handle : ε → Handler σ ε α} (hfirst : Spec pre handler post mid)
    (hhandle : ∀ error, Raises mid (handle error) raised) :
    Raises pre (handler.recover handle) raised := by
  constructor
  intro state error after hpre hexec
  unfold Handler.recover at hexec
  rw [exec_of] at hexec
  rcases hrun : handler.exec state with ⟨outcome, between⟩
  rw [hrun] at hexec
  cases outcome with
  | ok a => exact nomatch (Prod.mk.inj hexec).1
  | error early => exact (hhandle early).run between error after (hfirst.of_error hpre hrun) hexec

theorem Raises.beside {failed : σ → Prop} (h : Raises pre handler raised)
    (hspec : Spec pre handler post failed) :
    Raises pre handler fun error state => failed state ∧ raised error state :=
  ⟨fun state error after hpre hexec =>
    ⟨hspec.of_error hpre hexec, h.run state error after hpre hexec⟩⟩

/-- Each error is handled from what it left. -/
theorem Spec.recover_raises {failed : σ → Prop} {handle : ε → Handler σ ε α}
    (hfirst : Spec pre handler post fun _ => True) (hraises : Raises pre handler raised)
    (hhandle : ∀ error, Spec (raised error) (handle error) post failed) :
    Spec pre (handler.recover handle) post failed := by
  constructor
  intro state hpre
  unfold Handler.recover
  rw [exec_of]
  rcases hrun : handler.exec state with ⟨outcome, after⟩
  cases outcome with
  | ok a => exact hfirst.of_ok hpre hrun
  | error error => exact (hhandle error).run after (hraises.run state error after hpre hrun)

end Raises

end Handler

end Library
