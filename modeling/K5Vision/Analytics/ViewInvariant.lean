import K5Vision.Analytics.OperatorViews

/-!
# Who disposes of a view

A view that has left the dictionary is `Settled` when it has no provider any more and nothing can
give it one.  Until then somebody sees to it: a call that has its lock and awaits its operation
(`Covered`), a call that still has it on its list, or the `infer` whose operation runs on it.  While
a call is in the middle of a step, `hand` has the views it is about to dispose of, and `locked`
those whose lock it has; both are empty between the steps.

What a call relies on while the others go on is in `Knows`, and `Later` says that they leave it.
-/

namespace K5Vision.Analytics.Views

open Library
open Function (update update_eq_self update_of_ne update_self)

variable {ω γ : Type} [DecidableEq ω] [DecidableEq γ]

/-- The views that a call has before it, beside the one it is at. -/
def Phase.rest : Phase → List ℕ
  | .locking _ rest _ | .joining _ _ rest _ | .closing _ rest _ => rest
  | .idle | .running | .awaiting _ | .ended _ => []

/-- The views that a call leaves to nobody where it is cancelled. -/
def Phase.abandoned : Phase → List ℕ
  | .locking _ rest _ | .closing _ rest _ => rest
  | .idle | .running | .awaiting _ | .joining _ _ _ _ | .ended _ => []

namespace Broker

variable {broker before after : Broker ω γ} {thorough : Prop} {hand locked rest : List ℕ}
  {call number : ℕ} {outcome : Outcome}

/-- The view has left the dictionary. -/
def Dropped (broker : Broker ω γ) (number : ℕ) : Prop :=
  number < broker.viewCount ∧ ∀ key, broker.views.find? key ≠ some number

omit [DecidableEq ω] [DecidableEq γ] in
/-- The operation runs on the view. -/
def Live (broker : Broker ω γ) (operation number : ℕ) : Prop :=
  ∃ task, broker.operations operation = some task ∧ task.view = number ∧ task.done = false

/-- The view has no provider, and will have none. -/
def Settled (broker : Broker ω γ) (number : ℕ) : Prop :=
  broker.Dropped number ∧ (broker.objects number).provider = none ∧
    ∀ operation, ¬ broker.Live operation number

/-- A call that disposes of the view goes on when its operation is done. -/
def Covered (broker : Broker ω γ) (number : ℕ) : Prop :=
  broker.Settled number ∨
    ∃ call operation rest outcome, broker.phases call = .joining operation number rest outcome

def Listed (broker : Broker ω γ) (number : ℕ) : Prop := ∃ call, number ∈ (broker.phases call).rest

/-- The call closes the view for its owner, or for good. -/
def Stops (broker : Broker ω γ) (call number : ℕ) : Prop :=
  ∃ key, (broker.objects number).key = some key ∧
    (broker.methods call = some (.closeOwner (some key.1)) ∨ broker.methods call = some .aclose)

/-- The call may dispose of the view: it has no operation, or the call is one that stops it. -/
def Pending (broker : Broker ω γ) (call number : ℕ) : Prop :=
  broker.Dropped number ∧
    ((broker.objects number).operation = none ∨ broker.Stops call number)

/-- A call that ends cancelled was cancelled by its caller, or its operation by a call that closes
its view. -/
def Excused (broker : Broker ω γ) (call : ℕ) (outcome : Outcome) : Prop :=
  outcome = .cancelled → broker.requested call = true ∨
    ∃ operation task other, broker.operations operation = some task ∧ task.call = call ∧
      other ∈ task.cancels ∧ broker.Stops other task.view

def Knows (broker : Broker ω γ) (call : ℕ) : Phase → Prop
  | .idle | .running | .awaiting _ => True
  | .locking number rest outcome => broker.Pending call number ∧
      (∀ other ∈ rest, broker.Pending call other) ∧ broker.Excused call outcome
  | .joining operation number rest outcome =>
      (broker.objects number).lock = some call ∧ broker.Dropped number ∧
        (∃ task, broker.operations operation = some task ∧ task.view = number) ∧
          (∀ other, broker.Live other number → other = operation) ∧ broker.Stops call number ∧
            (∀ other ∈ rest, broker.Pending call other) ∧ broker.Excused call outcome
  | .closing number rest outcome =>
      (broker.objects number).lock = some call ∧ broker.Settled number ∧
        (∀ other ∈ rest, broker.Pending call other) ∧ broker.Excused call outcome
  | .ended outcome => broker.Excused call outcome

/-- The invariant, where the call that is running has the views of `hand` before it, and the locks
of those of `locked`.  That somebody sees to every view is only said of runs that are `thorough`. -/
structure Inv (thorough : Prop) (hand locked : List ℕ) (broker : Broker ω γ) : Prop where
  rows : ∀ key number, broker.views.find? key = some number → number < broker.viewCount ∧
    (broker.objects number).key = some key ∧ (broker.objects number).closed = false
  size : broker.views.rows.length ≤ broker.config.maxViews
  tasks : ∀ operation task, broker.operations operation = some task →
    operation < broker.operationCount ∧ task.view < broker.viewCount ∧
      (broker.objects task.view).key = some task.submission.key
  current : ∀ number operation, (broker.objects number).operation = some operation →
    ∃ task, broker.operations operation = some task ∧ task.view = number ∧
      broker.phases task.call = .awaiting operation
  live : ∀ operation number, broker.Live operation number →
    (broker.objects number).operation = some operation
  awaited : ∀ call operation, broker.phases call = .awaiting operation →
    ∃ task, broker.operations operation = some task ∧ task.call = call ∧
      (broker.objects task.view).operation = some operation
  held : ∀ number provider, (broker.objects number).provider = some provider →
    provider < broker.providerCount ∧ broker.providerViews provider = number ∧
      provider ∉ broker.closes ∧ number < broker.viewCount
  owned : ∀ provider < broker.providerCount, provider ∈ broker.closes ∨
    (broker.objects (broker.providerViews provider)).provider = some provider
  once : broker.closes.Nodup
  closes : ∀ provider ∈ broker.closes, provider < broker.providerCount ∧
    broker.Dropped (broker.providerViews provider)
  uses : ∀ use ∈ broker.uses, use.provider < broker.providerCount ∧
    (broker.objects (broker.providerViews use.provider)).key = some use.key
  busy : ∀ number, (broker.objects number).lock ≠ none ∨ 0 < (broker.objects number).waiters →
    number ∈ locked ∨ broker.Covered number
  covered : thorough → ∀ number, broker.Dropped number → number ∈ hand ∨ broker.Covered number ∨
    broker.Listed number ∨
      ((broker.objects number).closed = true ∧ (broker.objects number).operation ≠ none)
  knows : ∀ call, broker.Knows call (broker.phases call)
  flagged : ∀ call, broker.flagged call = true →
    broker.requested call = true ∧ (thorough → (broker.phases call).abandoned = [])
  cancels : ∀ operation task, broker.operations operation = some task →
    (∀ other ∈ task.cancels, (other = task.call ∧ broker.requested other = true) ∨
      broker.Stops other task.view) ∧
    (task.cancelling = true ∨ task.state = .done .cancelled → task.cancels ≠ [])
  making : ∀ operation task, broker.operations operation = some task → task.state = .factory →
    (broker.objects task.view).provider = none
  fresh : ∀ call, broker.phases call = .idle →
    broker.methods call = none ∧ broker.flagged call = false
  unborn : ∀ number, broker.viewCount ≤ number → (broker.objects number).key = none

structure Later (call : ℕ) (before after : Broker ω γ) : Prop where
  dropped : ∀ number, before.Dropped number → after.Dropped number
  settled : ∀ number, before.Settled number → after.Settled number
  stops : ∀ other number, before.Stops other number → after.Stops other number
  operation : ∀ number, before.Dropped number → (before.objects number).operation = none →
    (after.objects number).operation = none
  lock : ∀ other number, other ≠ call → (before.objects number).lock = some other →
    (after.objects number).lock = some other
  live : ∀ operation number, before.Dropped number → after.Live operation number →
    before.Live operation number
  tasks : ∀ operation task, before.operations operation = some task →
    ∃ later, after.operations operation = some later ∧ later.view = task.view ∧
      later.call = task.call ∧ ∀ other ∈ task.cancels, other ∈ later.cancels
  requested : ∀ other, before.requested other = true → after.requested other = true

theorem Later.refl (call : ℕ) (broker : Broker ω γ) : Later call broker broker :=
  ⟨fun _ => id, fun _ => id, fun _ _ => id, fun _ _ => id, fun _ _ _ => id, fun _ _ _ => id,
    fun _ task htask => ⟨task, htask, rfl, rfl, fun _ => id⟩, fun _ => id⟩

theorem Later.trans {middle : Broker ω γ} (hfirst : Later call before middle)
    (hsecond : Later call middle after) : Later call before after where
  dropped number h := hsecond.dropped number (hfirst.dropped number h)
  settled number h := hsecond.settled number (hfirst.settled number h)
  stops other number h := hsecond.stops other number (hfirst.stops other number h)
  operation number hdropped h :=
    hsecond.operation number (hfirst.dropped number hdropped) (hfirst.operation number hdropped h)
  lock other number hne h := hsecond.lock other number hne (hfirst.lock other number hne h)
  live operation number hdropped h := hfirst.live operation number hdropped
    (hsecond.live operation number (hfirst.dropped number hdropped) h)
  tasks operation task h := by
    obtain ⟨next, hnext, hview, hcall, hcancels⟩ := hfirst.tasks operation task h
    obtain ⟨last, hlast, hsame, hagain, hmore⟩ := hsecond.tasks operation next hnext
    exact ⟨last, hlast, hsame.trans hview, hagain.trans hcall,
      fun other hmem => hmore other (hcancels other hmem)⟩
  requested other h := hsecond.requested other (hfirst.requested other h)

variable {other : ℕ}

theorem Pending.later (h : before.Pending other number) (hlater : Later call before after) :
    after.Pending other number := by
  refine ⟨hlater.dropped number h.1, ?_⟩
  rcases h.2 with hnone | hstops
  · exact .inl (hlater.operation number h.1 hnone)
  · exact .inr (hlater.stops other number hstops)

theorem Excused.later (h : before.Excused other outcome) (hlater : Later call before after) :
    after.Excused other outcome := by
  intro hcancelled
  rcases h hcancelled with hrequested | ⟨operation, task, by_, htask, hcall, hmem, hstops⟩
  · exact .inl (hlater.requested other hrequested)
  obtain ⟨later, hafter, hview, hsame, hcancels⟩ := hlater.tasks operation task htask
  refine .inr ⟨operation, later, by_, hafter, hsame.trans hcall, hcancels by_ hmem, ?_⟩
  rw [hview]
  exact hlater.stops by_ _ hstops

theorem Knows.later {phase : Phase} (h : before.Knows other phase) (hne : other ≠ call)
    (hlater : Later call before after) : after.Knows other phase := by
  cases phase with
  | locking number rest outcome =>
      exact ⟨h.1.later hlater, fun view hview => (h.2.1 view hview).later hlater,
        h.2.2.later hlater⟩
  | joining operation number rest outcome =>
      obtain ⟨hlock, hdropped, ⟨task, htask, hview⟩, honly, hstops, hrest, hexcused⟩ := h
      obtain ⟨later, hafter, hsame, -⟩ := hlater.tasks operation task htask
      exact ⟨hlater.lock other number hne hlock, hlater.dropped number hdropped,
        ⟨later, hafter, hsame.trans hview⟩,
        fun operation hlive => honly operation (hlater.live operation number hdropped hlive),
        hlater.stops other number hstops, fun view hmem => (hrest view hmem).later hlater,
        hexcused.later hlater⟩
  | closing number rest outcome =>
      exact ⟨hlater.lock other number hne h.1, hlater.settled number h.2.1,
        fun view hview => (h.2.2.1 view hview).later hlater, h.2.2.2.later hlater⟩
  | ended outcome => exact Excused.later h hlater
  | _ => trivial

/-! ## Locks and marks -/

omit [DecidableEq ω] [DecidableEq γ] in
/-- The views with other marks and locks. -/
def relock (closed : ℕ → Bool) (lock : ℕ → Option ℕ) (waiters : ℕ → ℕ) (broker : Broker ω γ) :
    Broker ω γ :=
  { broker with
    objects := fun number => { broker.objects number with
      closed := closed number, lock := lock number, waiters := waiters number } }

omit [DecidableEq ω] [DecidableEq γ] in
theorem setView_eq_relock (number : ℕ) (closed : Bool) (lock : Option ℕ) (waiters : ℕ)
    (broker : Broker ω γ) :
    broker.setView number { broker.objects number with
      closed := closed, lock := lock, waiters := waiters } =
      broker.relock (update (fun other => (broker.objects other).closed) number closed)
        (update (fun other => (broker.objects other).lock) number lock)
        (update (fun other => (broker.objects other).waiters) number waiters) := by
  rw [setView, relock]
  congr 1
  funext other
  by_cases heq : other = number
  · subst heq
    simp
  · simp [heq]

theorem later_relock {closed : ℕ → Bool} {lock : ℕ → Option ℕ} {waiters : ℕ → ℕ}
    (hlock : ∀ other number, other ≠ call → (broker.objects number).lock = some other →
      lock number = some other) :
    Later call broker (broker.relock closed lock waiters) :=
  { Later.refl call broker with lock := hlock }

theorem Inv.relock (h : Inv thorough hand locked broker) (hrunning : broker.phases call = .running)
    {closed : ℕ → Bool} {lock : ℕ → Option ℕ} {waiters : ℕ → ℕ} {now : List ℕ}
    (hmarked : ∀ number, (broker.objects number).closed = true → closed number = true)
    (hclosed : ∀ number, closed number = true →
      (broker.objects number).closed = true ∨ broker.Dropped number)
    (hlock : ∀ other number, other ≠ call → (broker.objects number).lock = some other →
      lock number = some other)
    (hbusy : ∀ number, lock number ≠ none ∨ 0 < waiters number →
      number ∈ now ∨ broker.Covered number) :
    Inv thorough hand now (broker.relock closed lock waiters) where
  rows key number hfind := by
    obtain ⟨hlt, hkey, hopen⟩ := h.rows key number hfind
    refine ⟨hlt, hkey, Bool.eq_false_iff.mpr fun htrue => ?_⟩
    rcases hclosed number htrue with hold | hdropped
    · rw [hopen] at hold
      cases hold
    · exact hdropped.2 key hfind
  __ := h
  busy := hbusy
  covered hthorough number hdropped := by
    rcases h.covered hthorough number hdropped with hhand | hcovered | hlisted | ⟨hold, hoperation⟩
    · exact .inl hhand
    · exact .inr (.inl hcovered)
    · exact .inr (.inr (.inl hlisted))
    · exact .inr (.inr (.inr ⟨hmarked number hold, hoperation⟩))
  knows other := by
    by_cases heq : other = call
    · subst heq
      change (broker.relock closed lock waiters).Knows other (broker.phases other)
      rw [hrunning]
      trivial
    · exact (h.knows other).later heq (later_relock hlock)

/-! ## Phases -/

omit [DecidableEq ω] [DecidableEq γ] in
theorem phases_setPhase (phase : Phase) (broker : Broker ω γ) :
    (broker.setPhase call phase).phases call = phase := update_self ..

omit [DecidableEq ω] [DecidableEq γ] in
theorem phases_setPhase_of_ne (h : other ≠ call) (phase : Phase) (broker : Broker ω γ) :
    (broker.setPhase call phase).phases other = broker.phases other :=
  update_of_ne h ..

theorem later_setPhase (phase : Phase) (broker : Broker ω γ) :
    Later call broker (broker.setPhase call phase) :=
  { Later.refl call broker with }

/-- Only the call comes to another phase. -/
structure Alone (call : ℕ) (before after : Broker ω γ) : Prop where
  later : Later call before after
  phases : ∀ other, other ≠ call → after.phases other = before.phases other

theorem alone_setPhase (phase : Phase) (broker : Broker ω γ) :
    Alone call broker (broker.setPhase call phase) :=
  ⟨later_setPhase phase broker, fun _ hne => phases_setPhase_of_ne hne phase broker⟩

theorem Alone.covered (halone : Alone call before after) (h : before.Covered number)
    (hcall : ∀ operation rest outcome,
      before.phases call ≠ .joining operation number rest outcome) : after.Covered number := by
  rcases h with hsettled | ⟨other, operation, rest, outcome, hjoining⟩
  · exact .inl (halone.later.settled number hsettled)
  refine .inr ⟨other, operation, rest, outcome, ?_⟩
  rw [halone.phases]
  · exact hjoining
  · rintro rfl
    exact hcall _ _ _ hjoining

theorem Alone.listed (halone : Alone call before after) (h : before.Listed number) :
    number ∈ (before.phases call).rest ∨ after.Listed number := by
  obtain ⟨other, hmem⟩ := h
  by_cases heq : other = call
  · exact .inl (heq ▸ hmem)
  · exact .inr ⟨other, by rwa [halone.phases other heq]⟩

theorem Alone.knows (halone : Alone call before after) (h : Inv thorough hand locked before)
    (hcall : after.Knows call (after.phases call)) (other : ℕ) :
    after.Knows other (after.phases other) := by
  by_cases heq : other = call
  · rwa [heq]
  · rw [halone.phases other heq]
    exact (h.knows other).later heq halone.later

theorem Alone.flagged (halone : Alone call before after) (h : Inv thorough hand locked before)
    (hcall : before.flagged call = true → (after.phases call).abandoned = [])
    (hflagged : before.flagged other = true) :
    after.requested other = true ∧ (thorough → (after.phases other).abandoned = []) := by
  refine ⟨halone.later.requested other (h.flagged other hflagged).1, fun hthorough => ?_⟩
  by_cases heq : other = call
  · subst heq
    exact hcall hflagged
  · rw [halone.phases other heq]
    exact (h.flagged other hflagged).2 hthorough

theorem Alone.fresh (halone : Alone call before after) (h : Inv thorough hand locked before)
    (hcall : after.phases call ≠ .idle) (hidle : after.phases other = .idle) :
    other ≠ call ∧ before.methods other = none ∧ before.flagged other = false := by
  have hne : other ≠ call := by
    rintro rfl
    exact hcall hidle
  rw [halone.phases other hne] at hidle
  exact ⟨hne, h.fresh other hidle⟩

theorem Covered.move (h : broker.Covered number) (hrunning : broker.phases call = .running)
    (phase : Phase) : (broker.setPhase call phase).Covered number := by
  refine (alone_setPhase phase broker).covered h fun _ _ _ hjoining => ?_
  rw [hrunning] at hjoining
  cases hjoining

theorem Inv.arrive (h : Inv thorough hand locked broker) (hrunning : broker.phases call = .running)
    (hflag : broker.flagged call = false) {phase : Phase}
    (hphase : phase ≠ .idle ∧ ∀ operation, phase ≠ .awaiting operation)
    (hknows : (broker.setPhase call phase).Knows call phase)
    (hlocked : ∀ number ∈ locked, (broker.setPhase call phase).Covered number)
    (hhand : ∀ number ∈ hand, (broker.setPhase call phase).Covered number ∨ number ∈ phase.rest) :
    Inv thorough [] [] (broker.setPhase call phase) := by
  have halone : Alone call broker (broker.setPhase call phase) := alone_setPhase phase broker
  have hself : (broker.setPhase call phase).phases call = phase := phases_setPhase ..
  refine { h with
    current := fun number operation hoperation => ?_
    awaited := fun other operation hawaiting => ?_
    busy := fun number hbusy => ?_
    covered := fun hthorough number hdropped => ?_
    knows := halone.knows h (by rwa [hself])
    flagged := fun _ => halone.flagged h fun htrue => by rw [hflag] at htrue; cases htrue
    fresh := fun _ hidle => (halone.fresh h (by rw [hself]; exact hphase.1) hidle).2 }
  · obtain ⟨task, htask, hview, hawaiting⟩ := h.current number operation hoperation
    refine ⟨task, htask, hview, ?_⟩
    rw [phases_setPhase_of_ne]
    · exact hawaiting
    · rintro rfl
      rw [hrunning] at hawaiting
      cases hawaiting
  · by_cases heq : other = call
    · subst heq
      rw [hself] at hawaiting
      exact absurd hawaiting (hphase.2 operation)
    · rw [phases_setPhase_of_ne heq] at hawaiting
      exact h.awaited other operation hawaiting
  · rcases h.busy number hbusy with hmem | hcovered
    · exact .inr (hlocked number hmem)
    · exact .inr (hcovered.move hrunning phase)
  · rcases h.covered hthorough number hdropped with hmem | hcovered | hlisted | hopen
    · rcases hhand number hmem with hcovered | hrest
      · exact .inr (.inl hcovered)
      · exact .inr (.inr (.inl ⟨call, by rwa [hself]⟩))
    · exact .inr (.inl (hcovered.move hrunning phase))
    · refine .inr (.inr (.inl ((halone.listed hlisted).resolve_left fun hmem => ?_)))
      rw [hrunning] at hmem
      cases hmem
    · exact .inr (.inr (.inr hopen))

/-! ## Operations -/

variable {task : Operation ω γ} {operation : ℕ}

omit [DecidableEq ω] [DecidableEq γ] in
theorem operations_setOperation {found : Operation ω γ}
    (h : (broker.setOperation operation task).operations other = some found) :
    (other = operation ∧ found = task) ∨
      (other ≠ operation ∧ broker.operations other = some found) := by
  change update broker.operations operation (some task) other = some found at h
  by_cases heq : other = operation
  · subst heq
    rw [update_self] at h
    cases h
    exact .inl ⟨rfl, rfl⟩
  · rw [update_of_ne heq] at h
    exact .inr ⟨heq, h⟩

variable {next : Operation ω γ}

omit [DecidableEq ω] [DecidableEq γ] in
theorem live_setOperation (htask : broker.operations operation = some task)
    (hview : next.view = task.view) (hdone : task.done = true → next.done = true)
    (h : (broker.setOperation operation next).Live other number) : broker.Live other number := by
  obtain ⟨found, hfound, hnumber, hrunning⟩ := h
  rcases operations_setOperation hfound with ⟨rfl, rfl⟩ | ⟨-, hold⟩
  · refine ⟨task, htask, hview.symm.trans hnumber, Bool.eq_false_iff.mpr fun htrue => ?_⟩
    rw [hdone htrue] at hrunning
    cases hrunning
  · exact ⟨found, hold, hnumber, hrunning⟩

structure Goes (task next : Operation ω γ) : Prop where
  call : next.call = task.call
  view : next.view = task.view
  key : next.submission.key = task.submission.key
  done : task.done = true → next.done = true
  cancels : ∀ other ∈ task.cancels, other ∈ next.cancels

theorem later_setOperation (htask : broker.operations operation = some task)
    (hgoes : Goes task next) (call : ℕ) :
    Later call broker (broker.setOperation operation next) := by
  have hlive : ∀ {other number}, (broker.setOperation operation next).Live other number →
      broker.Live other number := live_setOperation htask hgoes.view hgoes.done
  have hsettled : ∀ number, broker.Settled number →
      (broker.setOperation operation next).Settled number :=
    fun _ hsettled => ⟨hsettled.1, hsettled.2.1, fun other h => hsettled.2.2 other (hlive h)⟩
  refine ⟨fun _ => id, hsettled, fun _ _ => id, fun _ _ => id, fun _ _ _ => id,
    fun _ _ _ => hlive, fun other found hfound => ?_, fun _ => id⟩
  by_cases heq : other = operation
  · subst heq
    rw [htask] at hfound
    cases hfound
    exact ⟨next, update_self .., hgoes.view, hgoes.call, hgoes.cancels⟩
  · exact ⟨found, (update_of_ne heq ..).trans hfound, rfl, rfl, fun _ => id⟩

theorem Covered.later (h : before.Covered number) (hlater : Later call before after)
    (hphases : after.phases = before.phases) : after.Covered number := by
  rcases h with hsettled | hjoining
  · exact .inl (hlater.settled number hsettled)
  · refine .inr ?_
    rwa [hphases]

theorem Inv.setOperation (h : Inv thorough hand locked broker)
    (htask : broker.operations operation = some task) (hgoes : Goes task next)
    (hcancels : (∀ other ∈ next.cancels, (other = next.call ∧ broker.requested other = true) ∨
      broker.Stops other next.view) ∧
        (next.cancelling = true ∨ next.state = .done .cancelled → next.cancels ≠ []))
    (hmaking : next.state = .factory → (broker.objects task.view).provider = none) :
    Inv thorough hand locked (broker.setOperation operation next) := by
  have hlater : ∀ call, Later call broker (broker.setOperation operation next) :=
    later_setOperation htask hgoes
  have hself : (broker.setOperation operation next).operations operation = some next :=
    update_self ..
  have hother : ∀ {other found}, other ≠ operation → broker.operations other = some found →
      (broker.setOperation operation next).operations other = some found :=
    fun hne hfound => (update_of_ne hne ..).trans hfound
  refine ⟨h.rows, h.size, fun other found hfound => ?_, fun number other hoperation => ?_,
    fun other number hlive => h.live other number (live_setOperation htask hgoes.view hgoes.done
      hlive), fun call other hawaiting => ?_, h.held, h.owned, h.once, h.closes, h.uses,
    fun number hbusy => ?_, fun hthorough number hdropped => ?_,
    fun call => (h.knows call).later (Nat.succ_ne_self call).symm (hlater (call + 1)), h.flagged,
    fun other found hfound => ?_, fun other found hfound hfactory => ?_, h.fresh, h.unborn⟩
  · rcases operations_setOperation hfound with ⟨rfl, rfl⟩ | ⟨-, hold⟩
    · rw [hgoes.view, hgoes.key]
      exact h.tasks other task htask
    · exact h.tasks other found hold
  · obtain ⟨found, hfound, hview, hawaiting⟩ := h.current number other hoperation
    by_cases heq : other = operation
    · subst heq
      rw [htask] at hfound
      cases hfound
      refine ⟨next, hself, hgoes.view.trans hview, ?_⟩
      rw [hgoes.call]
      exact hawaiting
    · exact ⟨found, hother heq hfound, hview, hawaiting⟩
  · obtain ⟨found, hfound, hcall, hoperation⟩ := h.awaited call other hawaiting
    by_cases heq : other = operation
    · subst heq
      rw [htask] at hfound
      cases hfound
      refine ⟨next, hself, hgoes.call.trans hcall, ?_⟩
      rw [hgoes.view]
      exact hoperation
    · exact ⟨found, hother heq hfound, hcall, hoperation⟩
  · exact (h.busy number hbusy).imp_right fun hcovered => hcovered.later (hlater 0) rfl
  · exact (h.covered hthorough number hdropped).imp_right
      (.imp_left fun hcovered => hcovered.later (hlater 0) rfl)
  · rcases operations_setOperation hfound with ⟨rfl, rfl⟩ | ⟨-, hold⟩
    · exact hcancels
    · exact h.cancels other found hold
  · rcases operations_setOperation hfound with ⟨rfl, rfl⟩ | ⟨-, hold⟩
    · rw [hgoes.view]
      exact hmaking hfactory
    · exact h.making other found hold hfactory

/-! ## `_dispose` -/

theorem not_live_of_running (h : Inv thorough hand locked broker)
    (hnone : broker.running number = none)
    (operation : ℕ) : ¬ broker.Live operation number := by
  rintro ⟨task, htask, hview, hdone⟩
  have hcurrent := h.live operation number ⟨task, htask, hview, hdone⟩
  rw [running, hcurrent] at hnone
  simp only [htask] at hnone
  rw [if_neg (by rw [hdone]; exact Bool.false_ne_true)] at hnone
  cases hnone

omit [DecidableEq ω] [DecidableEq γ] in
theorem running_eq_some (h : broker.running number = some (operation, task)) :
    (broker.objects number).operation = some operation ∧
      broker.operations operation = some task ∧ task.done = false := by
  unfold running at h
  cases hoperation : (broker.objects number).operation with
  | none =>
      rw [hoperation] at h
      cases h
  | some found =>
      simp only [hoperation] at h
      cases hfound : broker.operations found with
      | none =>
          rw [hfound] at h
          cases h
      | some other =>
          simp only [hfound] at h
          split_ifs at h with hdone
          cases h
          exact ⟨rfl, hfound, Bool.eq_false_iff.mpr hdone⟩

omit [DecidableEq ω] [DecidableEq γ] in
/-- `provider, view.provider = view.provider, None`, and the call of `aclose`. -/
def take (number provider : ℕ) (broker : Broker ω γ) : Broker ω γ :=
  { broker with
    objects := fun other => { broker.objects other with
      provider := if other = number then none else (broker.objects other).provider }
    closes := broker.closes ++ [provider] }

omit [DecidableEq ω] [DecidableEq γ] in
theorem setView_eq_take (number provider : ℕ) (broker : Broker ω γ) :
    { broker.setView number { broker.objects number with provider := none } with
      closes := broker.closes ++ [provider] } = broker.take number provider := by
  have hobjects : update broker.objects number
      { broker.objects number with provider := none } = (broker.take number provider).objects := by
    funext other
    by_cases heq : other = number
    · subst heq
      simp [take]
    · simp [take, heq]
  change { broker with
    objects := update broker.objects number { broker.objects number with provider := none }
    closes := broker.closes ++ [provider] } = _
  rw [hobjects]
  rfl

theorem later_take (number provider : ℕ) (call : ℕ) (broker : Broker ω γ) :
    Later call broker (broker.take number provider) := by
  have hsettled : ∀ other, broker.Settled other → (broker.take number provider).Settled other := by
    intro other hsettled
    refine ⟨hsettled.1, ?_, hsettled.2.2⟩
    change (if other = number then none else (broker.objects other).provider) = none
    rw [hsettled.2.1, ite_self]
  exact { Later.refl call broker with settled := hsettled }

theorem Inv.take (h : Inv thorough hand locked broker) {provider : ℕ}
    (hdropped : broker.Dropped number)
    (hprovider : (broker.objects number).provider = some provider) :
    Inv thorough hand locked (broker.take number provider) := by
  obtain ⟨hlt, hviews, hopen, -⟩ := h.held number provider hprovider
  have hlater : ∀ call, Later call broker (broker.take number provider) :=
    fun call => later_take number provider call broker
  refine { h with
    held := fun other found hfound => ?_
    owned := fun found hless => ?_
    once := ?_
    closes := fun found hmem => ?_
    busy := fun other hbusy =>
      (h.busy other hbusy).imp_right fun hcovered => hcovered.later (hlater 0) rfl
    covered := fun hthorough other hother => (h.covered hthorough other hother).imp_right
      (.imp_left fun hcovered => hcovered.later (hlater 0) rfl)
    knows := fun call => (h.knows call).later (Nat.succ_ne_self call).symm (hlater (call + 1))
    making := fun operation task htask hfactory => ?_ }
  · change (if other = number then none else (broker.objects other).provider) = some found at hfound
    split_ifs at hfound with hne
    obtain ⟨hless, hview, hnot, hcount⟩ := h.held other found hfound
    refine ⟨hless, hview, fun hmem => ?_, hcount⟩
    rcases List.mem_append.mp hmem with hold | hnew
    · exact hnot hold
    · rw [List.mem_singleton] at hnew
      subst hnew
      exact hne (hview.symm.trans hviews)
  · change found ∈ broker.closes ++ [provider] ∨ (if broker.providerViews found = number then none
      else (broker.objects (broker.providerViews found)).provider) = some found
    rcases h.owned found hless with hclosed | hholds
    · exact .inl (List.mem_append_left _ hclosed)
    by_cases heq : broker.providerViews found = number
    · rw [heq, hprovider] at hholds
      cases hholds
      exact .inl (List.mem_append_right _ (List.mem_singleton_self _))
    · rw [if_neg heq]
      exact .inr hholds
  · refine List.nodup_append.mpr ⟨h.once, List.nodup_singleton _, ?_⟩
    rintro other hother last hlast rfl
    rw [List.mem_singleton] at hlast
    subst hlast
    exact hopen hother
  · rcases List.mem_append.mp hmem with hold | hnew
    · exact h.closes found hold
    · rw [List.mem_singleton] at hnew
      subst hnew
      exact ⟨hlt, hviews ▸ hdropped⟩
  · change (if task.view = number then none else (broker.objects task.view).provider) = none
    rw [h.making operation task htask hfactory, ite_self]

omit [DecidableEq ω] [DecidableEq γ] in
theorem lock_update {lock : Option ℕ} (hlock : ∀ other, other ≠ call →
      (broker.objects number).lock ≠ some other) (other view : ℕ) (hne : other ≠ call)
    (hview : (broker.objects view).lock = some other) :
    update (fun view => (broker.objects view).lock) number lock view = some other := by
  have hother : view ≠ number := by
    rintro rfl
    exact hlock other hne hview
  rwa [update_of_ne hother]

omit [DecidableEq ω] [DecidableEq γ] in
theorem lock_ne_of_own (hlock : (broker.objects number).lock = some call) (other : ℕ)
    (hne : other ≠ call) : (broker.objects number).lock ≠ some other := by
  rw [hlock]
  exact fun heq => hne (Option.some.inj heq).symm

theorem later_unlock (hlock : (broker.objects number).lock = some call) :
    Later call broker (broker.unlock number) := by
  rw [Broker.unlock, setView_eq_relock]
  exact later_relock (lock_update (lock_ne_of_own hlock))

theorem Inv.unlock (h : Inv thorough hand locked broker) (hrunning : broker.phases call = .running)
    (hlocked : ∀ other ∈ locked, other = number) (hsettled : broker.Settled number)
    (hlock : (broker.objects number).lock = some call) :
    Inv thorough hand [] (broker.unlock number) := by
  rw [Broker.unlock, setView_eq_relock]
  refine h.relock hrunning (fun other hother => ?_) (fun other hother => .inl ?_)
    (lock_update (lock_ne_of_own hlock)) (fun other hbusy => .inr ?_)
  · rwa [update_eq_self number fun other => (broker.objects other).closed]
  · rwa [update_eq_self number fun other => (broker.objects other).closed] at hother
  by_cases heq : other = number
  · rw [heq]
    exact .inl hsettled
  · rw [update_of_ne heq, update_of_ne heq] at hbusy
    exact (h.busy other hbusy).resolve_left fun hmem => heq (hlocked other hmem)

/-- The running call may let go of views that are covered, and of all where calls need not be
thorough. -/
theorem Inv.letGo (h : Inv thorough hand locked broker) {kept : List ℕ}
    (hhand : thorough → ∀ number ∈ hand, number ∈ kept ∨ broker.Covered number) :
    Inv thorough kept locked broker :=
  { h with
    covered := fun hthorough number hdropped => by
      rcases h.covered hthorough number hdropped with hmem | hother
      · exact (hhand hthorough number hmem).imp_right .inl
      · exact .inr hother }

/-- The running call is to dispose of the views, with `hand` and `locked` as they are. -/
structure Ready (thorough : Prop) (call : ℕ) (outcome : Outcome) (hand locked rest : List ℕ)
    (broker : Broker ω γ) : Prop where
  inv : Inv thorough hand locked broker
  running : broker.phases call = .running
  unflagged : broker.flagged call = false
  pending : ∀ number ∈ rest, broker.Pending call number
  excused : broker.Excused call outcome

theorem Ready.finish (h : Ready thorough call outcome [] [] [] broker) :
    Inv thorough [] [] (broker.setPhase call (.ended outcome)) :=
  h.inv.arrive h.running h.unflagged ⟨nofun, nofun⟩ h.excused nofun nofun

theorem Ready.takeProvider (h : Ready thorough call outcome (number :: rest) [number] rest broker)
    (hlock : (broker.objects number).lock = some call) (hdropped : broker.Dropped number)
    (hlive : ∀ operation, ¬ broker.Live operation number) {next : Broker ω γ → Broker ω γ}
    (hnext : ∀ later, Ready thorough call outcome rest [] rest later →
      Inv thorough [] [] (next later)) :
    Inv thorough [] [] (broker.takeProvider call number rest outcome next) := by
  rw [Broker.takeProvider.eq_def]
  cases hprovider : (broker.objects number).provider with
  | none =>
      have hsettled : broker.Settled number := ⟨hdropped, hprovider, hlive⟩
      have hlater := later_unlock hlock
      have hinv := h.inv.unlock h.running (fun other hmem => List.mem_singleton.mp hmem) hsettled
        hlock
      have hfree : Inv thorough rest [] (broker.unlock number) := by
        refine hinv.letGo fun _ other hmem => ?_
        rcases List.mem_cons.mp hmem with rfl | hrest
        · exact .inr (.inl (hlater.settled other hsettled))
        · exact .inl hrest
      exact hnext _ ⟨hfree, h.running, h.unflagged,
        fun other hmem => (h.pending other hmem).later hlater, h.excused.later hlater⟩
  | some provider =>
      simp only
      rw [setView_eq_take]
      have hinv := h.inv.take hdropped hprovider
      have hlater := later_take number provider call broker
      have hsettled : (broker.take number provider).Settled number := ⟨hdropped, if_pos rfl, hlive⟩
      refine hinv.arrive h.running h.unflagged ⟨nofun, nofun⟩ ?_ ?_ ?_
      · exact ⟨hlock, hsettled, h.pending, h.excused⟩
      · intro other hmem
        rw [List.mem_singleton.mp hmem]
        exact .inl hsettled
      intro other hmem
      rcases List.mem_cons.mp hmem with rfl | hrest
      · exact .inl (.inl hsettled)
      · exact .inr hrest

theorem Inv.cancelOperation (h : Inv thorough hand locked broker)
    (htask : broker.operations operation = some task)
    (hmay : (call = task.call ∧ broker.requested call = true) ∨ broker.Stops call task.view) :
    Inv thorough hand locked (broker.cancelOperation call operation task) := by
  refine h.setOperation htask ⟨rfl, rfl, rfl, id, fun _ => List.mem_append_left _⟩
    ⟨fun other hmem => ?_, fun _ => by simp⟩ (h.making operation task htask)
  rcases List.mem_append.mp hmem with hold | hnew
  · exact (h.cancels operation task htask).1 other hold
  · rw [List.mem_singleton.mp hnew]
    exact hmay

theorem later_cancelOperation (htask : broker.operations operation = some task) (by_ call : ℕ) :
    Later call broker (broker.cancelOperation by_ operation task) := by
  have hgoes : Goes task { task with cancelling := true, cancels := task.cancels ++ [by_] } :=
    ⟨rfl, rfl, rfl, id, fun _ => List.mem_append_left _⟩
  exact later_setOperation htask hgoes call

theorem Ready.join (h : Ready thorough call outcome (number :: rest) [number] rest broker)
    (hlock : (broker.objects number).lock = some call) (hdropped : broker.Dropped number)
    (htask : broker.operations operation = some task) (hview : task.view = number)
    (hoperation : (broker.objects number).operation = some operation)
    (hstops : broker.Stops call number) :
    Inv thorough [] [] ((broker.cancelOperation call operation task).setPhase call
      (.joining operation number rest outcome)) := by
  have hlater := later_cancelOperation htask call call
  have hcovered : ((broker.cancelOperation call operation task).setPhase call
      (.joining operation number rest outcome)).Covered number :=
    .inr ⟨call, operation, rest, outcome, phases_setPhase _ _⟩
  have hpending : ∀ other ∈ rest,
      (broker.cancelOperation call operation task).Pending call other :=
    fun other hmem => (h.pending other hmem).later hlater
  have hexcused : (broker.cancelOperation call operation task).Excused call outcome :=
    h.excused.later hlater
  refine (h.inv.cancelOperation htask (.inr (hview ▸ hstops))).arrive h.running h.unflagged
    ⟨nofun, nofun⟩ ?_ ?_ ?_
  · refine ⟨hlock, hdropped, ⟨_, update_self .., hview⟩, fun other hother => ?_, hstops,
      hpending, hexcused⟩
    have hcurrent := h.inv.live other number (hlater.live other number hdropped hother)
    rw [hoperation] at hcurrent
    exact (Option.some.inj hcurrent).symm
  · intro other hmem
    rw [List.mem_singleton.mp hmem]
    exact hcovered
  · intro other hmem
    rcases List.mem_cons.mp hmem with rfl | hrest
    · exact .inl hcovered
    · exact .inr hrest

theorem Ready.enter (h : Ready thorough call outcome (number :: rest) [] (number :: rest) broker)
    (hlock : (broker.objects number).lock = none) {next : Broker ω γ → Broker ω γ}
    (hnext : ∀ later, Ready thorough call outcome rest [] rest later →
      Inv thorough [] [] (next later)) :
    Inv thorough [] [] (broker.enter call number rest outcome next) := by
  obtain ⟨hdropped, hmay⟩ := h.pending number List.mem_cons_self
  have hfree : ∀ other, other ≠ call → (broker.objects number).lock ≠ some other :=
    fun other _ => by rw [hlock]; nofun
  have hentered : broker.setView number { broker.objects number with
      closed := true, lock := some call } = _ :=
    setView_eq_relock number true (some call) (broker.objects number).waiters broker
  have hlater : Later call broker (broker.setView number { broker.objects number with
      closed := true, lock := some call }) := by
    rw [hentered]
    exact later_relock (lock_update hfree)
  have hinv : Inv thorough (number :: rest) [number]
      (broker.setView number { broker.objects number with
        closed := true, lock := some call }) := by
    rw [hentered]
    refine h.inv.relock h.running (fun other hclosed => ?_) (fun other hclosed => ?_)
      (lock_update hfree) (fun other hbusy => ?_)
    · by_cases heq : other = number
      · rw [heq, update_self]
      · rwa [update_of_ne heq]
    · by_cases heq : other = number
      · rw [heq]
        exact .inr hdropped
      · rw [update_of_ne heq] at hclosed
        exact .inl hclosed
    · by_cases heq : other = number
      · exact .inl (List.mem_singleton.mpr heq)
      · rw [update_of_ne heq, update_of_ne heq] at hbusy
        exact .inr ((h.inv.busy other hbusy).resolve_left List.not_mem_nil)
  have hready : Ready thorough call outcome (number :: rest) [number] rest
      (broker.setView number { broker.objects number with closed := true, lock := some call }) :=
    ⟨hinv, h.running, h.unflagged,
      fun other hmem => (h.pending other (List.mem_cons_of_mem _ hmem)).later hlater,
      h.excused.later hlater⟩
  have hself : ((broker.setView number { broker.objects number with
      closed := true, lock := some call }).objects number).lock = some call := by
    simp [setView]
  rw [Broker.enter]
  cases hrunning : broker.running number with
  | none =>
      have hlive := not_live_of_running h.inv hrunning
      exact hready.takeProvider hself hdropped hlive hnext
  | some found =>
      obtain ⟨operation, task⟩ := found
      obtain ⟨hoperation, htask, hdone⟩ := running_eq_some hrunning
      have hstops : broker.Stops call number := by
        rcases hmay with hnone | hstops
        · rw [hoperation] at hnone
          cases hnone
        · exact hstops
      have hview : task.view = number := by
        obtain ⟨found, hfound, hview, -⟩ := h.inv.current number operation hoperation
        rw [htask] at hfound
        cases hfound
        exact hview
      refine hready.join hself hdropped htask hview ?_ (hlater.stops call number hstops)
      simpa [setView] using hoperation

theorem Ready.wait (h : Ready thorough call outcome (number :: rest) [] (number :: rest) broker)
    (hbusy : (broker.objects number).lock ≠ none ∨ 0 < (broker.objects number).waiters) :
    Inv thorough [] [] ((broker.setView number { broker.objects number with
      waiters := (broker.objects number).waiters + 1 }).setPhase call
        (.locking number rest outcome)) := by
  have hcovered : broker.Covered number := (h.inv.busy number hbusy).resolve_left List.not_mem_nil
  have hwaiting : broker.setView number { broker.objects number with
      waiters := (broker.objects number).waiters + 1 } = _ :=
    setView_eq_relock number (broker.objects number).closed (broker.objects number).lock
      ((broker.objects number).waiters + 1) broker
  have hlock : ∀ other view, other ≠ call → (broker.objects view).lock = some other →
      update (fun view => (broker.objects view).lock) number
        (broker.objects number).lock view = some other := by
    intro other view _ hview
    rwa [update_eq_self number fun view => (broker.objects view).lock]
  have hlater : Later call broker (broker.setView number { broker.objects number with
      waiters := (broker.objects number).waiters + 1 }) := by
    rw [hwaiting]
    exact later_relock hlock
  have hinv : Inv thorough (number :: rest) [] (broker.setView number { broker.objects number with
      waiters := (broker.objects number).waiters + 1 }) := by
    rw [hwaiting]
    refine h.inv.relock h.running (fun other hclosed => ?_) (fun other hclosed => .inl ?_) hlock
      (fun other hother => .inr ?_)
    · rwa [update_eq_self number fun view => (broker.objects view).closed]
    · rwa [update_eq_self number fun view => (broker.objects view).closed] at hclosed
    by_cases heq : other = number
    · rw [heq]
      exact hcovered
    · rw [update_of_ne heq, update_of_ne heq] at hother
      exact (h.inv.busy other hother).resolve_left List.not_mem_nil
  have hmoved : Later call broker ((broker.setView number { broker.objects number with
      waiters := (broker.objects number).waiters + 1 }).setPhase call
        (.locking number rest outcome)) :=
    hlater.trans (later_setPhase _ _)
  refine hinv.arrive h.running h.unflagged ⟨nofun, nofun⟩ ?_ nofun fun other hmem => ?_
  · exact ⟨(h.pending number List.mem_cons_self).later hmoved,
      fun other hmem => (h.pending other (List.mem_cons_of_mem _ hmem)).later hmoved,
      h.excused.later hmoved⟩
  rcases List.mem_cons.mp hmem with rfl | hrest
  · have hwaited := hcovered.later hlater rfl
    exact .inl (hwaited.move h.running _)
  · exact .inr hrest

theorem Ready.disposeAll {views : List ℕ} (h : Ready thorough call outcome views [] views broker) :
    Inv thorough [] [] (disposeAll call outcome views broker) := by
  induction views generalizing broker with
  | nil => exact h.finish
  | cons number rest ih =>
      rw [Broker.disposeAll]
      split_ifs with hbusy
      · refine h.wait ?_
        simpa [Option.isSome_iff_ne_none] using hbusy
      refine h.enter ?_ fun later hlater => ih hlater
      simp only [Bool.or_eq_true, not_or, Bool.not_eq_true, Option.isSome_eq_false_iff,
        Option.isNone_iff_eq_none] at hbusy
      exact hbusy.1

end Broker

end K5Vision.Analytics.Views
