import K5Vision.Presentation.PresentationController

/-!
# What the controller keeps

Runs whose steps are `orderly` are those in which a call that records a verdict does not write over
another one, a caller is not cancelled where `stop` or `wait` take it for the end of the task, and
`stop` is not called behind a verdict while the session is still at work.  In such runs a `stop` or
`close` that has returned has left nothing behind, a verdict only changes to `closed`, and whoever
was cancelled ends so (`controller_safe`).

A step of a call or of the task does to the controller what `Next` says, and that keeps what the
other calls know of it (`Call.Sound.next`).
-/

namespace K5Vision.Presentation.Controller

open Library

variable {κ : Type}

/-! ## The condition -/

/-- The controller is still running, or already in the state that is to be recorded. -/
def Undecided (verdict : ControllerState) (c : Control κ) : Prop :=
  c.state = .running ∨ c.state = verdict

/-- What a call records when `session.close()` does not suspend. -/
def ClosesOrderly (purpose : Purpose) (around : Around) (c : Control κ) : Prop :=
  c.runLock = none →
    (c.session = .running → Undecided .failed c) ∧
      (c.session ≠ .running → around.busy = false ∨ c.session = .created →
        purpose = .close ∨ Undecided .stopped c)

/-- `stop` is not called behind a verdict while the session is at work, nor `close` where it would
record another one. -/
def BeginsOrderly (around : Around) (c : Control κ) : Method → Prop
  | .stop => c.state ≠ .created → c.state ≠ .running → c.task.isOver ∧ c.released
  | .close => c.state ≠ .running → c.state ≠ .closed → ClosesOrderly .close around c
  | _ => True

/-- An await of a call ends where the call takes it for what it is, and records no other verdict. -/
def ResumesOrderly (around : Around) (c : Control κ) : CallPhase → Answer → Prop
  | .waiting, .arrived => (∃ error, c.task = .ended (.failed error)) → Undecided .failed c
  | .waiting, .cancelled => c.task ≠ .ended .cancelled
  | .stopping purpose, .arrived =>
      ((∃ error, c.task = .ended (.failed error)) → Undecided .failed c) ∧
        ((∀ error, c.task ≠ .ended (.failed error)) → ClosesOrderly purpose around c)
  | .stopping _, .cancelled => False
  | .stopping _, .timedOut => Undecided .failed c
  | .acquiring purpose, .arrived => ClosesOrderly purpose around c
  | .acquiring _, .timedOut => Undecided .failed c
  | .releasing purpose, .arrived => purpose = .close ∨ Undecided .stopped c
  | .releasing _, .raised => Undecided .failed c
  | .releasing _, .timedOut => Undecided .failed c
  | _, _ => True

/-- The steps that do what the callers may expect. -/
def orderly (s : System κ) : Event κ → Prop
  | .call k around => BeginsOrderly around s.control (s.calls k).method
  | .resume k answer around => ResumesOrderly around s.control (s.calls k).phase answer
  | _ => True

/-! ## What is to hold -/

/-- A verdict only changes to `closed`, and `closed` does not change. -/
def Settles (before after : ControllerState) : Prop :=
  (before = .complete ∨ before = .stopped ∨ before = .failed →
    after = before ∨ after = .closed) ∧ (before = .closed → after = .closed)

structure ControllerSafe (s : System κ) : Prop where
  /-- Behind a `stop` or `close` that has returned, the task has ended and the consumers are let
  go. -/
  released : ∀ k snapshot, (s.calls k).method = .stop ∨ (s.calls k).method = .close →
    (s.calls k).phase = .ended (.returned snapshot) →
      s.control.task.isOver ∧ s.control.released
  /-- Only a session that completed is reported as complete. -/
  complete : s.control.state = .complete →
    s.control.task = .ended .returned ∧ s.control.session = .complete
  reported : ∀ k snapshot, (s.calls k).phase = .ended (.returned snapshot) →
    snapshot.state = .complete →
      s.control.task = .ended .returned ∧ s.control.session = .complete
  /-- Whoever was cancelled ends as cancelled. -/
  cancelled : ∀ k callEnd, (s.calls k).interrupted → (s.calls k).phase = .ended callEnd →
    callEnd = .cancelled

/-! ## The invariant -/

/-- `run` is at work. -/
def TaskPhase.isWorking : TaskPhase → Bool
  | .presenting => true
  | .releasing _ => true
  | _ => false

theorem TaskPhase.isOver_of {task : TaskPhase} (hfresh : task.isFresh = false)
    (hworking : task.isWorking = false) : task.isOver = true := by
  cases task <;> simp_all [isFresh, isWorking, isOver]

structure Control.Sound (c : Control κ) : Prop where
  unused : c.state = .created → c.task = .absent ∧ c.session = .created
  fresh : c.task.isFresh → c.state = .running ∧ c.session = .created ∧ c.hasTask
  idle : c.session = .created → c.runLock = none
  working : c.task.isWorking → c.runLock = some .run ∧ c.session = .running
  held : ∀ k, c.runLock = some (.call k) → c.session ≠ .running
  complete : c.state = .complete → c.task = .ended .returned
  completed : c.task = .ended .returned → c.session = .complete
  closed : c.state = .closed → c.task.isOver ∧ c.released
  pending : c.hasTask → Undecided .failed c

def Call.Sound (c : Control κ) (k : κ) (call : Call) : Prop :=
  match call.phase with
  | .idle => call.interrupted = false
  | .waiting => call.interrupted = false ∧ c.state ≠ .created ∧ call.method = .wait
  | .stopping _ => call.interrupted = false ∧ c.state ≠ .created
  | .acquiring _ => call.interrupted = false ∧ c.state ≠ .created ∧ c.session ≠ .created
  | .releasing _ => call.interrupted = false ∧ c.state ≠ .created ∧ c.session ≠ .created ∧
      c.runLock = some (.call k)
  | .ended (.returned snapshot) => call.interrupted = false ∧ c.state ≠ .created ∧
      (call.method = .stop ∨ call.method = .close → c.task.isOver ∧ c.released) ∧
        (snapshot.state = .complete → c.task = .ended .returned)
  | .ended .cancelled => True
  | .ended _ => call.interrupted = false

/-- What a step does to the controller, of the call `actor` or of the task. -/
structure Next (actor : Option κ) (before after : Control κ) : Prop where
  used : before.state ≠ .created → after.state ≠ .created
  session : before.session ≠ .created → after.session ≠ .created
  ended : before.state ≠ .created → before.task.isOver → after.task = before.task
  released : before.released → after.released
  lock : ∀ k, actor ≠ some k → before.runLock = some (.call k) → after.runLock = some (.call k)
  settles : Settles before.state after.state

theorem Settles.refl (state : ControllerState) : Settles state state := ⟨fun _ => .inl rfl, id⟩

theorem Settles.trans {first second third : ControllerState} (hfirst : Settles first second)
    (hsecond : Settles second third) : Settles first third := by
  refine ⟨?_, fun h => hsecond.2 (hfirst.2 h)⟩
  intro hverdict
  rcases hfirst.1 hverdict with rfl | rfl
  · exact hsecond.1 hverdict
  · exact .inr (hsecond.2 rfl)

theorem Undecided.settles {verdict : ControllerState} {c : Control κ} (h : Undecided verdict c) :
    Settles c.state verdict := by
  rcases h with hrunning | hsame
  · simp [Settles, hrunning]
  · rw [hsame]
    exact .refl verdict

theorem settles_closed (state : ControllerState) : Settles state .closed :=
  ⟨fun _ => .inr rfl, fun _ => rfl⟩

theorem Next.refl (actor : Option κ) (c : Control κ) : Next actor c c :=
  ⟨id, id, fun _ _ => rfl, id, fun _ _ => id, .refl _⟩

theorem Next.trans {actor : Option κ} {first second third : Control κ}
    (hfirst : Next actor first second) (hsecond : Next actor second third) :
    Next actor first third where
  used h := hsecond.used (hfirst.used h)
  session h := hsecond.session (hfirst.session h)
  ended hused hover := by
    have hsame := hfirst.ended hused hover
    rw [hsecond.ended (hfirst.used hused) (hsame ▸ hover), hsame]
  released h := hsecond.released (hfirst.released h)
  lock k hactor h := hsecond.lock k hactor (hfirst.lock k hactor h)
  settles := hfirst.settles.trans hsecond.settles

theorem Call.Sound.next {before after : Control κ} {actor : Option κ} {k : κ} {call : Call}
    (h : call.Sound before k) (hnext : Next actor before after) (hactor : actor ≠ some k) :
    call.Sound after k := by
  obtain ⟨method, phase, interrupted⟩ := call
  cases phase with
  | idle => exact h
  | waiting => exact ⟨h.1, hnext.used h.2.1, h.2.2⟩
  | stopping purpose => exact ⟨h.1, hnext.used h.2⟩
  | acquiring purpose => exact ⟨h.1, hnext.used h.2.1, hnext.session h.2.2⟩
  | releasing purpose =>
      exact ⟨h.1, hnext.used h.2.1, hnext.session h.2.2.1, hnext.lock k hactor h.2.2.2⟩
  | ended callEnd =>
      cases callEnd with
      | returned snapshot =>
          obtain ⟨hinterrupted, hused, hover, hcomplete⟩ := h
          refine ⟨hinterrupted, hnext.used hused, ?_, ?_⟩
          · intro hmethod
            obtain ⟨htask, hreleased⟩ := hover hmethod
            rw [hnext.ended hused htask]
            exact ⟨htask, hnext.released hreleased⟩
          · intro hsnapshot
            have htask := hcomplete hsnapshot
            rw [hnext.ended hused (by rw [htask]; rfl), htask]
      | raised error => exact h
      | broken => exact h
      | cancelled => trivial

structure Keeps (k : κ) (c : Control κ) (turn : Turn κ) : Prop where
  sound : turn.1.Sound
  next : Next (some k) c turn.1
  call : turn.2.Sound turn.1 k

theorem Keeps.of_next {k : κ} {before c : Control κ} {turn : Turn κ}
    (hnext : Next (some k) before c) (h : Keeps k c turn) : Keeps k before turn :=
  ⟨h.sound, hnext.trans h.next, h.call⟩

section Turns

variable {k : κ} {c : Control κ} {call : Call} {around : Around}

theorem keeps_same (hc : c.Sound) (hcall : call.Sound c k) : Keeps k c (c, call) :=
  ⟨hc, .refl _ c, hcall⟩

theorem sound_failed {hasTask : Bool} (hc : c.Sound) (hfresh : c.task.isFresh = false) :
    Control.Sound { c with state := .failed, hasTask := hasTask } where
  unused h := by cases h
  fresh h := by
    rw [show c.task.isFresh = true from h] at hfresh
    cases hfresh
  __ := hc
  complete h := by cases h
  closed h := by cases h
  pending _ := .inr rfl

theorem keeps_fail {hasTask : Bool} {code : ControllerErrorCode} {message : String}
    (hc : c.Sound) (hfresh : c.task.isFresh = false) (hverdict : Undecided .failed c)
    (hcall : call.interrupted = false) :
    Keeps k c (call.raise code message { c with state := .failed, hasTask := hasTask }) :=
  ⟨sound_failed hc hfresh,
    ⟨fun _ => nofun, id, fun _ _ => rfl, id, fun _ _ => id, hverdict.settles⟩, hcall⟩

theorem keeps_cancel (hc : c.Sound) : Keeps k c (call.cancel c) := ⟨hc, .refl _ c, trivial⟩

theorem keeps_raise {code : ControllerErrorCode} {message : String} (hc : c.Sound)
    (hcall : call.interrupted = false) : Keeps k c (call.raise code message c) :=
  ⟨hc, .refl _ c, hcall⟩

theorem TaskPhase.isFresh_of_isOver {task : TaskPhase} (h : task.isOver) :
    task.isFresh = false := by
  cases task <;> simp_all [isFresh, isOver]

theorem TaskPhase.isWorking_of_isOver {task : TaskPhase} (h : task.isOver) :
    task.isWorking = false := by
  cases task <;> simp_all [isWorking, isOver]

/-- What `session.close()` and a verdict behind it make of a controller. -/
structure Decided (k : κ) (before after : Control κ) : Prop where
  sound : after.Sound
  next : Next (some k) before after
  used : after.state ≠ .created
  ended : after.task.isOver
  released : after.released
  free : after.runLock = none
  session : after.session ≠ .created ∧ after.session ≠ .running

theorem decided_release {verdict : ControllerState} (seen : Observed) (hc : c.Sound)
    (hover : c.task.isOver) (hlock : c.runLock = none ∨ c.runLock = some (.call k))
    (hsession : c.session ≠ .running)
    (hverdict : verdict = .closed ∨ verdict = .stopped ∧ Undecided .stopped c) :
    Decided k c ((c.release seen).decide verdict) where
  sound :=
    { unused := by
        intro h
        rcases hverdict with rfl | ⟨rfl, -⟩ <;> cases h
      fresh := by
        intro h
        have hfresh : c.task.isFresh = false := TaskPhase.isFresh_of_isOver hover
        rw [show c.task.isFresh = true from h] at hfresh
        cases hfresh
      idle := fun _ => rfl
      working := by
        intro h
        have hworking : c.task.isWorking = false := TaskPhase.isWorking_of_isOver hover
        rw [show c.task.isWorking = true from h] at hworking
        cases hworking
      held := nofun
      complete := by
        intro h
        rcases hverdict with rfl | ⟨rfl, -⟩ <;> cases h
      completed := by
        intro h
        have hcomplete := hc.completed h
        simp [Control.release, Control.decide, hcomplete]
      closed := fun _ => ⟨hover, rfl⟩
      pending := nofun }
  next :=
    { used := by
        intro _ h
        rcases hverdict with rfl | ⟨rfl, -⟩ <;> cases h
      session := by
        intro hne
        simp [Control.release, Control.decide, hne]
      ended := fun _ _ => rfl
      released := fun _ => rfl
      lock := by
        intro other hother hheld
        rcases hlock with hnone | hself
        · rw [hnone] at hheld
          cases hheld
        · rw [hself] at hheld
          cases hheld
          exact absurd rfl hother
      settles := by
        rcases hverdict with rfl | ⟨rfl, hundecided⟩
        · exact settles_closed c.state
        · exact hundecided.settles }
  used := by
    intro h
    rcases hverdict with rfl | ⟨rfl, -⟩ <;> cases h
  ended := hover
  released := rfl
  free := rfl
  session := by
    by_cases hcreated : c.session = .created
    · simp [Control.release, Control.decide, hcreated]
    · simp [Control.release, Control.decide, hcreated, hsession]

theorem Decided.keeps {after : Control κ} (h : Decided k c after)
    (hsnapshot : after.state ≠ .complete) (hcall : call.interrupted = false) :
    Keeps k c (call.giveSnapshot after) :=
  ⟨h.sound, h.next, hcall, h.used, fun _ => ⟨h.ended, h.released⟩, fun hcomplete =>
    absurd hcomplete hsnapshot⟩

variable {purpose : Purpose}

theorem keeps_take (hc : c.Sound) (hfree : c.runLock = none) (hover : c.task.isOver)
    (hused : c.state ≠ .created) (hsession : c.session ≠ .created ∧ c.session ≠ .running)
    (hcall : call.interrupted = false) :
    Keeps k c
      ({ c with runLock := some (.call k) }, { call with phase := .releasing purpose }) where
  sound :=
    { unused := fun h => absurd h hused
      fresh := hc.fresh
      idle := fun h => absurd h hsession.1
      working := by
        intro h
        have hworking : c.task.isWorking = false := TaskPhase.isWorking_of_isOver hover
        rw [show c.task.isWorking = true from h] at hworking
        cases hworking
      held := fun _ _ => hsession.2
      complete := hc.complete
      completed := hc.completed
      closed := hc.closed
      pending := hc.pending }
  next :=
    { used := id
      session := id
      ended := fun _ _ => rfl
      released := id
      lock := by
        intro other _ hheld
        rw [hfree] at hheld
        cases hheld
      settles := .refl _ }
  call := ⟨hcall, hused, hsession.1, rfl⟩

/-- The second `session.close()` of a `close` that has stopped its controller. -/
theorem Decided.keeps_close {after : Control κ} (h : Decided k c after)
    (hcall : call.interrupted = false) :
    Keeps k c (call.closeSession (fun c call => call.giveSnapshot (c.decide .closed)) .close k
      around after) := by
  refine Keeps.of_next h.next ?_
  unfold Call.closeSession
  rw [h.free, if_neg (by simp), if_neg h.session.2]
  split
  · exact keeps_take h.sound h.free h.ended h.used h.session hcall
  · exact (decided_release around.seen h.sound h.ended (.inl h.free) h.session.2 (.inl rfl)).keeps
      (by simp [Control.decide]) hcall

theorem keeps_finish (hc : c.Sound) (hover : c.task.isOver)
    (hlock : c.runLock = none ∨ c.runLock = some (.call k)) (hsession : c.session ≠ .running)
    (hverdict : purpose = .close ∨ Undecided .stopped c) (hcall : call.interrupted = false) :
    Keeps k c (Call.finish k around purpose (c.release around.seen) call) := by
  have hstopped : Undecided .stopped c → Decided k c ((c.release around.seen).decide .stopped) :=
    fun h => decided_release around.seen hc hover hlock hsession (.inr ⟨rfl, h⟩)
  cases purpose with
  | stop =>
      have hundecided := hverdict.resolve_left (by simp)
      exact (hstopped hundecided).keeps (by simp [Control.decide]) hcall
  | stopFirst =>
      have hundecided := hverdict.resolve_left (by simp)
      exact (hstopped hundecided).keeps_close hcall
  | close =>
      exact (decided_release around.seen hc hover hlock hsession (.inl rfl)).keeps
        (by simp [Control.decide]) hcall

theorem keeps_closeSession (hc : c.Sound) (hfresh : c.task.isFresh = false)
    (horderly : ClosesOrderly purpose around c) (hcall : call.interrupted = false) :
    Keeps k c (call.closeSession (Call.finish k around purpose) purpose k around c) := by
  unfold Call.closeSession
  cases hlock : c.runLock with
  | some holder =>
      have hsession : c.session ≠ .created := by
        intro hcreated
        rw [hc.idle hcreated] at hlock
        cases hlock
      have hused : c.state ≠ .created := fun hcreated => hsession (hc.unused hcreated).2
      rw [if_pos Option.isSome_some]
      exact ⟨hc, .refl _ c, hcall, hused, hsession⟩
  | none =>
      obtain ⟨hfailed, hstopped⟩ := horderly hlock
      have hworking : c.task.isWorking = false := by
        cases hworking : c.task.isWorking with
        | false => rfl
        | true =>
            have hheld := (hc.working hworking).1
            rw [hlock] at hheld
            cases hheld
      have hover := TaskPhase.isOver_of hfresh hworking
      rw [if_neg (by simp)]
      split
      · next hrunning => exact keeps_fail hc hfresh (hfailed hrunning) hcall
      next hsession =>
        split
        · next hbusy =>
            simp only [Bool.and_eq_true, decide_eq_true_eq] at hbusy
            have hused : c.state ≠ .created := fun hcreated =>
              hbusy.2 (hc.unused hcreated).2
            exact keeps_take hc hlock hover hused ⟨hbusy.2, hsession⟩ hcall
        · next hfree =>
            refine keeps_finish hc hover (.inl hlock) hsession (hstopped hsession ?_) hcall
            by_cases hcreated : c.session = .created
            · exact .inr hcreated
            · simpa [hcreated] using hfree

/-! ## The calls -/

theorem keeps_start {streams : List Mixed.Stream} (hc : c.Sound)
    (hmethod : call.method = .start streams) (hcall : call.interrupted = false) :
    Keeps k c (call.start streams around c) := by
  unfold Call.start
  split
  · exact keeps_raise hc hcall
  next hcreated =>
    rw [not_not] at hcreated
    obtain ⟨htask, hsession⟩ := hc.unused hcreated
    have hlock := hc.idle hsession
    have hheld : ∀ other : κ, c.runLock = some (.call other) → c.session ≠ .running := by
      simp [hlock]
    have hsettles : Settles c.state .running := by simp [Settles, hcreated]
    have hover : c.state ≠ .created → c.task.isOver → TaskPhase.created streams = c.task :=
      fun hused => absurd hcreated hused
    split
    · refine ⟨?_, ⟨fun _ => nofun, id, fun _ _ => rfl, id, fun _ _ => id, hsettles⟩, hcall⟩
      exact ⟨nofun, by simp [htask, TaskPhase.isFresh], fun _ => hlock,
        by simp [htask, TaskPhase.isWorking], hheld, nofun, by simp [htask], nofun,
        fun _ => .inl rfl⟩
    · refine ⟨⟨nofun, fun _ => ⟨rfl, hsession, rfl⟩, fun _ => hlock, nofun, hheld, nofun, nofun,
          nofun, fun _ => .inl rfl⟩,
        ⟨fun _ => nofun, id, hover, id, fun _ _ => id, hsettles⟩, hcall, nofun, ?_, nofun⟩
      simp [Call.giveSnapshot, hmethod]

variable {taskEnd : TaskEnd}

theorem sound_settled {verdict : ControllerState} (hc : c.Sound) (htask : c.task = .ended taskEnd)
    (hverdict : verdict = c.state ∨ verdict = .stopped ∨
      verdict = .complete ∧ taskEnd = .returned) (hused : c.state ≠ .created) :
    (c.decide verdict).Sound where
  unused := by
    intro h
    have hcreated : verdict = .created := h
    rcases hverdict with rfl | rfl | ⟨rfl, -⟩
    · exact absurd hcreated hused
    · cases hcreated
    · cases hcreated
  fresh := by
    intro h
    rw [show (c.decide verdict).task = .ended taskEnd from htask] at h
    cases h
  __ := hc
  complete := by
    intro h
    have hcomplete : verdict = .complete := h
    rcases hverdict with rfl | rfl | ⟨-, rfl⟩
    · exact hc.complete hcomplete
    · cases hcomplete
    · exact htask
  closed := by
    intro h
    have hclosed : verdict = .closed := h
    rcases hverdict with rfl | rfl | ⟨rfl, -⟩
    · exact hc.closed hclosed
    · cases hclosed
    · cases hclosed
  pending := nofun

theorem keeps_settle (hc : c.Sound) (hused : c.state ≠ .created) (htask : c.task = .ended taskEnd)
    (hmethod : call.method = .wait)
    (hfailed : (∃ error, taskEnd = .failed error) → Undecided .failed c)
    (hcall : call.interrupted = false) : Keeps k c (call.settle taskEnd c) := by
  have hgive : ∀ verdict, verdict ≠ .created → Settles c.state verdict →
      (verdict = .complete → taskEnd = .returned) → (c.decide verdict).Sound →
        Keeps k c (call.giveSnapshot (c.decide verdict)) := by
    intro verdict hverdict hsettles hcomplete hsound
    refine ⟨hsound, ⟨fun _ => hverdict, id, fun _ _ => rfl, id, fun _ _ => id, hsettles⟩, hcall,
      hverdict, ?_, ?_⟩
    · simp [Call.giveSnapshot, hmethod]
    · intro hstate
      show c.task = _
      rw [htask, hcomplete hstate]
  cases taskEnd with
  | returned =>
      by_cases hrunning : c.state = .running
      · simp only [Call.settle, hrunning, if_true]
        exact hgive .complete (by simp) (by simp [Settles, hrunning]) (fun _ => rfl)
          (sound_settled hc htask (.inr (.inr ⟨rfl, rfl⟩)) hused)
      · simp only [Call.settle, hrunning, if_false]
        exact hgive c.state hused (.refl _) (fun _ => rfl) (sound_settled hc htask (.inl rfl) hused)
  | cancelled =>
      by_cases hrunning : c.state = .running
      · simp only [Call.settle, hrunning, if_true]
        exact hgive .stopped (by simp) (by simp [Settles, hrunning]) (by simp)
          (sound_settled hc htask (.inr (.inl rfl)) hused)
      simp only [Call.settle, hrunning, if_false]
      refine hgive c.state hused (.refl _) ?_ (sound_settled hc htask (.inl rfl) hused)
      intro hcomplete
      have hreturned := hc.complete hcomplete
      rw [htask] at hreturned
      cases hreturned
  | failed error =>
      exact keeps_fail hc (by rw [htask]; rfl) (hfailed ⟨error, rfl⟩) hcall

theorem keeps_wait (hc : c.Sound) (hmethod : call.method = .wait)
    (hcall : call.interrupted = false) : Keeps k c (call.wait c) := by
  unfold Call.wait
  split
  · exact keeps_raise hc hcall
  next hused =>
    split
    · refine ⟨hc, .refl _ c, hcall, hused, ?_, hc.complete⟩
      simp [Call.giveSnapshot, hmethod]
    next htaken =>
      split
      · next taskEnd htask =>
          have hpending := hc.pending (by simpa using htaken)
          exact keeps_settle hc hused htask hmethod (fun _ => hpending) hcall
      · exact ⟨hc, .refl _ c, hcall, hused, hmethod⟩

theorem keeps_stopped (hc : c.Sound) (htask : c.task = .ended taskEnd)
    (hfailed : (∃ error, taskEnd = .failed error) → Undecided .failed c)
    (horderly : (∀ error, taskEnd ≠ .failed error) → ClosesOrderly purpose around c)
    (hcall : call.interrupted = false) : Keeps k c (call.stopped purpose taskEnd k around c) := by
  have hfresh : c.task.isFresh = false := by
    rw [htask]
    rfl
  cases taskEnd with
  | returned => exact keeps_closeSession hc hfresh (horderly (by simp)) hcall
  | cancelled => exact keeps_closeSession hc hfresh (horderly (by simp)) hcall
  | failed error => exact keeps_fail hc hfresh (hfailed ⟨error, rfl⟩) hcall

theorem closesOrderly_of_running (h : c.state = .running) : ClosesOrderly purpose around c :=
  fun _ => ⟨fun _ => .inl h, fun _ _ => .inr (.inl h)⟩

theorem keeps_stopTask (hc : c.Sound) (hrunning : c.state = .running)
    (hcall : call.interrupted = false) : Keeps k c (call.stopTask purpose k around c) := by
  have hused : c.state ≠ .created := by
    rw [hrunning]
    nofun
  unfold Call.stopTask
  split
  · next htask =>
      have hfresh : c.task.isFresh = false := by
        cases hfresh : c.task.isFresh with
        | false => rfl
        | true => simp [(hc.fresh hfresh).2.2] at htask
      exact keeps_fail hc hfresh (.inl hrunning) hcall
  · split
    · next taskEnd htask =>
        exact keeps_stopped hc htask (fun _ => .inl hrunning)
          (fun _ => closesOrderly_of_running hrunning) hcall
    · exact ⟨hc, .refl _ c, hcall, hused⟩

theorem keeps_stop (hc : c.Sound)
    (horderly : c.state ≠ .created → c.state ≠ .running → c.task.isOver ∧ c.released)
    (hcall : call.interrupted = false) : Keeps k c (call.stop k around c) := by
  unfold Call.stop
  split
  · exact keeps_raise hc hcall
  next hused =>
    split
    · next hdecided =>
        exact ⟨hc, .refl _ c, hcall, hused, fun _ => horderly hused hdecided, hc.complete⟩
    · next hrunning => exact keeps_stopTask hc (not_not.mp hrunning) hcall

theorem keeps_close (hc : c.Sound)
    (horderly : c.state ≠ .running → c.state ≠ .closed → ClosesOrderly .close around c)
    (hcall : call.interrupted = false) : Keeps k c (call.close k around c) := by
  unfold Call.close
  split
  · next hclosed =>
      have hused : c.state ≠ .created := by
        rw [hclosed]
        nofun
      exact ⟨hc, .refl _ c, hcall, hused, fun _ => hc.closed hclosed, hc.complete⟩
  next hopen =>
    split
    · next hrunning => exact keeps_stopTask hc hrunning hcall
    next hrunning =>
      have hfresh : c.task.isFresh = false := by
        cases hfresh : c.task.isFresh with
        | false => rfl
        | true => exact absurd (hc.fresh hfresh).1 hrunning
      exact keeps_closeSession hc hfresh (horderly hrunning hopen) hcall

/-- While a call has the session's lock, nothing of the session is at work. -/
theorem over_of_held (hc : c.Sound) (hsession : c.session ≠ .created)
    (hlock : c.runLock = some (.call k)) : c.task.isOver := by
  refine TaskPhase.isOver_of ?_ ?_
  · cases hfresh : c.task.isFresh with
    | false => rfl
    | true => exact absurd (hc.fresh hfresh).2.1 hsession
  cases hworking : c.task.isWorking with
  | false => rfl
  | true =>
      have hheld := (hc.working hworking).1
      rw [hlock] at hheld
      cases hheld

theorem sound_leave {seen : Observed} (hc : c.Sound) (hover : c.task.isOver) :
    (c.leave seen).Sound where
  __ := hc
  idle _ := rfl
  working h := by
    have hworking : c.task.isWorking = false := TaskPhase.isWorking_of_isOver hover
    rw [show c.task.isWorking = true from h] at hworking
    cases hworking
  held := nofun

theorem next_leave {seen : Observed} (hlock : c.runLock = some (.call k)) :
    Next (some k) c (c.leave seen) := by
  refine ⟨id, id, fun _ _ => rfl, id, ?_, .refl _⟩
  intro other hother hheld
  rw [hlock] at hheld
  cases hheld
  exact absurd rfl hother

end Turns

/-! ## The runs -/

structure Inv (s : System κ) : Prop where
  control : s.control.Sound
  calls : ∀ k, (s.calls k).Sound s.control k

structure Follows (s next : System κ) : Prop where
  inv : Inv next
  settles : Settles s.control.state next.control.state

variable {call : Call} {c : Control κ} {k : κ}

theorem keeps_begin {around : Around} (hc : c.Sound) (hcall : call.interrupted = false)
    (horderly : BeginsOrderly around c call.method) : Keeps k c (call.begin k around c) := by
  unfold Call.begin
  cases hmethod : call.method with
  | start streams => exact keeps_start hc hmethod hcall
  | wait => exact keeps_wait hc hmethod hcall
  | stop =>
      rw [hmethod] at horderly
      exact keeps_stop hc horderly hcall
  | close =>
      rw [hmethod] at horderly
      exact keeps_close hc horderly hcall

/-- A call that awaits the task goes on behind its first step. -/
def ResumesPossibly (c : Control κ) : CallPhase → Prop
  | .waiting | .stopping _ => c.task.isFresh = false
  | _ => True

theorem keeps_resume {answer : Answer} {around : Around} (hc : c.Sound) (hcall : call.Sound c k)
    (hpossible : ResumesPossibly c call.phase)
    (horderly : ResumesOrderly around c call.phase answer) :
    Keeps k c (call.resume k answer around c) := by
  have hsame := keeps_same hc hcall
  obtain ⟨method, phase, interrupted⟩ := call
  cases phase with
  | idle => exact hsame
  | ended callEnd => exact hsame
  | waiting =>
      obtain ⟨hinterrupted, hused, hmethod⟩ := hcall
      cases answer with
      | arrived =>
          simp only [Call.resume]
          split
          · next taskEnd htask =>
              refine keeps_settle hc hused htask hmethod ?_ hinterrupted
              rintro ⟨error, rfl⟩
              exact horderly ⟨error, htask⟩
          · exact hsame
      | cancelled =>
          simp only [Call.resume]
          rw [if_neg horderly]
          exact keeps_cancel hc
      | raised => exact hsame
      | timedOut => exact hsame
  | stopping purpose =>
      obtain ⟨hinterrupted, hused⟩ := hcall
      cases answer with
      | arrived =>
          simp only [Call.resume]
          split
          · next taskEnd htask =>
              refine keeps_stopped hc htask ?_ ?_ hinterrupted
              · rintro ⟨error, rfl⟩
                exact horderly.1 ⟨error, htask⟩
              intro hne
              refine horderly.2 fun error hfailed => hne error ?_
              rw [htask] at hfailed
              exact TaskPhase.ended.inj hfailed
          · exact hsame
      | cancelled => exact horderly.elim
      | raised => exact hsame
      | timedOut => exact keeps_fail hc hpossible horderly hinterrupted
  | acquiring purpose =>
      obtain ⟨hinterrupted, hused, hsession⟩ := hcall
      have hfresh : c.task.isFresh = false := by
        cases hfresh : c.task.isFresh with
        | false => rfl
        | true => exact absurd (hc.fresh hfresh).2.1 hsession
      cases answer with
      | arrived =>
          simp only [Call.resume]
          split
          · exact hsame
          · exact keeps_closeSession hc hfresh horderly hinterrupted
      | cancelled => exact keeps_cancel hc
      | raised => exact hsame
      | timedOut => exact keeps_fail hc hfresh horderly hinterrupted
  | releasing purpose =>
      obtain ⟨hinterrupted, hused, hsession, hlock⟩ := hcall
      have hover := over_of_held hc hsession hlock
      have hfresh : c.task.isFresh = false := TaskPhase.isFresh_of_isOver hover
      have hleave : (c.leave around.seen).Sound := sound_leave hc hover
      have hnext : Next (some k) c (c.leave around.seen) := next_leave hlock
      cases answer with
      | arrived => exact keeps_finish hc hover (.inr hlock) (hc.held k hlock) horderly hinterrupted
      | cancelled => exact Keeps.of_next hnext (keeps_cancel hleave)
      | raised => exact Keeps.of_next hnext (keeps_fail hleave hfresh horderly hinterrupted)
      | timedOut => exact Keeps.of_next hnext (keeps_fail hleave hfresh horderly hinterrupted)

/-! ## The session's task -/

theorem next_of_task {before after : Control κ} (hover : before.task.isOver = false)
    (hlock : ∀ k, before.runLock ≠ some (.call k)) (hstate : after.state = before.state)
    (hsession : before.session ≠ .created → after.session ≠ .created)
    (hreleased : before.released → after.released) : Next none before after where
  used h := by rwa [hstate]
  session := hsession
  ended _ h := by
    rw [hover] at h
    cases h
  released := hreleased
  lock k _ hheld := absurd hheld (hlock k)
  settles := by
    rw [hstate]
    exact .refl _

theorem keeps_beginTask (cancelled : Bool) (hc : c.Sound) :
    (c.beginTask cancelled).Sound ∧ Next none c (c.beginTask cancelled) := by
  unfold Control.beginTask
  split
  · next streams htask =>
      obtain ⟨hrunning, hsession, -⟩ := hc.fresh (by rw [htask]; rfl)
      have hlock := hc.idle hsession
      have hover : c.task.isOver = false := by
        rw [htask]
        rfl
      have hcalls : ∀ k, c.runLock ≠ some (.call k) := by simp [hlock]
      split
      · refine ⟨⟨?_, nofun, fun _ => hlock, nofun, ?_, ?_, nofun, ?_, hc.pending⟩,
          next_of_task hover hcalls rfl id id⟩
        · simp [hrunning]
        · simp [hlock]
        · simp [hrunning]
        · simp [hrunning]
      · rw [hlock, if_neg (by simp), if_neg (by simp [hsession])]
        refine ⟨⟨?_, nofun, nofun, fun _ => ⟨rfl, rfl⟩, nofun, ?_, nofun, ?_, hc.pending⟩,
          next_of_task hover hcalls rfl (fun _ => nofun) id⟩
        · simp [hrunning]
        · simp [hrunning]
        · simp [hrunning]
  · exact ⟨hc, .refl _ c⟩

theorem Control.Sound.of_working (hc : c.Sound) (h : c.task.isWorking) :
    c.runLock = some .run ∧ c.session = .running ∧ c.task.isOver = false ∧ c.state ≠ .created ∧
      c.state ≠ .complete ∧ c.state ≠ .closed := by
  have hover : c.task.isOver = false := by
    cases hover : c.task.isOver with
    | false => rfl
    | true =>
        rw [TaskPhase.isWorking_of_isOver hover] at h
        cases h
  obtain ⟨hlock, hsession⟩ := hc.working h
  refine ⟨hlock, hsession, hover, ?_, ?_, ?_⟩
  · intro hcreated
    rw [(hc.unused hcreated).2] at hsession
    cases hsession
  · intro hcomplete
    rw [hc.complete hcomplete] at h
    cases h
  · intro hclosed
    rw [(hc.closed hclosed).1] at hover
    cases hover

theorem keeps_presented (answer : Presented) (hc : c.Sound) :
    (c.presented answer).Sound ∧ Next none c (c.presented answer) := by
  unfold Control.presented
  split
  · next htask =>
      obtain ⟨hlock, hsession, hover, hused, hcomplete, hclosed⟩ :=
        hc.of_working (by rw [htask]; rfl)
      refine ⟨⟨fun h => absurd h hused, nofun, ?_, fun _ => ⟨hlock, hsession⟩, ?_,
        fun h => absurd h hcomplete, nofun, fun h => absurd h hclosed, hc.pending⟩,
        next_of_task hover (by simp [hlock]) rfl id id⟩
      · simp [hsession]
      · simp [hlock]
  · exact ⟨hc, .refl _ c⟩

theorem keeps_endTask {d : Control κ} {session : SessionState} {taskEnd : TaskEnd} (hc : c.Sound)
    (hworking : c.task.isWorking) (hstate : d.state = c.state) (htaken : d.hasTask = c.hasTask)
    (hreleased : c.released → d.released) (hsession : session ≠ .created)
    (hreturned : taskEnd = .returned → session = .complete) :
    (d.endTask session taskEnd).Sound ∧ Next none c (d.endTask session taskEnd) := by
  obtain ⟨hlock, -, hover, hused, hcomplete, hclosed⟩ := hc.of_working hworking
  refine ⟨⟨?_, nofun, fun _ => rfl, nofun, nofun, ?_, ?_, ?_, ?_⟩,
    next_of_task hover (by simp [hlock]) hstate (fun _ => hsession) hreleased⟩
  · intro h
    exact absurd (hstate.symm.trans h) hused
  · intro h
    exact absurd (hstate.symm.trans h) hcomplete
  · intro h
    exact hreturned (TaskPhase.ended.inj h)
  · intro h
    exact absurd (hstate.symm.trans h) hclosed
  intro h
  have hpending := hc.pending (htaken.symm.trans h)
  unfold Undecided at hpending ⊢
  rwa [show (d.endTask session taskEnd).state = c.state from hstate]

theorem keeps_taskReleased (answer : Closing) (seen : Observed) (hc : c.Sound) :
    (c.taskReleased answer seen).Sound ∧ Next none c (c.taskReleased answer seen) := by
  cases htask : c.task with
  | releasing ending =>
      have hworking : c.task.isWorking := by
        rw [htask]
        rfl
      have hsession : c.session ≠ .created := by
        rw [(hc.working hworking).2]
        nofun
      simp only [Control.taskReleased, htask]
      cases ending <;> cases answer <;>
        exact keeps_endTask hc hworking rfl rfl (by simp)
          (by first | exact hsession | simp) (by simp)
  | _ =>
      simp only [Control.taskReleased, htask]
      exact ⟨hc, .refl _ c⟩

/-! ## Whole runs -/

variable {s : System κ}

theorem Inv.turn [DecidableEq κ] {turn : Turn κ} (h : Inv s) (hkeeps : Keeps k s.control turn) :
    Follows s (s.turn k turn) := by
  refine ⟨⟨hkeeps.sound, ?_⟩, hkeeps.next.settles⟩
  intro other
  by_cases hsame : other = k
  · subst hsame
    simpa [System.turn] using hkeeps.call
  · have hothers : some k ≠ some other := fun heq => hsame (Option.some.inj heq).symm
    simpa [System.turn, hsame] using (h.calls other).next hkeeps.next hothers

theorem Inv.task {after : Control κ} (h : Inv s)
    (hkeeps : after.Sound ∧ Next none s.control after) : Follows s { s with control := after } :=
  ⟨⟨hkeeps.1, fun k => (h.calls k).next hkeeps.2 nofun⟩, hkeeps.2.settles⟩

theorem Call.Sound.idle (h : call.Sound c k) (hidle : call.phase = .idle) :
    call.interrupted = false := by
  unfold Call.Sound at h
  rwa [hidle] at h

theorem Inv.step [DecidableEq κ] {event : Event κ} (h : Inv s) (hpossible : possible s event)
    (horderly : orderly s event) : Follows s (s.step event) := by
  cases event with
  | call k around =>
      simp only [System.step]
      split
      · next hidle =>
          exact h.turn (keeps_begin h.control ((h.calls k).idle hidle) horderly)
      · exact ⟨h, .refl _⟩
  | resume k answer around =>
      exact h.turn (keeps_resume h.control (h.calls k) hpossible horderly)
  | beginTask cancelled => exact h.task (keeps_beginTask cancelled h.control)
  | presented answer => exact h.task (keeps_presented answer h.control)
  | taskReleased answer seen => exact h.task (keeps_taskReleased answer seen h.control)

theorem inv_create (viewportCount : ℕ) (methods : κ → Method) :
    Inv (System.create viewportCount methods) where
  control :=
    { unused := fun _ => ⟨rfl, rfl⟩
      fresh := nofun
      idle := fun _ => rfl
      working := nofun
      held := nofun
      complete := nofun
      completed := nofun
      closed := nofun
      pending := nofun }
  calls _ := rfl

theorem Inv.reaches [DecidableEq κ] {t : System κ} {events : List (Event κ)} (h : Inv s)
    (hreaches : (machine orderly).Reaches s events t) : Follows s t := by
  refine hreaches.invariant (fun state event hfollows hadmissible => ?_) ⟨h, .refl _⟩
  have hnext := hfollows.inv.step hadmissible.1 hadmissible.2
  exact ⟨hnext.inv, hfollows.settles.trans hnext.settles⟩

theorem Inv.safe (h : Inv s) : ControllerSafe s where
  released k snapshot hmethod hended := by
    have hcall := h.calls k
    unfold Call.Sound at hcall
    rw [hended] at hcall
    exact hcall.2.2.1 hmethod
  complete hcomplete := by
    have htask := h.control.complete hcomplete
    exact ⟨htask, h.control.completed htask⟩
  reported k snapshot hended hcomplete := by
    have hcall := h.calls k
    unfold Call.Sound at hcall
    rw [hended] at hcall
    have htask := hcall.2.2.2 hcomplete
    exact ⟨htask, h.control.completed htask⟩
  cancelled k callEnd hinterrupted hended := by
    have hcall := h.calls k
    unfold Call.Sound at hcall
    rw [hended] at hcall
    cases callEnd with
    | cancelled => rfl
    | returned snapshot => simp [hcall.1] at hinterrupted
    | raised error => simp [show (s.calls k).interrupted = false from hcall] at hinterrupted
    | broken => simp [show (s.calls k).interrupted = false from hcall] at hinterrupted

/-- In an orderly run the session has ended behind `stop` and `close`, only a session that completed
is reported as complete, whoever was cancelled ends so, and a verdict only changes to `closed`. -/
theorem controller_safe [DecidableEq κ] (viewportCount : ℕ) (methods : κ → Method) {s : System κ}
    {events : List (Event κ)}
    (h : (machine orderly).Reaches (.create viewportCount methods) events s) :
    ControllerSafe s ∧ ∀ (later : List (Event κ)) (t : System κ),
      (machine orderly).Reaches s later t → Settles s.control.state t.control.state := by
  have hfollows := (inv_create viewportCount methods).reaches h
  exact ⟨hfollows.inv.safe, fun _ _ hlater => (hfollows.inv.reaches hlater).settles⟩

/-! ## A session that is stopped -/

def startBoth : Method := .start [⟨0, .live⟩, ⟨1, .playback⟩]

/-- A session whose dispatcher is idle and has delivered nothing. -/
def idleAround : Around where
  seen := ⟨.create, 2, ⟨0, 0, 0⟩⟩
  busy := false
  made := true

def cleaningUp (methods : List Method) : List (Event Method) :=
  [.call startBoth idleAround, .beginTask false] ++ methods.map (.call · idleAround) ++
    [.presented .cancelled]

def cleanedUp (methods : List Method) : List (Event Method) :=
  .taskReleased .closed idleAround.seen :: methods.map (.resume · .arrived idleAround)

/-- The caller of `stop` is cancelled while the session cleans up. -/
def stopCancelled : List (Event Method) :=
  cleaningUp [.stop] ++ .resume .stop .cancelled idleAround :: cleanedUp [.stop]

def after (events : List (Event Method)) : System Method := events.foldl System.step (.create 2 id)

/-- A `close` stops the session and releases it. -/
theorem controller_safe_closed :
    ControllerSafe (after (cleaningUp [.close] ++ cleanedUp [.close])) ∧
      (after (cleaningUp [.close] ++ cleanedUp [.close])).control.state = .closed := by
  have hreaches : (machine orderly).Reaches (.create 2 id)
      (cleaningUp [.close] ++ cleanedUp [.close])
      (after (cleaningUp [.close] ++ cleanedUp [.close])) := by
    refine ⟨⟨trivial, trivial⟩, ⟨trivial, trivial⟩, ⟨trivial, fun h => absurd rfl h⟩,
      ⟨trivial, trivial⟩, ⟨trivial, trivial⟩, ⟨rfl, ?_, ?_⟩, rfl⟩
    · intro
      exact .inl rfl
    · intro
      exact closesOrderly_of_running rfl
  exact ⟨(controller_safe 2 id hreaches).1, rfl⟩

/-- `stop` takes the cancellation of its caller for the end of the task, and returns. -/
theorem stop_returns_cancelled :
    (machine fun _ _ => True).Reaches (.create 2 id) stopCancelled (after stopCancelled) ∧
      ¬ControllerSafe (after stopCancelled) := by
  refine ⟨⟨⟨trivial, trivial⟩, ⟨trivial, trivial⟩, ⟨trivial, trivial⟩, ⟨trivial, trivial⟩,
    ⟨rfl, trivial⟩, ⟨trivial, trivial⟩, ⟨trivial, trivial⟩, rfl⟩, ?_⟩
  intro hsafe
  cases hsafe.cancelled .stop _ rfl rfl

/-- A `stop` that overlaps with a `close` writes over its verdict. -/
example : (after (cleaningUp [.close, .stop] ++ cleanedUp [.close])).control.state = .closed ∧
      (after (cleaningUp [.close, .stop] ++ cleanedUp [.close, .stop])).control.state =
        .stopped :=
  ⟨rfl, rfl⟩

end K5Vision.Presentation.Controller
