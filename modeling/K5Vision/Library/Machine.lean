import Mathlib.Data.List.Basic

/-!
# Machines and their runs

A deterministic machine takes events one at a time.  An event can be ruled out in a
state, by `admissible`: a value drawn twice, a clock that goes back.  What holds of
every run is proved by what one admissible event preserves.
-/

namespace Library

/-- A machine over states `σ` and events `ε`. -/
structure Machine (σ ε : Type*) where
  step : σ → ε → σ
  admissible : σ → ε → Prop

namespace Machine

variable {σ ε : Type*} (machine : Machine σ ε)

/-- The machine goes from one state to another by events that are admissible one after
the other. -/
def Reaches : σ → List ε → σ → Prop
  | start, [], final => final = start
  | start, event :: rest, final =>
      machine.admissible start event ∧ Reaches (machine.step start event) rest final

variable {machine} {start middle final : σ} {first second events : List ε}

theorem Reaches.nil (start : σ) : machine.Reaches start [] start := rfl

theorem Reaches.append (hfirst : machine.Reaches start first middle)
    (hsecond : machine.Reaches middle second final) :
    machine.Reaches start (first ++ second) final := by
  induction first generalizing start with
  | nil =>
      cases hfirst
      exact hsecond
  | cons event rest ih => exact ⟨hfirst.1, ih hfirst.2⟩

theorem reaches_foldl (h : ∀ event ∈ events, ∀ state, machine.admissible state event) (start : σ) :
    machine.Reaches start events (events.foldl machine.step start) := by
  induction events generalizing start with
  | nil => rfl
  | cons event rest ih =>
      rw [List.forall_mem_cons] at h
      exact ⟨h.1 start, ih h.2 _⟩

/-- An invariant of the admissible steps is one of the runs. -/
theorem Reaches.invariant {inv : σ → Prop}
    (hstep : ∀ state event, inv state → machine.admissible state event →
      inv (machine.step state event))
    (h : machine.Reaches start events final) (hstart : inv start) : inv final := by
  induction events generalizing start with
  | nil =>
      cases h
      exact hstart
  | cons event rest ih => exact ih h.2 (hstep start event hstart h.1)

/-- An invariant that speaks of the events so far. -/
theorem Reaches.history {inv : List ε → σ → Prop}
    (hstep : ∀ past state event, inv past state → machine.admissible state event →
      inv (past ++ [event]) (machine.step state event))
    (h : machine.Reaches start events final) (hstart : inv [] start) : inv events final := by
  have hfrom : ∀ (past : List ε) (state : σ), inv past state → machine.Reaches state events final →
      inv (past ++ events) final := by
    intro past state hinv hreaches
    clear h hstart
    induction events generalizing past state with
    | nil =>
        cases hreaches
        rwa [List.append_nil]
    | cons event rest ih =>
        rw [List.append_cons]
        exact ih (past ++ [event]) _ (hstep past state event hinv hreaches.1) hreaches.2
  exact hfrom [] start hstart h

/-- A relation that steps extend, along a run. -/
theorem Reaches.relation {rel : σ → σ → Prop} (hrefl : ∀ state, rel state state)
    (hstep : ∀ before state event, rel before state → machine.admissible state event →
      rel before (machine.step state event))
    (h : machine.Reaches start events final) : rel start final :=
  h.invariant (hstep start) (hrefl start)

end Machine

end Library
