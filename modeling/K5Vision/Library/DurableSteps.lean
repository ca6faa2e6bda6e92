import K5Vision.Library.Handler

/-!
# Durable steps with a crash between them

A handler that works on durable state, one atomic step after the other, on a machine that
can crash in front of any of them.  The number of steps before the crash is part of the
state that the handler runs on.  A step that refuses leaves the durable state as it is.

`Reached crash i pre` holds behind `i` steps, so that a contract can say where a crash leaves
what.
-/

namespace Library

namespace Handler

/-- Why a handler has not come to its end. -/
inductive Stop
  | crashed
  | refused
  deriving DecidableEq, Repr

/-- Durable state, and the number of steps before the crash, if there is one. -/
structure Fragile (σ : Type) where
  state : σ
  remaining : Option ℕ

variable {σ α β : Type}

/-- A step that no crash stops, and the number of steps behind it. -/
def attempt (f : σ → Option (α × σ)) (state : σ) (left : Option ℕ) : Except Stop α × Fragile σ :=
  match f state with
  | none => (.error .refused, ⟨state, left⟩)
  | some (a, after) => (.ok a, ⟨after, left⟩)

/-- One atomic step. -/
def durable (f : σ → Option (α × σ)) : Handler (Fragile σ) Stop α :=
  Handler.of fun world =>
    match world.remaining with
    | none => attempt f world.state none
    | some 0 => (.error .crashed, world)
    | some (left + 1) => attempt f world.state (some left)

/-- `i` steps are done, and the durable state is in `pre`. -/
def Reached (crash : Option ℕ) (i : ℕ) (pre : σ → Prop) (world : Fragile σ) : Prop :=
  pre world.state ∧ crash = world.remaining.map (· + i)

variable {crash : Option ℕ} {i : ℕ} {pre : σ → Prop} {f : σ → Option (α × σ)}

theorem reached_start {state : σ} (hpre : pre state) : Reached crash 0 pre ⟨state, crash⟩ := by
  refine ⟨hpre, ?_⟩
  cases crash <;> rfl

/-- The contract of a step; a crash in front of it is one behind `i` steps. -/
theorem durable_spec {post : α → σ → Prop} {failed : σ → Prop}
    (hcrash : ∀ state, pre state → crash = some i → failed state)
    (hrefused : ∀ state, pre state → f state = none → failed state)
    (hdone : ∀ state a after, pre state → f state = some (a, after) → post a after) :
    Spec (Reached crash i pre) (durable f) (fun a => Reached crash (i + 1) (post a))
      fun world => failed world.state := by
  have hattempt : ∀ state left, pre state → crash = Option.map (· + (i + 1)) left →
      Spec (fun _ => True) (Handler.of fun _ => attempt f state left)
        (fun a => Reached crash (i + 1) (post a)) fun world => failed world.state := by
    intro state left hpre hleft
    constructor
    intro _ _
    rw [exec_of, attempt]
    cases hf : f state with
    | none => exact hrefused state hpre hf
    | some result => exact ⟨hdone state result.1 result.2 hpre hf, hleft⟩
  constructor
  rintro ⟨state, remaining⟩ ⟨hpre, hcount⟩
  cases remaining with
  | none => exact (hattempt state none hpre hcount).run ⟨state, none⟩ trivial
  | some n =>
      cases n with
      | zero => exact hcrash state hpre (hcount.trans (congrArg some (Nat.zero_add i)))
      | succ left =>
          have hsum : left + 1 + i = left + (i + 1) := by omega
          exact (hattempt state (some left) hpre (hcount.trans (congrArg some hsum))).run
            ⟨state, some (left + 1)⟩ trivial

/-! ## Running up to a crash -/

theorem exec_durable_bind_zero {next : α → Handler (Fragile σ) Stop β} {state : σ} :
    (durable f >>= next).exec ⟨state, some 0⟩ = (.error .crashed, ⟨state, some 0⟩) := by
  rw [exec_bind]
  rfl

theorem exec_durable_bind_succ {next : α → Handler (Fragile σ) Stop β} {state after : σ} {a : α}
    {left : ℕ} (h : f state = some (a, after)) :
    (durable f >>= next).exec ⟨state, some (left + 1)⟩ = (next a).exec ⟨after, some left⟩ := by
  have hstep : (durable f).exec ⟨state, some (left + 1)⟩ = (.ok a, ⟨after, some left⟩) := by
    change attempt f state (some left) = _
    rw [attempt, h]
  rw [exec_bind, hstep]

end Handler

end Library
