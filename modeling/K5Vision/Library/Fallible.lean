import Mathlib.Logic.Basic

/-!
# Computations that may raise

How a bind in `Except` computes, and what a value behind one says of its parts.
-/

namespace Library

variable {ε α β : Type}

theorem ok_bind (a : α) (next : α → Except ε β) : (Except.ok a >>= next) = next a := rfl

theorem bind_ok {first : Except ε α} {next : α → Except ε β} {result : β}
    (h : (first >>= next) = .ok result) : ∃ a, first = .ok a ∧ next a = .ok result := by
  cases first with
  | error error => cases h
  | ok a => exact ⟨a, rfl, h⟩

end Library
