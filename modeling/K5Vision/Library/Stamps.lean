import Mathlib.Data.List.Induction
import Mathlib.Logic.Function.Basic

/-!
# Stamps

One counter for all keys, and for each key its value at the last touch of the key.
Who remembers the counter can tell later whether a key was touched since, and who
remembers the stamp of a key whether it was touched in between; both without a list
of the touches, which is what they are proved against here.
-/

namespace Library

/-- The counter, and the stamps of the keys. -/
structure Stamps (κ : Type*) where
  revision : ℕ
  last : κ → ℕ

namespace Stamps

variable {κ : Type*} [DecidableEq κ]

def start : Stamps κ := ⟨0, fun _ => 0⟩

def touch (stamps : Stamps κ) (key : κ) : Stamps κ :=
  ⟨stamps.revision + 1, Function.update stamps.last key (stamps.revision + 1)⟩

/-- The stamps behind a list of touches, the oldest first. -/
def ofLog (log : List κ) : Stamps κ := log.foldl touch start

variable {key other : κ} {log later : List κ}

@[simp] theorem ofLog_nil : ofLog ([] : List κ) = start := rfl

@[simp] theorem ofLog_snoc : ofLog (log ++ [key]) = (ofLog log).touch key := by
  simp [ofLog]

@[simp] theorem revision_ofLog : (ofLog log).revision = log.length := by
  induction log using List.reverseRecOn with
  | nil => rfl
  | append_singleton log key ih => simp [touch, ih]

theorem last_ofLog_le : (ofLog log).last key ≤ log.length := by
  induction log using List.reverseRecOn with
  | nil => exact Nat.le_refl 0
  | append_singleton log other ih =>
      rw [ofLog_snoc, touch, List.length_append]
      by_cases h : key = other
      · subst h
        simp
      · simp only [Function.update_of_ne h]
        omega

/-- A stamp is not above an older value of the counter exactly when the key was not
touched since. -/
theorem last_ofLog_le_iff (since : ℕ) : (ofLog log).last key ≤ since ↔ key ∉ log.drop since := by
  induction log using List.reverseRecOn with
  | nil => simp [start]
  | append_singleton log other ih =>
      rw [ofLog_snoc, touch, List.drop_append]
      by_cases h : key = other
      · subst h
        simp only [Function.update_self, revision_ofLog, List.mem_append]
        constructor
        · intro hle
          have hold := ih.mp (Nat.le_trans last_ofLog_le (by omega))
          have hnew : List.drop (since - log.length) [key] = [] :=
            List.drop_eq_nil_of_le (by simp; omega)
          rw [hnew]
          simpa using hold
        · intro hnot
          by_contra hlt
          have hzero : since - log.length = 0 := by omega
          rw [hzero] at hnot
          simp at hnot
      · simp only [Function.update_of_ne h, List.mem_append]
        rw [ih]
        have hnew : key ∉ List.drop (since - log.length) [other] := by
          intro hmem
          exact h (List.mem_singleton.mp (List.mem_of_mem_drop hmem))
        tauto

end Stamps

end Library
