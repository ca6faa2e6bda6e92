import Mathlib.Data.List.Basic
import Mathlib.Data.List.TakeWhile
import Mathlib.Tactic.Ring

/-!
# Texts and their digits

A text is a list of code points.  A number is written with the digits of a base, in a fixed width
or without leading zeros, and read back as the value of its digits.
-/

namespace Library

/-- A text: its code points, with those that stand for undecodable bytes of a file name. -/
abbrev Text := List ℕ

def codePoints (s : String) : Text := s.toList.map Char.toNat

theorem dropWhile_of_not {α : Type*} {p : α → Bool} {l : List α} (h : ∀ a ∈ l, p a = false) :
    l.dropWhile p = l := by
  cases l with
  | nil => rfl
  | cons a l => rw [List.dropWhile_cons_of_neg (by simp [h a])]

theorem mem_intercalate {α : Type*} {sep a : α} {parts : List (List α)}
    (h : a ∈ [sep].intercalate parts) : a = sep ∨ ∃ part ∈ parts, a ∈ part := by
  induction parts with
  | nil => simp at h
  | cons first rest ih =>
      cases rest with
      | nil => exact .inr ⟨first, List.mem_singleton_self _, by simpa using h⟩
      | cons second rest =>
          simp only [List.intercalate_cons_cons, List.append_assoc, List.mem_append,
            List.mem_singleton] at h
          rcases h with hfirst | heq | hrest
          · exact .inr ⟨first, List.mem_cons_self, hfirst⟩
          · exact .inl heq
          · rcases ih hrest with heq | ⟨part, hpart, hmem⟩
            · exact .inl heq
            · exact .inr ⟨part, List.mem_cons_of_mem _ hpart, hmem⟩

/-! ## Digits -/

def numberOf (base : ℕ) (digits : List ℕ) : ℕ :=
  digits.foldl (fun value digit => base * value + digit) 0

/-- The last `width` digits of a number. -/
def digitsOf (base width n : ℕ) : List ℕ :=
  (List.range width).map fun i => n / base ^ (width - 1 - i) % base

/-- Digits without leading zeros; zero itself keeps one. -/
def shortest (digits : List ℕ) : List ℕ :=
  match digits.dropWhile fun digit => digit == 0 with
  | [] => [0]
  | digits => digits

@[simp] theorem length_digitsOf (base width n : ℕ) : (digitsOf base width n).length = width := by
  simp [digitsOf]

theorem digitsOf_succ (base width n : ℕ) :
    digitsOf base (width + 1) n = digitsOf base width (n / base) ++ [n % base] := by
  have hfront : (List.range width).map (fun i => n / base ^ (width + 1 - 1 - i) % base) =
      digitsOf base width (n / base) := by
    refine List.map_congr_left ?_
    intro i hi
    have hlt : i < width := List.mem_range.mp hi
    have hexp : width + 1 - 1 - i = width - 1 - i + 1 := by omega
    rw [hexp, Nat.div_div_eq_div_mul, pow_succ']
  rw [digitsOf, List.range_succ, List.map_append, hfront]
  simp

theorem digitsOf_lt {base width n : ℕ} (hbase : 0 < base) :
    ∀ digit ∈ digitsOf base width n, digit < base := by
  intro digit hdigit
  obtain ⟨i, -, rfl⟩ := List.mem_map.mp hdigit
  exact Nat.mod_lt _ hbase

theorem numberOf_append (base : ℕ) (digits : List ℕ) (digit : ℕ) :
    numberOf base (digits ++ [digit]) = base * numberOf base digits + digit := by
  simp [numberOf]

theorem numberOf_digitsOf (base width n : ℕ) :
    numberOf base (digitsOf base width n) = n % base ^ width := by
  induction width generalizing n with
  | zero => simp [digitsOf, numberOf, Nat.mod_one]
  | succ width ih =>
      rw [digitsOf_succ, numberOf_append, ih, pow_succ', Nat.mod_mul]
      omega

theorem numberOf_dropWhile (base : ℕ) (digits : List ℕ) :
    numberOf base (digits.dropWhile fun digit => digit == 0) = numberOf base digits := by
  induction digits with
  | nil => rfl
  | cons digit digits ih =>
      by_cases hzero : digit = 0
      · rw [List.dropWhile_cons_of_pos (by simp [hzero]), ih, hzero]
        simp [numberOf]
      · rw [List.dropWhile_cons_of_neg (by simp [hzero])]

theorem numberOf_shortest (base : ℕ) (digits : List ℕ) :
    numberOf base (shortest digits) = numberOf base digits := by
  rw [← numberOf_dropWhile base digits]
  unfold shortest
  split
  · next h =>
      rw [h]
      simp [numberOf]
  · rfl

theorem shortest_ne_nil (digits : List ℕ) : shortest digits ≠ [] := by
  unfold shortest
  split
  · simp
  · next hne => exact hne

theorem mem_shortest {digits : List ℕ} {digit : ℕ} (h : digit ∈ shortest digits) :
    digit = 0 ∨ digit ∈ digits := by
  unfold shortest at h
  split at h
  · simp at h
    exact .inl h
  · exact .inr ((List.dropWhile_suffix _).subset h)

theorem length_shortest_le {digits : List ℕ} (h : digits ≠ []) :
    (shortest digits).length ≤ digits.length := by
  unfold shortest
  split
  · exact List.length_pos_iff.mpr h
  · exact (List.dropWhile_suffix _).length_le

/-! ## The code points of digits -/

def hexCode (digit : ℕ) : ℕ := (Nat.digitChar digit).toNat

def hexDigitValue (c : ℕ) : Option ℕ :=
  if 48 ≤ c ∧ c ≤ 57 then some (c - 48)
  else if 97 ≤ c ∧ c ≤ 102 then some (c - 87)
  else if 65 ≤ c ∧ c ≤ 70 then some (c - 55)
  else none

theorem hexDigitValue_hexCode : ∀ digit < 16, hexDigitValue (hexCode digit) = some digit := by
  decide

theorem hexCode_range : ∀ digit < 16, 48 ≤ hexCode digit ∧ hexCode digit ≤ 57 ∨
    97 ≤ hexCode digit ∧ hexCode digit ≤ 102 := by
  decide

theorem filterMap_hexCode {digits : List ℕ} (h : ∀ digit ∈ digits, digit < 16) :
    (digits.map hexCode).filterMap hexDigitValue = digits := by
  rw [List.filterMap_map]
  conv_rhs => rw [← List.filterMap_some (l := digits)]
  refine List.filterMap_congr ?_
  intro digit hdigit
  exact hexDigitValue_hexCode digit (h digit hdigit)

end Library
