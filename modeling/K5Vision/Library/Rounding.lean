import Mathlib.Data.Int.Log
import Mathlib.Algebra.Order.Floor.Ring
import Mathlib.Algebra.Order.Field.Power
import Mathlib.Algebra.Ring.Int.Parity
import Mathlib.Tactic.Linarith
import Mathlib.Tactic.FieldSimp
import Mathlib.Tactic.Ring

/-!
# Binary rounding to nearest, ties to even

Floating-point results are rationals here, not bit patterns: `roundToPrecision p x`
is the value with a `p`-bit significand that is nearest to `x`, the one with
the even significand when two are equally near.  The exponent is unbounded, so
the definition agrees with an IEEE format exactly where the result is a normal
number of that format.

Everything is stated over an arbitrary ordered field with a floor function, and
is reduced to the integer rounding `roundHalfEven` of the scaled significand by
`roundToPrecision_eq_of_mem_binade`.
-/

namespace Library

variable {K : Type*} [Field K] [LinearOrder K] [IsStrictOrderedRing K] [FloorRing K]

/-! ## Rounding to an integer -/

/-- The integer nearest to `x`, the even one when `x` lies halfway between two. -/
def roundHalfEven (x : K) : ℤ :=
  if Int.fract x < 1 / 2 then ⌊x⌋
  else if 1 / 2 < Int.fract x then ⌊x⌋ + 1
  else if Even ⌊x⌋ then ⌊x⌋
  else ⌊x⌋ + 1

@[simp] theorem roundHalfEven_intCast (n : ℤ) : roundHalfEven (n : K) = n := by
  simp [roundHalfEven]

theorem le_roundHalfEven_add_half (x : K) : x ≤ roundHalfEven x + 1 / 2 := by
  have hsplit := Int.floor_add_fract x
  have hfract := Int.fract_lt_one x
  unfold roundHalfEven
  split_ifs
  all_goals push_cast
  all_goals linarith

/-- A value strictly less than half a unit away from an integer rounds to it. -/
theorem roundHalfEven_eq_of_abs_lt {x : K} {n : ℤ} (hx : |x - n| < 1 / 2) :
    roundHalfEven x = n := by
  obtain ⟨hlow, hhigh⟩ := abs_lt.mp hx
  rcases le_or_gt (n : K) x with hle | hlt
  · have hfloor : ⌊x⌋ = n := by
      rw [Int.floor_eq_iff]
      constructor <;> linarith
    have hfract : Int.fract x < 1 / 2 := by
      rw [Int.fract, hfloor]
      exact hhigh
    rw [roundHalfEven, if_pos hfract, hfloor]
  · have hfloor : ⌊x⌋ = n - 1 := by
      rw [Int.floor_eq_iff]
      push_cast
      constructor <;> linarith
    have hfract : 1 / 2 < Int.fract x := by
      rw [Int.fract, hfloor]
      push_cast
      linarith
    rw [roundHalfEven, if_neg (not_lt.mpr hfract.le), if_pos hfract, hfloor]
    ring

/-- Halfway between an even integer and a neighbour, the even one wins. -/
theorem roundHalfEven_sub_half {n : ℤ} (hn : Even n) : roundHalfEven ((n : K) - 1 / 2) = n := by
  have hfloor : ⌊(n : K) - 1 / 2⌋ = n - 1 := by
    rw [Int.floor_eq_iff]
    push_cast
    constructor <;> linarith
  have hfract : Int.fract ((n : K) - 1 / 2) = 1 / 2 := by
    rw [Int.fract, hfloor]
    push_cast
    ring
  have hodd : ¬ Even (n - 1) := by
    rw [Int.even_sub_one]
    exact not_not.mpr hn
  rw [roundHalfEven, hfract, hfloor, if_neg (lt_irrefl _), if_neg (lt_irrefl _), if_neg hodd]
  ring

theorem roundHalfEven_mono {x y : K} (hxy : x ≤ y) : roundHalfEven x ≤ roundHalfEven y := by
  have hfloor : ⌊x⌋ ≤ ⌊y⌋ := Int.floor_le_floor hxy
  rcases hfloor.lt_or_eq with hlt | heq
  · -- one unit apart already: the worst case rounds `x` up to `⌊y⌋`
    have hx : roundHalfEven x ≤ ⌊x⌋ + 1 := by
      unfold roundHalfEven
      split_ifs <;> omega
    have hy : ⌊y⌋ ≤ roundHalfEven y := by
      unfold roundHalfEven
      split_ifs <;> omega
    omega
  · have hfract : Int.fract x ≤ Int.fract y := by
      rw [Int.fract, Int.fract, heq]
      linarith
    unfold roundHalfEven
    rw [heq]
    split_ifs <;> first | omega | (exfalso; linarith)

/-- Ties to even make the rounding symmetric. -/
theorem roundHalfEven_neg (x : K) : roundHalfEven (-x) = -roundHalfEven x := by
  by_cases hint : Int.fract x = 0
  · obtain ⟨n, rfl⟩ : ∃ n : ℤ, x = n := ⟨⌊x⌋, by linarith [Int.floor_add_fract x]⟩
    rw [← Int.cast_neg, roundHalfEven_intCast, roundHalfEven_intCast]
  have hfract : Int.fract (-x) = 1 - Int.fract x := Int.fract_neg hint
  have hfloor : ⌊-x⌋ = -⌊x⌋ - 1 := by
    have hcast : (⌊-x⌋ : K) = ((-⌊x⌋ - 1 : ℤ) : K) := by
      push_cast
      linarith [Int.floor_add_fract x, Int.floor_add_fract (-x)]
    exact_mod_cast hcast
  have hparity : Even (-⌊x⌋ - 1) ↔ ¬Even ⌊x⌋ := by rw [Int.even_sub_one, even_neg]
  simp only [roundHalfEven, hfract, hfloor, hparity]
  rcases lt_trichotomy (Int.fract x) (1 / 2) with hlt | heq | hgt
  · rw [if_neg (by linarith), if_pos (by linarith), if_pos hlt]
    ring
  · rw [if_neg (by linarith), if_neg (by linarith), if_neg heq.not_lt, if_neg heq.symm.not_lt]
    by_cases heven : Even ⌊x⌋
    · rw [if_neg (not_not.mpr heven), if_pos heven]
      ring
    · rw [if_pos heven, if_neg heven]
      ring
  · rw [if_pos (by linarith), if_neg (by linarith), if_pos hgt]
    ring

/-- Just below an even integer, rounding reaches it from at most half a unit away. -/
theorem le_roundHalfEven_sub_iff {n : ℤ} (hn : Even n) {δ : K} (hδ : δ < 1) :
    n ≤ roundHalfEven ((n : K) - δ) ↔ δ ≤ 1 / 2 := by
  constructor
  · intro hle
    by_contra hgt
    push Not at hgt
    have hdown : roundHalfEven ((n : K) - δ) = n - 1 := by
      apply roundHalfEven_eq_of_abs_lt
      push_cast
      rw [abs_lt]
      constructor <;> linarith
    omega
  · intro hle
    calc n = roundHalfEven ((n : K) - 1 / 2) := (roundHalfEven_sub_half hn).symm
      _ ≤ roundHalfEven ((n : K) - δ) := roundHalfEven_mono (by linarith)

/-- A fraction less than half a unit above its quotient rounds down. -/
theorem roundHalfEven_div_of_lt {n m : ℕ} (h : 2 * (n % m) < m) :
    roundHalfEven ((n : K) / m) = (n / m : ℕ) := by
  have hm : (0 : K) < m := by exact_mod_cast (Nat.zero_le _).trans_lt h
  have hn : (n : K) = m * (n / m : ℕ) + (n % m : ℕ) := by
    exact_mod_cast (Nat.div_add_mod n m).symm
  have hr : 2 * ((n % m : ℕ) : K) < m := by exact_mod_cast h
  have hdiff : (n : K) / m - ((n / m : ℕ) : ℤ) = (n % m : ℕ) / m := by
    rw [eq_div_iff hm.ne', sub_mul, div_mul_cancel₀ _ hm.ne', Int.cast_natCast]
    linarith
  apply roundHalfEven_eq_of_abs_lt
  rw [hdiff, abs_of_nonneg (by positivity), div_lt_iff₀ hm]
  linarith

/-- A fraction more than half a unit above its quotient rounds up. -/
theorem roundHalfEven_div_of_gt {n m : ℕ} (hm : 0 < m) (h : m < 2 * (n % m)) :
    roundHalfEven ((n : K) / m) = (n / m : ℕ) + 1 := by
  have hpos : (0 : K) < m := by exact_mod_cast hm
  have hn : (n : K) = m * (n / m : ℕ) + (n % m : ℕ) := by
    exact_mod_cast (Nat.div_add_mod n m).symm
  have hlow : (m : K) < 2 * (n % m : ℕ) := by exact_mod_cast h
  have hhigh : ((n % m : ℕ) : K) < m := by exact_mod_cast Nat.mod_lt n hm
  have hdiff : (n : K) / m - (((n / m : ℕ) + 1 : ℤ) : K) = ((n % m : ℕ) - m) / m := by
    rw [eq_div_iff hpos.ne', sub_mul, div_mul_cancel₀ _ hpos.ne', Int.cast_add, Int.cast_natCast,
      Int.cast_one]
    linarith
  apply roundHalfEven_eq_of_abs_lt
  rw [hdiff, abs_lt, lt_div_iff₀ hpos, div_lt_iff₀ hpos]
  constructor <;> linarith

/-! ## Rounding to a number of significant bits -/

/-- The value with a `p`-bit significand nearest to `x`, ties to even. -/
def roundToPrecision (p : ℕ) (x : K) : K :=
  roundHalfEven (x / 2 ^ (Int.log 2 |x| - (p - 1))) * 2 ^ (Int.log 2 |x| - (p - 1) : ℤ)

@[simp] theorem roundToPrecision_zero (p : ℕ) : roundToPrecision p (0 : K) = 0 := by
  simp [roundToPrecision, roundHalfEven]

/-- Inside one binade, rounding is integer rounding of the scaled significand. -/
theorem roundToPrecision_eq_of_mem_binade (p : ℕ) {x : K} {e : ℤ}
    (hlow : 2 ^ e ≤ x) (hhigh : x < 2 ^ (e + 1)) :
    roundToPrecision p x = roundHalfEven (x * 2 ^ (p - 1 - e)) * 2 ^ (e - (p - 1)) := by
  have hpos : 0 < x := lt_of_lt_of_le (zpow_pos (by norm_num) e) hlow
  have hlog : Int.log 2 |x| = e := by
    rw [abs_of_pos hpos]
    apply le_antisymm
    · have := (Int.lt_zpow_iff_log_lt (R := K) (b := 2) (by norm_num) hpos).mp
        (by exact_mod_cast hhigh)
      omega
    · exact (Int.zpow_le_iff_le_log (R := K) (b := 2) (by norm_num) hpos).mp
        (by exact_mod_cast hlow)
  rw [roundToPrecision, hlog, div_eq_mul_inv, ← zpow_neg, neg_sub]

theorem roundToPrecision_neg (p : ℕ) (x : K) : roundToPrecision p (-x) = -roundToPrecision p x := by
  rw [roundToPrecision, roundToPrecision, abs_neg, neg_div, roundHalfEven_neg, Int.cast_neg,
    neg_mul]

/-- A positive value lies in one binade. -/
theorem exists_mem_binade {x : K} (hx : 0 < x) : ∃ e : ℤ, 2 ^ e ≤ x ∧ x < 2 ^ (e + 1) := by
  have hlow := Int.zpow_log_le_self (b := 2) (by norm_num) hx
  have hhigh := Int.lt_zpow_succ_log_self (R := K) (b := 2) (by norm_num) x
  exact ⟨Int.log 2 x, by exact_mod_cast hlow, by exact_mod_cast hhigh⟩

/-- Rounding does not leave the closed binade of its argument. -/
theorem roundToPrecision_mem_binade {p : ℕ} (hp : 1 ≤ p) {x : K} {e : ℤ}
    (hlow : 2 ^ e ≤ x) (hhigh : x < 2 ^ (e + 1)) :
    2 ^ e ≤ roundToPrecision p x ∧ roundToPrecision p x ≤ 2 ^ (e + 1) := by
  obtain ⟨q, rfl⟩ := Nat.exists_eq_add_of_le' hp
  have hexp : ((q + 1 : ℕ) : ℤ) - 1 = q := by omega
  rw [roundToPrecision_eq_of_mem_binade _ hlow hhigh, hexp]
  have hunit : (0 : K) < 2 ^ (e - q) := zpow_pos (by norm_num) _
  have hscale : (0 : K) < 2 ^ ((q : ℤ) - e) := zpow_pos (by norm_num) _
  have hleast : ((2 ^ q : ℤ) : K) ≤ x * 2 ^ ((q : ℤ) - e) := by
    calc ((2 ^ q : ℤ) : K) = 2 ^ e * 2 ^ ((q : ℤ) - e) := by
          rw [← zpow_add₀ two_ne_zero, add_sub_cancel, zpow_natCast]
          push_cast
          rfl
      _ ≤ x * 2 ^ ((q : ℤ) - e) := mul_le_mul_of_nonneg_right hlow hscale.le
  have hmost : x * 2 ^ ((q : ℤ) - e) ≤ ((2 ^ (q + 1) : ℤ) : K) := by
    calc x * 2 ^ ((q : ℤ) - e) ≤ 2 ^ (e + 1) * 2 ^ ((q : ℤ) - e) :=
          mul_le_mul_of_nonneg_right hhigh.le hscale.le
      _ = ((2 ^ (q + 1) : ℤ) : K) := by
          rw [← zpow_add₀ two_ne_zero, show e + 1 + ((q : ℤ) - e) = ((q + 1 : ℕ) : ℤ) by
            push_cast
            ring, zpow_natCast]
          push_cast
          rfl
  have hdown : (2 ^ q : ℤ) ≤ roundHalfEven (x * 2 ^ ((q : ℤ) - e)) := by
    rw [← roundHalfEven_intCast (K := K) (2 ^ q : ℤ)]
    exact roundHalfEven_mono hleast
  have hup : roundHalfEven (x * 2 ^ ((q : ℤ) - e)) ≤ (2 ^ (q + 1) : ℤ) := by
    rw [← roundHalfEven_intCast (K := K) (2 ^ (q + 1) : ℤ)]
    exact roundHalfEven_mono hmost
  constructor
  · calc (2 : K) ^ e = ((2 ^ q : ℤ) : K) * 2 ^ (e - q) := by
          push_cast
          rw [← zpow_natCast, ← zpow_add₀ two_ne_zero, add_sub_cancel]
      _ ≤ _ := mul_le_mul_of_nonneg_right (by exact_mod_cast hdown) hunit.le
  calc _ ≤ ((2 ^ (q + 1) : ℤ) : K) * 2 ^ (e - q) :=
        mul_le_mul_of_nonneg_right (by exact_mod_cast hup) hunit.le
    _ = (2 : K) ^ (e + 1) := by
        push_cast
        rw [← zpow_natCast, ← zpow_add₀ two_ne_zero]
        congr 1
        push_cast
        ring

theorem roundToPrecision_nonneg {p : ℕ} (hp : 1 ≤ p) {x : K} (hx : 0 ≤ x) :
    0 ≤ roundToPrecision p x := by
  rcases hx.eq_or_lt with rfl | hpos
  · rw [roundToPrecision_zero]
  · obtain ⟨e, hlow, hhigh⟩ := exists_mem_binade hpos
    exact (zpow_pos (by norm_num) e).le.trans (roundToPrecision_mem_binade hp hlow hhigh).1

theorem roundToPrecision_mono_of_pos {p : ℕ} (hp : 1 ≤ p) {x y : K} (hx : 0 < x) (hxy : x ≤ y) :
    roundToPrecision p x ≤ roundToPrecision p y := by
  obtain ⟨e, hxlow, hxhigh⟩ := exists_mem_binade hx
  obtain ⟨e', hylow, hyhigh⟩ := exists_mem_binade (hx.trans_le hxy)
  have hle : e ≤ e' := by
    have : (2 : K) ^ e < 2 ^ (e' + 1) := (hxlow.trans hxy).trans_lt hyhigh
    exact Int.lt_add_one_iff.mp ((zpow_lt_zpow_iff_right₀ (by norm_num)).mp this)
  rcases hle.eq_or_lt with rfl | hlt
  · -- one binade: the significands are rounded on one scale
    rw [roundToPrecision_eq_of_mem_binade p hxlow hxhigh,
      roundToPrecision_eq_of_mem_binade p hylow hyhigh]
    have hscaled : x * 2 ^ ((p : ℤ) - 1 - e) ≤ y * 2 ^ ((p : ℤ) - 1 - e) :=
      mul_le_mul_of_nonneg_right hxy (zpow_pos (by norm_num) _).le
    exact mul_le_mul_of_nonneg_right (by exact_mod_cast roundHalfEven_mono hscaled)
      (zpow_pos (by norm_num) _).le
  · -- a power of two separates the results
    calc roundToPrecision p x ≤ 2 ^ (e + 1) := (roundToPrecision_mem_binade hp hxlow hxhigh).2
      _ ≤ 2 ^ e' := zpow_le_zpow_right₀ (by norm_num) (by omega)
      _ ≤ roundToPrecision p y := (roundToPrecision_mem_binade hp hylow hyhigh).1

theorem roundToPrecision_mono {p : ℕ} (hp : 1 ≤ p) : Monotone (roundToPrecision p : K → K) := by
  intro x y hxy
  rcases lt_or_ge 0 x with hx | hx
  · exact roundToPrecision_mono_of_pos hp hx hxy
  have hneg (z : K) : roundToPrecision p z = -roundToPrecision p (-z) := by
    rw [roundToPrecision_neg, neg_neg]
  rcases lt_or_ge y 0 with hy | hy
  · rw [hneg x, hneg y]
    exact neg_le_neg (roundToPrecision_mono_of_pos hp (by linarith) (by linarith))
  have hleft : 0 ≤ roundToPrecision p (-x) := roundToPrecision_nonneg hp (by linarith)
  have hright : 0 ≤ roundToPrecision p y := roundToPrecision_nonneg hp hy
  rw [hneg x]
  linarith

end Library
