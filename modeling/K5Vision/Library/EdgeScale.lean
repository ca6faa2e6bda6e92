import Mathlib.Data.List.TakeWhile
import Mathlib.Data.Int.Order.Basic
import Mathlib.Tactic.Linarith

/-!
# Scales with increasing edges

Edges that are strictly increasing divide a line into half-open intervals, and `bisectRight` finds
the interval of a value.  `spread` chooses such edges, each as near to a wanted place as those
around it allow, up to a last one that is fixed.  `lastCovered` scales a value within an interval
to an interval on another line: to the last value there that it covers.
-/

namespace Library

/-! ## The interval of a value -/

section Bisect

variable {α : Type*} [LinearOrder α] {edges : List α} {value : α}

/-- `bisect_right` of increasing edges: how many of them are not above the value. -/
def bisectRight (edges : List α) (value : α) : ℕ := (edges.takeWhile (· ≤ value)).length

theorem bisectRight_le_length (edges : List α) (value : α) :
    bisectRight edges value ≤ edges.length :=
  (List.takeWhile_prefix _).length_le

theorem lt_bisectRight_iff (h : edges.Pairwise (· < ·)) {i : ℕ} (hi : i < edges.length) :
    i < bisectRight edges value ↔ edges[i] ≤ value := by
  unfold bisectRight
  induction edges generalizing i with
  | nil => cases hi
  | cons edge rest ih =>
      obtain ⟨hedge, hrest⟩ := List.pairwise_cons.mp h
      by_cases hle : edge ≤ value
      · rw [List.takeWhile_cons_of_pos (by simpa using hle), List.length_cons]
        cases i with
        | zero => simpa using hle
        | succ i => simpa using ih hrest (by simpa using hi)
      -- the edges behind one that is above the value are so, too
      rw [List.takeWhile_cons_of_neg (by simpa using hle)]
      cases i with
      | zero => simpa using hle
      | succ i =>
          have hbound : i < rest.length := by simpa using hi
          have hlt : edge < rest[i] := hedge _ (List.getElem_mem hbound)
          simp only [List.length_nil, Nat.not_lt_zero, List.getElem_cons_succ, false_iff, not_le]
          exact (not_le.mp hle).trans hlt

theorem bisectRight_getElem (h : edges.Pairwise (· < ·)) {i : ℕ} (hi : i < edges.length) :
    bisectRight edges edges[i] = i + 1 := by
  have hlower := (lt_bisectRight_iff h hi).mpr le_rfl
  by_contra hne
  have hupper : i + 1 < bisectRight edges edges[i] := by omega
  have hnext : i + 1 < edges.length := lt_of_lt_of_le hupper (bisectRight_le_length _ _)
  have hle := (lt_bisectRight_iff h hnext).mp hupper
  exact absurd (List.pairwise_iff_getElem.mp h i (i + 1) hi hnext (Nat.lt_succ_self i))
    (not_lt.mpr hle)

theorem getElem_le_getElem_iff (h : edges.Pairwise (· < ·)) {i j : ℕ} (hi : i < edges.length)
    (hj : j < edges.length) : edges[i] ≤ edges[j] ↔ i ≤ j := by
  rw [← lt_bisectRight_iff h hi, bisectRight_getElem h hj, Nat.lt_succ_iff]

end Bisect

/-! ## Edges near wanted places -/

/-- Edges behind `previous`, each at its wanted place or as near behind its predecessor as the
edges behind it leave room for, and the last one. -/
def spread (last : ℤ) : List ℤ → ℤ → List ℤ
  | [], _ => [last]
  | wanted :: rest, previous =>
      let selected := min (last - (rest.length + 1)) (max (previous + 1) wanted)
      selected :: spread last rest selected

variable {last previous : ℤ}

theorem length_spread (last : ℤ) (wanted : List ℤ) (previous : ℤ) :
    (spread last wanted previous).length = wanted.length + 1 := by
  induction wanted generalizing previous with
  | nil => rfl
  | cons place rest ih => rw [spread, List.length_cons, ih, List.length_cons]

theorem getLast?_spread (last : ℤ) (wanted : List ℤ) (previous : ℤ) :
    (spread last wanted previous).getLast? = some last := by
  induction wanted generalizing previous with
  | nil => rfl
  | cons place rest ih =>
      rw [spread, List.getLast?_cons, ih]
      rfl

/-- The edges are strictly increasing if there is room for all of them. -/
theorem spread_increasing {wanted : List ℤ} (h : previous + (wanted.length + 1) ≤ last) :
    (previous :: spread last wanted previous).Pairwise (· < ·) := by
  induction wanted generalizing previous with
  | nil =>
      have hlt : previous < last := by
        rw [List.length_nil] at h
        omega
      simpa [spread] using hlt
  | cons place rest ih =>
      rw [List.length_cons] at h
      push_cast at h
      unfold spread
      dsimp only
      generalize hselected : min (last - (rest.length + 1)) (max (previous + 1) place) = selected
      have hroom : selected + (rest.length + 1) ≤ last := by
        have := min_le_left (last - (rest.length + 1)) (max (previous + 1) place)
        omega
      have hbehind : previous < selected := by
        have := le_max_left (previous + 1) place
        rw [← hselected, lt_min_iff]
        omega
      have hrest := ih hroom
      refine List.pairwise_cons.mpr ⟨?_, hrest⟩
      intro edge hedge
      rcases List.mem_cons.mp hedge with rfl | hmem
      · exact hbehind
      · exact hbehind.trans ((List.pairwise_cons.mp hrest).1 edge hmem)

/-! ## Within an interval -/

/-- The last value of the interval from `low` to `high` that the value `at` covers of the
interval from `start` to `stop`. -/
def lastCovered (low high start stop position : ℤ) : ℤ :=
  low + ((position - start + 1) * (high - low) + (stop - start) - 1) / (stop - start) - 1

variable {low high start stop position other : ℤ}

theorem lastCovered_mem (hlow : low < high) (hstart : start ≤ position) (hstop : position < stop) :
    low ≤ lastCovered low high start stop position ∧
      lastCovered low high start stop position < high := by
  unfold lastCovered
  have hwidth : 0 < stop - start := by omega
  have hfirst : high - low ≤ (position - start + 1) * (high - low) := by nlinarith
  have hlast : (position - start + 1) * (high - low) ≤ (stop - start) * (high - low) := by
    nlinarith
  constructor
  · have hone : 1 ≤ ((position - start + 1) * (high - low) + (stop - start) - 1) /
        (stop - start) := by
      rw [Int.le_ediv_iff_mul_le hwidth]
      omega
    omega
  · have hall : ((position - start + 1) * (high - low) + (stop - start) - 1) / (stop - start) <
        high - low + 1 := by
      rw [Int.ediv_lt_iff_lt_mul hwidth]
      nlinarith
    omega

theorem lastCovered_mono (hlow : low ≤ high) (hwidth : start < stop) (h : position ≤ other) :
    lastCovered low high start stop position ≤ lastCovered low high start stop other := by
  unfold lastCovered
  have hscaled : (position - start + 1) * (high - low) ≤ (other - start + 1) * (high - low) := by
    nlinarith
  have hquotient := Int.ediv_le_ediv (show 0 < stop - start by omega)
    (show (position - start + 1) * (high - low) + (stop - start) - 1 ≤
      (other - start + 1) * (high - low) + (stop - start) - 1 by omega)
  omega

end Library
