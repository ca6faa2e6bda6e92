import Mathlib.Algebra.Order.Group.Unbundled.Basic
import Mathlib.Algebra.Order.Monoid.Defs
import Mathlib.Data.List.Basic

/-!
# Covering an interval

Spans, which may overlap in any way, cover an interval but for gaps.  `sweep` goes through spans in
the order of their beginnings with the farthest instant that is covered so far, and breaks off at a
gap that is too long.  It comes near enough to the end exactly where no gap is (`sweep_iff`).
-/

namespace Library

variable {T : Type*} [LinearOrder T] [AddCommGroup T]

/-- An instant that no span has, its ends included. -/
def Uncovered (spans : List (T × T)) (instant : T) : Prop :=
  ∀ span ∈ spans, ¬ (span.1 ≤ instant ∧ instant ≤ span.2)

/-- Nothing between two instants of an interval is covered. -/
structure IsGap (spans : List (T × T)) (opens closes first last : T) : Prop where
  opens_le : opens ≤ first
  le_closes : last ≤ closes
  uncovered : ∀ instant, first < instant → instant < last → Uncovered spans instant

/-- No gap of an interval is longer than a tolerance. -/
def GapsWithin (tolerance : T) (spans : List (T × T)) (opens closes : T) : Prop :=
  ∀ first last, IsGap spans opens closes first last → last - first ≤ tolerance

/-- How far spans reach from an instant, over gaps that are not too long. -/
def sweep (tolerance : T) : T → List (T × T) → T
  | cursor, [] => cursor
  | cursor, span :: rest =>
      if cursor + tolerance < span.1 then cursor else sweep tolerance (max cursor span.2) rest

variable {tolerance cursor opens closes first last : T} {spans rest : List (T × T)}

variable [IsOrderedAddMonoid T]

/-- Where the sweep stops short, there is a gap behind it. -/
theorem exists_gap_of_sweep (hsorted : rest.Pairwise fun first second => first.1 ≤ second.1)
    (hpassed : ∀ span ∈ spans, span ∈ rest ∨ span.2 ≤ cursor) (hopens : opens ≤ cursor)
    (hshort : sweep tolerance cursor rest + tolerance < closes) :
    ∃ first last, IsGap spans opens closes first last ∧ tolerance < last - first := by
  induction rest generalizing cursor with
  | nil =>
      refine ⟨cursor, closes, ⟨hopens, le_rfl, ?_⟩, lt_sub_iff_add_lt'.mpr hshort⟩
      intro instant hfirst _ span hspan hin
      rcases hpassed span hspan with hnone | hbefore
      · cases hnone
      · exact absurd (hin.2.trans hbefore) (not_le.mpr hfirst)
  | cons head rest ih =>
      rw [List.pairwise_cons] at hsorted
      rw [sweep] at hshort
      split_ifs at hshort with hbreak
      · -- Everything that is left begins behind the gap.
        refine ⟨cursor, min head.1 closes, ⟨hopens, min_le_right .., ?_⟩, ?_⟩
        · intro instant hfirst hlast span hspan hin
          have hhead := hlast.trans_le (min_le_left ..)
          rcases hpassed span hspan with hleft | hbefore
          · rcases List.mem_cons.mp hleft with rfl | hrest
            · exact absurd hin.1 (not_le.mpr hhead)
            · exact absurd ((hsorted.1 span hrest).trans hin.1) (not_le.mpr hhead)
          · exact absurd (hin.2.trans hbefore) (not_le.mpr hfirst)
        · exact lt_sub_iff_add_lt'.mpr (lt_min hbreak hshort)
      · refine ih hsorted.2 (fun span hspan => ?_) (hopens.trans (le_max_left ..)) hshort
        rcases hpassed span hspan with hleft | hbefore
        · rcases List.mem_cons.mp hleft with rfl | hrest
          · exact .inr (le_max_right ..)
          · exact .inl hrest
        · exact .inr (hbefore.trans (le_max_left ..))

/-- The sweep does not get over a gap. -/
theorem sweep_le_of_gap (htolerance : 0 < tolerance)
    (hspans : ∀ span ∈ rest, span ∈ spans ∧ span.1 ≤ span.2)
    (hgap : IsGap spans opens closes first last) (hlong : tolerance < last - first)
    (hcursor : cursor ≤ first) : sweep tolerance cursor rest ≤ first := by
  induction rest generalizing cursor with
  | nil => exact hcursor
  | cons head rest ih =>
      rw [sweep]
      split_ifs with hbreak
      · exact hcursor
      have hreach : first + tolerance < last := lt_sub_iff_add_lt'.mp hlong
      obtain ⟨hmem, hvalid⟩ := hspans head List.mem_cons_self
      have hbegins : head.1 ≤ first + tolerance :=
        (not_lt.mp hbreak).trans (add_le_add_left hcursor _)
      -- A span that ends in the gap, or behind it, would have an instant of it.
      have hends : head.2 ≤ first := by
        by_contra hbeyond
        have hlater := not_le.mp hbeyond
        rcases le_or_gt head.1 first with hbefore | hinside
        · have hstep : first < min head.2 (first + tolerance) :=
            lt_min hlater (lt_add_of_pos_right first htolerance)
          exact hgap.uncovered _ hstep ((min_le_right ..).trans_lt hreach) head hmem
            ⟨hbefore.trans hstep.le, min_le_left ..⟩
        · exact hgap.uncovered _ hinside (hbegins.trans_lt hreach) head hmem
            ⟨le_rfl, hvalid⟩
      exact ih (fun span hspan => hspans span (List.mem_cons_of_mem _ hspan))
        (max_le hcursor hends)

/-- The sweep comes near enough to the end exactly where no gap is too long. -/
theorem sweep_iff (htolerance : 0 < tolerance)
    (hsorted : spans.Pairwise fun first second => first.1 ≤ second.1)
    (hvalid : ∀ span ∈ spans, span.1 ≤ span.2) (opens closes : T) :
    closes ≤ sweep tolerance opens spans + tolerance ↔
      GapsWithin tolerance spans opens closes := by
  constructor
  · intro hreached first last hgap
    by_contra hlong
    have hlong' := not_le.mp hlong
    have hle := sweep_le_of_gap htolerance (fun span hspan => ⟨hspan, hvalid span hspan⟩) hgap
      hlong' hgap.opens_le
    have hbefore : first + tolerance < closes :=
      (lt_sub_iff_add_lt'.mp hlong').trans_le hgap.le_closes
    exact absurd (hreached.trans (add_le_add_left hle _)) (not_le.mpr hbefore)
  · intro hgaps
    by_contra hshort
    obtain ⟨first, last, hgap, hlong⟩ := exists_gap_of_sweep hsorted (fun _ hspan => .inl hspan)
      le_rfl (not_le.mp hshort)
    exact absurd (hgaps first last hgap) (not_le.mpr hlong)

end Library
