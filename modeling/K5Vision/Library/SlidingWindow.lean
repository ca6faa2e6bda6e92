import Mathlib.Algebra.Order.Group.Unbundled.Basic
import Mathlib.Algebra.Order.Monoid.Defs
import Mathlib.Data.List.Count
import Mathlib.Data.List.TakeWhile

/-!
# Sliding windows

A limiter keeps a queue of instants and drops those that are stale, at or before a cutoff.  What
it has to remember of all the instants that were admitted is said by `Keeps`: the queue is their
last part, and what is not in it is stale.  Then a queue that is not full lets one more instant in,
and no window gets too many of them (`AtMost.push`).
-/

namespace Library

variable {T : Type*} [LinearOrder T]

def expire (cutoff : T) (queue : List T) : List T := queue.dropWhile fun instant => instant ≤ cutoff

/-- The queue is the last part of the instants, and the rest of them is stale. -/
def Keeps (cutoff : T) (instants queue : List T) : Prop :=
  ∃ stale, instants = stale ++ queue ∧ ∀ instant ∈ stale, instant ≤ cutoff

namespace Keeps

variable {cutoff later : T} {instants queue : List T}

theorem nil (cutoff : T) : Keeps cutoff [] [] := ⟨[], rfl, nofun⟩

theorem mono (h : Keeps cutoff instants queue) (hle : cutoff ≤ later) :
    Keeps later instants queue := by
  obtain ⟨stale, heq, hstale⟩ := h
  exact ⟨stale, heq, fun instant hmem => (hstale instant hmem).trans hle⟩

theorem push (h : Keeps cutoff instants queue) (now : T) :
    Keeps cutoff (instants ++ [now]) (queue ++ [now]) := by
  obtain ⟨stale, rfl, hstale⟩ := h
  exact ⟨stale, List.append_assoc .., hstale⟩

theorem expire (h : Keeps cutoff instants queue) :
    Keeps cutoff instants (Library.expire cutoff queue) := by
  obtain ⟨stale, rfl, hstale⟩ := h
  refine ⟨stale ++ queue.takeWhile fun instant => instant ≤ cutoff, ?_, fun instant hmem => ?_⟩
  · rw [List.append_assoc, Library.expire, List.takeWhile_append_dropWhile]
  · rcases List.mem_append.mp hmem with hold | hnew
    · exact hstale instant hold
    · simpa using List.mem_takeWhile_imp hnew

theorem forget (h : Keeps cutoff instants queue) (hqueue : ∀ instant ∈ queue, instant ≤ cutoff) :
    Keeps cutoff instants [] := by
  obtain ⟨stale, rfl, hstale⟩ := h
  refine ⟨stale ++ queue, (List.append_nil _).symm, fun instant hmem => ?_⟩
  rcases List.mem_append.mp hmem with hold | hnew
  · exact hstale instant hold
  · exact hqueue instant hnew

theorem countP_eq (h : Keeps cutoff instants queue) {fresh : T → Bool}
    (hfresh : ∀ instant, instant ≤ cutoff → fresh instant = false) :
    instants.countP fresh = queue.countP fresh := by
  obtain ⟨stale, rfl, hstale⟩ := h
  rw [List.countP_append, List.countP_eq_zero.mpr, Nat.zero_add]
  intro instant hmem
  rw [hfresh instant (hstale instant hmem)]
  exact Bool.false_ne_true

end Keeps

/-! ## Windows -/

variable [AddCommGroup T]

/-- No window of a span has more than so many of the instants, whether it is open at its beginning
or at its end. -/
def AtMost (limit : ℕ) (span : T) (instants : List T) : Prop :=
  ∀ opens, instants.countP (fun instant => opens < instant ∧ instant ≤ opens + span) ≤ limit ∧
    instants.countP (fun instant => opens ≤ instant ∧ instant < opens + span) ≤ limit

variable {limit : ℕ} {span now : T} {instants queue : List T}

theorem atMost_nil (limit : ℕ) (span : T) : AtMost limit span [] :=
  fun _ => ⟨Nat.zero_le _, Nat.zero_le _⟩

variable [IsOrderedAddMonoid T]

/-- An instant is admitted while the queue has room: a window that it is in has nothing of what the
queue has dropped. -/
theorem AtMost.push (h : AtMost limit span instants) (hkeeps : Keeps (now - span) instants queue)
    (hroom : queue.length < limit) : AtMost limit span (instants ++ [now]) := by
  have hfull : ∀ window : T → Bool, instants.countP window ≤ limit →
      (window now = true → ∀ instant, instant ≤ now - span → window instant = false) →
        (instants ++ [now]).countP window ≤ limit := by
    intro window hold hstale
    rw [List.countP_append]
    cases hnow : window now with
    | false => simpa [hnow] using hold
    | true =>
        rw [hkeeps.countP_eq (hstale hnow)]
        have hqueue : queue.countP window ≤ queue.length := List.countP_le_length
        have hone : [now].countP window ≤ 1 := List.countP_le_length
        omega
  intro opens
  refine ⟨hfull _ (h opens).1 fun hnow instant hinstant => ?_,
    hfull _ (h opens).2 fun hnow instant hinstant => ?_⟩
  · have hopens : now - span ≤ opens := sub_le_iff_le_add.mpr (of_decide_eq_true hnow).2
    exact decide_eq_false fun hin => absurd hin.1 (not_lt.mpr (hinstant.trans hopens))
  · have hopens : now - span < opens := sub_lt_iff_lt_add.mpr (of_decide_eq_true hnow).2
    exact decide_eq_false fun hin => absurd hin.1 (not_le.mpr (hinstant.trans_lt hopens))

end Library
