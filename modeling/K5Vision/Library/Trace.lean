import Mathlib.Data.List.Basic
import Mathlib.Data.List.Pairwise
import Mathlib.Order.Lattice

/-!
# Generators and the loops that consume them

A lazy generator that is run to its end is described by what it hands out: its
items in order, and the error that ended it, if one did.  A generator written
as a `for` loop over another generator is a loop body with running state, and
`Trace.through` runs that body over the items of the source.

A body either skips the item, emits one item, or raises; when it raises, the
source is not pulled again.  The state is returned as well, because the code
that follows such a loop reads its counters.

The rules at the end say what the common shapes of bodies compute:
`loop_filter` for a test on the item alone and `loop_dropWhile` for a body that
opens at the first item passing a test and stays open.
-/

namespace Library

variable {α β ε ε' σ : Type*}

/-- The items a generator hands out, and the error that ended it. -/
structure Trace (ε α : Type*) where
  items : List α
  error : Option ε

/-- One turn of a loop body: skip the item, emit an item, or raise. -/
inductive Turn (σ β ε : Type*)
  | skip (next : σ)
  | emit (item : β) (next : σ)
  | fail (error : ε) (next : σ)

/-- Run a loop body over a list of items. -/
def loop (body : σ → α → Turn σ β ε) : σ → List α → Trace ε β × σ
  | state, [] => (⟨[], none⟩, state)
  | state, a :: rest =>
      match body state a with
      | .skip next => loop body next rest
      | .emit item next =>
          let (trace, final) := loop body next rest
          (⟨item :: trace.items, trace.error⟩, final)
      | .fail error next => (⟨[], some error⟩, next)

/-- The generator whose body loops over `source`; an error of the source is
re-raised as `wrap` makes it. -/
def Trace.through (source : Trace ε α) (body : σ → α → Turn σ β ε') (wrap : ε → ε')
    (start : σ) : Trace ε' β × σ :=
  let (trace, final) := loop body start source.items
  match trace.error with
  | some error => (⟨trace.items, some error⟩, final)
  | none => (⟨trace.items, source.error.map wrap⟩, final)

/-! ## Running a body -/

section Loop

variable {body : σ → α → Turn σ β ε}

@[simp] theorem loop_nil (state : σ) : loop body state [] = (⟨[], none⟩, state) := rfl

theorem loop_cons_skip {state next : σ} {a : α} (h : body state a = .skip next)
    (rest : List α) : loop body state (a :: rest) = loop body next rest := by
  rw [loop, h]

theorem loop_cons_emit {state next : σ} {a : α} {item : β} (h : body state a = .emit item next)
    (rest : List α) :
    loop body state (a :: rest) =
      (⟨item :: (loop body next rest).1.items, (loop body next rest).1.error⟩,
        (loop body next rest).2) := by
  rw [loop, h]

theorem loop_cons_fail {state next : σ} {a : α} {error : ε} (h : body state a = .fail error next)
    (rest : List α) : loop body state (a :: rest) = (⟨[], some error⟩, next) := by
  rw [loop, h]

/-- A loop that raises nothing leaves the error of the source. -/
theorem Trace.through_of_loop (source : Trace ε' α) {wrap : ε' → ε} {start final : σ}
    {items : List β} (h : loop body start source.items = (⟨items, none⟩, final)) :
    source.through body wrap start = (⟨items, source.error.map wrap⟩, final) := by
  rw [Trace.through, h]

theorem Trace.through_of_loop_error (source : Trace ε' α) {wrap : ε' → ε} {start final : σ}
    {items : List β} {error : ε} (h : loop body start source.items = (⟨items, some error⟩, final)) :
    source.through body wrap start = (⟨items, some error⟩, final) := by
  rw [Trace.through, h]

end Loop

/-! ## What the common bodies compute -/

/-- A body that emits the items passing a test, as long as its state is good,
filters. -/
theorem loop_filter {body : σ → α → Turn σ α ε} (good : σ → Prop) (p : α → Bool)
    (hemit : ∀ state a, good state → p a = true →
      ∃ next, good next ∧ body state a = .emit a next)
    (hskip : ∀ state a, good state → p a = false → ∃ next, good next ∧ body state a = .skip next)
    {state : σ} (hgood : good state) (items : List α) :
    (loop body state items).1 = ⟨items.filter p, none⟩ := by
  induction items generalizing state with
  | nil => rfl
  | cons a rest ih =>
      cases hp : p a with
      | true =>
          obtain ⟨next, hnext, hturn⟩ := hemit state a hgood hp
          rw [loop_cons_emit hturn, ih hnext, List.filter_cons_of_pos hp]
      | false =>
          obtain ⟨next, hnext, hturn⟩ := hskip state a hgood hp
          rw [loop_cons_skip hturn, ih hnext, List.filter_cons_of_neg (by simp [hp])]

theorem loop_copy {body : σ → α → Turn σ α ε} (opened : σ → Prop)
    (hemit : ∀ state a, opened state → ∃ next, opened next ∧ body state a = .emit a next)
    {state : σ} (hopened : opened state) (items : List α) :
    (loop body state items).1 = ⟨items, none⟩ := by
  rw [loop_filter opened (fun _ => true) (fun state a h _ => hemit state a h) (by simp) hopened,
    List.filter_true]

/-- A body that skips until an item passes a test, and from then on emits every
item, drops the leading items that fail it. -/
theorem loop_dropWhile {body : σ → α → Turn σ α ε} (closed opened : σ → Prop) (p : α → Bool)
    (hcopy : ∀ state a, opened state → ∃ next, opened next ∧ body state a = .emit a next)
    (hopen : ∀ state a, closed state → p a = false →
      ∃ next, opened next ∧ body state a = .emit a next)
    (hskip : ∀ state a, closed state → p a = true →
      ∃ next, closed next ∧ body state a = .skip next)
    {state : σ} (hclosed : closed state) (items : List α) :
    (loop body state items).1 = ⟨items.dropWhile p, none⟩ := by
  induction items generalizing state with
  | nil => rfl
  | cons a rest ih =>
      cases hp : p a with
      | true =>
          obtain ⟨next, hnext, hturn⟩ := hskip state a hclosed hp
          rw [loop_cons_skip hturn, ih hnext, List.dropWhile_cons_of_pos hp]
      | false =>
          obtain ⟨next, hnext, hturn⟩ := hopen state a hclosed hp
          rw [loop_cons_emit hturn, loop_copy opened hcopy hnext,
            List.dropWhile_cons_of_neg (by simp [hp])]

/-- On a list sorted by a key, dropping the items below a bound keeps exactly
the items at or above it. -/
theorem dropWhile_eq_filter_of_pairwise {κ : Type*} [LinearOrder κ] (key : α → κ) (bound : κ)
    {items : List α} (hsorted : items.Pairwise fun a b => key a ≤ key b) :
    items.dropWhile (fun a => decide (key a < bound)) =
      items.filter fun a => decide (bound ≤ key a) := by
  induction items with
  | nil => rfl
  | cons a rest ih =>
      rw [List.pairwise_cons] at hsorted
      by_cases ha : key a < bound
      · rw [List.dropWhile_cons_of_pos (by simpa using ha), ih hsorted.2,
          List.filter_cons_of_neg (by simpa using ha)]
      have hall : ∀ b ∈ rest, bound ≤ key b := fun b hb =>
        (not_lt.mp ha).trans (hsorted.1 b hb)
      rw [List.dropWhile_cons_of_neg (by simpa using ha),
        List.filter_cons_of_pos (by simpa using ha)]
      congr 1
      exact (List.filter_eq_self.mpr fun b hb => by simpa using hall b hb).symm

end Library
