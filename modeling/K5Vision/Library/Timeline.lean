import Mathlib.Data.List.Basic
import Mathlib.Order.Lattice

/-!
# Timelines

A line of values with a place on it, as the values that an editor goes back and forth between.  A
new value takes the place of what was ahead, and only so many values behind it are kept: the `floor`
is the first that one can still go back to.

`past` and `future` are the two sides of the place as stacks, whose last value is the nearest one.
-/

namespace Library

structure Timeline (α : Type*) where
  entries : List α
  cursor : ℕ
  floor : ℕ
  floor_le : floor ≤ cursor
  cursor_lt : cursor < entries.length

namespace Timeline

variable {α : Type*} (line : Timeline α)

def start (value : α) : Timeline α := ⟨[value], 0, 0, le_rfl, Nat.zero_lt_one⟩

def present : α := line.entries.get ⟨line.cursor, line.cursor_lt⟩

/-- The values that one can go back to. -/
def past : List α := (line.entries.take line.cursor).drop line.floor

/-- The values ahead, the farthest first. -/
def future : List α := (line.entries.drop (line.cursor + 1)).reverse

/-- A new value behind the present one, of which `bound` are kept behind. -/
def visit (bound : ℕ) (value : α) : Timeline α where
  entries := line.entries.take (line.cursor + 1) ++ [value]
  cursor := line.cursor + 1
  floor := max line.floor (line.cursor + 1 - bound)
  floor_le := by
    have hfloor := line.floor_le
    omega
  cursor_lt := by
    have hcursor := line.cursor_lt
    simp only [List.length_append, List.length_take, List.length_singleton]
    omega

def back : Option (Timeline α) :=
  if h : line.floor < line.cursor then
    some ⟨line.entries, line.cursor - 1, line.floor, by omega, by
      have hcursor := line.cursor_lt
      omega⟩
  else none

def forth : Option (Timeline α) :=
  if h : line.cursor + 1 < line.entries.length then
    some ⟨line.entries, line.cursor + 1, line.floor, by
      have hfloor := line.floor_le
      omega, h⟩
  else none

/-- No more than `bound` values can be gone to, behind and ahead together. -/
def Within (bound : ℕ) : Prop := line.entries.length ≤ line.floor + bound + 1

variable {line} {next : Timeline α} {bound : ℕ} {value : α}

theorem length_past : line.past.length = line.cursor - line.floor := by
  have hcursor := line.cursor_lt
  simp only [past, List.length_drop, List.length_take]
  omega

theorem length_future : line.future.length = line.entries.length - (line.cursor + 1) := by
  rw [future, List.length_reverse, List.length_drop]

theorem present_of_getElem? (h : line.entries[line.cursor]? = some value) :
    line.present = value := by
  rw [List.getElem?_eq_getElem line.cursor_lt] at h
  exact Option.some.inj h

theorem take_cursor_succ :
    line.entries.take (line.cursor + 1) = line.entries.take line.cursor ++ [line.present] := by
  rw [List.take_add_one, List.getElem?_eq_getElem line.cursor_lt]
  rfl

/-! ## A new value -/

theorem within_start (value : α) : (start value).Within bound := by
  change 1 ≤ 0 + bound + 1
  omega

theorem within_visit : (line.visit bound value).Within bound := by
  have hcursor := line.cursor_lt
  simp only [Within, visit, List.length_append, List.length_take, List.length_singleton]
  omega

@[simp] theorem present_visit : (line.visit bound value).present = value := by
  have hlength : (line.entries.take (line.cursor + 1)).length = line.cursor + 1 := by
    rw [List.length_take]
    exact min_eq_left line.cursor_lt
  refine present_of_getElem? ?_
  change (line.entries.take (line.cursor + 1) ++ [value])[line.cursor + 1]? = some value
  rw [List.getElem?_append_right hlength.le, hlength]
  simp

@[simp] theorem future_visit : (line.visit bound value).future = [] := by
  have hcursor := line.cursor_lt
  rw [← List.length_eq_zero_iff, length_future]
  simp only [visit, List.length_append, List.length_take, List.length_singleton]
  omega

/-- Behind a new value are the newest of those that were behind the place or at it. -/
theorem past_visit : (line.visit bound value).past =
    (line.past ++ [line.present]).drop ((line.past ++ [line.present]).length - bound) := by
  have hfloor := line.floor_le
  have hcursor := line.cursor_lt
  have hlength : (line.entries.take line.cursor).length = line.cursor :=
    (List.length_take ..).trans (min_eq_left hcursor.le)
  have hwhole : (line.entries.take (line.cursor + 1) ++ [value]).take (line.cursor + 1) =
      line.entries.take line.cursor ++ [line.present] := by
    rw [List.take_append_of_le_length, List.take_take, min_self, take_cursor_succ]
    rw [List.length_take]
    omega
  have hpast : line.past ++ [line.present] =
      (line.entries.take line.cursor ++ [line.present]).drop line.floor := by
    rw [List.drop_append_of_le_length (hfloor.trans_eq hlength.symm), past]
  have hcount : (line.past ++ [line.present]).length = line.cursor - line.floor + 1 := by
    rw [List.length_append, length_past, List.length_singleton]
  change ((line.entries.take (line.cursor + 1) ++ [value]).take (line.cursor + 1)).drop
    (max line.floor (line.cursor + 1 - bound)) = _
  rw [hwhole, hcount, hpast, List.drop_drop]
  congr 1
  omega

/-! ## Back and forth -/

theorem back_eq_none : line.back = none ↔ line.past = [] := by
  rw [← List.length_eq_zero_iff, length_past, back]
  have hfloor := line.floor_le
  split_ifs with hlt
  · simp
    omega
  · simp
    omega

theorem forth_eq_none : line.forth = none ↔ line.future = [] := by
  rw [← List.length_eq_zero_iff, length_future, forth]
  have hcursor := line.cursor_lt
  split_ifs with hlt
  · simp
    omega
  · simp
    omega

theorem forth_of_back (h : line.back = some next) : next.forth = some line := by
  unfold back at h
  split_ifs at h with hlt
  cases h
  have hcursor := line.cursor_lt
  have hsame : line.cursor - 1 + 1 = line.cursor := by omega
  rw [forth, dif_pos (by simpa only [hsame] using hcursor)]
  cases line
  simp only at hsame
  simp [hsame]

theorem past_of_forth (h : line.forth = some next) : next.past = line.past ++ [line.present] := by
  unfold forth at h
  split_ifs at h with hlt
  cases h
  have hlength : line.floor ≤ (line.entries.take line.cursor).length := by
    have hfloor := line.floor_le
    have hcursor := line.cursor_lt
    rw [List.length_take]
    omega
  change (line.entries.take (line.cursor + 1)).drop line.floor = _
  rw [take_cursor_succ, List.drop_append_of_le_length hlength, past]

theorem future_of_forth (h : line.forth = some next) :
    line.future = next.future ++ [next.present] := by
  unfold forth at h
  split_ifs at h with hlt
  cases h
  change (line.entries.drop (line.cursor + 1)).reverse =
    (line.entries.drop (line.cursor + 1 + 1)).reverse ++ [line.entries[line.cursor + 1]]
  rw [List.drop_eq_getElem_cons hlt, List.reverse_cons]

theorem within_of_forth (hwithin : line.Within bound) (h : line.forth = some next) :
    next.Within bound := by
  unfold forth at h
  split_ifs at h
  cases h
  exact hwithin

theorem within_of_back (hwithin : line.Within bound) (h : line.back = some next) :
    next.Within bound := by
  unfold back at h
  split_ifs at h
  cases h
  exact hwithin

theorem back_visit (hbound : 0 < bound) (value : α) :
    ∃ before, (line.visit bound value).back = some before ∧ before.present = line.present := by
  have hfloor := line.floor_le
  have hcursor := line.cursor_lt
  have hlt : (line.visit bound value).floor < (line.visit bound value).cursor := by
    simp only [visit]
    omega
  refine ⟨_, dif_pos hlt, present_of_getElem? ?_⟩
  change (line.entries.take (line.cursor + 1) ++ [value])[line.cursor]? = some line.present
  rw [take_cursor_succ, List.append_assoc]
  have hlength : (line.entries.take line.cursor).length = line.cursor := by
    rw [List.length_take]
    exact min_eq_left hcursor.le
  rw [List.getElem?_append_right hlength.le, hlength]
  simp

end Timeline

end Library
