import Mathlib.Data.List.Basic
import Mathlib.Algebra.Order.Group.Nat
import Mathlib.Tactic.Ring

/-!
# Cells of a canvas

A canvas is a list of items in rows of `stride` items, with cells of equal sizes from the start of
each row on; what is left of a row belongs to no cell that is painted.  `Paints` says what painting
a region comes to: the cells of the region have the colour, and every other item is as before.
Regions are painted one after the other, so that they add up (`Paints.trans`).
-/

namespace Library

variable {α : Type*}

/-- `buffer[offset : offset + len(patch)] = patch`. -/
def overwrite (offset : ℕ) (patch buffer : List α) : List α :=
  buffer.take offset ++ patch ++ buffer.drop (offset + patch.length)

section Overwrite

variable {offset : ℕ} {patch buffer : List α}

theorem length_overwrite (h : offset + patch.length ≤ buffer.length) :
    (overwrite offset patch buffer).length = buffer.length := by
  unfold overwrite
  rw [List.length_append, List.length_append, List.length_take, List.length_drop]
  omega

theorem getElem?_overwrite_of_mem (h : offset + patch.length ≤ buffer.length) {index : ℕ}
    (hlow : offset ≤ index) (hhigh : index < offset + patch.length) :
    (overwrite offset patch buffer)[index]? = patch[index - offset]? := by
  unfold overwrite
  have htake : (buffer.take offset).length = offset := by
    rw [List.length_take]
    omega
  rw [List.append_assoc, List.getElem?_append_right (by omega), htake,
    List.getElem?_append_left (by omega)]

theorem getElem?_overwrite_of_not_mem (h : offset + patch.length ≤ buffer.length) {index : ℕ}
    (hout : index < offset ∨ offset + patch.length ≤ index) :
    (overwrite offset patch buffer)[index]? = buffer[index]? := by
  unfold overwrite
  have htake : (buffer.take offset).length = offset := by
    rw [List.length_take]
    omega
  rcases hout with hlow | hhigh
  · rw [List.append_assoc, List.getElem?_append_left (by omega), List.getElem?_take_of_lt hlow]
  rw [List.getElem?_append_right (by rw [List.length_append]; omega), List.getElem?_drop,
    List.length_append, htake]
  congr 1
  omega

end Overwrite

/-! ## Cells -/

def cellAt (stride size index : ℕ) : ℕ × ℕ := (index % stride / size, index / stride)

theorem cellAt_eq_iff {stride size x y index : ℕ} (hsize : 0 < size)
    (hx : (x + 1) * size ≤ stride) :
    cellAt stride size index = (x, y) ↔
      y * stride + x * size ≤ index ∧ index < y * stride + x * size + size := by
  have hstride : 0 < stride := lt_of_lt_of_le (Nat.mul_pos x.succ_pos hsize) hx
  have hcell : x * size + size ≤ stride := by rwa [Nat.succ_mul] at hx
  have hindex : stride * (index / stride) + index % stride = index := Nat.div_add_mod index stride
  have hrest : index % stride < stride := Nat.mod_lt index hstride
  unfold cellAt
  rw [Prod.mk.injEq]
  constructor
  · rintro ⟨hplace, rfl⟩
    obtain ⟨hlow, hhigh⟩ := (Nat.div_eq_iff hsize).mp hplace
    rw [Nat.mul_comm] at hindex
    omega
  rintro ⟨hlow, hhigh⟩
  have hrow : index / stride = y := by
    rw [Nat.div_eq_iff hstride]
    omega
  refine ⟨?_, hrow⟩
  rw [hrow, Nat.mul_comm] at hindex
  rw [Nat.div_eq_iff hsize]
  omega

theorem item_mod {stride size x y k : ℕ} (hk : k < size) (hx : (x + 1) * size ≤ stride) :
    (y * stride + x * size + k) % stride % size = k := by
  rw [Nat.succ_mul] at hx
  have hplace : (y * stride + x * size + k) % stride = x * size + k := by
    rw [Nat.add_assoc, Nat.mul_add_mod_self_right, Nat.mod_eq_of_lt (by omega)]
  rw [hplace, Nat.mul_add_mod_self_right, Nat.mod_eq_of_lt hk]

/-- `after` is `before` with the cells of a region painted. -/
structure Paints (stride : ℕ) (colour : List α) (region : ℕ × ℕ → Prop) (before after : List α) :
    Prop where
  length : after.length = before.length
  painted : ∀ index < before.length, region (cellAt stride colour.length index) →
    after[index]? = colour[index % stride % colour.length]?
  kept : ∀ index, ¬ region (cellAt stride colour.length index) → after[index]? = before[index]?

section Paints

variable {stride : ℕ} {colour before between after : List α} {region others : ℕ × ℕ → Prop}

theorem Paints.refl (hempty : ∀ cell, ¬ region cell) : Paints stride colour region before before :=
  ⟨rfl, fun _ _ hregion => absurd hregion (hempty _), fun _ _ => rfl⟩

theorem Paints.congr (h : Paints stride colour region before after)
    (hsame : ∀ cell, region cell ↔ others cell) : Paints stride colour others before after :=
  ⟨h.length, fun index hindex hregion => h.painted index hindex ((hsame _).mpr hregion),
    fun index hregion => h.kept index fun hold => hregion ((hsame _).mp hold)⟩

theorem Paints.trans (h : Paints stride colour region before between)
    (hnext : Paints stride colour others between after) :
    Paints stride colour (fun cell => region cell ∨ others cell) before after := by
  refine ⟨hnext.length.trans h.length, fun index hindex hregion => ?_, fun index hregion => ?_⟩
  · by_cases hothers : others (cellAt stride colour.length index)
    · exact hnext.painted index (h.length.symm ▸ hindex) hothers
    · rw [hnext.kept index hothers]
      exact h.painted index hindex (hregion.resolve_right hothers)
  · rw [hnext.kept index fun hothers => hregion (.inr hothers),
      h.kept index fun hold => hregion (.inl hold)]

theorem paints_cell {x y : ℕ} (hcolour : 0 < colour.length) (hx : (x + 1) * colour.length ≤ stride)
    (hy : (y + 1) * stride ≤ before.length) :
    Paints stride colour (fun cell => cell = (x, y)) before
      (overwrite (y * stride + x * colour.length) colour before) := by
  have hcell : x * colour.length + colour.length ≤ stride := by rwa [Nat.succ_mul] at hx
  have hrow : y * stride + stride ≤ before.length := by rwa [Nat.succ_mul] at hy
  have hfits : y * stride + x * colour.length + colour.length ≤ before.length := by omega
  refine ⟨length_overwrite hfits, fun index _ hregion => ?_, fun index hregion => ?_⟩
  · obtain ⟨hlow, hhigh⟩ := (cellAt_eq_iff hcolour hx).mp hregion
    obtain ⟨k, rfl⟩ := Nat.exists_eq_add_of_le hlow
    rw [getElem?_overwrite_of_mem hfits hlow hhigh, Nat.add_sub_cancel_left, item_mod (by omega) hx]
  · refine getElem?_overwrite_of_not_mem hfits ?_
    by_contra hin
    exact hregion ((cellAt_eq_iff hcolour hx).mpr (by omega))

/-! ## What is read back -/

section Reading

variable {x y k : ℕ}

theorem Paints.getElem?_cell (h : Paints stride colour region before after)
    (hx : (x + 1) * colour.length ≤ stride) (hy : (y + 1) * stride ≤ before.length)
    (hregion : region (x, y)) (hk : k < colour.length) :
    after[y * stride + x * colour.length + k]? = colour[k]? := by
  have hcell := (cellAt_eq_iff (Nat.zero_lt_of_lt hk) hx).mpr
    ⟨Nat.le_add_right (y * stride + x * colour.length) k, by omega⟩
  have hlength : y * stride + x * colour.length + k < before.length := by
    rw [Nat.succ_mul] at hx hy
    omega
  rw [h.painted _ hlength (hcell ▸ hregion), item_mod hk hx]

theorem Paints.getElem?_other (h : Paints stride colour region before after)
    (hx : (x + 1) * colour.length ≤ stride) (hregion : ¬ region (x, y)) (hk : k < colour.length) :
    after[y * stride + x * colour.length + k]? = before[y * stride + x * colour.length + k]? := by
  have hcell := (cellAt_eq_iff (Nat.zero_lt_of_lt hk) hx).mpr
    ⟨Nat.le_add_right (y * stride + x * colour.length) k, by omega⟩
  exact h.kept _ (hcell ▸ hregion)

theorem Paints.getElem?_padding (h : Paints stride colour region before after) {columns : ℕ}
    (hregion : ∀ cell, region cell → cell.1 < columns) (hcolour : 0 < colour.length)
    (hlow : columns * colour.length ≤ k) (hk : k < stride) :
    after[y * stride + k]? = before[y * stride + k]? := by
  refine h.kept _ fun hpainted => ?_
  have hcolumn : (y * stride + k) % stride / colour.length < columns := hregion _ hpainted
  rw [Nat.mul_add_mod_self_right, Nat.mod_eq_of_lt hk, Nat.div_lt_iff_lt_mul hcolour] at hcolumn
  omega

end Reading

end Paints

end Library
