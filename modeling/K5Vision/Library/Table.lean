import Mathlib.Data.List.Nodup

/-!
# Tables with a primary key

A `Table κ α` is a list of rows in the order of their insertion, no two with the
same key.  The writes of a relational table that keeps its rows are here:
`insert?`, which a taken key refuses, `modify`, which rewrites the row of one
key, `upsert` and `erase`.  None of them reorders rows.

Everything that is said about a table later is said through `find?`, and each
write comes with the value of `find?` behind it.
-/

namespace Library

/-- Rows in the order of their insertion, with distinct keys. -/
structure Table (κ α : Type*) where
  rows : List (κ × α)
  nodup_keys : (rows.map Prod.fst).Nodup

namespace Table

variable {κ α : Type*}

theorem ext_rows {first second : Table κ α} (h : first.rows = second.rows) : first = second := by
  cases first
  cases second
  cases h
  rfl

instance [DecidableEq κ] [DecidableEq α] : DecidableEq (Table κ α) := fun first second =>
  decidable_of_iff (first.rows = second.rows) ⟨ext_rows, fun h => by rw [h]⟩

def empty : Table κ α := ⟨[], List.nodup_nil⟩

def keys (table : Table κ α) : List κ := table.rows.map Prod.fst

variable [DecidableEq κ]

def find? (table : Table κ α) (key : κ) : Option α := table.rows.lookup key

theorem keys_mapRow (rows : List (κ × α)) (key : κ) (f : α → α) :
    (rows.map fun row => if row.1 = key then (row.1, f row.2) else row).map Prod.fst =
      rows.map Prod.fst := by
  rw [List.map_map]
  apply List.map_congr_left
  intro row _
  rw [Function.comp_apply]
  split_ifs <;> rfl

/-- Rewrite the row with a key, if there is one. -/
def modify (table : Table κ α) (key : κ) (f : α → α) : Table κ α where
  rows := table.rows.map fun row => if row.1 = key then (row.1, f row.2) else row
  nodup_keys := by
    rw [keys_mapRow]
    exact table.nodup_keys

variable {key : κ} {table : Table κ α}

omit [DecidableEq κ] in
theorem nodup_append_row (h : key ∉ table.keys) (a : α) :
    ((table.rows ++ [(key, a)]).map Prod.fst).Nodup := by
  rw [List.map_append, List.nodup_append]
  refine ⟨table.nodup_keys, List.nodup_singleton _, ?_⟩
  intro other hother last hlast heq
  rw [List.map_singleton, List.mem_singleton] at hlast
  subst hlast
  exact h (heq ▸ hother)

def insert? (table : Table κ α) (key : κ) (a : α) : Option (Table κ α) :=
  if h : key ∈ table.keys then none
  else some ⟨table.rows ++ [(key, a)], nodup_append_row h a⟩

def upsert (table : Table κ α) (key : κ) (a : α) : Table κ α :=
  if h : key ∈ table.keys then table.modify key fun _ => a
  else ⟨table.rows ++ [(key, a)], nodup_append_row h a⟩

def erase (table : Table κ α) (key : κ) : Table κ α where
  rows := table.rows.filter fun row => row.1 ≠ key
  nodup_keys := table.nodup_keys.sublist (List.filter_sublist.map _)

omit [DecidableEq κ] in
def keep (table : Table κ α) (p : κ × α → Bool) : Table κ α where
  rows := table.rows.filter p
  nodup_keys := table.nodup_keys.sublist (List.filter_sublist.map _)

/-! ## Reading a table -/

variable {a : α}

@[simp] theorem find?_empty (key : κ) : (empty : Table κ α).find? key = none := rfl

theorem lookup_eq_some_of_mem {rows : List (κ × α)} (hnodup : (rows.map Prod.fst).Nodup)
    (h : (key, a) ∈ rows) : rows.lookup key = some a := by
  induction rows with
  | nil => cases h
  | cons row rest ih =>
      obtain ⟨other, b⟩ := row
      rw [List.map_cons, List.nodup_cons] at hnodup
      rcases List.mem_cons.mp h with heq | hrest
      · cases heq
        exact List.lookup_cons_self
      have hne : key ≠ other := by
        intro heq
        subst heq
        exact hnodup.1 (List.mem_map.mpr ⟨_, hrest, rfl⟩)
      rw [List.lookup_cons, beq_false_of_ne hne]
      exact ih hnodup.2 hrest

theorem mem_of_lookup_eq_some {rows : List (κ × α)} (h : rows.lookup key = some a) :
    (key, a) ∈ rows := by
  induction rows with
  | nil => cases h
  | cons row rest ih =>
      obtain ⟨other, b⟩ := row
      rw [List.lookup_cons] at h
      by_cases heq : key = other
      · subst heq
        rw [beq_self_eq_true] at h
        cases h
        exact List.mem_cons_self
      · rw [beq_false_of_ne heq] at h
        exact List.mem_cons_of_mem _ (ih h)

theorem mem_rows : (key, a) ∈ table.rows ↔ table.find? key = some a :=
  ⟨lookup_eq_some_of_mem table.nodup_keys, mem_of_lookup_eq_some⟩

theorem mem_keys : key ∈ table.keys ↔ ∃ a, table.find? key = some a := by
  simp only [keys, List.mem_map, Prod.exists, exists_and_right, exists_eq_right, mem_rows]

theorem find?_eq_none : table.find? key = none ↔ key ∉ table.keys := by
  rw [mem_keys, Option.eq_none_iff_forall_ne_some, not_exists]

/-! ## The writes -/

@[simp] theorem find?_modify_self (table : Table κ α) (key : κ) (f : α → α) :
    (table.modify key f).find? key = (table.find? key).map f := by
  cases h : table.find? key with
  | none =>
      rw [Option.map_none, find?_eq_none, keys, modify, keys_mapRow]
      exact find?_eq_none.mp h
  | some a =>
      rw [Option.map_some, ← mem_rows]
      exact List.mem_map.mpr ⟨_, mem_rows.mpr h, if_pos rfl⟩

theorem find?_modify_of_ne (table : Table κ α) {other : κ} (h : other ≠ key) (f : α → α) :
    (table.modify key f).find? other = table.find? other := by
  cases hfind : table.find? other with
  | none =>
      rw [find?_eq_none, keys, modify, keys_mapRow]
      exact find?_eq_none.mp hfind
  | some a =>
      rw [← mem_rows]
      exact List.mem_map.mpr ⟨_, mem_rows.mpr hfind, if_neg h⟩

theorem find?_append (h : key ∉ table.keys) (a : α) (other : κ) :
    (⟨table.rows ++ [(key, a)], nodup_append_row h a⟩ : Table κ α).find? other =
      if other = key then some a else table.find? other := by
  simp only [find?, List.lookup_append]
  by_cases heq : other = key
  · subst heq
    have hnone : table.rows.lookup other = none := find?_eq_none.mpr h
    simp [hnone]
  · simp [List.lookup_cons, beq_false_of_ne heq, heq]

theorem insert?_eq_some {inserted : Table κ α} (h : table.insert? key a = some inserted) :
    table.find? key = none ∧ inserted.rows = table.rows ++ [(key, a)] ∧
      ∀ other, inserted.find? other = if other = key then some a else table.find? other := by
  unfold insert? at h
  split_ifs at h with hkey
  cases h
  exact ⟨find?_eq_none.mpr hkey, rfl, find?_append hkey a⟩

theorem find?_upsert (table : Table κ α) (key : κ) (a : α) (other : κ) :
    (table.upsert key a).find? other = if other = key then some a else table.find? other := by
  unfold upsert
  split_ifs with hkey heq heq
  · subst heq
    obtain ⟨b, hb⟩ := mem_keys.mp hkey
    rw [find?_modify_self, hb]
    rfl
  · exact find?_modify_of_ne table heq _
  · rw [find?_append hkey, if_pos heq]
  · rw [find?_append hkey, if_neg heq]

theorem find?_erase (table : Table κ α) (key other : κ) :
    (table.erase key).find? other = if other = key then none else table.find? other := by
  by_cases heq : other = key
  · rw [if_pos heq, find?_eq_none]
    intro hmem
    obtain ⟨row, hrow, rfl⟩ := List.mem_map.mp hmem
    have hne := (List.mem_filter.mp hrow).2
    exact absurd heq (by simpa using hne)
  rw [if_neg heq]
  cases hfind : table.find? other with
  | none =>
      rw [find?_eq_none] at hfind ⊢
      intro hmem
      obtain ⟨row, hrow, rfl⟩ := List.mem_map.mp hmem
      exact hfind (List.mem_map.mpr ⟨row, (List.mem_filter.mp hrow).1, rfl⟩)
  | some a =>
      rw [← mem_rows] at hfind ⊢
      exact List.mem_filter.mpr ⟨hfind, by simpa using heq⟩

theorem find?_keep {p : κ × α → Bool} :
    (table.keep p).find? key = some a ↔ table.find? key = some a ∧ p (key, a) = true := by
  rw [← mem_rows, ← mem_rows]
  exact List.mem_filter

theorem length_upsert_le (table : Table κ α) (key : κ) (a : α) :
    (table.upsert key a).rows.length ≤ table.rows.length + 1 := by
  unfold upsert
  split_ifs
  · simp [modify]
  · simp

end Table

end Library
