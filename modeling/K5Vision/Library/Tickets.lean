import Mathlib.Data.List.Nodup

/-!
# Tickets

Values handed out under keys drawn at random, each to be taken back at most once and
some of them dropped before, in a dictionary with its history: every entry that was
issued and every key that was taken, the newest first.
-/

namespace Library

/-- A dictionary of tickets and its history. -/
structure Tickets (κ α : Type*) where
  live : List (κ × α)
  issued : List (κ × α)
  taken : List κ

namespace Tickets

variable {κ α : Type*}

def empty : Tickets κ α := ⟨[], [], []⟩

def find? [DecidableEq κ] (tickets : Tickets κ α) (key : κ) : Option α :=
  (tickets.live.find? (·.1 = key)).map (·.2)

def issue (tickets : Tickets κ α) (key : κ) (value : α) : Tickets κ α :=
  { tickets with live := (key, value) :: tickets.live, issued := (key, value) :: tickets.issued }

def keep (tickets : Tickets κ α) (valid : α → Bool) : Tickets κ α :=
  { tickets with live := tickets.live.filter fun entry => valid entry.2 }

/-- `dict.pop(key, None)`, behind `find?`. -/
def take [DecidableEq κ] (tickets : Tickets κ α) (key : κ) : Tickets κ α :=
  match tickets.find? key with
  | none => tickets
  | some _ =>
      { tickets with
        live := tickets.live.filter (·.1 ≠ key)
        taken := key :: tickets.taken }

variable {tickets : Tickets κ α} {key other : κ} {value : α}

/-- Every live entry was issued and not taken, and no key was taken twice. -/
structure Sound (tickets : Tickets κ α) : Prop where
  issued : ∀ entry ∈ tickets.live, entry ∈ tickets.issued
  unspent : ∀ entry ∈ tickets.live, entry.1 ∉ tickets.taken
  taken : tickets.taken.Nodup
  drawn : ∀ key ∈ tickets.taken, key ∈ tickets.issued.map Prod.fst
  keys : (tickets.issued.map Prod.fst).Nodup

theorem sound_empty : (empty : Tickets κ α).Sound := by
  constructor <;> simp [empty]

theorem mem_of_find? [DecidableEq κ] (h : tickets.find? key = some value) : (key, value) ∈ tickets.live := by
  obtain ⟨⟨key', value'⟩, hfind, rfl⟩ := Option.map_eq_some_iff.mp h
  have hkey := List.find?_some hfind
  simp only [decide_eq_true_eq] at hkey
  subst hkey
  exact List.mem_of_find?_eq_some hfind

@[simp] theorem issued_keep (valid : α → Bool) : (tickets.keep valid).issued = tickets.issued := rfl

@[simp] theorem taken_keep (valid : α → Bool) : (tickets.keep valid).taken = tickets.taken := rfl

theorem mem_live_keep {valid : α → Bool} :
    (key, value) ∈ (tickets.keep valid).live ↔ (key, value) ∈ tickets.live ∧ valid value := by
  simp [keep]

theorem find?_keep [DecidableEq κ] {valid : α → Bool} (h : (tickets.keep valid).find? key = some value) :
    (key, value) ∈ tickets.live ∧ valid value := mem_live_keep.mp (mem_of_find? h)

@[simp] theorem issued_take [DecidableEq κ] : (tickets.take key).issued = tickets.issued := by
  unfold take
  split <;> rfl

theorem taken_take [DecidableEq κ] (h : tickets.find? key = some value) :
    (tickets.take key).taken = key :: tickets.taken := by
  simp [take, h]

theorem taken_take_of_none [DecidableEq κ] (h : tickets.find? key = none) :
    tickets.take key = tickets := by
  simp [take, h]

theorem live_take_subset [DecidableEq κ] : ∀ entry ∈ (tickets.take key).live, entry ∈ tickets.live := by
  intro entry hentry
  unfold take at hentry
  split at hentry
  · exact hentry
  · exact (List.mem_filter.mp hentry).1

namespace Sound

theorem issue (h : tickets.Sound) (hfresh : key ∉ tickets.issued.map Prod.fst) (value : α) :
    (tickets.issue key value).Sound where
  issued entry hentry := by
    rcases List.mem_cons.mp hentry with rfl | hentry
    · exact List.mem_cons_self
    · exact List.mem_cons_of_mem _ (h.issued entry hentry)
  unspent entry hentry := by
    rcases List.mem_cons.mp hentry with rfl | hentry
    · exact fun hspent => hfresh (h.drawn _ hspent)
    · exact h.unspent entry hentry
  taken := h.taken
  drawn spent hspent := List.mem_cons_of_mem _ (h.drawn spent hspent)
  keys := List.nodup_cons.mpr ⟨hfresh, h.keys⟩

theorem keep (h : tickets.Sound) (valid : α → Bool) : (tickets.keep valid).Sound where
  issued entry hentry := h.issued entry (List.mem_filter.mp hentry).1
  unspent entry hentry := h.unspent entry (List.mem_filter.mp hentry).1
  __ := h

theorem take [DecidableEq κ] (h : tickets.Sound) (key : κ) : (tickets.take key).Sound := by
  cases hfind : tickets.find? key with
  | none =>
      rw [taken_take_of_none hfind]
      exact h
  | some value =>
      have hlive := mem_of_find? hfind
      have htaken := taken_take hfind
      constructor
      case issued =>
        intro entry hentry
        rw [issued_take]
        exact h.issued entry (live_take_subset entry hentry)
      case unspent =>
        intro entry hentry
        rw [htaken]
        have hold := h.unspent entry (live_take_subset entry hentry)
        have hne : entry.1 ≠ key := by
          simp only [Tickets.take, hfind, List.mem_filter, decide_eq_true_eq] at hentry
          exact hentry.2
        exact List.not_mem_cons_of_ne_of_not_mem hne hold
      case taken =>
        rw [htaken]
        exact List.nodup_cons.mpr ⟨h.unspent _ hlive, h.taken⟩
      case drawn =>
        intro spent hspent
        rw [htaken] at hspent
        rw [issued_take]
        rcases List.mem_cons.mp hspent with rfl | hspent
        · exact List.mem_map_of_mem (h.issued _ hlive)
        · exact h.drawn spent hspent
      case keys =>
        rw [issued_take]
        exact h.keys

end Sound

end Tickets

end Library
