import K5Vision.Library.Handler
import Mathlib.Data.List.Perm.Basic
import Mathlib.Data.List.Count
import Mathlib.Data.List.Nodup

/-!
# Resources that are opened and closed

Code that opens resources, holds them and closes them, where every call can fail.  A `Desk` hands
out the resources and writes down the calls: which resources were opened, which of them came up,
and which were closed.  What the calls come to is a list of answers, with `none` for a call that
returns.

`Accounts up held` says that the resources in `held` are those that were opened and not closed, that
every other one was closed exactly once, and that those in `up` came up.
-/

namespace Library

namespace Holdings

open Handler

/-- Where resources of kinds `κ` come from. -/
structure Desk (κ ε : Type) where
  answers : List (Option ε)
  next : ℕ
  opened : List (ℕ × κ)
  standing : List ℕ
  closed : List ℕ

variable {κ ε : Type}

/-- A call that can raise. -/
def ask : Handler (Desk κ ε) ε Unit :=
  Handler.of fun desk =>
    match desk.answers with
    | [] => (.ok (), desk)
    | none :: rest => (.ok (), { desk with answers := rest })
    | some error :: rest => (.error error, { desk with answers := rest })

def make : Handler (Desk κ ε) ε ℕ :=
  ask >>= fun _ => Handler.of fun desk => (.ok desk.next, { desk with next := desk.next + 1 })

def openOne (entry : ℕ × κ) : Handler (Desk κ ε) ε Unit :=
  (modify fun desk => { desk with opened := desk.opened ++ [entry] }) >>= fun _ =>
  ask >>= fun _ =>
  modify fun desk => { desk with standing := desk.standing ++ [entry.1] }

def closeOne (entry : ℕ × κ) : Handler (Desk κ ε) ε Unit :=
  (modify fun desk => { desk with closed := desk.closed ++ [entry.1] }) >>= fun _ => ask

/-- Close resources one after the other, whatever they raise; whether one raised. -/
def closeAll : List (ℕ × κ) → Handler (Desk κ ε) ε Bool
  | [] => pure false
  | entry :: rest =>
      (closeOne entry >>= fun _ => pure false).recover (fun _ => pure true) >>= fun failed =>
      closeAll rest >>= fun others => pure (failed || others)

/-! ## The accounts -/

structure Accounts (up held : List (ℕ × κ)) (desk : Desk κ ε) : Prop where
  fresh : ∀ entry ∈ desk.opened, entry.1 < desk.next
  nodup : (desk.opened.map Prod.fst).Nodup
  balance : (desk.opened.map Prod.fst).Perm (desk.closed ++ held.map Prod.fst)
  known : ∀ entry ∈ held, entry ∈ desk.opened
  standing : ∀ entry ∈ up, entry.1 ∈ desk.standing

/-- A resource that was handed out and not opened yet. -/
def New (id : ℕ) (desk : Desk κ ε) : Prop := id < desk.next ∧ id ∉ desk.opened.map Prod.fst

section Accounts

variable {up held others : List (ℕ × κ)} {desk : Desk κ ε} {entry : ℕ × κ}

theorem accounts_nil (answers : List (Option ε)) (next : ℕ) :
    Accounts [] [] (⟨answers, next, [], [], []⟩ : Desk κ ε) where
  fresh _ hentry := absurd hentry List.not_mem_nil
  nodup := List.nodup_nil
  balance := List.Perm.refl _
  known _ hentry := absurd hentry List.not_mem_nil
  standing _ hentry := absurd hentry List.not_mem_nil

theorem Accounts.perm (h : Accounts up held desk) (hperm : held.Perm others) :
    Accounts up others desk where
  __ := h
  balance := h.balance.trans ((hperm.map Prod.fst).append_left _)
  known other hother := h.known other (hperm.mem_iff.mpr hother)

theorem Accounts.less {fewer : List (ℕ × κ)} (h : Accounts up held desk) (hsub : fewer ⊆ up) :
    Accounts fewer held desk :=
  { h with standing := fun entry hentry => h.standing entry (hsub hentry) }

theorem Accounts.nodup_held (h : Accounts up held desk) : (held.map Prod.fst).Nodup :=
  (h.balance.nodup_iff.mp h.nodup).of_append_right

/-- A resource that is held was not closed, and any other one that was opened was closed exactly
once. -/
theorem Accounts.count_closed [DecidableEq κ] (h : Accounts up held desk)
    (hopened : entry ∈ desk.opened) :
    desk.closed.count entry.1 = if entry ∈ held then 0 else 1 := by
  have hone : (desk.opened.map Prod.fst).count entry.1 = 1 := by
    rw [h.nodup.count, if_pos (List.mem_map_of_mem hopened)]
  have hsum : desk.closed.count entry.1 + (held.map Prod.fst).count entry.1 = 1 := by
    rw [← List.count_append, ← h.balance.count_eq, hone]
  split_ifs with hheld
  · have := List.count_pos_iff.mpr (List.mem_map_of_mem (f := Prod.fst) hheld)
    omega
  have hnot : entry.1 ∉ held.map Prod.fst := by
    intro hmem
    obtain ⟨other, hother, hsame⟩ := List.mem_map.mp hmem
    have := List.inj_on_of_nodup_map h.nodup (h.known other hother) hopened hsame
    exact hheld (this ▸ hother)
  rw [List.count_eq_zero.mpr hnot] at hsum
  omega

theorem Accounts.answers (h : Accounts up held desk) (answers : List (Option ε)) :
    Accounts up held { desk with answers := answers } :=
  ⟨h.fresh, h.nodup, h.balance, h.known, h.standing⟩

end Accounts

/-! ## The contracts of the calls -/

section Calls

variable {up held others : List (ℕ × κ)} {entry : ℕ × κ}

theorem ask_spec {kept : Desk κ ε → Prop}
    (h : ∀ desk answers, kept desk → kept { desk with answers := answers }) :
    Spec kept ask (fun _ => kept) kept := by
  constructor
  intro desk hkept
  unfold ask
  rw [exec_of]
  cases hanswers : desk.answers with
  | nil => exact hkept
  | cons answer rest =>
      cases answer with
      | none => exact h desk rest hkept
      | some error => exact h desk rest hkept

theorem make_spec : Spec (Accounts up held) (make : Handler (Desk κ ε) ε ℕ)
      (fun id desk => Accounts up held desk ∧ New id desk) (Accounts up held) := by
  refine (ask_spec fun desk answers h => h.answers answers).bind fun _ => ?_
  constructor
  intro desk h
  refine ⟨{ h with fresh := fun entry hentry => ?_ }, ?_, fun hmem => ?_⟩
  · have := h.fresh entry hentry
    show entry.1 < desk.next + 1
    omega
  · show desk.next < desk.next + 1
    omega
  · obtain ⟨entry, hentry, heq⟩ := List.mem_map.mp hmem
    have := h.fresh entry hentry
    omega

theorem openOne_spec : Spec (fun desk => Accounts up held desk ∧ New entry.1 desk) (openOne entry)
      (fun _ => Accounts (up ++ [entry]) (held ++ [entry]))
      (Accounts up (held ++ [entry]) : Desk κ ε → Prop) := by
  have hopened : Spec (fun desk : Desk κ ε => Accounts up held desk ∧ New entry.1 desk)
      (modify fun desk => { desk with opened := desk.opened ++ [entry] } :
        Handler (Desk κ ε) ε PUnit)
      (fun _ => Accounts up (held ++ [entry])) (Accounts up (held ++ [entry])) := by
    refine Spec.modify fun desk h => ?_
    obtain ⟨haccounts, hnext, hnew⟩ := h
    refine ⟨fun other hother => ?_, ?_, ?_, fun other hother => ?_, haccounts.standing⟩
    · rcases List.mem_append.mp hother with hold | hentry
      · exact haccounts.fresh other hold
      · rw [List.mem_singleton.mp hentry]
        exact hnext
    · rw [List.map_append]
      refine List.nodup_append.mpr ⟨haccounts.nodup, List.nodup_singleton _, ?_⟩
      intro id hid other hmem heq
      rw [List.map_singleton, List.mem_singleton] at hmem
      exact hnew (hmem ▸ heq ▸ hid)
    · rw [List.map_append, List.map_append, ← List.append_assoc]
      exact haccounts.balance.append_right _
    · rcases List.mem_append.mp hother with hold | hentry
      · exact List.mem_append_left _ (haccounts.known other hold)
      · exact List.mem_append_right _ hentry
  refine hopened.bind fun _ => (ask_spec fun desk answers h => h.answers answers).bind fun _ => ?_
  refine Spec.modify fun desk h => { h with standing := fun other hother => ?_ }
  rcases List.mem_append.mp hother with hold | hentry
  · exact List.mem_append_left _ (h.standing other hold)
  · rw [List.mem_singleton.mp hentry]
    exact List.mem_append_right _ (List.mem_singleton_self _)

theorem closeOne_spec (hperm : held.Perm (entry :: others)) :
    Spec (Accounts up held) (closeOne entry) (fun _ => Accounts up others)
      (Accounts up others : Desk κ ε → Prop) := by
  have hclosed : Spec (Accounts up held : Desk κ ε → Prop)
      (modify fun desk => { desk with closed := desk.closed ++ [entry.1] } :
        Handler (Desk κ ε) ε PUnit)
      (fun _ => Accounts up others) (Accounts up others) := by
    refine Spec.modify fun desk h => ?_
    have hless := h.perm hperm
    refine ⟨h.fresh, h.nodup, ?_, fun other hother => hless.known other
      (List.mem_cons_of_mem _ hother), h.standing⟩
    rw [List.append_assoc]
    exact hless.balance
  exact hclosed.bind fun _ => ask_spec fun desk answers h => h.answers answers

theorem closeAll_spec {entries : List (ℕ × κ)} (hperm : held.Perm (entries ++ others)) :
    Spec (Accounts up held) (closeAll entries) (fun _ => Accounts up others)
      (fun _ : Desk κ ε => False) := by
  induction entries generalizing held with
  | nil => exact Spec.pure fun desk h => h.perm hperm
  | cons entry rest ih =>
      have hfirst : Spec (Accounts up held)
          ((closeOne entry >>= fun _ => pure false).recover fun _ => pure true)
          (fun _ => Accounts up (rest ++ others)) (fun _ : Desk κ ε => False) := by
        have hclose : Spec (Accounts up held) (closeOne entry)
            (fun _ => Accounts up (rest ++ others))
            (Accounts up (rest ++ others) : Desk κ ε → Prop) := closeOne_spec hperm
        have hreturns : Spec (Accounts up held) (closeOne entry >>= fun _ => pure false)
            (fun _ => Accounts up (rest ++ others))
            (Accounts up (rest ++ others) : Desk κ ε → Prop) :=
          hclose.bind fun _ => Spec.pure fun _ h => h
        have hraises : Spec (Accounts up (rest ++ others)) (pure true : Handler (Desk κ ε) ε Bool)
            (fun _ => Accounts up (rest ++ others)) (fun _ => False) :=
          Spec.pure fun _ h => h
        exact hreturns.recover fun _ => hraises
      exact hfirst.bind fun _ => (ih (List.Perm.refl _)).bind fun _ => Spec.pure fun _ h => h

end Calls

end Holdings

end Library
