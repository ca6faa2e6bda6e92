import K5Vision.Library.Handler

/-!
# Transactions on a connection

A store that is read and written through one connection.  Outside a transaction a statement
takes effect at once.  Inside one it works on a copy, which `commit` puts in the place of the
store and `rollback` drops.  Every statement can fail, and a failure either leaves the
transaction open or has rolled it back.

`Within s pre` holds inside a transaction that began with the store `s`, whose copy is in `pre`.
The contracts of the statements say that the store is `s` until `commit` has returned.
-/

namespace Library

namespace Transactions

open Handler

/-- A store, and the copy of an open transaction. -/
structure Connection (σ : Type) where
  stored : σ
  pending : Option σ
  deriving DecidableEq, Repr

inductive Fault
  | left
  | undone
  deriving DecidableEq, Repr

variable {σ ε α : Type}

def Connection.current (connection : Connection σ) : σ := connection.pending.getD connection.stored

def Connection.put (after : σ) (connection : Connection σ) : Connection σ :=
  match connection.pending with
  | none => ⟨after, none⟩
  | some _ => ⟨connection.stored, some after⟩

def Connection.undo (connection : Connection σ) : Connection σ := ⟨connection.stored, none⟩

def Connection.after (fault : Fault) (connection : Connection σ) : Connection σ :=
  match fault with
  | .left => connection
  | .undone => connection.undo

/-- A statement that does `work` unless it fails, by a fault or by itself. -/
def statement (raised : ε) (fault : Option Fault) (work : σ → Option (α × σ)) :
    Handler (Connection σ) ε α :=
  Handler.of fun connection =>
    match fault with
    | some fault => (.error raised, connection.after fault)
    | none =>
        match work connection.current with
        | none => (.error raised, connection)
        | some (a, after) => (.ok a, connection.put after)

/-- `BEGIN`; there are no transactions in a transaction. -/
def beginning (raised : ε) (fault : Option Fault) : Handler (Connection σ) ε Unit :=
  Handler.of fun connection =>
    match fault, connection.pending with
    | none, none => (.ok (), ⟨connection.stored, some connection.stored⟩)
    | none, some _ => (.error raised, connection)
    | some fault, _ => (.error raised, connection.after fault)

def commit (raised : ε) (fault : Option Fault) : Handler (Connection σ) ε Unit :=
  Handler.of fun connection =>
    match fault, connection.pending with
    | none, some copy => (.ok (), ⟨copy, none⟩)
    | none, none => (.error raised, connection)
    | some fault, _ => (.error raised, connection.after fault)

/-- `ROLLBACK` where a transaction is open. -/
def rollback (raised : ε) (fault : Option Fault) : Handler (Connection σ) ε Unit :=
  Handler.of fun connection =>
    match fault, connection.pending with
    | _, none => (.ok (), connection)
    | none, some _ => (.ok (), connection.undo)
    | some fault, some _ => (.error raised, connection.after fault)

/-! ## Contracts -/

def Stores (s : σ) (connection : Connection σ) : Prop := connection.stored = s

/-- A transaction is open that began with the store `s`, and its copy is in `pre`. -/
def Within (s : σ) (pre : σ → Prop) (connection : Connection σ) : Prop :=
  connection.stored = s ∧ ∃ copy, connection.pending = some copy ∧ pre copy

variable {s : σ} {pre : σ → Prop} {raised : ε} {fault : Option Fault}

theorem stores_after {connection : Connection σ} (h : Stores s connection) (fault : Fault) :
    Stores s (connection.after fault) := by
  cases fault with
  | left => exact h
  | undone => exact h

theorem statement_spec {work : σ → Option (α × σ)} {post : α → σ → Prop}
    (h : ∀ copy a after, pre copy → work copy = some (a, after) → post a after) :
    Spec (Within s pre) (statement raised fault work) (fun a => Within s (post a))
      (Stores s) := by
  constructor
  rintro ⟨stored, pending⟩ ⟨hstored, copy, hpending, hpre⟩
  cases hpending
  cases fault with
  | some fault => exact stores_after hstored fault
  | none =>
      cases hwork : work copy with
      | none =>
          simp only [statement, exec_of, Connection.current, Option.getD_some, hwork]
          exact hstored
      | some result =>
          simp only [statement, exec_of, Connection.current, Option.getD_some, hwork]
          exact ⟨hstored, result.2, rfl, h copy result.1 result.2 hpre hwork⟩

theorem statement_stored {work : σ → Option (α × σ)} {kept : σ → Prop}
    (h : ∀ stored a after, kept stored → work stored = some (a, after) → kept after) :
    Spec (fun connection => kept connection.stored) (statement raised fault work)
      (fun _ connection => kept connection.stored) fun connection => kept connection.stored := by
  constructor
  rintro ⟨stored, pending⟩ hstored
  cases fault with
  | some fault => cases fault <;> exact hstored
  | none =>
      cases hwork : work (Connection.current ⟨stored, pending⟩) with
      | none =>
          simp only [statement, exec_of, hwork]
          exact hstored
      | some result =>
          simp only [statement, exec_of, hwork]
          cases pending with
          | none => exact h stored result.1 result.2 hstored hwork
          | some copy => exact hstored

theorem beginning_spec :
    Spec (Stores s) (beginning raised fault) (fun _ => Within s (· = s)) (Stores s) := by
  constructor
  rintro ⟨stored, pending⟩ hstored
  cases hstored
  cases fault with
  | some fault => exact stores_after rfl fault
  | none =>
      cases pending with
      | none => exact ⟨rfl, stored, rfl, rfl⟩
      | some copy => rfl

theorem commit_spec : Spec (Within s pre) (commit raised fault)
      (fun _ connection => pre connection.stored ∧ connection.pending = none) (Stores s) := by
  constructor
  rintro ⟨stored, pending⟩ ⟨hstored, copy, hpending, hpre⟩
  cases hpending
  cases fault with
  | some fault => exact stores_after hstored fault
  | none => exact ⟨hpre, rfl⟩

theorem rollback_spec {kept : σ → Prop} :
    Spec (fun connection => kept connection.stored) (rollback raised fault)
      (fun _ connection => kept connection.stored) fun connection => kept connection.stored := by
  constructor
  rintro ⟨stored, pending⟩ hstored
  cases pending with
  | none => cases fault <;> exact hstored
  | some copy =>
      cases fault with
      | none => exact hstored
      | some fault => cases fault <;> exact hstored

/-! ## Without faults -/

end Transactions

end Library
