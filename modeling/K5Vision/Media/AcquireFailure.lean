import K5Vision.Library.Solo
import K5Vision.Media.RecordingAttempt

/-!
# An acquisition that fails

What `acquire_staging` leaves behind when one of its operations fails and the others work.  It takes
its marker away when it finds its token there.  That is so unless the token was not written to its
end; and behind a marker that could not be closed nothing is taken away at all
(`acquire_restores_iff`).

`Marked` is the directory with the marker of an attempt, whatever was written to it so far.
-/

namespace K5Vision.Media.Attempts

open Library Routine

set_option linter.unusedSectionVars false

/-! ## Operations that fail -/

def wroteNothing : (request : Request) → interface.Answer request → Bool
  | .write _ _ => fun written : ℕ => written = 0
  | _ => fun _ => false

/-- An operation has raised, or has written nothing. -/
def failed (served : Served interface Raised) : Bool :=
  match served.answer with
  | .error _ => true
  | .ok answer => wroteNothing served.request answer

def refused (request : Request) (raised : Raised) : Served interface Raised :=
  ⟨request, .error raised⟩

/-- The operations of a run that failed. -/
def faults (log : List (Served interface Raised)) : List (Served interface Raised) :=
  log.filter failed

/-- An operation behind whose failure the directory is restored. -/
def Restoring : Request → Bool
  | .write _ _ => false
  | .close _ => false
  | _ => true

variable {ι : Type} [DecidableEq ι] {tokens : ι → Token} {i : ι} {before state after : State ι}

/-- The same names, and the same bytes behind them. -/
def SameDirectory (before after : State ι) : Prop :=
  after.links = before.links ∧
    ∀ name inode, before.links name = some inode → after.content inode = before.content inode

/-- The directory with the marker of an attempt in it, with some bytes. -/
structure Marked (i : ι) (before : State ι) (inode : Inode) (data : List UInt8)
    (state : State ι) : Prop where
  free : before.links .marker = none
  links : state.links = Function.update before.links .marker (some inode)
  fresh : ∀ name, before.links name ≠ some inode
  kept : ∀ name other, before.links name = some other →
    state.content other = before.content other
  content : state.content inode = data
  ownsLock : state.ownsLock i = true
  ownsStaging : state.ownsStaging i = false

theorem SameDirectory.refl (state : State ι) : SameDirectory state state := ⟨rfl, fun _ _ _ => rfl⟩

theorem Marked.not_same {inode : Inode} {data : List UInt8} (h : Marked i before inode data state) :
    ¬SameDirectory before state := by
  intro hsame
  have hmarker : state.links .marker = some inode := by rw [h.links, Function.update_self]
  rw [hsame.1, h.free] at hmarker
  cases hmarker

@[simp] theorem faults_nil : faults [] = [] := rfl

@[simp] theorem faults_refused (request : Request) (raised : Raised) :
    faults [refused request raised] = [refused request raised] := rfl

@[simp] theorem request_refused (request : Request) (raised : Raised) :
    (refused request raised).request = request := rfl

@[simp] theorem faults_append (first second : List (Served interface Raised)) :
    faults (first ++ second) = faults first ++ faults second :=
  List.filter_append ..

/-! ## Single operations -/

section Operations

variable {log : List (Served interface Raised)} {policy : Policy ι}

/-- An operation works, or its exception is a fault. -/
def Answered (request : Request) {α : Type} (outcome : Except Raised α)
    (log : List (Served interface Raised)) : Prop :=
  (∃ a, outcome = .ok a ∧ faults log = []) ∨
    ∃ raised, outcome = .error raised ∧ log = [refused request raised]

variable {outcome : Except Raised Unit}

theorem runs_touch (h : touch.Runs (server tokens policy i) before log outcome after) :
    after = before ∧ Answered .touch outcome log := by
  obtain ⟨choice, -, rfl, hserve⟩ := h.call
  cases hfailure : choice.failure with
  | none =>
      simp only [server, serve, hfailure] at hserve
      cases hserve
      exact ⟨rfl, .inl ⟨_, rfl, rfl⟩⟩
  | some raised =>
      simp only [server, serve, hfailure] at hserve
      cases hserve
      exact ⟨rfl, .inr ⟨raised, rfl, rfl⟩⟩

theorem runs_close {file : Inode}
    (h : (close file).Runs (server tokens policy i) before log outcome after) :
    after = { before with opened := after.opened } ∧ Answered (.close file) outcome log := by
  obtain ⟨choice, -, rfl, hserve⟩ := h.call
  cases hfailure : choice.failure with
  | none =>
      simp only [server, serve, hfailure, State.close] at hserve
      cases hserve
      exact ⟨rfl, .inl ⟨_, rfl, rfl⟩⟩
  | some raised =>
      simp only [server, serve, hfailure, State.close] at hserve
      cases hserve
      exact ⟨rfl, .inr ⟨raised, rfl, rfl⟩⟩

variable {name : Name}

theorem runs_create {outcome : Except Raised Inode}
    (h : (create name).Runs (server tokens policy i) before log outcome after) :
    (∃ raised, outcome = .error raised ∧ after = before ∧ log = [refused (.create name) raised]) ∨
      ∃ inode, outcome = .ok inode ∧ before.links name = none ∧ Free before inode ∧
        after = (before.add i name inode).own tokens i name true ∧ faults log = [] := by
  obtain ⟨choice, hpermits, rfl, hserve⟩ := h.call
  cases hfailure : choice.failure with
  | some raised =>
      simp only [server, serve, hfailure] at hserve
      cases hserve
      exact .inl ⟨raised, rfl, rfl, rfl⟩
  | none =>
      simp only [server, serve, hfailure, State.create] at hserve
      split at hserve
      · cases hserve
        exact .inl ⟨.fileExists, rfl, rfl, rfl⟩
      next hfree =>
        cases hserve
        refine .inr ⟨choice.inode, rfl, Option.not_isSome_iff_eq_none.mp hfree, ?_, rfl, rfl⟩
        exact (policy.permitted hpermits).2.2 name rfl

theorem runs_owned {outcome : Except Raised (Bool × Bool)}
    (h : owned.Runs (server tokens policy i) before log outcome after) :
    outcome = .ok (before.ownsLock i, before.ownsStaging i) ∧ after = before ∧
      faults log = [] := by
  obtain ⟨choice, -, rfl, hserve⟩ := h.call
  cases hserve
  exact ⟨rfl, rfl, rfl⟩

theorem runs_readBytes {inode : Inode} {outcome : Except Raised (List UInt8)}
    (h : (readBytes name).Runs (server tokens policy i) before log outcome after)
    (hname : before.links name = some inode) (hfaults : faults log = []) :
    outcome = .ok (before.content inode) ∧ after = before := by
  obtain ⟨choice, -, rfl, hserve⟩ := h.call
  cases hfailure : choice.failure with
  | some raised =>
      simp only [server, serve, hfailure] at hserve
      cases hserve
      cases hfaults
  | none =>
      simp only [server, serve, hfailure, State.readBytes, hname] at hserve
      cases hserve
      exact ⟨rfl, rfl⟩

theorem runs_unlink {inode : Inode}
    (h : (unlink name).Runs (server tokens policy i) before log outcome after)
    (hname : before.links name = some inode) (hfaults : faults log = []) :
    outcome = .ok () ∧ after = (before.drop name).own tokens i name false := by
  obtain ⟨choice, -, rfl, hserve⟩ := h.call
  cases hfailure : choice.failure with
  | some raised =>
      simp only [server, serve, hfailure] at hserve
      cases hserve
      cases hfaults
  | none =>
      simp only [server, serve, hfailure, State.unlink, hname] at hserve
      cases hserve
      exact ⟨rfl, rfl⟩

end Operations

/-! ## The marker -/

section Marker

variable {log : List (Served interface Raised)} {policy : Policy ι} {inode : Inode}
  {data : List UInt8}

variable (tokens) in
theorem marked_create (hstaging : before.ownsStaging i = false)
    (hfree : before.links .marker = none) (hinode : Free before inode) :
    Marked i before inode [] ((before.add i .marker inode).own tokens i .marker true) where
  free := hfree
  links := by simp [State.own, State.add]
  fresh := hinode.1
  kept name other hname := by
    have hne : other ≠ inode := by
      rintro rfl
      exact hinode.1 name hname
    simp [State.own, State.add, hne]
  content := by simp [State.own, State.add]
  ownsLock := by simp [State.own]
  ownsStaging := by simpa [State.own, State.add] using hstaging

theorem Marked.reopened (h : Marked i before inode data state) (opened : ι → List Inode) :
    Marked i before inode data { state with opened := opened } :=
  ⟨h.free, h.links, h.fresh, h.kept, h.content, h.ownsLock, h.ownsStaging⟩

theorem Marked.write (h : Marked i before inode data state) (rest : List UInt8) (count : ℕ) :
    Marked i before inode (data ++ rest.take count) (state.write i inode rest count).2 where
  __ := h
  kept name other hname := by
    have hne : other ≠ inode := by
      rintro rfl
      exact h.fresh name hname
    simpa [State.write, hne] using h.kept name other hname
  content := by simp [State.write, h.content]

def wrote (file : Inode) (rest : List UInt8) (written : ℕ) : Served interface Raised :=
  ⟨.write file rest, .ok written⟩

theorem failed_wrote (file : Inode) (rest : List UInt8) (written : ℕ) :
    failed (wrote file rest written) = decide (written = 0) := rfl

variable {rest : List UInt8}

theorem faults_wrote {file : Inode} {written : ℕ} :
    faults [wrote file rest written] = if written = 0 then [wrote file rest written] else [] := by
  by_cases hnone : written = 0
  · rw [if_pos hnone, faults, List.filter_cons_of_pos, List.filter_nil]
    rw [failed_wrote]
    exact decide_eq_true hnone
  · rw [if_neg hnone, faults, List.filter_cons_of_neg, List.filter_nil]
    rw [failed_wrote]
    simpa using hnone

theorem runs_write_raised {raised : Raised}
    (h : (writeSome inode rest).Runs (server tokens policy i) before log (.error raised) after) :
    after = before ∧ log = [refused (.write inode rest) raised] := by
  obtain ⟨choice, -, rfl, hserve⟩ := h.call
  cases hfailure : choice.failure <;> simp only [server, serve, hfailure, State.write] at hserve <;>
    cases hserve
  exact ⟨rfl, rfl⟩

theorem runs_write {written : ℕ}
    (h : (writeSome inode rest).Runs (server tokens policy i) before log (.ok written) after) :
    written ≤ rest.length ∧ after = (before.write i inode rest written).2 ∧
      log = [wrote inode rest written] := by
  obtain ⟨choice, -, rfl, hserve⟩ := h.call
  cases hfailure : choice.failure with
  | some raised =>
      simp only [server, serve, hfailure] at hserve
      cases hserve
  | none =>
      simp only [server, serve, hfailure, State.write] at hserve
      cases hserve
      refine ⟨Nat.min_le_right _ _, ?_, rfl⟩
      simp only [State.write, ← List.take_eq_take_min]

variable {outcome : Except Raised Unit}

theorem runs_writeTurns {turns : ℕ} (hturns : rest.length ≤ turns)
    (hmarked : Marked i before inode data state)
    (h : (writeTurns inode turns rest).Runs (server tokens policy i) state log outcome after) :
    (outcome = .ok () ∧ faults log = [] ∧ Marked i before inode (data ++ rest) after) ∨
      ∃ raised fault written, outcome = .error raised ∧ faults log = [fault] ∧
        Restoring fault.request = false ∧ written < rest.length ∧
          Marked i before inode (data ++ rest.take written) after := by
  induction turns generalizing data rest state log with
  | zero =>
      obtain rfl : rest = [] := List.length_eq_zero_iff.mp (Nat.le_zero.mp hturns)
      obtain ⟨rfl, rfl, rfl⟩ := h
      exact .inl ⟨rfl, rfl, by simpa using hmarked⟩
  | succ turns ih =>
      unfold writeTurns at h
      split at h
      · next hempty =>
          obtain ⟨rfl, rfl, rfl⟩ := h
          exact .inl ⟨rfl, rfl, by simpa [hempty] using hmarked⟩
      next hrest =>
        have hlength : 0 < rest.length := List.length_pos_iff.mpr hrest
        rcases h.bind with
          ⟨raised, rfl, hwrite⟩ | ⟨first, second, written, middle, rfl, hwrite, hnext⟩
        · obtain ⟨rfl, rfl⟩ := runs_write_raised hwrite
          exact .inr ⟨raised, refused (.write inode rest) raised, 0, rfl, rfl, rfl, hlength,
            by simpa using hmarked⟩
        obtain ⟨hwritten, rfl, rfl⟩ := runs_write hwrite
        have hmiddle := hmarked.write rest written
        split at hnext
        · next hnone =>
            obtain ⟨rfl, rfl, rfl⟩ := hnext
            refine .inr ⟨.os, wrote inode rest written, written, rfl, ?_, rfl, ?_, hmiddle⟩
            · rw [List.append_nil, faults_wrote, if_pos hnone]
            · rwa [hnone]
        next hsome =>
          have hdrop : (rest.drop written).length ≤ turns := by
            rw [List.length_drop]
            omega
          rcases ih hdrop hmiddle hnext with ⟨rfl, hfaults, hdone⟩ | hfailed
          · refine .inl ⟨rfl, ?_, ?_⟩
            · rw [faults_append, faults_wrote, if_neg hsome, hfaults, List.append_nil]
            · rwa [List.append_assoc, List.take_append_drop] at hdone
          obtain ⟨raised, fault, more, rfl, hfaults, hfault, hmore, hdone⟩ := hfailed
          rw [List.length_drop] at hmore
          refine .inr ⟨raised, fault, written + more, rfl, ?_, hfault, by omega, ?_⟩
          · rw [faults_append, faults_wrote, if_neg hsome, hfaults, List.nil_append]
          · rwa [List.append_assoc, ← List.take_add] at hdone

theorem runs_ignoringOsErrors {method : Method Unit}
    (h : (ignoringOsErrors method).Runs (server tokens policy i) state log outcome after) :
    ∃ result, method.Runs (server tokens policy i) state log result after := by
  obtain ⟨first, second, result, middle, rfl, hmethod, hrest⟩ := h.follow
  refine ⟨result, ?_⟩
  cases result with
  | ok =>
      obtain ⟨rfl, -, rfl⟩ := hrest
      rwa [List.append_nil]
  | error raised =>
      dsimp only at hrest
      split at hrest <;> obtain ⟨rfl, -, rfl⟩ := hrest <;> rwa [List.append_nil]

theorem runs_onRaise {α : Type} {method : Method α} {handle : Method Unit}
    {outcome : Except Raised α}
    (h : (onRaise method handle).Runs (server tokens policy i) state log outcome after) :
    (∃ a, outcome = .ok a ∧ method.Runs (server tokens policy i) state log (.ok a) after) ∨
      ∃ first second raised error result middle, log = first ++ second ∧
        outcome = .error error ∧
          method.Runs (server tokens policy i) state first (.error raised) middle ∧
            handle.Runs (server tokens policy i) middle second result after := by
  obtain ⟨first, second, result, middle, rfl, hmethod, hrest⟩ := h.follow
  cases result with
  | ok a =>
      obtain ⟨rfl, rfl, rfl⟩ := hrest
      rw [List.append_nil]
      exact .inl ⟨a, rfl, hmethod⟩
  | error raised =>
      refine .inr ?_
      rcases hrest.bind with ⟨error, rfl, hhandle⟩ | ⟨third, fourth, a, last, rfl, hhandle, hraise⟩
      · exact ⟨first, second, raised, error, _, middle, rfl, rfl, hmethod, hhandle⟩
      · obtain ⟨rfl, rfl, rfl⟩ := hraise
        rw [List.append_nil]
        exact ⟨first, third, raised, raised, _, middle, rfl, rfl, hmethod, hhandle⟩

theorem Marked.drop (h : Marked i before inode data state) :
    SameDirectory before ((state.drop .marker).own tokens i .marker false) := by
  constructor
  · rw [State.own, if_pos rfl]
    simp only [State.drop, h.links, Function.update_idem]
    rw [← h.free, Function.update_eq_self]
  · intro name other hname
    rw [State.own, if_pos rfl]
    exact h.kept name other hname

theorem runs_releaseLock (hmarked : Marked i before inode data state)
    (h : (releaseLock (tokens i)).Runs (server tokens policy i) state log outcome after)
    (hfaults : faults log = []) :
    (data = tokens i ∧ SameDirectory before after) ∨
      (data ≠ tokens i ∧ Marked i before inode data after) := by
  have hname : state.links .marker = some inode := by rw [hmarked.links, Function.update_self]
  rcases h.bind with ⟨raised, -, howned⟩ | ⟨first, second, owns, middle, rfl, howned, hrest⟩
  · cases (runs_owned howned).1
  obtain ⟨heq, rfl, -⟩ := runs_owned howned
  obtain rfl := Except.ok.inj heq
  rw [if_pos hmarked.ownsLock] at hrest
  rw [faults_append, List.append_eq_nil_iff] at hfaults
  obtain ⟨third, fourth, result, read, rfl, hread, hunlink⟩ := hrest.follow
  rw [faults_append, List.append_eq_nil_iff] at hfaults
  obtain ⟨rfl, rfl⟩ := runs_readBytes hread hname hfaults.2.1
  dsimp only at hunlink
  rw [hmarked.content] at hunlink
  split at hunlink
  · next hdata =>
      obtain ⟨-, rfl⟩ := runs_unlink hunlink hname hfaults.2.2
      exact .inl ⟨hdata, hmarked.drop⟩
  · next hdata =>
      obtain ⟨-, -, rfl⟩ := hunlink
      exact .inr ⟨hdata, hmarked⟩

theorem runs_abandon (hmarked : Marked i before inode data state)
    (h : ((close inode).ensure (ignoringOsErrors (releaseLock (tokens i)))).Runs
      (server tokens policy i) state log outcome after) (hfaults : faults log = []) :
    (data = tokens i ∧ SameDirectory before after) ∨
      (data ≠ tokens i ∧ Marked i before inode data after) := by
  obtain ⟨first, second, result, closed, rfl, hclose, hrest⟩ := h.follow
  obtain ⟨heq, -⟩ := runs_close hclose
  rw [faults_append, List.append_eq_nil_iff] at hfaults
  have hclosed : Marked i before inode data closed := heq ▸ hmarked.reopened closed.opened
  rw [bind_eq_follow] at hrest
  obtain ⟨third, fourth, released, middle, rfl, hrelease, hdone⟩ := hrest.follow
  rw [faults_append, List.append_eq_nil_iff] at hfaults
  obtain ⟨result, hrelease⟩ := runs_ignoringOsErrors hrelease
  have hreleased := runs_releaseLock hclosed hrelease hfaults.2.1
  cases released <;> obtain ⟨-, -, rfl⟩ := hdone <;> exact hreleased

theorem eq_nil_of_fault {β : Type} {fault : β} {others : List β}
    (h : [fault].length + others.length ≤ 1) : others = [] := by
  rw [List.length_singleton] at h
  exact List.length_eq_zero_iff.mp (by omega)

/-- A run with one fault, and whether it restores the directory. -/
def FailsAt (before : State ι) (log : List (Served interface Raised)) (after : State ι) : Prop :=
  ∃ fault, faults log = [fault] ∧ (SameDirectory before after ↔ Restoring fault.request = true)

/-- The run raises, behind its one fault. -/
def Fails {α : Type} (before : State ι) (log : List (Served interface Raised))
    (outcome : Except Raised α) (after : State ι) : Prop :=
  (∃ raised, outcome = .error raised) ∧ FailsAt before log after

theorem runs_fill (hmarked : Marked i before inode [] state)
    (h : (onRaise (do writeAll inode (tokens i); touch)
      ((close inode).ensure (ignoringOsErrors (releaseLock (tokens i))))).Runs
        (server tokens policy i) state log outcome after) (hfaults : (faults log).length ≤ 1) :
    (outcome = .ok () ∧ faults log = [] ∧ Marked i before inode (tokens i) after) ∨
      Fails before log outcome after := by
  rcases runs_onRaise h with
    ⟨_, rfl, hfilled⟩ | ⟨first, second, raised, error, result, middle, rfl, rfl, hfill, hhandle⟩
  · rcases hfilled.bind with ⟨_, heq, -⟩ | ⟨first, second, _, written, rfl, hwrite, htouch⟩
    · cases heq
    obtain ⟨rfl, ⟨-, -, hnone⟩ | ⟨_, heq, -⟩⟩ := runs_touch htouch
    · rcases runs_writeTurns (Nat.le_refl _) hmarked hwrite with ⟨-, hfirst, hwritten⟩ | hfailed
      · exact .inl ⟨rfl, by rw [faults_append, hfirst, hnone]; rfl, hwritten⟩
      · obtain ⟨_, _, _, heq, -⟩ := hfailed
        cases heq
    · cases heq
  · rw [faults_append, List.length_append] at hfaults
    rcases hfill.bind with ⟨_, heq, hwrite⟩ | ⟨third, fourth, _, filled, rfl, hwrite, htouch⟩
    · obtain rfl := Except.error.inj heq
      rcases runs_writeTurns (Nat.le_refl _) hmarked hwrite with ⟨heq, -⟩ | hfailed
      · cases heq
      obtain ⟨_, fault, written, -, hfault, hrestoring, hless, hwritten⟩ := hfailed
      rw [hfault] at hfaults
      have hnone : faults second = [] := eq_nil_of_fault hfaults
      refine .inr ⟨⟨error, rfl⟩, fault, by rw [faults_append, hfault, hnone]; rfl, ?_⟩
      rw [hrestoring]
      rcases runs_abandon hwritten hhandle hnone with ⟨htoken, -⟩ | ⟨-, hleft⟩
      · -- less than the token was written
        have hlength := congrArg List.length htoken
        rw [List.nil_append, List.length_take] at hlength
        omega
      · simpa using hleft.not_same
    · rcases runs_writeTurns (Nat.le_refl _) hmarked hwrite with ⟨-, hthird, hwritten⟩ | hfailed
      · obtain ⟨rfl, ⟨_, heq, -⟩ | ⟨_, heq, rfl⟩⟩ := runs_touch htouch
        · cases heq
        obtain rfl := Except.error.inj heq
        rw [faults_append, hthird, faults_refused] at hfaults
        have hnone : faults second = [] := eq_nil_of_fault hfaults
        refine .inr ⟨⟨error, rfl⟩, refused .touch raised, ?_, ?_⟩
        · rw [faults_append, faults_append, hthird, faults_refused, hnone]
          rfl
        · rcases runs_abandon hwritten hhandle hnone with ⟨-, hsame⟩ | ⟨hne, -⟩
          · exact ⟨fun _ => rfl, fun _ => hsame⟩
          · exact absurd rfl hne
      · obtain ⟨_, _, _, heq, -⟩ := hfailed
        cases heq

theorem FailsAt.behind {first second : List (Served interface Raised)}
    (h : FailsAt before second after) (hfirst : faults first = []) :
    FailsAt before (first ++ second) after := by
  obtain ⟨fault, hfault, hrestored⟩ := h
  exact ⟨fault, by rw [faults_append, hfirst, hfault]; rfl, hrestored⟩

theorem failsAt_refused {request : Request} {raised : Raised}
    (hsame : SameDirectory before after) (hrestoring : Restoring request = true) :
    FailsAt before [refused request raised] after :=
  ⟨refused request raised, rfl, fun _ => hrestoring, fun _ => hsame⟩

theorem runs_acquireLock (hstaging : before.ownsStaging i = false)
    (h : (acquireLock (tokens i)).Runs (server tokens policy i) before log outcome after)
    (hfaults : (faults log).length ≤ 1) :
    (outcome = .ok () ∧ faults log = [] ∧ ∃ inode, Marked i before inode (tokens i) after) ∨
      Fails before log outcome after := by
  rcases h.bind with ⟨raised, rfl, hcreate⟩ | ⟨first, rest, lock, created, rfl, hcreate, hrest⟩
  · rcases runs_create hcreate with ⟨_, heq, rfl, rfl⟩ | ⟨_, heq, -⟩
    · obtain rfl := Except.error.inj heq
      exact .inr ⟨⟨raised, rfl⟩, failsAt_refused (.refl _) rfl⟩
    · cases heq
  rcases runs_create hcreate with ⟨_, heq, -⟩ | ⟨_, heq, hfree, hinode, rfl, hfirst⟩
  · cases heq
  obtain rfl := Except.ok.inj heq
  have hmarked := marked_create tokens hstaging hfree hinode
  rw [faults_append, hfirst, List.nil_append] at hfaults
  rcases hrest.bind with ⟨raised, rfl, hfill⟩ | ⟨second, third, _, filled, rfl, hfill, hclose⟩
  · rcases runs_fill hmarked hfill hfaults with ⟨heq, -⟩ | hfails
    · cases heq
    · exact .inr ⟨⟨raised, rfl⟩, hfails.2.behind hfirst⟩
  rw [faults_append, List.length_append] at hfaults
  rcases runs_fill hmarked hfill (by omega) with ⟨-, hsecond, hfilled⟩ | ⟨⟨_, heq⟩, -⟩
  swap
  · cases heq
  obtain ⟨heq, hanswer⟩ := runs_close hclose
  have hclosed : Marked i before lock (tokens i) after := heq ▸ hfilled.reopened after.opened
  rcases hanswer with ⟨_, rfl, hthird⟩ | ⟨raised, rfl, rfl⟩
  · refine .inl ⟨rfl, ?_, lock, hclosed⟩
    rw [faults_append, faults_append, hfirst, hsecond, hthird]
    rfl
  -- nobody takes away a marker that could not be closed
  refine .inr ⟨⟨raised, rfl⟩, refused (.close lock) raised, ?_, ?_⟩
  · rw [faults_append, faults_append, hfirst, hsecond]
    rfl
  · simpa [Restoring] using hclosed.not_same

theorem Marked.restaged (h : Marked i before inode data state) {other : Inode}
    (hfree : state.links (.staging (tokens i)) = none) (hother : Free state other)
    (opened : ι → List Inode) :
    Marked i before inode data
      (State.own tokens i
        ({ (state.add i (.staging (tokens i)) other).own tokens i (.staging (tokens i)) true with
          opened := opened }.drop (.staging (tokens i))) (.staging (tokens i)) false) := by
  have hinode : inode ≠ other := by
    rintro rfl
    exact hother.1 .marker (by rw [h.links, Function.update_self])
  have hbefore : ∀ name, before.links name ≠ some other := by
    intro name hname
    refine hother.1 name ?_
    rw [h.links, Function.update_of_ne, hname]
    rintro rfl
    rw [h.free] at hname
    cases hname
  refine ⟨h.free, ?_, h.fresh, ?_, ?_, ?_, ?_⟩
  · simp only [State.own, State.drop, State.add, reduceCtorEq, if_false, if_true,
      Function.update_idem]
    rw [← hfree, Function.update_eq_self, h.links]
  · intro name file hname
    have hne : file ≠ other := by
      rintro rfl
      exact hbefore name hname
    simpa [State.own, State.drop, State.add, hne] using h.kept name file hname
  · simpa [State.own, State.drop, State.add, hinode] using h.content
  · simpa [State.own, State.drop, State.add] using h.ownsLock
  · simp [State.own, State.drop, State.add]

theorem runs_cleanup {staged opened : State ι} {other : Inode}
    (hmarked : Marked i before inode (tokens i) state)
    (hfree : state.links (.staging (tokens i)) = none) (hother : Free state other)
    (hstaged : staged =
      (state.add i (.staging (tokens i)) other).own tokens i (.staging (tokens i)) true)
    (hopened : opened = { staged with opened := opened.opened })
    (h : (cleanup (tokens i)).Runs (server tokens policy i) opened log outcome after)
    (hfaults : faults log = []) : SameDirectory before after := by
  have howns : opened.ownsStaging i = true := by
    rw [hopened, hstaged]
    simp [State.own]
  have hname : opened.links (.staging (tokens i)) = some other := by
    rw [hopened, hstaged]
    simp [State.own, State.add]
  have hgone : Marked i before inode (tokens i)
      ((opened.drop (.staging (tokens i))).own tokens i (.staging (tokens i)) false) := by
    rw [hopened, hstaged]
    exact hmarked.restaged hfree hother opened.opened
  obtain ⟨first, second, result, removed, rfl, hremove, hrest⟩ := h.follow
  rw [faults_append, List.append_eq_nil_iff] at hfaults
  rcases hremove.bind with ⟨_, rfl, howned⟩ | ⟨third, fourth, owns, _, rfl, howned, hunlink⟩
  · cases (runs_owned howned).1
  obtain ⟨heq, rfl, -⟩ := runs_owned howned
  obtain rfl := Except.ok.inj heq
  rw [if_pos howns] at hunlink
  rw [faults_append, List.append_eq_nil_iff] at hfaults
  obtain ⟨fifth, sixth, unlinked, dropped, rfl, hunlink, hdone⟩ := hunlink.follow
  rw [faults_append, List.append_eq_nil_iff] at hfaults
  obtain ⟨rfl, rfl⟩ := runs_unlink hunlink hname hfaults.1.2.1
  obtain ⟨-, rfl, rfl⟩ := hdone
  rcases runs_releaseLock hgone hrest hfaults.2 with ⟨-, hsame⟩ | ⟨hne, -⟩
  · exact hsame
  · exact absurd rfl hne

end Marker

/-! ## The acquisition -/

section Acquisition

variable {log : List (Served interface Raised)} {policy : Policy ι} {inode : Inode}

theorem runs_stage {outcome : Except Raised Inode}
    (hmarked : Marked i before inode (tokens i) state)
    (h : (onRaise (create (.staging (tokens i))) (releaseLock (tokens i))).Runs
      (server tokens policy i) state log outcome after) (hfaults : (faults log).length ≤ 1) :
    (∃ file, outcome = .ok file ∧ faults log = [] ∧ state.links (.staging (tokens i)) = none ∧
      Free state file ∧ after =
        (state.add i (.staging (tokens i)) file).own tokens i (.staging (tokens i)) true) ∨
      Fails before log outcome after := by
  rcases runs_onRaise h with
    ⟨file, rfl, hcreate⟩ | ⟨first, second, raised, error, _, middle, rfl, rfl, hcreate, hhandle⟩
  · rcases runs_create hcreate with ⟨_, heq, -⟩ | ⟨_, heq, hfree, hinode, rfl, hnone⟩
    · cases heq
    obtain rfl := Except.ok.inj heq
    exact .inl ⟨file, rfl, hnone, hfree, hinode, rfl⟩
  rcases runs_create hcreate with ⟨_, heq, rfl, rfl⟩ | ⟨_, heq, -⟩
  swap
  · cases heq
  obtain rfl := Except.error.inj heq
  rw [faults_append, List.length_append, faults_refused] at hfaults
  have hnone : faults second = [] := eq_nil_of_fault hfaults
  refine .inr ⟨⟨error, rfl⟩, refused (.create (.staging (tokens i))) raised, ?_, ?_⟩
  · rw [faults_append, faults_refused, hnone]
    rfl
  · rcases runs_releaseLock hmarked hhandle hnone with ⟨-, hsame⟩ | ⟨hne, -⟩
    · exact ⟨fun _ => rfl, fun _ => hsame⟩
    · exact absurd rfl hne

theorem runs_open {staged : State ι} {file : Inode} {outcome : Except Raised Unit}
    (hmarked : Marked i before inode (tokens i) state)
    (hfree : state.links (.staging (tokens i)) = none) (hinode : Free state file)
    (hstaged : staged =
      (state.add i (.staging (tokens i)) file).own tokens i (.staging (tokens i)) true)
    (h : (onRaise touch (do close file; ignoringOsErrors (cleanup (tokens i)))).Runs
      (server tokens policy i) staged log outcome after) (hfaults : (faults log).length ≤ 1) :
    faults log = [] ∧ outcome = .ok () ∨ Fails before log outcome after := by
  rcases runs_onRaise h with
    ⟨_, rfl, htouch⟩ | ⟨first, second, raised, error, result, middle, rfl, rfl, htouch, hhandle⟩
  · obtain ⟨-, ⟨-, -, hnone⟩ | ⟨_, heq, -⟩⟩ := runs_touch htouch
    · exact .inl ⟨hnone, rfl⟩
    · cases heq
  obtain ⟨rfl, ⟨_, heq, -⟩ | ⟨_, heq, rfl⟩⟩ := runs_touch htouch
  · cases heq
  obtain rfl := Except.error.inj heq
  rw [faults_append, List.length_append, faults_refused] at hfaults
  have hnone : faults second = [] := eq_nil_of_fault hfaults
  refine .inr ⟨⟨error, rfl⟩, refused .touch raised, ?_, fun _ => rfl, fun _ => ?_⟩
  · rw [faults_append, faults_refused, hnone]
    rfl
  rcases hhandle.bind with ⟨_, rfl, hclose⟩ | ⟨third, fourth, _, closed, rfl, hclose, hclean⟩
  · obtain ⟨-, ⟨_, heq, -⟩ | ⟨_, heq, rfl⟩⟩ := runs_close hclose
    · cases heq
    · cases hnone
  obtain ⟨hclosed, -⟩ := runs_close hclose
  rw [faults_append, List.append_eq_nil_iff] at hnone
  obtain ⟨_, hclean⟩ := runs_ignoringOsErrors hclean
  exact runs_cleanup hmarked hfree hinode hstaged hclosed hclean hnone.2

/-- A single fault makes the acquisition raise. -/
theorem runs_acquireStaging {outcome : Except Raised Inode}
    (hstaging : before.ownsStaging i = false)
    (h : (acquireStaging (tokens i)).Runs (server tokens policy i) before log outcome after)
    (hfaults : (faults log).length ≤ 1) : faults log = [] ∨ Fails before log outcome after := by
  rcases h.bind with ⟨raised, rfl, htouch⟩ | ⟨first, rest, _, root, rfl, htouch, hlocking⟩
  · obtain ⟨rfl, ⟨_, heq, -⟩ | ⟨_, heq, rfl⟩⟩ := runs_touch htouch
    · cases heq
    obtain rfl := Except.error.inj heq
    exact .inr ⟨⟨raised, rfl⟩, failsAt_refused (.refl _) rfl⟩
  obtain ⟨rfl, ⟨-, -, hfirst⟩ | ⟨_, heq, -⟩⟩ := runs_touch htouch
  swap
  · cases heq
  rw [faults_append, hfirst, List.nil_append] at hfaults
  rcases hlocking.bind with ⟨raised, rfl, hlock⟩ | ⟨second, rest, _, locked, rfl, hlock, hstages⟩
  · rcases runs_acquireLock hstaging hlock hfaults with ⟨heq, -⟩ | hfails
    · cases heq
    · exact .inr ⟨⟨raised, rfl⟩, hfails.2.behind hfirst⟩
  rw [faults_append, List.length_append] at hfaults
  rcases runs_acquireLock hstaging hlock (by omega) with
    ⟨-, hsecond, inode, hmarked⟩ | ⟨⟨_, heq⟩, -⟩
  swap
  · cases heq
  rw [hsecond, List.length_nil, Nat.zero_add] at hfaults
  rcases hstages.bind with ⟨raised, rfl, hstage⟩ | ⟨third, rest, file, staged, rfl, hstage, hopens⟩
  · rcases runs_stage hmarked hstage hfaults with ⟨_, heq, -⟩ | hfails
    · cases heq
    · exact .inr ⟨⟨raised, rfl⟩, (hfails.2.behind hsecond).behind hfirst⟩
  rw [faults_append, List.length_append] at hfaults
  rcases runs_stage hmarked hstage (by omega) with
    ⟨_, heq, hthird, hfree, hinode, hstaged⟩ | ⟨⟨_, heq⟩, -⟩
  swap
  · cases heq
  obtain rfl := Except.ok.inj heq
  rw [hthird, List.length_nil, Nat.zero_add] at hfaults
  rcases hopens.bind with ⟨raised, rfl, hopen⟩ | ⟨fourth, rest, _, opened, rfl, hopen, hdone⟩
  · rcases runs_open hmarked hfree hinode hstaged hopen hfaults with ⟨-, heq⟩ | hfails
    · cases heq
    · exact .inr ⟨⟨raised, rfl⟩, ((hfails.2.behind hthird).behind hsecond).behind hfirst⟩
  obtain ⟨rfl, rfl, rfl⟩ := hdone
  rw [List.append_nil] at hfaults ⊢
  rcases runs_open hmarked hfree hinode hstaged hopen hfaults with ⟨hnone, -⟩ | ⟨⟨_, heq⟩, -⟩
  · left
    rw [faults_append, faults_append, faults_append, hfirst, hsecond, hthird, hnone]
    rfl
  · cases heq

/-- When one operation of an acquisition fails, and only this one, the acquisition raises; and the
directory is restored if and only if it was no write of the token and no closing. -/
theorem acquire_restores_iff {log : List (Served interface Raised)}
    {fault : Served interface Raised} {outcome : Except Raised Inode}
    (hstaging : before.ownsStaging i = false)
    (h : (acquireStaging (tokens i)).Runs (server tokens .any i) before log outcome after)
    (hfault : faults log = [fault]) :
    (∃ raised, outcome = .error raised) ∧
      (SameDirectory before after ↔ Restoring fault.request = true) := by
  rcases runs_acquireStaging hstaging h (by simp [hfault]) with hnone | hfails
  · rw [hfault] at hnone
    cases hnone
  · obtain ⟨hraised, other, hother, hrestored⟩ := hfails
    obtain rfl := (List.cons.inj (hfault.symm.trans hother)).1
    exact ⟨hraised, hrestored⟩

end Acquisition

/-! ## An empty directory -/

def onlyToken : Unit → Token := fun _ => List.replicate 32 48

def emptyDirectory : State Unit := .initial (fun _ => none) (fun _ => [])

def works : Choice := ⟨none, 32, 0⟩

def breaks : Choice := ⟨some .os, 0, 0⟩

theorem free_empty : Free emptyDirectory 0 := ⟨fun _ => nofun, fun _ => nofun⟩

/-- The run of an attempt in the empty directory. -/
abbrev RunsAlone (log : List (Served interface Raised)) (outcome : Except Raised Inode)
    (after : State Unit) : Prop :=
  (acquireStaging (onlyToken ())).Runs (server onlyToken .any ()) emptyDirectory log outcome after

/-- `fsync` fails, and the marker is taken away. -/
theorem acquire_restores_unsynced : ∃ log after, RunsAlone log (.error .os) after ∧
    faults log = [refused .touch .os] ∧ SameDirectory emptyDirectory after := by
  have hruns : ∃ log after, RunsAlone log (.error .os) after ∧
      faults log = [refused .touch .os] := by
    refine ⟨_, _, runs_ask works ⟨nofun, nofun, nofun⟩ <|
      runs_ask works ⟨nofun, nofun, fun _ _ => free_empty⟩ <|
      runs_ask works ⟨nofun, nofun, nofun⟩ <| runs_ask breaks ⟨nofun, nofun, nofun⟩ <|
      runs_ask works ⟨nofun, nofun, nofun⟩ <| runs_ask works ⟨nofun, nofun, nofun⟩ <|
      runs_ask works ⟨nofun, nofun, nofun⟩ <| runs_ask works ⟨nofun, nofun, nofun⟩ <|
      runs_done _ _, rfl⟩
  obtain ⟨log, after, hruns, hfault⟩ := hruns
  have hrestored := (acquire_restores_iff rfl hruns hfault).2
  exact ⟨log, after, hruns, hfault, hrestored.mpr rfl⟩

/-- The marker cannot be closed, and stays. -/
theorem acquire_leaves_marker : ∃ log after, RunsAlone log (.error .os) after ∧
    faults log = [refused (.close 0) .os] ∧ ¬SameDirectory emptyDirectory after := by
  refine ⟨_, _, runs_ask works ⟨nofun, nofun, nofun⟩ <|
    runs_ask works ⟨nofun, nofun, fun _ _ => free_empty⟩ <|
    runs_ask works ⟨nofun, nofun, nofun⟩ <| runs_ask works ⟨nofun, nofun, nofun⟩ <|
    runs_ask breaks ⟨nofun, nofun, nofun⟩ <| runs_done _ _, rfl, ?_⟩
  intro hsame
  have hmarker : some 0 = none := congrFun hsame.1 .marker
  cases hmarker

end K5Vision.Media.Attempts
