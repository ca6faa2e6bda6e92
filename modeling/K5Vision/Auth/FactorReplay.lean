import K5Vision.Auth.AccountSecurityStore
import Mathlib.Data.List.Count

/-!
# No second factor is replayed

The store of second factors over any sequence of calls, each with a clock of its own
and a fault of its own, beside the history of what was enrolled, which codes were
handed out and what was accepted.  A factor counts as accepted as soon as its use is
durable, whatever the call then returns.

The row of a user bounds the counters accepted for its generation (`Replayed.bounded`),
and a recovery code is either in the row or spent (`Replayed.recovery`).  Generations
are drawn at random, so one is never drawn twice for a user.
-/

namespace K5Vision.Auth

open Library Identity AccountSecurityStore
open Function (update update_of_ne update_self)

inductive FactorCall
  | enable (env : DrawEnvironment) (userId : Uuid) (secret : List UInt8) (confirmedCounter : ℤ)
  | consume (fault : StoreFault) (counter : ℤ) (userId : Uuid) (code : String)
      (generation : Option String)
  | disable (fault : StoreFault) (userId : Uuid)
  | replaceRecovery (env : DrawEnvironment) (userId : Uuid)

structure Enrolment where
  userId : Uuid
  generation : String
  secret : List UInt8
  confirmedCounter : ℤ
  deriving DecidableEq

/-- A factor that was used up. -/
structure Acceptance where
  userId : Uuid
  generation : String
  factor : Factor
  deriving DecidableEq

/-- The rows and their history, the newest entries first. -/
structure FactorHistory where
  rows : MfaRows
  enrolments : List Enrolment
  /-- The digests of the recovery codes, each with its user and its generation. -/
  issued : List (Uuid × String × Sha256)
  acceptances : List Acceptance

namespace FactorHistory

def empty : FactorHistory := ⟨fun _ => none, [], [], []⟩

def newest (history : FactorHistory) (userId : Uuid) : Option Enrolment :=
  history.enrolments.find? (·.userId = userId)

/-- The counters accepted for a generation of a user, the newest first. -/
def counters (history : FactorHistory) (userId : Uuid) (generation : String) : List ℤ :=
  history.acceptances.filterMap fun acceptance =>
    match acceptance with
    | ⟨user, generation', .totp counter⟩ =>
        if user = userId ∧ generation' = generation then some counter else none
    | ⟨_, _, .recovery _⟩ => none

end FactorHistory

namespace AccountSecurityStore

variable (store : AccountSecurityStore)

/-- The factor a call of `consume` uses up, whether or not it gets to say so. -/
def consumed (fault : StoreFault) (counter : ℤ) (rows : MfaRows) (userId : Uuid) (code : String)
    (generation : Option String) : Option Acceptance :=
  if code.length < 1 ∨ 64 < code.length then none
  else
    match rows userId with
    | none => none
    | some row =>
        if generation.any fun generation => generation != row.generation then none
        else
          match store.judge userId row code counter with
          | .accepted factor _ =>
              if fault = .before then none else some ⟨userId, row.generation, factor⟩
          | _ => none

def apply (rows : MfaRows) : FactorCall → MfaRows
  | .enable env userId secret confirmedCounter =>
      (store.enable env rows userId secret confirmedCounter).2
  | .consume fault counter userId code generation =>
      (store.consume fault counter rows userId code generation).2
  | .disable fault userId => (AccountSecurityStore.disable fault rows userId).2
  | .replaceRecovery env userId => (store.replaceRecovery env rows userId).2

/-- The enrolment a call makes: the row of its user, when there was none before. -/
def enrolment (rows : MfaRows) : FactorCall → Option Enrolment
  | .enable env userId secret confirmedCounter =>
      match rows userId, (store.enable env rows userId secret confirmedCounter).2 userId with
      | none, some row => some ⟨userId, row.generation, row.secret, confirmedCounter⟩
      | _, _ => none
  | _ => none

/-- The codes a call draws for a row. -/
def drawn (rows : MfaRows) (call : FactorCall) : List (Uuid × String × Sha256) :=
  match call with
  | .enable env userId _ _ =>
      match store.enrolment rows call with
      | some _ =>
          (store.recoveryDigests env.codes).map fun digest => (userId, env.generation, digest)
      | none => []
  | .replaceRecovery env userId =>
      match rows userId with
      | some row =>
          if env.fault = .before then []
          else (store.recoveryDigests env.codes).map fun digest => (userId, row.generation, digest)
      | none => []
  | _ => []

/-- The factor a call uses up. -/
def accepts (rows : MfaRows) : FactorCall → Option Acceptance
  | .consume fault counter userId code generation =>
      store.consumed fault counter rows userId code generation
  | _ => none

/-- The store and its history over any calls.  `secrets.token_hex(16)` draws no
generation twice. -/
def machine : Machine FactorHistory FactorCall where
  step history call :=
    ⟨store.apply history.rows call,
      (store.enrolment history.rows call).toList ++ history.enrolments,
      store.drawn history.rows call ++ history.issued,
      (store.accepts history.rows call).toList ++ history.acceptances⟩
  admissible history
    | .enable env userId _ _ =>
        ∀ enrolment ∈ history.enrolments, enrolment.userId = userId →
          enrolment.generation ≠ env.generation
    | _ => True

end AccountSecurityStore

variable {store : AccountSecurityStore} {history : FactorHistory} {rows : MfaRows}
  {userId : Uuid} {row : MfaRow} {code : String} {counter : ℤ}

/-! ## What a call does -/

/-- A code is a factor of a row, and its use makes the row another one. -/
inductive UsesFactor (store : AccountSecurityStore) (userId : Uuid) (row : MfaRow)
    (code : String) : Factor → MfaRow → Prop
  | totp (counter : ℤ) (secret : List UInt8) (hsecret : store.unprotect row.secret userId.str = some secret)
      (hcode : store.totp secret counter = code) (hlast : row.lastCounter < counter) :
      UsesFactor store userId row code (.totp counter) { row with lastCounter := counter }
  | recovery (digest : Sha256) (hcode : store.recoveryDigest code = some digest)
      (hmem : digest ∈ row.recovery) :
      UsesFactor store userId row code (.recovery digest)
        { row with recovery := row.recovery.erase digest }

theorem UsesFactor.of_judge {factor : Factor} {used : MfaRow}
    (h : store.judge userId row code counter = .accepted factor used) :
    UsesFactor store userId row code factor used := by
  unfold judge at h
  cases hdigest : store.recoveryDigest code with
  | some digest =>
      simp only [hdigest] at h
      by_cases hmem : digest ∈ row.recovery
      · rw [if_pos hmem] at h
        cases h
        exact .recovery digest hdigest hmem
      · rw [if_neg hmem] at h
        cases h
  | none =>
      simp only [hdigest] at h
      split at h
      · cases h
      cases hsecret : store.unprotect row.secret userId.str with
      | none => simp [hsecret] at h
      | some secret =>
          simp only [hsecret] at h
          split at h
          · cases h
          split at h
          · cases h
          rename_i value hfind
          split at h
          · cases h
          cases h
          have hvalue := List.find?_some hfind
          simp only [Bool.and_eq_true, decide_eq_true_eq, beq_iff_eq] at hvalue
          exact .totp value secret hsecret hvalue.2 hvalue.1

/-- A call of `consume` either leaves the rows and does not accept, or uses a factor of
the row of its user. -/
theorem consume_cases (store : AccountSecurityStore) (fault : StoreFault) (counter : ℤ)
    (rows : MfaRows) (userId : Uuid) (code : String) (generation : Option String) :
    (store.consumed fault counter rows userId code generation = none ∧
      (store.consume fault counter rows userId code generation).2 = rows ∧
      (store.consume fault counter rows userId code generation).1 ≠ some true) ∨
    ∃ row factor used, rows userId = some row ∧ UsesFactor store userId row code factor used ∧
      store.consumed fault counter rows userId code generation =
        some ⟨userId, row.generation, factor⟩ ∧
      (store.consume fault counter rows userId code generation).2 =
        update rows userId (some used) ∧
      (store.consume fault counter rows userId code generation).1 ≠ some false := by
  unfold consumed consume
  by_cases hlength : code.length < 1 ∨ 64 < code.length
  · rw [if_pos hlength, if_pos hlength]
    exact .inl ⟨rfl, rfl, by simp⟩
  rw [if_neg hlength, if_neg hlength]
  have hrefused : (if fault = .none then some false else none) ≠ some true := by
    by_cases hfault : fault = .none <;> simp [hfault]
  cases hrow : rows userId with
  | none => exact .inl ⟨rfl, rfl, hrefused⟩
  | some row =>
      dsimp only
      by_cases hgeneration : generation.any fun generation => generation != row.generation
      · rw [if_pos hgeneration, if_pos hgeneration]
        exact .inl ⟨rfl, rfl, hrefused⟩
      rw [if_neg hgeneration, if_neg hgeneration]
      cases hjudge : store.judge userId row code counter with
      | raised => exact .inl ⟨rfl, rfl, by simp⟩
      | refused => exact .inl ⟨rfl, rfl, hrefused⟩
      | accepted factor used =>
          dsimp only [committed]
          by_cases hfault : fault = .before
          · subst hfault
            exact .inl ⟨rfl, rfl, by simp⟩
          · rw [if_neg hfault, if_neg hfault]
            refine .inr ⟨row, factor, used, rfl, .of_judge hjudge, rfl, rfl, ?_⟩
            by_cases hnone : fault = .none <;> simp [hnone]

inductive FactorEffect (store : AccountSecurityStore) (history : FactorHistory) :
    FactorHistory → Prop
  | quiet : FactorEffect store history history
  | enrolled (userId : Uuid) (row : MfaRow) (hrow : history.rows userId = none)
      (hfresh : ∀ enrolment ∈ history.enrolments, enrolment.userId = userId →
        enrolment.generation ≠ row.generation) :
      FactorEffect store history
        { history with
          rows := update history.rows userId (some row)
          enrolments := ⟨userId, row.generation, row.secret, row.lastCounter⟩ :: history.enrolments
          issued := row.recovery.map (fun digest => (userId, row.generation, digest)) ++
            history.issued }
  | accepted (userId : Uuid) (row : MfaRow) (code : String) (factor : Factor) (used : MfaRow)
      (hrow : history.rows userId = some row) (huses : UsesFactor store userId row code factor used) :
      FactorEffect store history
        { history with
          rows := update history.rows userId (some used)
          acceptances := ⟨userId, row.generation, factor⟩ :: history.acceptances }
  | disabled (userId : Uuid) :
      FactorEffect store history
        { history with rows := update history.rows userId none }
  | replaced (userId : Uuid) (row : MfaRow) (recovery : List Sha256)
      (hrow : history.rows userId = some row) :
      FactorEffect store history
        { history with
          rows := update history.rows userId (some { row with recovery := recovery })
          issued := recovery.map (fun digest => (userId, row.generation, digest)) ++
            history.issued }

/-- `enable` either leaves the rows, or it adds a row to a user who had none. -/
theorem enable_cases (store : AccountSecurityStore) (env : DrawEnvironment) (rows : MfaRows)
    (userId : Uuid) (secret : List UInt8) (confirmedCounter : ℤ) :
    (store.enable env rows userId secret confirmedCounter).2 = rows ∨
    ∃ blob, rows userId = none ∧
      (store.enable env rows userId secret confirmedCounter).2 =
        update rows userId
          (some ⟨env.generation, blob, confirmedCounter, store.recoveryDigests env.codes⟩) := by
  unfold enable
  split
  · exact .inl rfl
  split
  · exact .inl rfl
  rename_i blob _
  by_cases hrow : (rows userId).isSome
  · rw [if_pos hrow]
    exact .inl rfl
  rw [if_neg hrow]
  unfold committed
  by_cases hfault : env.fault = .before
  · exact .inl (if_pos hfault)
  · exact .inr ⟨blob, Option.not_isSome_iff_eq_none.mp hrow, if_neg hfault⟩

theorem FactorEffect.of_enable {env : DrawEnvironment} {secret : List UInt8} {confirmedCounter : ℤ}
    (hfresh : ∀ enrolment ∈ history.enrolments, enrolment.userId = userId →
      enrolment.generation ≠ env.generation) :
    FactorEffect store history
      (store.machine.step history (.enable env userId secret confirmedCounter)) := by
  simp only [machine, apply, drawn, accepts, enrolment]
  rcases enable_cases store env history.rows userId secret confirmedCounter with
    hquiet | ⟨blob, hrow, hrows⟩
  · simp only [hquiet]
    cases history.rows userId <;> exact .quiet
  · simp only [hrow, hrows, update_self]
    exact .enrolled userId ⟨env.generation, blob, confirmedCounter, store.recoveryDigests env.codes⟩
      hrow hfresh

theorem FactorEffect.of_call (call : FactorCall) (h : store.machine.admissible history call) :
    FactorEffect store history (store.machine.step history call) := by
  cases call with
  | enable env userId secret confirmedCounter => exact .of_enable h
  | consume fault counter userId code generation =>
      simp only [machine, apply, drawn, accepts, enrolment]
      rcases consume_cases store fault counter history.rows userId code generation with
        ⟨hconsumed, hrows, -⟩ | ⟨row, factor, used, hrow, huses, hconsumed, hrows, -⟩
      · rw [hconsumed, hrows]
        exact .quiet
      · rw [hconsumed, hrows]
        exact .accepted userId row code factor used hrow huses
  | disable fault userId =>
      simp only [machine, apply, drawn, accepts, enrolment, AccountSecurityStore.disable, committed]
      by_cases hfault : fault = .before
      · rw [if_pos hfault]
        exact .quiet
      · rw [if_neg hfault]
        exact .disabled userId
  | replaceRecovery env userId =>
      simp only [machine, apply, drawn, accepts, enrolment, AccountSecurityStore.replaceRecovery]
      cases hrow : history.rows userId with
      | none => exact .quiet
      | some row =>
          simp only [committed]
          by_cases hfault : env.fault = .before
          · rw [if_pos hfault, if_pos hfault]
            exact .quiet
          · rw [if_neg hfault, if_neg hfault]
            exact .replaced userId row (store.recoveryDigests env.codes) hrow

/-! ## The invariant -/

structure Replayed (history : FactorHistory) : Prop where
  newest : ∀ userId row, history.rows userId = some row → ∃ confirmedCounter,
    history.newest userId = some ⟨userId, row.generation, row.secret, confirmedCounter⟩ ∧
      confirmedCounter ≤ row.lastCounter
  unique : ∀ first ∈ history.enrolments, ∀ second ∈ history.enrolments,
    first.userId = second.userId → first.generation = second.generation → first = second
  enrolled : ∀ acceptance ∈ history.acceptances, ∃ enrolment ∈ history.enrolments,
    enrolment.userId = acceptance.userId ∧ enrolment.generation = acceptance.generation
  bounded : ∀ userId row, history.rows userId = some row →
    ∀ counter ∈ history.counters userId row.generation, counter ≤ row.lastCounter
  decreasing : ∀ userId generation, (history.counters userId generation).Pairwise (· > ·)
  confirmed : ∀ enrolment ∈ history.enrolments,
    ∀ counter ∈ history.counters enrolment.userId enrolment.generation,
      enrolment.confirmedCounter < counter
  /-- A code is in the row or spent. -/
  recovery : ∀ userId row, history.rows userId = some row → ∀ digest,
    history.acceptances.count ⟨userId, row.generation, .recovery digest⟩ +
      row.recovery.count digest ≤ history.issued.count (userId, row.generation, digest)
  spent : ∀ userId generation digest,
    history.acceptances.count ⟨userId, generation, .recovery digest⟩ ≤
      history.issued.count (userId, generation, digest)

theorem FactorHistory.mem_counters {userId : Uuid} {generation : String} {counter : ℤ} :
    counter ∈ history.counters userId generation ↔
      ⟨userId, generation, .totp counter⟩ ∈ history.acceptances := by
  unfold FactorHistory.counters
  rw [List.mem_filterMap]
  constructor
  · intro h
    obtain ⟨⟨user, generation', factor⟩, hmem, hfactor⟩ := h
    cases factor with
    | recovery digest => cases hfactor
    | totp counter' =>
        dsimp only at hfactor
        by_cases hsame : user = userId ∧ generation' = generation
        · rw [if_pos hsame] at hfactor
          cases hfactor
          rw [← hsame.1, ← hsame.2]
          exact hmem
        · rw [if_neg hsame] at hfactor
          cases hfactor
  · intro h
    exact ⟨_, h, by simp⟩

theorem FactorHistory.newest_mem {userId : Uuid} {enrolment : Enrolment}
    (h : history.newest userId = some enrolment) : enrolment ∈ history.enrolments :=
  List.mem_of_find?_eq_some h

theorem count_issued (userId : Uuid) (generation : String) (digest : Sha256)
    (digests : List Sha256) :
    (digests.map fun digest => (userId, generation, digest)).count (userId, generation, digest) =
      digests.count digest :=
  List.count_map_of_injective digests _
    (fun _ _ h => (Prod.mk.inj (Prod.mk.inj h).2).2) digest

theorem count_issued_append_le (issued drawn : List (Uuid × String × Sha256))
    (entry : Uuid × String × Sha256) : issued.count entry ≤ (drawn ++ issued).count entry := by
  rw [List.count_append]
  omega

theorem Replayed.empty : Replayed FactorHistory.empty := by
  constructor <;> simp [FactorHistory.empty, FactorHistory.counters]

theorem forall_row_update {keeps : Uuid → MfaRow → Prop} {written : MfaRow}
    (hwritten : keeps userId written)
    (hothers : ∀ user row, user ≠ userId → rows user = some row → keeps user row) (user : Uuid)
    (row : MfaRow) (hrow : update rows userId (some written) user = some row) :
    keeps user row := by
  by_cases heq : user = userId
  · subst heq
    rw [update_self] at hrow
    cases hrow
    exact hwritten
  · rw [update_of_ne heq] at hrow
    exact hothers user row heq hrow

theorem Replayed.of_enrolled (h : Replayed history) (hfresh : ∀ enrolment ∈ history.enrolments,
      enrolment.userId = userId → enrolment.generation ≠ row.generation) :
    Replayed { history with
      rows := update history.rows userId (some row)
      enrolments := ⟨userId, row.generation, row.secret, row.lastCounter⟩ :: history.enrolments
      issued := row.recovery.map (fun digest => (userId, row.generation, digest)) ++
        history.issued } := by
  have hunused : ∀ factor, ⟨userId, row.generation, factor⟩ ∉ history.acceptances := by
    intro factor hmem
    obtain ⟨enrolment, henrolment, huser, hgeneration⟩ := h.enrolled _ hmem
    exact hfresh enrolment henrolment huser hgeneration
  have hcounters : ∀ counter, counter ∉ history.counters userId row.generation := by
    intro counter hmem
    exact hunused _ (FactorHistory.mem_counters.mp hmem)
  constructor
  case newest =>
    refine forall_row_update ⟨row.lastCounter, by simp [FactorHistory.newest], le_rfl⟩ ?_
    intro user current hne hcurrent
    obtain ⟨confirmedCounter, hnewest, hle⟩ := h.newest user current hcurrent
    refine ⟨confirmedCounter, ?_, hle⟩
    unfold FactorHistory.newest
    rw [List.find?_cons_of_neg (by simpa using Ne.symm hne)]
    exact hnewest
  case unique =>
    intro first hfirst second hsecond huser hgeneration
    rcases List.mem_cons.mp hfirst with rfl | hfirst
    · rcases List.mem_cons.mp hsecond with rfl | hsecond
      · rfl
      · exact absurd hgeneration.symm (hfresh second hsecond huser.symm)
    · rcases List.mem_cons.mp hsecond with rfl | hsecond
      · exact absurd hgeneration (hfresh first hfirst huser)
      · exact h.unique first hfirst second hsecond huser hgeneration
  case enrolled =>
    intro acceptance hmem
    obtain ⟨enrolment, henrolment, hsame⟩ := h.enrolled acceptance hmem
    exact ⟨enrolment, List.mem_cons_of_mem _ henrolment, hsame⟩
  case bounded =>
    exact forall_row_update (fun counter hcounter => absurd hcounter (hcounters counter))
      fun user current _ => h.bounded user current
  case decreasing => exact h.decreasing
  case confirmed =>
    intro enrolment hmem counter hcounter
    rcases List.mem_cons.mp hmem with rfl | hmem
    · exact absurd hcounter (hcounters counter)
    · exact h.confirmed enrolment hmem counter hcounter
  case recovery =>
    refine forall_row_update (fun digest => ?_) fun user current _ hcurrent digest =>
      (h.recovery user current hcurrent digest).trans (count_issued_append_le _ _ _)
    have hcount := List.count_eq_zero_of_not_mem (hunused (.recovery digest))
    dsimp only
    rw [List.count_append, count_issued]
    omega
  case spent =>
    intro user generation digest
    exact (h.spent user generation digest).trans (count_issued_append_le _ _ _)

theorem counters_cons_totp (history : FactorHistory) (userId : Uuid) (generation : String)
    (counter : ℤ) (user : Uuid) (generation' : String) :
    FactorHistory.counters
        { history with
          acceptances := ⟨userId, generation, .totp counter⟩ :: history.acceptances }
        user generation' =
      if userId = user ∧ generation = generation' then
        counter :: history.counters user generation'
      else history.counters user generation' := by
  unfold FactorHistory.counters
  by_cases hsame : userId = user ∧ generation = generation'
  · simp [hsame]
  · simp [hsame]

/-- A counter that is accepted lies above the counters accepted before for its
generation, and above the one that confirmed it. -/
theorem Replayed.of_totp (h : Replayed history) (hrow : history.rows userId = some row)
    (hlast : row.lastCounter < counter) :
    Replayed { history with
      rows := update history.rows userId (some { row with lastCounter := counter })
      acceptances := ⟨userId, row.generation, .totp counter⟩ :: history.acceptances } := by
  obtain ⟨confirmedCounter, hnewest, hle⟩ := h.newest userId row hrow
  have henrolled := FactorHistory.newest_mem hnewest
  have hcounters := counters_cons_totp
    { history with
      rows := update history.rows userId (some { row with lastCounter := counter }) }
    userId row.generation counter
  constructor
  case newest =>
    exact forall_row_update ⟨confirmedCounter, hnewest, hle.trans hlast.le⟩
      fun user current _ => h.newest user current
  case unique => exact h.unique
  case enrolled =>
    intro acceptance hmem
    rcases List.mem_cons.mp hmem with rfl | hmem
    · exact ⟨_, henrolled, rfl, rfl⟩
    · exact h.enrolled acceptance hmem
  case bounded =>
    refine forall_row_update (fun value hvalue => ?_) fun user current hne hcurrent value hvalue => ?_
    · rw [hcounters, if_pos ⟨rfl, rfl⟩] at hvalue
      rcases List.mem_cons.mp hvalue with rfl | hvalue
      · exact le_rfl
      · exact (h.bounded userId row hrow value hvalue).trans hlast.le
    · rw [hcounters, if_neg fun hsame => hne hsame.1.symm] at hvalue
      exact h.bounded user current hcurrent value hvalue
  case decreasing =>
    intro user generation
    rw [hcounters]
    by_cases hsame : userId = user ∧ row.generation = generation
    · rw [if_pos hsame]
      obtain ⟨rfl, rfl⟩ := hsame
      refine List.pairwise_cons.mpr ⟨?_, h.decreasing userId row.generation⟩
      intro value hvalue
      exact (h.bounded userId row hrow value hvalue).trans_lt hlast
    · rw [if_neg hsame]
      exact h.decreasing user generation
  case confirmed =>
    intro enrolment hmem value hvalue
    rw [hcounters] at hvalue
    by_cases hsame : userId = enrolment.userId ∧ row.generation = enrolment.generation
    · have heq : enrolment = ⟨userId, row.generation, row.secret, confirmedCounter⟩ :=
        h.unique enrolment hmem _ henrolled hsame.1.symm hsame.2.symm
      rw [if_pos hsame] at hvalue
      rcases List.mem_cons.mp hvalue with rfl | hvalue
      · rw [heq]
        exact hle.trans_lt hlast
      · exact h.confirmed enrolment hmem value hvalue
    · rw [if_neg hsame] at hvalue
      exact h.confirmed enrolment hmem value hvalue
  case recovery =>
    intro user current hcurrent digest
    dsimp only
    rw [List.count_cons_of_ne (by simp)]
    exact forall_row_update (h.recovery userId row hrow) (fun user current _ => h.recovery user current)
      user current hcurrent digest
  case spent =>
    intro user generation digest
    dsimp only
    rw [List.count_cons_of_ne (by simp)]
    exact h.spent user generation digest

theorem Replayed.of_recovery (h : Replayed history) (hrow : history.rows userId = some row)
    {digest : Sha256} (hmem : digest ∈ row.recovery) :
    Replayed { history with
      rows := update history.rows userId
        (some { row with recovery := row.recovery.erase digest })
      acceptances := ⟨userId, row.generation, .recovery digest⟩ :: history.acceptances } := by
  obtain ⟨confirmedCounter, hnewest, hle⟩ := h.newest userId row hrow
  have hpresent : 1 ≤ row.recovery.count digest := List.one_le_count_iff.mpr hmem
  constructor
  case newest =>
    exact forall_row_update ⟨confirmedCounter, hnewest, hle⟩ fun user current _ => h.newest user current
  case unique => exact h.unique
  case enrolled =>
    intro acceptance hacceptance
    rcases List.mem_cons.mp hacceptance with rfl | hacceptance
    · exact ⟨_, FactorHistory.newest_mem hnewest, rfl, rfl⟩
    · exact h.enrolled acceptance hacceptance
  case bounded =>
    exact forall_row_update (h.bounded userId row hrow) fun user current _ => h.bounded user current
  case decreasing => exact h.decreasing
  case confirmed => exact h.confirmed
  case recovery =>
    refine forall_row_update (fun value => ?_) fun user current hne hcurrent value => ?_
    · have hold := h.recovery userId row hrow value
      dsimp only
      by_cases heq : value = digest
      · subst heq
        rw [List.count_cons_self, List.count_erase_self]
        omega
      · rw [List.count_cons_of_ne (by simpa using Ne.symm heq), List.count_erase_of_ne heq]
        exact hold
    · dsimp only
      rw [List.count_cons_of_ne (by simpa using fun huser => absurd huser.symm hne)]
      exact h.recovery user current hcurrent value
  case spent =>
    intro user generation value
    dsimp only
    by_cases hsame : (⟨userId, row.generation, .recovery digest⟩ : Acceptance) =
        ⟨user, generation, .recovery value⟩
    · cases hsame
      have hold := h.recovery userId row hrow digest
      rw [List.count_cons_self]
      omega
    · rw [List.count_cons_of_ne hsame]
      exact h.spent user generation value

theorem Replayed.of_disabled (h : Replayed history) (userId : Uuid) :
    Replayed { history with rows := update history.rows userId none } := by
  have hkept : ∀ user row, update history.rows userId none user = some row →
      history.rows user = some row := by
    intro user row hrow
    by_cases heq : user = userId
    · simp [heq] at hrow
    · rwa [update_of_ne heq] at hrow
  exact { h with
    newest := fun user row hrow => h.newest user row (hkept user row hrow)
    bounded := fun user row hrow => h.bounded user row (hkept user row hrow)
    recovery := fun user row hrow => h.recovery user row (hkept user row hrow) }

theorem Replayed.of_replaced (h : Replayed history) (hrow : history.rows userId = some row)
    (recovery : List Sha256) :
    Replayed { history with
      rows := update history.rows userId (some { row with recovery := recovery })
      issued := recovery.map (fun digest => (userId, row.generation, digest)) ++
        history.issued } := by
  refine { h with
    newest := forall_row_update (h.newest userId row hrow) fun user current _ => h.newest user current
    bounded := forall_row_update (h.bounded userId row hrow) fun user current _ =>
      h.bounded user current
    recovery := forall_row_update (fun digest => ?_) fun user current _ hcurrent digest =>
      (h.recovery user current hcurrent digest).trans (count_issued_append_le _ _ _)
    spent := fun user generation digest =>
      (h.spent user generation digest).trans (count_issued_append_le _ _ _) }
  have hspent := h.spent userId row.generation digest
  dsimp only
  rw [List.count_append, count_issued]
  omega

theorem Replayed.step (h : Replayed history) (call : FactorCall)
    (hcall : store.machine.admissible history call) :
    Replayed (store.machine.step history call) := by
  have heffect := FactorEffect.of_call call hcall
  generalize store.machine.step history call = next at heffect ⊢
  cases heffect with
  | quiet => exact h
  | enrolled userId row hrow hfresh => exact h.of_enrolled hfresh
  | accepted userId row code factor used hrow huses =>
      cases huses with
      | totp counter secret hsecret hcode hlast => exact h.of_totp hrow hlast
      | recovery digest hcode hmem => exact h.of_recovery hrow hmem
  | disabled userId => exact h.of_disabled userId
  | replaced userId row recovery hrow => exact h.of_replaced hrow recovery

/-! ## Replay safety -/

/-- The code is a factor of the enrolment: one of its recovery codes, or the password of
a counter under its secret. -/
def IsFactorOf (store : AccountSecurityStore) (history : FactorHistory) (enrolment : Enrolment)
    (code : String) : Factor → Prop
  | .totp counter => enrolment.confirmedCounter < counter ∧
      (∀ earlier ∈ history.counters enrolment.userId enrolment.generation, earlier < counter) ∧
      ∃ secret, store.unprotect enrolment.secret enrolment.userId.str = some secret ∧
        store.totp secret counter = code
  | .recovery digest => store.recoveryDigest code = some digest ∧
      (enrolment.userId, enrolment.generation, digest) ∈ history.issued

theorem Replayed.isFactorOf (h : Replayed history) (hrow : history.rows userId = some row)
    {factor : Factor} {used : MfaRow} (huses : UsesFactor store userId row code factor used) :
    ∃ enrolment, history.newest userId = some enrolment ∧
      enrolment.userId = userId ∧ enrolment.generation = row.generation ∧
      IsFactorOf store history enrolment code factor := by
  obtain ⟨confirmedCounter, hnewest, hle⟩ := h.newest userId row hrow
  refine ⟨_, hnewest, rfl, rfl, ?_⟩
  cases huses with
  | totp counter secret hsecret hcode hlast =>
      refine ⟨hle.trans_lt hlast, ?_, secret, hsecret, hcode⟩
      intro earlier hearlier
      exact (h.bounded userId row hrow earlier hearlier).trans_lt hlast
  | recovery digest hcode hmem =>
      refine ⟨hcode, ?_⟩
      have hpresent : 0 < row.recovery.count digest := List.count_pos_iff.mpr hmem
      have hrecovery := h.recovery userId row hrow digest
      have hissued : 0 < history.issued.count (userId, row.generation, digest) := by omega
      exact List.count_pos_iff.mp hissued

/-- Over any calls, whatever the clock reads and wherever they fail: the counters
accepted for a generation grow strictly, from above the one that confirmed it; a
recovery code is accepted at most as often as it was handed out, which is once when
no code was drawn twice; what is accepted is always a factor of the newest enrolment;
and a call of `consume` that does not accept leaves the rows as they were. -/
theorem mfa_replay_safe (store : AccountSecurityStore) (calls : List FactorCall)
    (history : FactorHistory) (h : store.machine.Reaches FactorHistory.empty calls history) :
    (∀ userId generation, (history.counters userId generation).Pairwise (· > ·)) ∧
    (∀ enrolment ∈ history.enrolments,
      ∀ counter ∈ history.counters enrolment.userId enrolment.generation,
        enrolment.confirmedCounter < counter) ∧
    (∀ userId generation digest,
      history.acceptances.count ⟨userId, generation, .recovery digest⟩ ≤
        history.issued.count (userId, generation, digest)) ∧
    (history.issued.Nodup → ∀ userId generation digest,
      history.acceptances.count ⟨userId, generation, .recovery digest⟩ ≤ 1) ∧
    (∀ fault counter userId code generation,
      match store.consumed fault counter history.rows userId code generation with
      | some acceptance =>
          (store.consume fault counter history.rows userId code generation).1 ≠ some false ∧
          ∃ enrolment, history.newest userId = some enrolment ∧
            acceptance.userId = enrolment.userId ∧
            acceptance.generation = enrolment.generation ∧
            IsFactorOf store history enrolment code acceptance.factor
      | none =>
          (store.consume fault counter history.rows userId code generation).1 ≠ some true ∧
          (store.consume fault counter history.rows userId code generation).2 = history.rows) := by
  have hreplayed : Replayed history := h.invariant (fun _ call h hcall => h.step call hcall) .empty
  refine ⟨hreplayed.decreasing, hreplayed.confirmed, hreplayed.spent, ?_, ?_⟩
  · intro hnodup userId generation digest
    exact (hreplayed.spent userId generation digest).trans
      (List.nodup_iff_count_le_one.mp hnodup _)
  intro fault counter userId code generation
  rcases consume_cases store fault counter history.rows userId code generation with
    ⟨hconsumed, hrows, hanswer⟩ | ⟨row, factor, used, hrow, huses, hconsumed, -, hanswer⟩
  · rw [hconsumed]
    exact ⟨hanswer, hrows⟩
  · rw [hconsumed]
    obtain ⟨enrolment, hnewest, huser, hgeneration, hfactor⟩ := hreplayed.isFactorOf hrow huses
    exact ⟨hanswer, enrolment, hnewest, huser.symm, hgeneration.symm, hfactor⟩

/-! ## A clock that goes back -/

/-- The digests of the secret `12345678901234567890` at the first counters. -/
def sampleHmac (message : List UInt8) : { bytes : List UInt8 // bytes.length = 20 } :=
  if message = toBigEndian 8 1 then
    ⟨[117, 164, 138, 25, 212, 203, 225, 0, 100, 78, 138, 193, 57, 126, 234, 116, 122, 45, 51, 171],
      rfl⟩
  else if message = toBigEndian 8 2 then
    ⟨[11, 172, 183, 250, 8, 47, 239, 48, 120, 34, 17, 147, 139, 193, 197, 231, 4, 22, 255, 68],
      rfl⟩
  else
    ⟨[204, 147, 207, 24, 80, 141, 148, 147, 76, 100, 182, 93, 139, 167, 102, 127, 183, 205, 228, 176],
      rfl⟩

def profilePrefix : List UInt8 := "private-profile-v1:".toList.map fun c => UInt8.ofNat c.toNat

def profileStore : AccountSecurityStore where
  sha256 := paddedHash
  hmacSha1 _ := sampleHmac
  protect payload _ := some (profilePrefix ++ payload)
  unprotect payload _ := if profilePrefix.isPrefixOf payload then some (payload.drop 19) else none

def sampleGeneration : String := "0123456789abcdef0123456789abcdef"

/-- An enrolment confirmed at counter 0, the password of counter 1, the same password
again with the clock set back, and twice the first recovery code. -/
def clockBack : List FactorCall :=
  [.enable ⟨.none, sampleGeneration, ["0123456789abcdef0123", "0123456789abcdef4567"]⟩ 1
      (List.range 20 |>.map fun i => UInt8.ofNat (48 + (i + 1) % 10)) 0,
    .consume .none 1 1 "287082" none,
    .consume .none 0 1 "287082" none,
    .consume .none 5 1 "0123-4567-89ab-cdef-0123" (some sampleGeneration),
    .consume .none 5 1 "0123456789abcdef0123" none]

theorem mfa_replay_safe_clock_back :
    let history := clockBack.foldl profileStore.machine.step FactorHistory.empty
    history.counters 1 sampleGeneration = [1] ∧ history.acceptances.length = 2 ∧
      (history.counters 1 sampleGeneration).Pairwise (· > ·) := by
  intro history
  refine ⟨by decide +kernel, by decide +kernel, ?_⟩
  refine (mfa_replay_safe profileStore clockBack history ?_).1 1 sampleGeneration
  refine ⟨?_, trivial, trivial, trivial, trivial, rfl⟩
  intro enrolment hmem
  cases hmem

end K5Vision.Auth
