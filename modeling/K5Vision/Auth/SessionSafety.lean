import K5Vision.Auth.AuthSessions
import K5Vision.Identity.LastAdministrator

/-!
# Sessions under any interleaving

The two dictionaries are kept inverse to each other by two operations: `revokeUser`,
which takes the session of a user out of both, and `insert`, which puts a new one
in; every event is made of these (`issue_eq`, `drop_eq`).  So the invariant,
`Consistent`, is proved for them only.

A digest whose session has gone stays gone, since only `issue` writes a session and
it never draws the same digest again.
-/

namespace K5Vision.Auth

open Library Identity SessionManager
open Function (update update_eq_self update_of_ne update_self)

variable {ι ρ : Type} {manager : SessionManager ρ} {store : SessionStore ι}

/-! ## The invariant -/

/-- The dictionaries are inverse to each other, and every record is one that was made. -/
structure Consistent (manager : SessionManager ρ) (store : SessionStore ι) : Prop where
  userTokens : ∀ userId digest, store.userTokens userId = some digest ↔
    ∃ record, store.sessions digest = some record ∧ record.account.id = userId
  sessions : ∀ digest record, store.sessions digest = some record →
    (digest, record) ∈ store.made
  resolutions : ∀ call resolution, store.resolutions call = some resolution →
    (resolution.digest, resolution.record) ∈ store.made
  identities : store.made.map (fun entry => entry.2.identity) = List.range store.made.length
  authority : ∀ call resolution current, store.resolutions call = some resolution →
    resolution.authority = some current → ∃ resolveAccount environment,
      manager.resolveAccount = some resolveAccount ∧
        current = resolveAccount environment resolution.record.account
          resolution.record.credentialVersion

theorem consistent_empty : Consistent manager (SessionStore.empty : SessionStore ι) where
  userTokens _ _ := by simp [SessionStore.empty]
  sessions _ _ h := by cases h
  resolutions _ _ h := by cases h
  identities := rfl
  authority _ _ _ h := by cases h

namespace Consistent

theorem session_unique (h : Consistent manager store) {first second : Sha256}
    {record other : SessionRecord} (hfirst : store.sessions first = some record)
    (hsecond : store.sessions second = some other)
    (huser : record.account.id = other.account.id) : first = second := by
  have hone := (h.userTokens _ _).mpr ⟨record, hfirst, rfl⟩
  have htwo := (h.userTokens _ _).mpr ⟨other, hsecond, huser.symm⟩
  rw [hone] at htwo
  exact Option.some.inj htwo

theorem eq_of_identity (h : Consistent manager store) {first second : Sha256 × SessionRecord}
    (hfirst : first ∈ store.made) (hsecond : second ∈ store.made)
    (heq : first.2.identity = second.2.identity) : first = second := by
  have hnodup : (store.made.map fun entry => entry.2.identity).Nodup := by
    rw [h.identities]
    exact List.nodup_range
  exact List.inj_on_of_nodup_map hnodup hfirst hsecond heq

theorem of_resolutions (h : Consistent manager store) {resolutions : ι → Option Resolution}
    (hmade : ∀ call resolution, resolutions call = some resolution →
      (resolution.digest, resolution.record) ∈ store.made)
    (hauthority : ∀ call resolution current, resolutions call = some resolution →
      resolution.authority = some current → ∃ resolveAccount environment,
        manager.resolveAccount = some resolveAccount ∧
          current = resolveAccount environment resolution.record.account
            resolution.record.credentialVersion) :
    Consistent manager { store with resolutions := resolutions } :=
  ⟨h.userTokens, h.sessions, hmade, h.identities, hauthority⟩

theorem finish [DecidableEq ι] (h : Consistent manager store) (call : ι) : Consistent manager
      { store with resolutions := update store.resolutions call none } := by
  have hother {other : ι} {resolution : Resolution}
      (hsome : update store.resolutions call none other = some resolution) :
      store.resolutions other = some resolution := by
    by_cases hcall : other = call
    · subst hcall
      rw [update_self] at hsome
      cases hsome
    · rwa [update_of_ne hcall] at hsome
  apply h.of_resolutions
  · intro other resolution hsome
    exact h.resolutions other resolution (hother hsome)
  · intro other resolution current hsome
    exact h.authority other resolution current (hother hsome)

theorem proceed [DecidableEq ι] (h : Consistent manager store) (call : ι) {resolution : Resolution}
    (hmade : (resolution.digest, resolution.record) ∈ store.made)
    (hauthority : ∀ current, resolution.authority = some current →
      ∃ resolveAccount environment, manager.resolveAccount = some resolveAccount ∧
        current = resolveAccount environment resolution.record.account
          resolution.record.credentialVersion) :
    Consistent manager
      { store with resolutions := update store.resolutions call (some resolution) } := by
  apply h.of_resolutions
  · intro other found hsome
    by_cases hcall : other = call
    · subst hcall
      rw [update_self] at hsome
      cases hsome
      exact hmade
    · rw [update_of_ne hcall] at hsome
      exact h.resolutions other found hsome
  · intro other found current hsome
    by_cases hcall : other = call
    · subst hcall
      rw [update_self] at hsome
      cases hsome
      exact hauthority current
    · rw [update_of_ne hcall] at hsome
      exact h.authority other found current hsome

end Consistent

/-! ## Taking a session out -/

variable {userId : Uuid}

theorem revokeUser_of_none (h : store.userTokens userId = none) :
    revokeUser store userId = store := by
  unfold revokeUser
  rw [h]
  dsimp only
  rw [← h, update_eq_self]

variable {digest : Sha256}

theorem revokeUser_of_some (h : store.userTokens userId = some digest) :
    revokeUser store userId = drop store digest userId := by
  unfold revokeUser drop
  rw [h, if_pos rfl]

variable {record : SessionRecord}

theorem drop_eq (h : Consistent manager store) (hrecord : store.sessions digest = some record) :
    drop store digest record.account.id = revokeUser store record.account.id :=
  (revokeUser_of_some ((h.userTokens _ _).mpr ⟨record, hrecord, rfl⟩)).symm

theorem Consistent.revokeUser (h : Consistent manager store) (userId : Uuid) :
    Consistent manager (revokeUser store userId) := by
  cases htoken : store.userTokens userId with
  | none =>
      rw [revokeUser_of_none htoken]
      exact h
  | some digest =>
      obtain ⟨record, hrecord, huser⟩ := (h.userTokens userId digest).mp htoken
      rw [revokeUser_of_some htoken]
      unfold drop
      rw [if_pos htoken]
      refine ⟨?_, ?_, h.resolutions, h.identities, h.authority⟩
      · intro other token
        dsimp only
        by_cases htokenEq : token = digest
        · -- the dropped session was that of `userId`, and of no one else
          subst htokenEq
          rw [update_self]
          constructor
          · intro hother
            by_cases hsame : other = userId
            · rw [hsame, update_self] at hother
              cases hother
            rw [update_of_ne hsame] at hother
            obtain ⟨found, hfound, hfoundUser⟩ := (h.userTokens other token).mp hother
            rw [hrecord] at hfound
            cases hfound
            exact absurd (hfoundUser.symm.trans huser) hsame
          · rintro ⟨found, hfound, -⟩
            cases hfound
        · rw [update_of_ne htokenEq]
          by_cases hsame : other = userId
          · rw [hsame, update_self]
            constructor
            · intro hnone
              cases hnone
            · rintro ⟨found, hfound, hfoundUser⟩
              exact absurd (h.session_unique hfound hrecord (hfoundUser.trans huser.symm))
                htokenEq
          · rw [update_of_ne hsame]
            exact h.userTokens other token
      · intro token found hfound
        dsimp only at hfound
        by_cases htokenEq : token = digest
        · rw [htokenEq, update_self] at hfound
          cases hfound
        · rw [update_of_ne htokenEq] at hfound
          exact h.sessions token found hfound

theorem userTokens_revokeUser (userId : Uuid) :
    (revokeUser store userId).userTokens userId = none := by
  simp [revokeUser]

theorem sessions_drop {token : Sha256} (h : store.sessions digest = none) :
    (drop store token userId).sessions digest = none := by
  unfold drop
  by_cases heq : digest = token
  · simp [heq]
  · simpa [update_of_ne heq] using h

theorem sessions_drop_self (store : SessionStore ι) (digest : Sha256) (userId : Uuid) :
    (drop store digest userId).sessions digest = none := by
  simp [drop]

theorem sessions_revokeUser (h : store.sessions digest = none) (userId : Uuid) :
    (revokeUser store userId).sessions digest = none := by
  cases htoken : store.userTokens userId with
  | none =>
      rw [revokeUser_of_none htoken]
      exact h
  | some token =>
      rw [revokeUser_of_some htoken]
      exact sessions_drop h

/-! ## Putting a session in -/

/-- The writes of `issue`, for a user without a session. -/
def insert (store : SessionStore ι) (digest : Sha256) (record : SessionRecord) : SessionStore ι :=
  { store with
    sessions := update store.sessions digest (some record)
    userTokens := update store.userTokens record.account.id (some digest)
    made := store.made ++ [(digest, record)] }

theorem sessions_insert_of_ne {other : Sha256} (h : other ≠ digest) :
    (insert store digest record).sessions other = store.sessions other :=
  update_of_ne h _ _

def issuedRecord (manager : SessionManager ρ) (store : SessionStore ι) (account : UserAccount)
    (credentialVersion : Option Sha256) (now : Reading) (expiresAt : Instant) : SessionRecord :=
  ⟨account, expiresAt, floatAdd now.seconds manager.ttlSeconds, credentialVersion,
    store.made.length⟩

theorem issue_eq (account : UserAccount) (credentialVersion : Option Sha256) (token : String)
    (now : Reading) (expiresAt : Instant) :
    manager.issue store account credentialVersion token now expiresAt =
      insert (revokeUser store account.id) (manager.digest token)
        (issuedRecord manager store account credentialVersion now expiresAt) := by
  unfold SessionManager.issue insert revokeUser issuedRecord
  cases store.userTokens account.id <;> simp

theorem Consistent.insert (h : Consistent manager store) (hfresh : digest ∉ store.made.map Prod.fst)
    (hfree : store.userTokens record.account.id = none)
    (hidentity : record.identity = store.made.length) :
    Consistent manager (insert store digest record) := by
  have hnone : store.sessions digest = none := by
    cases hsome : store.sessions digest with
    | none => rfl
    | some found => exact absurd (List.mem_map_of_mem (h.sessions _ _ hsome)) hfresh
  refine ⟨?_, ?_, ?_, ?_, h.authority⟩
  · intro userId token
    unfold Auth.insert
    dsimp only
    by_cases htoken : token = digest
    · subst htoken
      rw [update_self]
      by_cases huser : userId = record.account.id
      · subst huser
        rw [update_self]
        exact ⟨fun _ => ⟨record, rfl, rfl⟩, fun _ => rfl⟩
      rw [update_of_ne huser]
      constructor
      · intro hother
        obtain ⟨found, hfound, -⟩ := (h.userTokens userId token).mp hother
        rw [hnone] at hfound
        cases hfound
      · rintro ⟨found, hfound, rfl⟩
        cases hfound
        exact absurd rfl huser
    · rw [update_of_ne htoken]
      by_cases huser : userId = record.account.id
      · subst huser
        rw [update_self, ← h.userTokens, hfree]
        constructor
        · intro heq
          exact absurd (Option.some.inj heq).symm htoken
        · intro heq
          cases heq
      · rw [update_of_ne huser]
        exact h.userTokens userId token
  · intro token found hfound
    unfold Auth.insert at hfound ⊢
    dsimp only at hfound ⊢
    by_cases htoken : token = digest
    · rw [htoken, update_self] at hfound
      cases hfound
      rw [htoken]
      simp
    · rw [update_of_ne htoken] at hfound
      exact List.mem_append_left _ (h.sessions token found hfound)
  · intro call resolution hresolution
    exact List.mem_append_left _ (h.resolutions call resolution hresolution)
  · change (store.made ++ [(digest, record)]).map _ = _
    rw [List.map_append, h.identities, List.map_singleton, hidentity]
    change _ = List.range (store.made ++ [(digest, record)]).length
    rw [List.length_append, List.length_singleton, List.range_succ]

/-! ## Every event -/

section Events

variable [DecidableEq ι]

theorem Consistent.step (h : Consistent manager store) (event : SessionEvent ι ρ)
    (hevent : manager.machine.admissible store event) :
    Consistent manager (manager.machine.step store event) := by
  change Consistent manager (manager.step store event)
  cases event with
  | issue account credentialVersion token now expiresAt =>
      change Consistent manager (manager.issue store account credentialVersion token now expiresAt)
      rw [issue_eq]
      exact (h.revokeUser account.id).insert hevent (userTokens_revokeUser account.id) rfl
  | enter call token now =>
      change Consistent manager (manager.enter store call token now).1
      unfold SessionManager.enter
      split
      · exact h
      dsimp only
      split
      · exact h
      rename_i record hrecord
      split
      · rw [drop_eq h hrecord]
        exact h.revokeUser _
      split
      · exact h
      · refine h.proceed call ?_ ?_
        · exact h.sessions _ _ hrecord
        · intro current hcurrent
          cases hcurrent
  | read call environment =>
      change Consistent manager (manager.read store call environment)
      unfold SessionManager.read
      split
      · rename_i resolution resolveAccount hresolution hresolver
        refine h.proceed call ?_ ?_
        · exact h.resolutions call resolution hresolution
        · intro current hcurrent
          cases hcurrent
          exact ⟨resolveAccount, environment, hresolver, rfl⟩
      · exact h
  | leave call now =>
      change Consistent manager (SessionManager.leave store call now).1
      unfold SessionManager.leave
      split
      · rename_i digest record current hresolution
        have hdone := h.finish call
        dsimp only
        split_ifs with hother hended
        · exact hdone
        · -- the session is still that of the record, so it is taken out of both
          cases hsession : store.sessions digest with
          | none => simp [hsession] at hother
          | some found =>
              have hidentity : found.identity = record.identity := by
                simpa [hsession] using hother
              have heq := h.eq_of_identity (h.sessions _ _ hsession)
                (h.resolutions call _ hresolution) hidentity
              cases heq
              rw [drop_eq hdone hsession]
              exact hdone.revokeUser _
        · exact hdone
      · exact h
  | cancel call => exact h.finish call
  | revoke token =>
      change Consistent manager (manager.revoke store token).1
      unfold SessionManager.revoke
      split_ifs with hvalid
      · exact h
      split
      · exact h
      · rename_i record hrecord
        rw [drop_eq h hrecord]
        exact h.revokeUser _
  | revokeUser userId => exact h.revokeUser userId

theorem Consistent.reaches {events : List (SessionEvent ι ρ)}
    (hrun : manager.machine.Reaches SessionStore.empty events store) : Consistent manager store :=
  hrun.invariant (fun _ event h hevent => h.step event hevent) consistent_empty

/-! ## What a resolution tells -/

def Gone (store : SessionStore ι) (digest : Sha256) : Prop :=
  digest ∈ store.made.map Prod.fst ∧ store.sessions digest = none

/-- The very session of a resolution is current, and the authority it has read is that
of an account. -/
def ResolvedBy (manager : SessionManager ρ) (store : SessionStore ι) (call : ι) (now : Reading)
    (digest : Sha256) (account : UserAccount) : Prop :=
  ∃ record resolveAccount environment,
    store.resolutions call = some ⟨digest, record, some (some account)⟩ ∧
    store.sessions digest = some record ∧ now.seconds < record.deadline ∧
    manager.resolveAccount = some resolveAccount ∧
    resolveAccount environment record.account record.credentialVersion = some account

variable {digest : Sha256}

theorem resolved_leave (h : Consistent manager store) {call : ι} {now : Reading}
    {account : UserAccount}
    (hresolved : manager.resolved store (.leave call now) = some (digest, account)) :
    ResolvedBy manager store call now digest account := by
  unfold SessionManager.resolved at hresolved
  obtain ⟨resolution, hresolution, hleave⟩ := Option.bind_eq_some_iff.mp hresolved
  obtain ⟨found, hfound, heq⟩ := Option.map_eq_some_iff.mp hleave
  cases heq
  obtain ⟨current, hcurrent, rfl⟩ := Option.bind_eq_some_iff.mp hfound
  obtain ⟨digest, record, authority⟩ := resolution
  unfold SessionManager.leave at hcurrent
  rw [hresolution] at hcurrent
  cases authority with
  | none => cases hcurrent
  | some authority =>
      dsimp only at hcurrent
      split_ifs at hcurrent with hother hended
      · cases hcurrent
      · cases hcurrent
      cases hcurrent
      cases hsession : store.sessions digest with
      | none => simp [hsession] at hother
      | some found =>
          have hidentity : found.identity = record.identity := by
            simpa [hsession] using hother
          have hsame := h.eq_of_identity (h.sessions _ _ hsession)
            (h.resolutions call _ hresolution) hidentity
          cases hsame
          obtain ⟨resolveAccount, environment, hresolver, hread⟩ :=
            h.authority call _ _ hresolution rfl
          refine ⟨record, resolveAccount, environment, hresolution, hsession, ?_, hresolver,
            hread.symm⟩
          simpa using hended

/-- With an authority to read, no resolution ends in its first phase. -/
theorem resolved_enter {call : ι} {token : String} {now : Reading}
    (hresolver : manager.resolveAccount.isSome = true) :
    manager.resolved store (.enter call token now) = none := by
  have hentered : ((manager.enter store call token now).2.bind fun account => account) = none := by
    unfold SessionManager.enter
    split
    · rfl
    dsimp only
    split
    · rfl
    split
    · rfl
    · rw [if_neg]
      · rfl
      · rw [Option.isNone_iff_eq_none]
        intro hnone
        rw [hnone] at hresolver
        cases hresolver
  change Option.map _ ((manager.enter store call token now).2.bind fun account => account) = none
  rw [hentered]
  rfl

theorem not_resolved_of_gone (h : Consistent manager store)
    (hresolver : manager.resolveAccount.isSome = true) (hgone : Gone store digest)
    (event : SessionEvent ι ρ) (account : UserAccount) :
    manager.resolved store event ≠ some (digest, account) := by
  intro hresolved
  cases event with
  | enter call token now =>
      rw [resolved_enter hresolver] at hresolved
      cases hresolved
  | leave call now =>
      obtain ⟨record, -, -, -, hsession, -⟩ := resolved_leave h hresolved
      rw [hgone.2] at hsession
      cases hsession
  | issue => cases hresolved
  | read => cases hresolved
  | cancel => cases hresolved
  | revoke => cases hresolved
  | revokeUser => cases hresolved

/-! ## A session that is gone stays gone -/

theorem Gone.step (hgone : Gone store digest) (event : SessionEvent ι ρ)
    (hevent : manager.machine.admissible store event) :
    Gone (manager.machine.step store event) digest := by
  obtain ⟨hmade, hnone⟩ := hgone
  change Gone (manager.step store event) digest
  cases event with
  | issue account credentialVersion token now expiresAt =>
      change Gone (manager.issue store account credentialVersion token now expiresAt) digest
      rw [issue_eq]
      have hne : digest ≠ manager.digest token := by
        rintro rfl
        exact hevent hmade
      constructor
      · change digest ∈ (store.made ++ [_]).map Prod.fst
        rw [List.map_append]
        exact List.mem_append_left _ hmade
      · rw [sessions_insert_of_ne hne]
        exact sessions_revokeUser hnone account.id
  | enter call token now =>
      change Gone (manager.enter store call token now).1 digest
      unfold SessionManager.enter
      split
      · exact ⟨hmade, hnone⟩
      dsimp only
      split
      · exact ⟨hmade, hnone⟩
      · split
        · exact ⟨hmade, sessions_drop hnone⟩
        · split <;> exact ⟨hmade, hnone⟩
  | read call environment =>
      change Gone (manager.read store call environment) digest
      unfold SessionManager.read
      split <;> exact ⟨hmade, hnone⟩
  | leave call now =>
      change Gone (SessionManager.leave store call now).1 digest
      unfold SessionManager.leave
      split
      · dsimp only
        split_ifs
        · exact ⟨hmade, hnone⟩
        · exact ⟨hmade, sessions_drop hnone⟩
        · exact ⟨hmade, hnone⟩
      · exact ⟨hmade, hnone⟩
  | cancel call => exact ⟨hmade, hnone⟩
  | revoke token =>
      change Gone (manager.revoke store token).1 digest
      unfold SessionManager.revoke
      split
      · exact ⟨hmade, hnone⟩
      · split
        · exact ⟨hmade, hnone⟩
        · exact ⟨hmade, sessions_drop hnone⟩
  | revokeUser userId => exact ⟨hmade, sessions_revokeUser hnone userId⟩

/-! ## What ends a session -/

/-- The event supersedes the session of a digest, revokes it, or finds it expired or
without authority. -/
def Ends (manager : SessionManager ρ) (store : SessionStore ι) (digest : Sha256) :
    SessionEvent ι ρ → Prop
  | .issue account _ _ _ _ => store.userTokens account.id = some digest
  | .enter _ token now => tokenIsValid token = true ∧ manager.digest token = digest ∧
      ∃ record, store.sessions digest = some record ∧ record.deadline ≤ now.seconds
  | .leave call now => ∃ record current, store.sessions digest = some record ∧
      store.resolutions call = some ⟨digest, record, some current⟩ ∧
      (record.deadline ≤ now.seconds ∨ current = none)
  | .revoke token => tokenIsValid token = true ∧ manager.digest token = digest ∧
      (store.sessions digest).isSome = true
  | .revokeUser userId => store.userTokens userId = some digest
  | _ => False

theorem Ends.gone (h : Consistent manager store) {event : SessionEvent ι ρ}
    (hends : Ends manager store digest event) (hevent : manager.machine.admissible store event) :
    Gone (manager.machine.step store event) digest := by
  have hmadeOf {record : SessionRecord} (hrecord : store.sessions digest = some record) :
      digest ∈ store.made.map Prod.fst := List.mem_map_of_mem (h.sessions _ _ hrecord)
  change Gone (manager.step store event) digest
  cases event with
  | issue account credentialVersion token now expiresAt =>
      obtain ⟨record, hrecord, -⟩ := (h.userTokens _ _).mp hends
      have hmade := hmadeOf hrecord
      have hne : digest ≠ manager.digest token := by
        rintro rfl
        exact hevent hmade
      change Gone (manager.issue store account credentialVersion token now expiresAt) digest
      rw [issue_eq]
      constructor
      · change digest ∈ (store.made ++ [_]).map Prod.fst
        rw [List.map_append]
        exact List.mem_append_left _ hmade
      · rw [sessions_insert_of_ne hne, revokeUser_of_some hends]
        exact sessions_drop_self _ _ _
  | enter call token now =>
      obtain ⟨hvalid, rfl, record, hrecord, hdeadline⟩ := hends
      change Gone (manager.enter store call token now).1 (manager.digest token)
      unfold SessionManager.enter
      rw [if_neg (by simp [hvalid])]
      dsimp only
      rw [hrecord]
      dsimp only
      rw [if_pos hdeadline]
      exact ⟨hmadeOf hrecord, sessions_drop_self _ _ _⟩
  | leave call now =>
      obtain ⟨record, current, hrecord, hresolution, hended⟩ := hends
      change Gone (SessionManager.leave store call now).1 digest
      unfold SessionManager.leave
      rw [hresolution]
      dsimp only
      rw [if_neg (by simp [hrecord]), if_pos (by simpa using hended)]
      exact ⟨hmadeOf hrecord, sessions_drop_self _ _ _⟩
  | revoke token =>
      obtain ⟨hvalid, rfl, hsome⟩ := hends
      obtain ⟨record, hrecord⟩ := Option.isSome_iff_exists.mp hsome
      change Gone (manager.revoke store token).1 (manager.digest token)
      unfold SessionManager.revoke
      rw [if_neg (by simp [hvalid]), hrecord]
      exact ⟨hmadeOf hrecord, sessions_drop_self _ _ _⟩
  | revokeUser userId =>
      obtain ⟨record, hrecord, -⟩ := (h.userTokens _ _).mp hends
      refine ⟨hmadeOf hrecord, ?_⟩
      change (SessionManager.revokeUser store userId).sessions digest = none
      rw [revokeUser_of_some hends]
      exact sessions_drop_self _ _ _
  | read call environment => exact hends.elim
  | cancel call => exact hends.elim

end Events

/-! ## The product's sessions -/

/-- The authority read of the product returns an enabled account with the role and the
password of the session. -/
theorem resolveSession_eq_some {sha256 : List UInt8 → Sha256} {registry : Registry}
    {db : Database} {account current : UserAccount} {credentialVersion : Option Sha256}
    (h : resolveSession sha256 registry db account credentialVersion = some current) :
    registry.get db account.id = some current ∧ current.enabled = true ∧
      current.role = account.role ∧ ∃ row,
        db.credentials.find? (registry.siteId, account.id) = some row ∧
        row.kind = .password ∧ row.scheme = credentialScheme ∧ row.expiresAt = none ∧
        credentialVersion = some (sha256 (row.salt.1 ++ row.verifier.1)) := by
  unfold resolveSession at h
  split at h
  · cases h
  rename_i version
  split at h
  · rename_i found row hfound hrow
    split_ifs at h with hinactive hrole hversion
    cases h
    simp only [Bool.or_eq_true, Bool.not_eq_true', decide_eq_true_eq, not_or, not_not,
      Bool.not_eq_false, Bool.not_eq_true, Option.isSome_eq_false_iff, Option.isNone_iff_eq_none]
      at hinactive
    exact ⟨hfound, hinactive.1.1.1, not_not.mp hrole, row, hrow, hinactive.1.2,
      hinactive.1.1.2, hinactive.2, by rw [hversion]⟩
  · cases h

/-- An account is resolved only for the current session, in its time, and only if its
authority, as read between the two phases, is enabled and unchanged. -/
def AuthorityUnchanged (sha256 : List UInt8 → Sha256) (registry : Registry)
    (record : SessionRecord) (account : UserAccount) : Prop :=
  ∃ db, registry.get db record.account.id = some account ∧ account.enabled = true ∧
    account.role = record.account.role ∧ ∃ row,
      db.credentials.find? (registry.siteId, record.account.id) = some row ∧
      row.kind = .password ∧ row.scheme = credentialScheme ∧ row.expiresAt = none ∧
      record.credentialVersion = some (sha256 (row.salt.1 ++ row.verifier.1))

/-- In every run of the product's sessions the dictionaries are inverse to each other,
a resolution returns an account for the current session only, and a session that has
ended never resolves again. -/
theorem sessions_safe [DecidableEq ι] (sha256 : List UInt8 → Sha256) (registry : Registry)
    (ttlSeconds : ℤ) (events : List (SessionEvent ι AuthorityEnvironment))
    (store : SessionStore ι)
    (hrun : (productSessions sha256 registry ttlSeconds).machine.Reaches .empty events store) :
    (∀ userId digest, store.userTokens userId = some digest ↔
      ∃ record, store.sessions digest = some record ∧ record.account.id = userId) ∧
    (∀ first second record other, store.sessions first = some record →
      store.sessions second = some other → record.account.id = other.account.id →
        first = second) ∧
    (∀ event digest account,
      (productSessions sha256 registry ttlSeconds).resolved store event = some (digest, account) →
      ∃ call now record, event = .leave call now ∧
        store.resolutions call = some ⟨digest, record, some (some account)⟩ ∧
        store.sessions digest = some record ∧ now.seconds < record.deadline ∧
        AuthorityUnchanged sha256 registry record account) ∧
    ∀ event digest later final,
      (productSessions sha256 registry ttlSeconds).machine.admissible store event →
      Ends (productSessions sha256 registry ttlSeconds) store digest event →
      (productSessions sha256 registry ttlSeconds).machine.Reaches
        ((productSessions sha256 registry ttlSeconds).machine.step store event) later final →
      ∀ event' account,
        (productSessions sha256 registry ttlSeconds).resolved final event' ≠
          some (digest, account) := by
  have hconsistent := Consistent.reaches hrun
  refine ⟨hconsistent.userTokens, ?_, ?_, ?_⟩
  · intro first second record other hfirst hsecond huser
    exact hconsistent.session_unique hfirst hsecond huser
  · intro event digest account hresolved
    cases event with
    | leave call now =>
        obtain ⟨record, resolveAccount, environment, hresolution, hsession, hdeadline, hresolver,
          hread⟩ := resolved_leave hconsistent hresolved
        refine ⟨call, now, record, rfl, hresolution, hsession, hdeadline, environment.db, ?_⟩
        cases hresolver
        dsimp only at hread
        split_ifs at hread
        exact resolveSession_eq_some hread
    | enter call token now =>
        rw [resolved_enter rfl] at hresolved
        cases hresolved
    | issue => cases hresolved
    | read => cases hresolved
    | cancel => cases hresolved
    | revoke => cases hresolved
    | revokeUser => cases hresolved
  · intro event digest later final hevent hends hlater event' account
    have hgone := hends.gone hconsistent hevent
    have hfinalGone := hlater.invariant (fun _ event hgone hevent => Gone.step hgone event hevent)
      hgone
    have hfinal : Consistent (productSessions sha256 registry ttlSeconds) final :=
      hlater.invariant (fun _ event h hevent => Consistent.step h event hevent)
        (hconsistent.step event hevent)
    exact not_resolved_of_gone hfinal rfl hfinalGone event' account

/-! ## A concrete run -/

/-- A hash that tells the tokens below apart by their last character. -/
def lastByte (bytes : List UInt8) : Sha256 :=
  ⟨bytes.getLast?.getD 0 :: List.replicate 31 0, by simp⟩

def firstToken : String := "0123456789abcdef0123456789abcdeA"

def secondToken : String := "0123456789abcdef0123456789abcdeB"

def administrator : UserAccount := ⟨administratorRequest, 1⟩

theorem toFloat_seconds : ∀ seconds : Fin 4, toFloat (seconds.val : ℕ) = (seconds.val : ℕ) := by
  decide +kernel

theorem seconds_lt_day (seconds : Fin 4) : seconds.val < 86400 := by omega

def earlyReading (seconds : Fin 4) : Reading := secondsReading seconds.val (toFloat_seconds seconds)

def earlyInstant (seconds : Fin 4) : Instant := secondsInstant seconds.val (seconds_lt_day seconds)

def oneSecond : Reading := earlyReading 1

def twoSeconds : Reading := earlyReading 2

def threeSeconds : Reading := earlyReading 3

def earlyExpiry : Instant := earlyInstant 1

/-- Two logins of the administrator, a resolution of the first token between them and
behind them. -/
def loginTwice : List (SessionEvent Bool AuthorityEnvironment) :=
  [.issue administrator none firstToken oneSecond earlyExpiry,
    .enter false firstToken twoSeconds,
    .issue administrator none secondToken threeSeconds earlyExpiry,
    .read false ⟨siteSetup.2.db, true⟩]

theorem sessions_safe_superseded :
    let manager := productSessions lastByte localSite 600
    let store := loginTwice.foldl manager.step (SessionStore.empty : SessionStore Bool)
    ∀ userId digest, store.userTokens userId = some digest ↔
      ∃ record, store.sessions digest = some record ∧ record.account.id = userId := by
  intro manager store
  refine (sessions_safe lastByte localSite 600 loginTwice store ?_).1
  have hfirst : manager.digest firstToken ∉ ([] : List Sha256) := List.not_mem_nil
  have hsecond : manager.digest secondToken ∉ (((loginTwice.take 2).foldl manager.step
      (SessionStore.empty : SessionStore Bool)).made.map Prod.fst) := by
    decide +kernel
  exact ⟨hfirst, trivial, hsecond, trivial, rfl⟩

end K5Vision.Auth
