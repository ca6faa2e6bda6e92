import K5Vision.Auth.Authentications
import K5Vision.Auth.OidcSafety

/-!
# Authentications under any interleaving

What an authentication establishes about its epoch is static: it is not above the stamp
counter at its start (`ProofSound.epoch`).  So a last check that finds the stamp of the
user at that epoch finds that nobody invalidated the user since.

Every invalidation takes the session of its user with it.  So from the last check on,
either the session of the authentication is gone or its user was not invalidated
(`Quiet`), and a session that is gone stays gone.
-/

namespace K5Vision.Auth

open Library Identity AuthService SessionManager

variable {ι : Type} {service : AuthService} {state after : AuthState ι} {call : ι}
  {store store' : SessionStore ι} {log : List Uuid} {proof : Proof} {token : String}

/-! ## Sessions from event to event -/

/-- The sessions go on: the records stay, and a session that is gone stays gone. -/
structure Evolves (store store' : SessionStore ι) : Prop where
  made : ∀ entry ∈ store.made, entry ∈ store'.made
  gone : ∀ digest, Gone store digest → Gone store' digest

theorem Evolves.refl : Evolves store store := ⟨fun _ h => h, fun _ h => h⟩

variable [DecidableEq ι]

variable {ρ : Type}

theorem made_step {manager : SessionManager ρ} (event : SessionEvent ι ρ) :
    (manager.step store event).made = store.made ∨
      ∃ account credentialVersion token now expiresAt,
        event = .issue account credentialVersion token now expiresAt ∧
        (manager.step store event).made = store.made ++
          [(manager.digest token,
            issuedRecord manager store account credentialVersion now expiresAt)] := by
  cases event with
  | issue account credentialVersion token now expiresAt =>
      exact .inr ⟨account, credentialVersion, token, now, expiresAt, rfl, rfl⟩
  | enter call token now =>
      left
      dsimp only [SessionManager.step, SessionManager.enter]
      split
      · rfl
      split
      · rfl
      · split
        · rfl
        · split <;> rfl
  | read call environment =>
      left
      dsimp only [SessionManager.step, SessionManager.read]
      split <;> rfl
  | leave call now =>
      left
      dsimp only [SessionManager.step, SessionManager.leave]
      split
      · split
        · rfl
        · split <;> rfl
      · rfl
  | cancel call => exact .inl rfl
  | revoke token =>
      left
      dsimp only [SessionManager.step, SessionManager.revoke]
      split
      · rfl
      · split <;> rfl
  | revokeUser userId => exact .inl rfl

theorem Evolves.of_step {manager : SessionManager ρ} (event : SessionEvent ι ρ)
    (hevent : manager.machine.admissible store event) :
    Evolves store (manager.step store event) := by
  constructor
  · intro entry hentry
    rcases made_step event with hmade | ⟨_, _, _, _, _, -, hmade⟩
    · rw [hmade]
      exact hentry
    · rw [hmade]
      exact List.mem_append_left _ hentry
  · intro digest hgone
    exact hgone.step event hevent

omit [DecidableEq ι] in
theorem Consistent.no_session {manager : SessionManager ρ} (h : Consistent manager store)
    {userId : Uuid} (hnone : store.userTokens userId = none) {digest : Sha256}
    {record : SessionRecord} (hrecord : store.sessions digest = some record) :
    record.account.id ≠ userId := by
  intro huser
  have htoken := (h.userTokens userId digest).mpr ⟨record, hrecord, huser⟩
  rw [hnone] at htoken
  cases htoken

/-! ## What an authentication has established -/

/-- The epoch is not above the counter at the start, and a factor that was used up is one
of the account. -/
structure ProofSound (proof : Proof) : Prop where
  epoch : proof.epoch ≤ proof.began
  factor : ∀ acceptance, proof.factor = some acceptance → acceptance.userId = proof.account.id
  none : proof.entrance ≠ .factor → proof.factor = none

/-- The session of the token was made for the account. -/
def Issued (service : AuthService) (store : SessionStore ι) (proof : Proof) (token : String) :
    Prop :=
  ∃ record, (service.manager.digest token, record) ∈ store.made ∧
    record.account.id = proof.account.id

/-- At the last check the user had not been invalidated since the start. -/
structure Checked (log : List Uuid) (proof : Proof) (checkedAt : ℕ) : Prop where
  le : checkedAt ≤ log.length
  quiet : proof.account.id ∉ (log.take checkedAt).drop proof.began

/-- The session is gone, or the user was not invalidated since the start. -/
def Quiet (service : AuthService) (store : SessionStore ι) (log : List Uuid) (proof : Proof)
    (token : String) : Prop :=
  store.sessions (service.manager.digest token) = none ∨ proof.account.id ∉ log.drop proof.began

/-- A session behind the last check. -/
structure Vouched (service : AuthService) (store : SessionStore ι) (log : List Uuid)
    (proof : Proof) (token : String) (checkedAt : ℕ) : Prop where
  sound : ProofSound proof
  issued : Issued service store proof token
  checked : Checked log proof checkedAt
  quiet : Quiet service store log proof token

def AuthCallSound (service : AuthService) (store : SessionStore ι) (log : List Uuid) :
    AuthCall → Prop
  | .begun _ => True
  | .verified .. => True
  | .proved proof => ProofSound proof
  | .issued proof token => ProofSound proof ∧ Issued service store proof token
  | .resolved proof token _ => ProofSound proof ∧ Issued service store proof token
  | .validated proof token _ checkedAt =>
      Vouched service store log proof token checkedAt ∧ proof.factor = none
  | .checked proof token _ checkedAt _ =>
      Vouched service store log proof token checkedAt ∧ proof.factor = none
  | .rejected _ => True

/-- An answer: the factor that was used up is of the generation at the last check. -/
structure GrantSound (service : AuthService) (store : SessionStore ι) (log : List Uuid)
    (grant : Grant) : Prop
    extends Vouched service store log grant.proof grant.token grant.checkedAt where
  generation : grant.generation = grant.proof.factor.map (·.generation)

/-- The log goes on, and whoever is in its new part has no session. -/
structure Invalidates (log log' : List Uuid) (store' : SessionStore ι) : Prop where
  grows : log <+: log'
  gone : ∀ digest record, store'.sessions digest = some record →
    record.account.id ∉ log'.drop log.length

omit [DecidableEq ι] in
theorem Invalidates.refl : Invalidates log log store where
  grows := List.prefix_rfl
  gone _ _ _ := by simp

omit [DecidableEq ι] in
theorem Issued.mono (h : Issued service store proof token) (hevolves : Evolves store store') :
    Issued service store' proof token := by
  obtain ⟨record, hmade, huser⟩ := h
  exact ⟨record, hevolves.made _ hmade, huser⟩

variable {log' : List Uuid}

theorem Checked.mono {checkedAt : ℕ} (h : Checked log proof checkedAt) (hgrows : log <+: log') :
    Checked log' proof checkedAt := by
  obtain ⟨later, rfl⟩ := hgrows
  constructor
  · rw [List.length_append]
    exact Nat.le_add_right_of_le h.le
  · rw [List.take_append_of_le_length h.le]
    exact h.quiet

def Digests (store : SessionStore ι) : Prop := (store.made.map Prod.fst).Nodup

omit [DecidableEq ι] in
theorem Issued.owner {manager : SessionManager ρ} (h : Issued service store' proof token)
    (hconsistent : Consistent manager store') (hdigests : Digests store') {record : SessionRecord}
    (hrecord : store'.sessions (service.manager.digest token) = some record) :
    record.account.id = proof.account.id := by
  obtain ⟨made, hmade, huser⟩ := h
  have hlive := hconsistent.sessions _ _ hrecord
  have heq := List.inj_on_of_nodup_map hdigests hlive hmade rfl
  rw [(Prod.mk.inj heq).2]
  exact huser

omit [DecidableEq ι] in
theorem Quiet.mono {manager : SessionManager ρ} (h : Quiet service store log proof token)
    (hissued : Issued service store proof token) (hevolves : Evolves store store')
    (hconsistent : Consistent manager store') (hdigests : Digests store')
    (hinvalidates : Invalidates log log' store') : Quiet service store' log' proof token := by
  cases hlive : store'.sessions (service.manager.digest token) with
  | none => exact .inl hlive
  | some record =>
      right
      have howner := (hissued.mono hevolves).owner hconsistent hdigests hlive
      have hnew := hinvalidates.gone _ _ hlive
      have hold : proof.account.id ∉ log.drop proof.began := by
        rcases h with hnone | hquiet
        · obtain ⟨made, hmade, -⟩ := hissued
          have hgone : Gone store (service.manager.digest token) :=
            ⟨List.mem_map_of_mem hmade, hnone⟩
          rw [(hevolves.gone _ hgone).2] at hlive
          cases hlive
        · exact hquiet
      obtain ⟨later, rfl⟩ := hinvalidates.grows
      rw [List.drop_left, howner] at hnew
      rw [List.drop_append, List.mem_append, not_or]
      exact ⟨hold, fun hmem => hnew (List.mem_of_mem_drop hmem)⟩

omit [DecidableEq ι] in
theorem Vouched.mono {manager : SessionManager ρ} {checkedAt : ℕ}
    (h : Vouched service store log proof token checkedAt) (hevolves : Evolves store store')
    (hconsistent : Consistent manager store') (hdigests : Digests store')
    (hinvalidates : Invalidates log log' store') :
    Vouched service store' log' proof token checkedAt :=
  ⟨h.sound, h.issued.mono hevolves, h.checked.mono hinvalidates.grows,
    h.quiet.mono h.issued hevolves hconsistent hdigests hinvalidates⟩

omit [DecidableEq ι] in
theorem AuthCallSound.mono {manager : SessionManager ρ} {next : AuthCall}
    (h : AuthCallSound service store log next) (hevolves : Evolves store store')
    (hconsistent : Consistent manager store') (hdigests : Digests store')
    (hinvalidates : Invalidates log log' store') : AuthCallSound service store' log' next := by
  cases next with
  | begun | verified | rejected => trivial
  | proved proof => exact h
  | issued proof token => exact ⟨h.1, h.2.mono hevolves⟩
  | resolved proof token current => exact ⟨h.1, h.2.mono hevolves⟩
  | validated proof token current checkedAt =>
      exact ⟨h.1.mono hevolves hconsistent hdigests hinvalidates, h.2⟩
  | checked proof token current checkedAt generation =>
      exact ⟨h.1.mono hevolves hconsistent hdigests hinvalidates, h.2⟩

/-! ## The invariant -/

structure AuthSound (service : AuthService) (state : AuthState ι) : Prop where
  stamps : state.stamps = Stamps.ofLog state.invalidations
  sessions : Consistent service.manager state.sessions
  digests : Digests state.sessions
  challenges : ∀ entry ∈ state.challenges, entry.2.epoch ≤ entry.2.began
  calls : ∀ call next, state.calls call = some next →
    AuthCallSound service state.sessions state.invalidations next
  grants : ∀ grant ∈ state.grants, GrantSound service state.sessions state.invalidations grant

namespace AuthSound

omit [DecidableEq ι] in
theorem started (mfa : MfaRows) : AuthSound service (AuthState.started mfa : AuthState ι) where
  stamps := rfl
  sessions := consistent_empty
  digests := List.nodup_nil
  challenges _ h := by cases h
  calls _ _ h := by cases h
  grants _ h := by cases h

omit [DecidableEq ι] in
theorem of_evolves (h : AuthSound service state) (hevolves : Evolves state.sessions after.sessions)
    (hsessions : Consistent service.manager after.sessions) (hdigests : Digests after.sessions)
    (hinvalidates : Invalidates state.invalidations after.invalidations after.sessions)
    (hstamps : after.stamps = Stamps.ofLog after.invalidations)
    (hchallenges : ∀ entry ∈ after.challenges, entry.2.epoch ≤ entry.2.began)
    (hcalls : after.calls = state.calls) (hgrants : after.grants = state.grants) :
    AuthSound service after := by
  refine ⟨hstamps, hsessions, hdigests, hchallenges, ?_, ?_⟩
  · intro call next hnext
    rw [hcalls] at hnext
    exact (h.calls call next hnext).mono hevolves hsessions hdigests hinvalidates
  intro grant hgrant
  rw [hgrants] at hgrant
  have hold := h.grants grant hgrant
  exact ⟨hold.toVouched.mono hevolves hsessions hdigests hinvalidates, hold.generation⟩

theorem proceed (h : AuthSound service state) (call : ι) (next : Option AuthCall)
    (hnext : ∀ reached, next = some reached →
      AuthCallSound service state.sessions state.invalidations reached) :
    AuthSound service (state.proceed call next) := by
  refine { h with calls := ?_ }
  intro other reached hreached
  by_cases hcall : other = call
  · subst hcall
    exact hnext reached (by simpa [AuthState.proceed] using hreached)
  · exact h.calls other reached
      (by simpa [AuthState.proceed, Function.update_of_ne hcall] using hreached)

theorem ended (h : AuthSound service state) (call : ι) :
    AuthSound service (state.proceed call none) :=
  h.proceed call none fun _ h => by cases h

theorem goOn (h : AuthSound service state) (call : ι) {reached : AuthCall}
    (hreached : AuthCallSound service state.sessions state.invalidations reached) :
    AuthSound service (state.proceed call (some reached)) :=
  h.proceed call _ fun _ heq => by cases heq; exact hreached

omit [DecidableEq ι] in
theorem of_challenges (h : AuthSound service state) {challenges : List (Sha256 × Challenge)}
    (hchallenges : ∀ entry ∈ challenges, entry.2.epoch ≤ entry.2.began) :
    AuthSound service { state with challenges := challenges } :=
  { h with challenges := hchallenges }

omit [DecidableEq ι] in
theorem of_filter (h : AuthSound service state) (valid : Sha256 × Challenge → Bool) :
    AuthSound service { state with challenges := state.challenges.filter valid } :=
  h.of_challenges fun entry hentry => h.challenges entry (List.mem_filter.mp hentry).1

theorem of_session (h : AuthSound service state) (event : SessionEvent ι AuthorityEnvironment)
    (hevent : ∀ account credentialVersion token now expiresAt,
      event ≠ .issue account credentialVersion token now expiresAt) :
    AuthSound service { state with sessions := service.manager.step state.sessions event } := by
  have hadmissible : service.manager.machine.admissible state.sessions event := by
    cases event with
    | issue account credentialVersion token now expiresAt => exact (hevent _ _ _ _ _ rfl).elim
    | enter | read | leave | cancel | revoke | revokeUser => trivial
  have hsessions : Consistent service.manager (service.manager.step state.sessions event) :=
    h.sessions.step event hadmissible
  have hdigests : Digests (service.manager.step state.sessions event) := by
    unfold Digests
    rcases made_step event with hmade | ⟨_, _, _, _, _, heq, -⟩
    · rw [hmade]
      exact h.digests
    · exact (hevent _ _ _ _ _ heq).elim
  exact h.of_evolves (.of_step event hadmissible) hsessions hdigests .refl h.stamps h.challenges
    rfl rfl

omit [DecidableEq ι] in
theorem invalidateUser (h : AuthSound service state) {userId : Uuid}
    (hnone : state.sessions.userTokens userId = none) :
    AuthSound service (state.invalidateUser userId) := by
  refine h.of_evolves .refl h.sessions h.digests ⟨List.prefix_append _ _, ?_⟩ ?_ ?_ rfl rfl
  · intro digest record hrecord
    simp only [AuthState.invalidateUser, List.drop_left, List.mem_singleton]
    exact h.sessions.no_session hnone hrecord
  · simp only [AuthState.invalidateUser]
    rw [Stamps.ofLog_snoc, h.stamps]
  · intro entry hentry
    exact h.challenges entry (List.mem_filter.mp hentry).1

theorem revokeUser (h : AuthSound service state) (userId : Uuid) :
    AuthSound service (state.revokeUser userId) := by
  have hrevoked := h.of_session (.revokeUser userId) (by simp)
  exact hrevoked.invalidateUser (userTokens_revokeUser userId)

theorem revoke (h : AuthSound service state) (token : String) :
    AuthSound service (service.revoke state token) := by
  unfold AuthService.revoke
  split
  · exact h
  rename_i hvalid
  split
  · exact h
  rename_i record hrecord
  have hrevoked := h.of_session (.revoke token) (by simp)
  have hsessions : service.manager.step state.sessions (.revoke token) =
      drop state.sessions (service.manager.digest token) record.account.id := by
    dsimp only [SessionManager.step, SessionManager.revoke]
    rw [if_neg hvalid, hrecord]
  rw [hsessions] at hrevoked
  refine hrevoked.invalidateUser ?_
  have htoken := (h.sessions.userTokens _ _).mpr ⟨record, hrecord, rfl⟩
  simp only [drop]
  rw [if_pos htoken, Function.update_self]

theorem issue (h : AuthSound service state) (call : ι) {proof : Proof} (hproof : ProofSound proof)
    {token : String} (now : Reading) (expiresAt : Instant)
    (hfresh : service.manager.digest token ∉ state.sessions.made.map Prod.fst) :
    AuthSound service ({ state with
      sessions := service.manager.issue state.sessions proof.account
        (some proof.credentialVersion) token now expiresAt }.proceed call
          (some (.issued proof token))) := by
  have hadmissible : service.manager.machine.admissible state.sessions
      (.issue proof.account (some proof.credentialVersion) token now expiresAt) := hfresh
  have hsessions := h.sessions.step _ hadmissible
  have hmade : (service.manager.issue state.sessions proof.account (some proof.credentialVersion)
      token now expiresAt).made = state.sessions.made ++ [(service.manager.digest token,
        issuedRecord service.manager state.sessions proof.account (some proof.credentialVersion) now
          expiresAt)] := rfl
  have hdigests : Digests (service.manager.issue state.sessions proof.account
      (some proof.credentialVersion) token now expiresAt) := by
    unfold Digests
    rw [hmade, List.map_append]
    exact List.nodup_append'.mpr ⟨h.digests, List.nodup_singleton _, by simpa using hfresh⟩
  have hissued : AuthSound service { state with
      sessions := service.manager.issue state.sessions proof.account
        (some proof.credentialVersion) token now expiresAt } :=
    h.of_evolves (.of_step _ hadmissible) hsessions hdigests .refl h.stamps h.challenges rfl rfl
  refine hissued.goOn call ⟨hproof, issuedRecord service.manager state.sessions proof.account
    (some proof.credentialVersion) now expiresAt, ?_, rfl⟩
  dsimp only
  rw [hmade]
  exact List.mem_append_right _ List.mem_cons_self

end AuthSound

/-! ## The steps -/

variable {environment : CheckEnvironment} {account current : UserAccount}
  {credentialVersion : Sha256} {authority : Option Completion} {stamps : Stamps Uuid} {epoch : ℕ}

omit [DecidableEq ι] in
theorem current_cases
    (h : (service.current stamps environment account credentialVersion epoch authority).isSome) :
    epoch = stamps.last account.id ∧ ∀ completion, authority = some completion →
      (OidcService.primaryCurrent ⟨service.sha256, service.registry⟩ environment.provider
        environment.links stamps environment.toAuthorityEnvironment completion).isSome := by
  unfold AuthService.current at h
  split at h
  · cases h
  rename_i hepoch
  split at h
  · cases h
  rename_i hauthority
  refine ⟨not_not.mp hepoch, ?_⟩
  intro completion hcompletion
  subst hcompletion
  simpa [Option.isSome_iff_ne_none] using hauthority

namespace AuthSound

/-- The proof of a password or of a single sign-on is sound if the stamp of the user is not
above the start. -/
theorem passwordAuthenticated (h : AuthSound service state) (call : ι) (entrance : Entrance)
    (authority : Option Completion) (startedEpoch : Option ℕ)
    {began : ℕ} (token : String) (elapsed now : Reading)
    (hbegan : (∀ started, startedEpoch = some started →
        (primaryCurrent service.sha256 service.registry state.stamps
          environment.toAuthorityEnvironment account credentialVersion started).isSome) →
      (service.current state.stamps environment account credentialVersion
        (state.stamps.last account.id) authority).isSome →
      state.stamps.last account.id ≤ began) :
    AuthSound service (service.passwordAuthenticated state call entrance account credentialVersion
      authority startedEpoch began token elapsed now environment) := by
  unfold AuthService.passwordAuthenticated
  dsimp only
  split
  · exact h.ended call
  rename_i hstarted
  split
  · exact h.ended call
  rename_i hcurrent
  have hepoch : state.stamps.last account.id ≤ began := by
    refine hbegan ?_ (by simpa [Option.isSome_iff_ne_none] using hcurrent)
    intro started heq
    subst heq
    simpa [Option.isSome_iff_ne_none] using hstarted
  split
  · exact h.ended call
  split
  · refine h.goOn call (ProofSound.mk hepoch ?_ ?_)
    · intro acceptance hacceptance
      cases hacceptance
    · intro _
      rfl
  have hkept : ∀ entry ∈ state.challenges.filter fun entry =>
      now.seconds < entry.2.deadline && entry.2.account.id ≠ account.id,
      entry.2.epoch ≤ entry.2.began :=
    fun entry hentry => h.challenges entry (List.mem_filter.mp hentry).1
  split
  · exact (h.ended call).of_challenges hkept
  refine (h.ended call).of_challenges ?_
  intro entry hentry
  rcases List.mem_cons.mp hentry with rfl | hentry
  · exact hepoch
  · exact hkept entry hentry

theorem completeChallenge (h : AuthSound service state) (call : ι) (token code : String)
    (now : Reading) (budget : Bool) (before : CheckEnvironment) (fault : StoreFault) (counter : ℤ)
    (behind : CheckEnvironment) :
    AuthSound service (service.completeChallenge state call token code now budget before fault
      counter behind) := by
  unfold AuthService.completeChallenge
  have hpruned := (h.ended call).of_filter fun entry => now.seconds < entry.2.deadline
  dsimp only
  split
  · exact hpruned
  rename_i key pending hfind
  split
  · exact hpruned
  have hconsumed (rows : MfaRows) : AuthSound service { state.proceed call none with
      challenges := state.challenges.filter fun entry => now.seconds < entry.2.deadline
      mfa := rows } :=
    ⟨hpruned.stamps, hpruned.sessions, hpruned.digests, hpruned.challenges, hpruned.calls,
      hpruned.grants⟩
  split
  · exact hconsumed _
  split
  · exact (hconsumed _).of_filter _
  refine ((hconsumed _).of_filter _).goOn call (ProofSound.mk ?_ ?_ ?_)
  · exact hpruned.challenges _ (List.mem_of_find?_eq_some hfind)
  · intro acceptance hacceptance
    change service.store.consumed fault counter state.mfa pending.account.id code
      (some pending.generation) = some acceptance at hacceptance
    rcases consume_cases service.store fault counter state.mfa pending.account.id code
        (some pending.generation) with ⟨hnone, -⟩ | ⟨row, factor, used, -, -, hsome, -⟩
    · rw [hnone] at hacceptance
      cases hacceptance
    · rw [hsome] at hacceptance
      cases hacceptance
      rfl
  · intro hentrance
    exact absurd rfl hentrance

omit [DecidableEq ι] in
/-- A last check that passes finds that nobody invalidated the user. -/
theorem vouched (h : AuthSound service state) {proof : Proof} {token : String}
    (hsound : ProofSound proof ∧ Issued service state.sessions proof token)
    {authority : Option Completion}
    (hcurrent : (service.current state.stamps environment proof.account proof.credentialVersion
      proof.epoch authority).isSome) :
    Vouched service state.sessions state.invalidations proof token
      state.invalidations.length := by
  have hepoch := (current_cases hcurrent).1
  have hle : state.stamps.last proof.account.id ≤ proof.began := hepoch ▸ hsound.1.epoch
  rw [h.stamps, Stamps.last_ofLog_le_iff] at hle
  refine ⟨hsound.1, hsound.2, ⟨le_rfl, ?_⟩, .inr hle⟩
  rwa [List.take_length]

theorem validate (h : AuthSound service state) (call : ι) (environment : CheckEnvironment) :
    AuthSound service (service.validate state call environment) := by
  unfold AuthService.validate
  split
  · rename_i proof token current hcall
    split
    · exact h
    rename_i hentrance
    split
    · exact h.goOn call trivial
    rename_i hcurrent
    have hsound : ProofSound proof ∧ Issued service state.sessions proof token :=
      h.calls call _ hcall
    have hsome : (service.current state.stamps environment proof.account proof.credentialVersion
        proof.epoch none).isSome := by
      simpa [Option.isSome_iff_ne_none] using hcurrent
    refine h.goOn call ⟨h.vouched hsound hsome, hsound.1.none ?_⟩
    rw [not_not.mp hentrance]
    decide
  · exact h

theorem status (h : AuthSound service state) (call : ι) (readable : Bool) :
    AuthSound service (AuthService.status state call readable) := by
  unfold AuthService.status
  split
  · rename_i proof token current checkedAt hcall
    have hvouched : Vouched service state.sessions state.invalidations proof token checkedAt ∧
        proof.factor = none := h.calls call _ hcall
    split
    · exact h.goOn call hvouched
    · exact h.goOn call trivial
  · exact h

omit [DecidableEq ι] in
theorem grant (h : AuthSound service state) {grant : Grant}
    (hgrant : GrantSound service state.sessions state.invalidations grant) :
    AuthSound service { state with grants := grant :: state.grants } := by
  refine { h with grants := ?_ }
  intro other hother
  rcases List.mem_cons.mp hother with rfl | hother
  · exact hgrant
  · exact h.grants other hother

theorem finish (h : AuthSound service state) (call : ι) (environment : CheckEnvironment) :
    AuthSound service (service.finish state call environment) := by
  unfold AuthService.finish
  have hended := h.ended call
  dsimp only
  split
  · exact hended.revoke _
  · rename_i proof token current checkedAt generation hcall
    have hvouched : Vouched service state.sessions state.invalidations proof token checkedAt ∧
        proof.factor = none := h.calls call _ hcall
    split
    · exact hended.revoke _
    rename_i hgeneration
    split
    · exact hended
    · refine hended.grant (GrantSound.mk hvouched.1 ?_)
      rw [hvouched.2]
      simpa using hgeneration
  · rename_i proof token current hcall
    have hsound : ProofSound proof ∧ Issued service state.sessions proof token :=
      h.calls call _ hcall
    split
    · exact h
    split
    · exact hended.revoke _
    rename_i hchecks
    simp only [Bool.or_eq_true, not_or] at hchecks
    obtain ⟨⟨⟨hcurrent, -⟩, hfactor⟩, -⟩ := hchecks
    have hsome : (service.current state.stamps environment proof.account
        proof.credentialVersion proof.epoch proof.authority).isSome := by
      simpa [Option.isSome_iff_ne_none] using hcurrent
    refine hended.grant (GrantSound.mk (h.vouched hsound hsome) ?_)
    simpa using hfactor
  · exact h

theorem step (h : AuthSound service state) (event : AuthEvent ι)
    (hevent : service.machine.admissible state event) :
    AuthSound service (service.machine.step state event) := by
  change AuthSound service (service.step state event)
  unfold AuthService.step
  cases event with
  | begin call => exact h.goOn call trivial
  | verify call verified =>
      dsimp only
      split
      · cases verified with
        | none => exact h.ended call
        | some found => exact h.goOn call trivial
      · exact h
  | primary call token elapsed now environment =>
      dsimp only
      split
      · rename_i startedEpoch account credentialVersion hcall
        refine h.passwordAuthenticated call .login none (some startedEpoch) token elapsed now ?_
        intro hstarted _
        obtain ⟨found, hfound⟩ := Option.isSome_iff_exists.mp (hstarted startedEpoch rfl)
        exact (primaryCurrent_eq_some hfound).1
      · exact h
  | signOn call completion token elapsed now environment =>
      dsimp only
      split
      · exact h.ended call
      rename_i account hcompletion
      obtain ⟨-, -, hprimary⟩ := primaryCurrent_cases hcompletion
      obtain ⟨hquiet, haccount⟩ := primaryCurrent_eq_some hprimary
      have hsame : account.id = completion.account.id :=
        (get_eq_some (currentAccount_eq_some haccount).1).2
      refine h.passwordAuthenticated call .signOn (some completion) none token elapsed now ?_
      intro _ _
      rw [hsame]
      exact hquiet
  | factor call token code now budget before fault counter behind =>
      exact h.completeChallenge call token code now budget before fault counter behind
  | issue call token now expiresAt =>
      dsimp only
      split
      · rename_i proof hcall
        exact h.issue call (h.calls call _ hcall) now expiresAt hevent
      · exact h
  | resolveEnter call now =>
      dsimp only
      split
      · rename_i proof token hcall
        have hentered := h.of_session (.enter call token now) (by simp)
        split
        · exact hentered
        · exact hentered.goOn call (hentered.calls call (.issued proof token) hcall)
      · exact h
  | resolveRead call environment => exact h.of_session (.read call environment) (by simp)
  | resolveLeave call now =>
      dsimp only
      split
      · rename_i proof token hcall
        have hleft := h.of_session (.leave call now) (by simp)
        split
        · exact hleft
        · exact hleft.goOn call (hleft.calls call (.issued proof token) hcall)
      · exact h
  | validate call environment => exact h.validate call environment
  | status call readable => exact h.status call readable
  | finish call environment => exact h.finish call environment
  | cancel call => exact h.ended call
  | session event =>
      cases event with
      | issue | revoke | revokeUser => exact h
      | enter call token now => exact h.of_session (.enter call token now) (by simp)
      | read call environment => exact h.of_session (.read call environment) (by simp)
      | leave call now => exact h.of_session (.leave call now) (by simp)
      | cancel call => exact h.of_session (.cancel call) (by simp)
  | revoke token => exact h.revoke token
  | revokeUser userId => exact h.revokeUser userId
  | mfa call => exact ⟨h.stamps, h.sessions, h.digests, h.challenges, h.calls, h.grants⟩

end AuthSound

/-! ## Authentications are safe -/

/-- In every run, of every answer with a session: at the last check the user had not been
invalidated since the authentication began; if the user has been invalidated since, the
session of the answer is gone; and the account had no second factor at the last check,
or the authentication used one up, of the account and of the generation at that check. -/
theorem authentications_safe (service : AuthService) (mfa : MfaRows) (events : List (AuthEvent ι))
    (state : AuthState ι) (h : service.machine.Reaches (AuthState.started mfa) events state) :
    state.stamps.revision = state.invalidations.length ∧
    ∀ grant ∈ state.grants,
      grant.proof.account.id ∉
        (state.invalidations.take grant.checkedAt).drop grant.proof.began ∧
      (grant.proof.account.id ∈ state.invalidations.drop grant.proof.began →
        state.sessions.sessions (service.manager.digest grant.token) = none) ∧
      (∀ generation, grant.generation = some generation → ∃ acceptance,
        grant.proof.factor = some acceptance ∧ acceptance.userId = grant.proof.account.id ∧
          acceptance.generation = generation) := by
  have hsound : AuthSound service state :=
    h.invariant (fun _ event h hevent => h.step event hevent) (.started mfa)
  refine ⟨?_, ?_⟩
  · rw [hsound.stamps, Stamps.revision_ofLog]
  intro grant hgrant
  have hvouched := hsound.grants grant hgrant
  refine ⟨hvouched.checked.quiet, ?_, ?_⟩
  · intro hinvalidated
    rcases hvouched.quiet with hnone | hquiet
    · exact hnone
    · exact absurd hinvalidated hquiet
  · intro generation hgeneration
    rw [hvouched.generation] at hgeneration
    obtain ⟨acceptance, hfactor, heq⟩ := Option.map_eq_some_iff.mp hgeneration
    exact ⟨acceptance, hfactor, hvouched.sound.factor acceptance hfactor, heq⟩

/-! ## A login that is answered late -/

def siteAuthentications : AuthService := ⟨paddedHash, localSite, 600, profileStore⟩

def siteCheck : CheckEnvironment := ⟨siteAuthority, none, [], true⟩

/-- The administrator logs in, up to the answer. -/
def passwordLogin : List (AuthEvent Unit) :=
  [.begin (), .verify () (activeSessionSnapshot paddedHash localSite siteAuthority 1),
    .primary () secondToken oneSecond oneSecond siteCheck, .issue () firstToken oneSecond
      earlyExpiry,
    .resolveEnter () oneSecond, .resolveRead () siteAuthority, .resolveLeave () oneSecond,
    .validate () siteCheck, .status () true]

def checkedLogin : AuthState Unit :=
  passwordLogin.foldl siteAuthentications.step (.started fun _ => none)

theorem reaches_checkedLogin :
    siteAuthentications.machine.Reaches (AuthState.started fun _ => none) passwordLogin
      checkedLogin :=
  ⟨trivial, trivial, trivial, List.not_mem_nil, trivial, trivial, trivial, trivial, trivial, rfl⟩

theorem authentications_safe_password_login :
    let state := siteAuthentications.step checkedLogin (.finish () siteCheck)
    state.grants.map (fun grant => (grant.proof.account.id, grant.token)) = [(1, firstToken)] ∧
      ∀ grant ∈ state.grants, grant.proof.account.id ∈ state.invalidations.drop grant.proof.began →
        state.sessions.sessions (siteAuthentications.manager.digest grant.token) = none := by
  intro state
  refine ⟨by decide +kernel, ?_⟩
  have hreaches : siteAuthentications.machine.Reaches (AuthState.started fun _ => none)
      (passwordLogin ++ [.finish () siteCheck]) state := reaches_checkedLogin.append ⟨trivial, rfl⟩
  intro grant hgrant
  exact ((authentications_safe siteAuthentications (fun _ => none) _ state hreaches).2 grant
    hgrant).2.1

/-- The administrator is revoked between the last check of the login and its answer, and
the login is answered nevertheless. -/
theorem answered_behind_invalidation :
    ¬ ∀ (events : List (AuthEvent Unit)) (state : AuthState Unit) (event : AuthEvent Unit),
      siteAuthentications.machine.Reaches (AuthState.started fun _ => none) events state →
      ∀ grant ∈ (siteAuthentications.step state event).grants, grant ∈ state.grants ∨
        grant.proof.account.id ∉ state.invalidations.drop grant.proof.began := by
  intro hclaim
  let late := siteAuthentications.step checkedLogin (.revokeUser 1)
  have hreaches : siteAuthentications.machine.Reaches (AuthState.started fun _ => none)
      (passwordLogin ++ [.revokeUser 1]) late := reaches_checkedLogin.append ⟨trivial, rfl⟩
  have hnone : late.grants = [] := List.eq_nil_of_length_eq_zero (by decide +kernel)
  have hanswer : ((siteAuthentications.step late (.finish () siteCheck)).grants.map fun grant =>
      (grant.proof.account.id, grant.proof.began)) = [(1, 0)] := by
    decide +kernel
  have hinvalidated : (1 : Uuid) ∈ late.invalidations.drop 0 := by decide +kernel
  obtain ⟨grant, hgrant, hpair⟩ := List.map_eq_singleton_iff.mp hanswer
  obtain ⟨huser, hbegan⟩ := Prod.mk.inj hpair
  have hmem : grant ∈ (siteAuthentications.step late (.finish () siteCheck)).grants := by
    rw [hgrant]
    exact List.mem_cons_self
  rcases hclaim _ late (.finish () siteCheck) hreaches grant hmem with hmem | hquiet
  · rw [hnone] at hmem
    cases hmem
  · rw [huser, hbegan] at hquiet
    exact hquiet hinvalidated

end K5Vision.Auth
