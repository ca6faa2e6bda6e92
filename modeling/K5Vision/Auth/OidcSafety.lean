import K5Vision.Auth.OidcService
import K5Vision.Auth.FactorReplay

/-!
# Single sign-on is safe

A state is held by the call that took it, then by the code that was given for it
(`OidcSound.holders`, `OidcSound.unspent`), so no state gets two codes.  What a call
has checked stays true of the history (`CallSound.mono`); what `complete` checks, it
checks at one instant.
-/

namespace K5Vision.Auth

open Library Identity OidcService
open Function (update update_of_ne update_self)

variable {ι : Type} {service : OidcService} {state after : OidcState ι} {call : ι}
  {flows flows' : Tickets String Flow} {invalidations invalidations' : List Uuid}

/-! ## What a call has established -/

/-- The flow of a call that goes on to a code. -/
def OidcCall.flow? : OidcCall → Option Flow
  | .starting .. => none
  | .configured .. => none
  | .taken flow .. => some flow
  | .exchanging exchange => some exchange.flow
  | .linked exchange _ => some exchange.flow
  | .snapshot exchange .. => some exchange.flow
  | .current exchange .. => some exchange.flow

/-- The flow was started, and its state was taken within its lifetime. -/
structure TakenFlow (flows : Tickets String Flow) (flow : Flow) (takenAt : ℚ) : Prop where
  issued : (flow.state, flow) ∈ flows.issued
  taken : flow.state ∈ flows.taken
  alive : takenAt < flow.deadline

/-- The browser is the one that started the flow, and the provider was enabled, and at
the revision it was started with. -/
structure ExchangeSound (flows : Tickets String Flow) (exchange : Exchange) : Prop
    extends TakenFlow flows exchange.flow exchange.takenAt where
  browser : exchange.browserDigest = exchange.flow.browserDigest
  enabled : exchange.config.enabled = true
  revision : exchange.config.revision = exchange.flow.revision

/-- The account is that of the link and was active, and the user had not been invalidated
between the start of the flow and the check. -/
structure AccountSound (flows : Tickets String Flow) (invalidations : List Uuid)
    (exchange : Exchange) (link : Link) (account : UserAccount) (checkedAt : ℕ) : Prop
    extends ExchangeSound flows exchange where
  issuer : link.issuer = exchange.config.issuer
  user : account.id = link.userId
  active : account.enabled = true
  checked : checkedAt ≤ invalidations.length
  quiet : account.id ∉ (invalidations.take checkedAt).drop exchange.flow.authorityEpoch

def CallSound (flows : Tickets String Flow) (invalidations : List Uuid) : OidcCall → Prop
  | .starting .. => True
  | .configured .. => True
  | .taken flow _ _ takenAt => TakenFlow flows flow takenAt
  | .exchanging exchange => ExchangeSound flows exchange
  | .linked exchange link => ExchangeSound flows exchange ∧ link.issuer = exchange.config.issuer
  | .snapshot exchange link account _ =>
      ExchangeSound flows exchange ∧ link.issuer = exchange.config.issuer ∧
        account.id = link.userId ∧ account.enabled = true
  | .current exchange link account _ checkedAt =>
      AccountSound flows invalidations exchange link account checkedAt

structure CodeSound (flows : Tickets String Flow) (invalidations : List Uuid)
    (code : IssuedCode) : Prop
    extends AccountSound flows invalidations code.exchange code.link code.completion.account
      code.checkedAt where
  linkId : code.completion.linkId = code.link.id
  linkRevision : code.completion.linkRevision = code.link.revision
  providerRevision : code.completion.providerRevision = code.exchange.flow.revision
  completionBrowser : code.completion.browserDigest = code.exchange.flow.browserDigest
  authorityEpoch : code.completion.authorityEpoch = code.exchange.flow.authorityEpoch

structure Grows (flows flows' : Tickets String Flow) (invalidations invalidations' : List Uuid) :
    Prop where
  issued : ∀ entry ∈ flows.issued, entry ∈ flows'.issued
  taken : ∀ key ∈ flows.taken, key ∈ flows'.taken
  invalidations : invalidations <+: invalidations'

theorem Grows.refl : Grows flows flows invalidations invalidations :=
  ⟨fun _ h => h, fun _ h => h, List.prefix_rfl⟩

theorem Grows.keep (valid : Flow → Bool) :
    Grows flows (flows.keep valid) invalidations invalidations :=
  ⟨fun _ h => h, fun _ h => h, List.prefix_rfl⟩

theorem TakenFlow.mono {flow : Flow} {takenAt : ℚ} (h : TakenFlow flows flow takenAt)
    (hgrows : Grows flows flows' invalidations invalidations') : TakenFlow flows' flow takenAt :=
  ⟨hgrows.issued _ h.issued, hgrows.taken _ h.taken, h.alive⟩

theorem ExchangeSound.mono {exchange : Exchange} (h : ExchangeSound flows exchange)
    (hgrows : Grows flows flows' invalidations invalidations') : ExchangeSound flows' exchange :=
  ⟨h.toTakenFlow.mono hgrows, h.browser, h.enabled, h.revision⟩

theorem AccountSound.mono {exchange : Exchange} {link : Link} {account : UserAccount}
    {checkedAt : ℕ} (h : AccountSound flows invalidations exchange link account checkedAt)
    (hgrows : Grows flows flows' invalidations invalidations') :
    AccountSound flows' invalidations' exchange link account checkedAt := by
  obtain ⟨later, hlater⟩ := hgrows.invalidations
  refine ⟨h.toExchangeSound.mono hgrows, h.issuer, h.user, h.active, ?_, ?_⟩
  · rw [← hlater, List.length_append]
    exact Nat.le_add_right_of_le h.checked
  · rw [← hlater, List.take_append_of_le_length h.checked]
    exact h.quiet

theorem CallSound.mono {next : OidcCall} (h : CallSound flows invalidations next)
    (hgrows : Grows flows flows' invalidations invalidations') :
    CallSound flows' invalidations' next := by
  cases next with
  | starting | configured => trivial
  | taken flow browserDigest code takenAt => exact TakenFlow.mono h hgrows
  | exchanging exchange => exact ExchangeSound.mono h hgrows
  | linked exchange link => exact ⟨h.1.mono hgrows, h.2⟩
  | snapshot exchange link account credentialVersion => exact ⟨h.1.mono hgrows, h.2⟩
  | current exchange link account credentialVersion checkedAt => exact AccountSound.mono h hgrows

theorem CodeSound.mono {code : IssuedCode} (h : CodeSound flows invalidations code)
    (hgrows : Grows flows flows' invalidations invalidations') :
    CodeSound flows' invalidations' code :=
  ⟨h.toAccountSound.mono hgrows, h.linkId, h.linkRevision, h.providerRevision,
    h.completionBrowser, h.authorityEpoch⟩

theorem CallSound.takenFlow {next : OidcCall} {flow : Flow} (h : CallSound flows invalidations next)
    (hflow : next.flow? = some flow) : ∃ takenAt, TakenFlow flows flow takenAt := by
  cases next with
  | starting | configured => cases hflow
  | taken flow' browserDigest code takenAt =>
      cases hflow
      exact ⟨takenAt, h⟩
  | exchanging exchange =>
      cases hflow
      exact ⟨_, ExchangeSound.toTakenFlow h⟩
  | linked exchange =>
      cases hflow
      exact ⟨_, h.1.toTakenFlow⟩
  | snapshot exchange =>
      cases hflow
      exact ⟨_, h.1.toTakenFlow⟩
  | current exchange =>
      cases hflow
      exact ⟨_, ExchangeSound.toTakenFlow (AccountSound.toExchangeSound h)⟩

/-! ## The invariant -/

structure OidcSound (state : OidcState ι) : Prop where
  stamps : state.stamps = Stamps.ofLog state.invalidations
  flows : state.flows.Sound
  completions : state.completions.Sound
  keys : ∀ entry ∈ state.flows.issued, entry.2.state = entry.1
  calls : ∀ call next, state.calls call = some next →
    CallSound state.flows state.invalidations next
  codes : ∀ code ∈ state.codes, CodeSound state.flows state.invalidations code
  issued : state.completions.issued = state.codes.map fun code => (code.localCode, code.completion)
  /-- Two calls do not hold the same state. -/
  holders : ∀ first second one two flow other, state.calls first = some one →
    state.calls second = some two → one.flow? = some flow → two.flow? = some other →
    flow.state = other.state → first = second
  /-- No call holds a state that has a code. -/
  unspent : ∀ call next flow, state.calls call = some next → next.flow? = some flow →
    flow.state ∉ state.codes.map (·.exchange.flow.state)
  spent : (state.codes.map (·.exchange.flow.state)).Nodup

namespace OidcSound

theorem opened (provider : Option Provider) (links : List Link) :
    OidcSound (OidcState.opened provider links : OidcState ι) where
  stamps := rfl
  flows := Tickets.sound_empty
  completions := Tickets.sound_empty
  keys _ h := by cases h
  calls _ _ h := by cases h
  codes _ h := by cases h
  issued := rfl
  holders _ _ _ _ _ _ h := by cases h
  unspent _ _ _ h := by cases h
  spent := List.nodup_nil

theorem of_grows (h : OidcSound state)
    (hgrows : Grows state.flows after.flows state.invalidations after.invalidations)
    (hstamps : after.stamps = Stamps.ofLog after.invalidations) (hflows : after.flows.Sound)
    (hkeys : ∀ entry ∈ after.flows.issued, entry.2.state = entry.1)
    (hcompletions : after.completions.Sound)
    (hissued : after.completions.issued = state.completions.issued)
    (hcalls : after.calls = state.calls) (hcodes : after.codes = state.codes) :
    OidcSound after := by
  constructor
  case stamps => exact hstamps
  case flows => exact hflows
  case completions => exact hcompletions
  case keys => exact hkeys
  case calls =>
    intro call next hnext
    rw [hcalls] at hnext
    exact (h.calls call next hnext).mono hgrows
  case codes =>
    intro code hcode
    rw [hcodes] at hcode
    exact (h.codes code hcode).mono hgrows
  case issued =>
    rw [hissued, hcodes]
    exact h.issued
  case holders =>
    rw [hcalls]
    exact h.holders
  case unspent =>
    rw [hcalls, hcodes]
    exact h.unspent
  case spent =>
    rw [hcodes]
    exact h.spent

theorem prune (h : OidcSound state) (now : Reading) : OidcSound (state.prune now) := by
  unfold OidcState.prune
  exact h.of_grows (.keep fun flow => now.seconds < flow.deadline) h.stamps
    (h.flows.keep fun flow => now.seconds < flow.deadline) h.keys
    (h.completions.keep fun completion => now.seconds < completion.deadline) rfl rfl rfl

theorem issueFlow (h : OidcSound state) (flow : Flow)
    (hfresh : flow.state ∉ state.flows.issued.map Prod.fst) :
    OidcSound { state with flows := state.flows.issue flow.state flow } := by
  refine h.of_grows ⟨?_, fun _ h => h, List.prefix_rfl⟩ h.stamps (h.flows.issue hfresh flow) ?_
    h.completions rfl rfl rfl
  · intro entry hentry
    exact List.mem_cons_of_mem _ hentry
  intro entry hentry
  rcases List.mem_cons.mp hentry with rfl | hentry
  · rfl
  · exact h.keys entry hentry

theorem takeCompletion (h : OidcSound state) (code : String) :
    OidcSound { state with completions := state.completions.take code } :=
  h.of_grows .refl h.stamps h.flows h.keys (h.completions.take code) Tickets.issued_take rfl rfl

theorem issueCode (h : OidcSound state) {before : OidcCall} {code : IssuedCode}
    (hbefore : state.calls call = some before) (hflow : before.flow? = some code.exchange.flow)
    (hended : after.calls call = none)
    (hothers : ∀ other, other ≠ call → after.calls other = state.calls other)
    (hcode : CodeSound state.flows state.invalidations code)
    (hfresh : code.localCode ∉ state.completions.issued.map Prod.fst)
    (hstamps : after.stamps = state.stamps) (hflows : after.flows = state.flows)
    (hinvalidations : after.invalidations = state.invalidations)
    (hcompletions : after.completions = state.completions.issue code.localCode code.completion)
    (hcodes : after.codes = code :: state.codes) : OidcSound after := by
  have hkept : ∀ other reached, after.calls other = some reached →
      other ≠ call ∧ state.calls other = some reached := by
    intro other reached hreached
    have hne : other ≠ call := by
      intro heq
      rw [heq, hended] at hreached
      cases hreached
    exact ⟨hne, (hothers other hne).symm.trans hreached⟩
  constructor
  case stamps => rw [hstamps, hinvalidations, h.stamps]
  case flows => exact hflows ▸ h.flows
  case completions => exact hcompletions ▸ h.completions.issue hfresh _
  case keys => exact hflows ▸ h.keys
  case calls =>
    intro other reached hreached
    rw [hflows, hinvalidations]
    exact h.calls other reached (hkept other reached hreached).2
  case codes =>
    rw [hflows, hinvalidations, hcodes]
    intro other hother
    rcases List.mem_cons.mp hother with rfl | hother
    · exact hcode
    · exact h.codes other hother
  case issued =>
    rw [hcompletions, hcodes, Tickets.issue, h.issued]
    rfl
  case holders =>
    intro first second one two flow other hone htwo
    exact h.holders first second one two flow other (hkept first one hone).2
      (hkept second two htwo).2
  case unspent =>
    intro other reached flow hreached hheld
    obtain ⟨hne, hreached⟩ := hkept other reached hreached
    rw [hcodes, List.map_cons]
    refine List.not_mem_cons_of_ne_of_not_mem ?_ (h.unspent other reached flow hreached hheld)
    intro hstate
    exact hne (h.holders other call reached before flow _ hreached hbefore hheld hflow hstate)
  case spent =>
    rw [hcodes, List.map_cons]
    exact List.nodup_cons.mpr ⟨h.unspent call before _ hbefore hflow, h.spent⟩

theorem invalidateUser (h : OidcSound state) (userId : Uuid) :
    OidcSound (state.invalidateUser userId) := by
  refine h.of_grows ⟨fun _ h => h, fun _ h => h, List.prefix_append _ _⟩ ?_ h.flows h.keys
    h.completions rfl rfl rfl
  simp only [OidcState.invalidateUser]
  rw [Stamps.ofLog_snoc, h.stamps]

variable [DecidableEq ι]

theorem proceed (h : OidcSound state) (call : ι) (next : Option OidcCall)
    (hnext : ∀ reached, next = some reached → CallSound state.flows state.invalidations reached)
    (hflow : ∀ reached flow, next = some reached → reached.flow? = some flow →
      ∃ before, state.calls call = some before ∧ before.flow? = some flow) :
    OidcSound (state.proceed call next) := by
  -- a holder afterwards was a holder of the same flow before
  have hbefore : ∀ other reached flow,
      update state.calls call next other = some reached → reached.flow? = some flow →
      ∃ before, state.calls other = some before ∧ before.flow? = some flow := by
    intro other reached flow hreached hheld
    by_cases hcall : other = call
    · subst hcall
      rw [update_self] at hreached
      exact hflow reached flow hreached hheld
    · rw [update_of_ne hcall] at hreached
      exact ⟨reached, hreached, hheld⟩
  refine { h with calls := ?calls, holders := ?holders, unspent := ?unspent }
  case calls =>
    intro other reached hreached
    by_cases hcall : other = call
    · subst hcall
      exact hnext reached (by simpa [OidcState.proceed] using hreached)
    · exact h.calls other reached
        (by simpa [OidcState.proceed, update_of_ne hcall] using hreached)
  case holders =>
    intro first second one two flow other hone htwo hflow hother hstate
    obtain ⟨one', hone', hflow'⟩ := hbefore first one flow hone hflow
    obtain ⟨two', htwo', hother'⟩ := hbefore second two other htwo hother
    exact h.holders first second one' two' flow other hone' htwo' hflow' hother' hstate
  case unspent =>
    intro other reached flow hreached hheld
    obtain ⟨before, hbefore, hheld⟩ := hbefore other reached flow hreached hheld
    exact h.unspent other before flow hbefore hheld

theorem ended (h : OidcSound state) (call : ι) : OidcSound (state.proceed call none) :=
  h.proceed call none (fun _ h => by cases h) (fun _ _ h => by cases h)

theorem goOn (h : OidcSound state) {before reached : OidcCall} (hbefore : state.calls call = some before)
    (hflow : reached.flow? = before.flow?)
    (hreached : CallSound state.flows state.invalidations reached) :
    OidcSound (state.proceed call (some reached)) := by
  refine h.proceed call _ ?_ ?_
  · intro other hother
    cases hother
    exact hreached
  · intro other flow hother hheld
    cases hother
    exact ⟨before, hbefore, hflow ▸ hheld⟩

theorem takeFlow (h : OidcSound state) (call : ι) {flow : Flow} {key code : String}
    {browserDigest : Sha256} {takenAt : ℚ} (hfind : state.flows.find? key = some flow)
    (halive : takenAt < flow.deadline) :
    OidcSound ({ state with flows := state.flows.take key }.proceed call
      (some (.taken flow browserDigest code takenAt))) := by
  have hlive := Tickets.mem_of_find? hfind
  have hissued := h.flows.issued _ hlive
  have hkey : flow.state = key := h.keys _ hissued
  subst hkey
  have hunspent := h.flows.unspent _ hlive
  have htaken := Tickets.taken_take hfind
  -- whatever holds or held a state has taken it before
  have hfree : ∀ other reached held, state.calls other = some reached →
      reached.flow? = some held → held.state ≠ flow.state := by
    intro other reached held hreached hheld hstate
    obtain ⟨_, htakenFlow⟩ := (h.calls other reached hreached).takenFlow hheld
    exact hunspent (hstate ▸ htakenFlow.taken)
  have hgrows : Grows state.flows (state.flows.take flow.state) state.invalidations
      state.invalidations := by
    refine ⟨?_, ?_, List.prefix_rfl⟩
    · intro entry hentry
      rw [Tickets.issued_take]
      exact hentry
    · intro spent hspent
      rw [htaken]
      exact List.mem_cons_of_mem _ hspent
  have hmiddle : OidcSound { state with flows := state.flows.take flow.state } := by
    refine h.of_grows hgrows h.stamps (h.flows.take _) ?_ h.completions rfl rfl rfl
    rw [Tickets.issued_take]
    exact h.keys
  have hcases : ∀ other reached held,
      update state.calls call (some (.taken flow browserDigest code takenAt)) other =
        some reached → reached.flow? = some held →
      (other = call ∧ held = flow) ∨ (other ≠ call ∧ state.calls other = some reached) := by
    intro other reached held hreached hheld
    by_cases hcall : other = call
    · subst hcall
      rw [update_self] at hreached
      cases hreached
      exact .inl ⟨rfl, (Option.some.inj hheld).symm⟩
    · rw [update_of_ne hcall] at hreached
      exact .inr ⟨hcall, hreached⟩
  refine { hmiddle with calls := ?calls, holders := ?holders, unspent := ?unspent }
  case calls =>
    intro other reached hreached
    by_cases hcall : other = call
    · subst hcall
      simp only [OidcState.proceed, update_self] at hreached
      cases hreached
      refine ⟨hgrows.issued _ hissued, ?_, halive⟩
      simp only [OidcState.proceed]
      rw [htaken]
      exact List.mem_cons_self
    · simp only [OidcState.proceed, update_of_ne hcall] at hreached
      exact hmiddle.calls other reached hreached
  case holders =>
    intro first second one two held other hone htwo hheld hother hstate
    rcases hcases first one held hone hheld with ⟨rfl, rfl⟩ | ⟨-, hfirst⟩
    · rcases hcases second two other htwo hother with ⟨rfl, -⟩ | ⟨-, hsecond⟩
      · rfl
      · exact absurd hstate.symm (hfree second two other hsecond hother)
    · rcases hcases second two other htwo hother with ⟨rfl, rfl⟩ | ⟨-, hsecond⟩
      · exact absurd hstate (hfree first one held hfirst hheld)
      · exact h.holders first second one two held other hfirst hsecond hheld hother hstate
  case unspent =>
    intro other reached held hreached hheld
    rcases hcases other reached held hreached hheld with ⟨-, rfl⟩ | ⟨-, hreached⟩
    · intro hmem
      obtain ⟨spent, hspent, hstate⟩ := List.mem_map.mp hmem
      exact hunspent (hstate ▸ (h.codes spent hspent).taken)
    · exact h.unspent other reached held hreached hheld

theorem startConfig (h : OidcSound state) (call : ι) (metadata : Bool) :
    OidcSound (OidcService.startConfig state call metadata) := by
  unfold OidcService.startConfig
  split
  · rename_i hcall
    split
    · exact h.ended call
    · split
      · exact h.ended call
      · exact h.goOn hcall rfl trivial
  · exact h

theorem startInsert (h : OidcSound state) (call : ι) {stateValue : String}
    (nonce verifier : String) (elapsed now : Reading)
    (hfresh : stateValue ∉ state.flows.issued.map Prod.fst) :
    OidcSound (OidcService.startInsert state call stateValue nonce verifier elapsed now) := by
  unfold OidcService.startInsert
  split
  · dsimp only
    split
    · exact h.ended call
    · split
      · exact (h.ended call).prune now
      · exact ((h.ended call).prune now).issueFlow ⟨_, stateValue, _, _, _, _, _, _⟩ hfresh
  · exact h

theorem callbackTake (h : OidcSound state) (call : ι) (stateValue code browserToken : String)
    (now : Reading) :
    OidcSound (service.callbackTake state call stateValue code browserToken now) := by
  unfold OidcService.callbackTake
  split
  · exact h
  dsimp only
  split
  · exact (h.prune now).ended call
  · rename_i hfind
    refine (h.prune now).takeFlow call hfind ?_
    simpa using (Tickets.find?_keep hfind).2

theorem callbackConfig (h : OidcSound state) (call : ι) :
    OidcSound (OidcService.callbackConfig state call) := by
  unfold OidcService.callbackConfig
  split
  · rename_i flow browserDigest code takenAt hcall
    split
    · exact h.ended call
    rename_i hbrowser
    split
    · exact h.ended call
    split
    · exact h.ended call
    · rename_i hconfig
      simp only [ne_eq, Bool.or_eq_true, decide_eq_true_eq, not_or, not_not] at hbrowser
      simp only [ne_eq, Bool.or_eq_true, Bool.not_eq_eq_eq_not, Bool.not_true,
        decide_eq_true_eq, not_or, not_not, Bool.not_eq_false] at hconfig
      have htaken : TakenFlow state.flows flow takenAt := h.calls call _ hcall
      exact h.goOn hcall rfl ⟨htaken, hbrowser.1.1.symm, hconfig.1, hconfig.2⟩
  · exact h

theorem claimedLink_issuer {links : List Link} {config : Provider} {claims : Claims} {link : Link}
    (h : claimedLink links config claims = some link) : link.issuer = config.issuer := by
  unfold claimedLink at h
  split at h
  · rename_i found hfilter
    have hmem : found ∈ links.filter fun link =>
        link.issuer = config.issuer && link.subject = claims.sub := by simp [hfilter]
    have hissuer : found.issuer = config.issuer := by
      have hfound := (List.mem_filter.mp hmem).2
      simp only [Bool.and_eq_true, decide_eq_true_eq] at hfound
      exact hfound.1
    split at h
    · cases h
      exact hissuer
    split at h
    · cases h
    · split at h
      · cases h
      · cases h
        exact hissuer
  · cases h

theorem callbackLink (h : OidcSound state) (call : ι) (claims : Option Claims) :
    OidcSound (OidcService.callbackLink state call claims) := by
  unfold OidcService.callbackLink
  split
  · rename_i exchange hcall
    cases hlink : claims.bind (claimedLink state.links exchange.config) with
    | none => exact h.ended call
    | some link =>
        obtain ⟨found, -, hfound⟩ := Option.bind_eq_some_iff.mp hlink
        have hexchange : ExchangeSound state.flows exchange := h.calls call _ hcall
        exact h.goOn hcall rfl ⟨hexchange, claimedLink_issuer hfound⟩
  · exact h

theorem activeSessionSnapshot_eq_some {sha256 : List UInt8 → Sha256} {registry : Registry}
    {environment : AuthorityEnvironment} {userId : Uuid} {verified : UserAccount × Sha256}
    (h : activeSessionSnapshot sha256 registry environment userId = some verified) :
    verified.1.id = userId ∧ verified.1.enabled = true := by
  unfold activeSessionSnapshot at h
  split at h
  · split at h
    · rename_i current row hget hrow
      split at h
      · cases h
      rename_i hactive
      cases h
      simp only [ne_eq, Bool.or_eq_true, Bool.not_eq_eq_eq_not, Bool.not_true,
        decide_eq_true_eq, not_or, not_not, Bool.not_eq_false] at hactive
      exact ⟨(get_eq_some hget).2, hactive.1.1.1⟩
    · cases h
  · cases h

theorem callbackUser (h : OidcSound state) (call : ι) (environment : AuthorityEnvironment) :
    OidcSound (service.callbackUser state call environment) := by
  unfold OidcService.callbackUser
  split
  · rename_i exchange link hcall
    cases hverified :
        activeSessionSnapshot service.sha256 service.registry environment link.userId with
    | none => exact h.ended call
    | some verified =>
        obtain ⟨huser, hactive⟩ := activeSessionSnapshot_eq_some hverified
        have hlinked : ExchangeSound state.flows exchange ∧
            link.issuer = exchange.config.issuer := h.calls call _ hcall
        exact h.goOn hcall rfl ⟨hlinked.1, hlinked.2, huser, hactive⟩
  · exact h

theorem callbackCurrent (h : OidcSound state) (call : ι) (environment : AuthorityEnvironment) :
    OidcSound (service.callbackCurrent state call environment) := by
  unfold OidcService.callbackCurrent
  split
  · rename_i exchange link account credentialVersion hcall
    cases hcurrent : Auth.primaryCurrent service.sha256 service.registry state.stamps environment
        account credentialVersion exchange.flow.authorityEpoch with
    | none => exact h.ended call
    | some current =>
        have hsnapshot : ExchangeSound state.flows exchange ∧
            link.issuer = exchange.config.issuer ∧ account.id = link.userId ∧
            account.enabled = true := h.calls call _ hcall
        obtain ⟨hexchange, hissuer, huser, hactive⟩ := hsnapshot
        have hquiet := (primaryCurrent_eq_some hcurrent).1
        rw [h.stamps, Stamps.last_ofLog_le_iff] at hquiet
        refine h.goOn hcall rfl ⟨hexchange, hissuer, huser, hactive, le_rfl, ?_⟩
        rwa [List.take_length]
  · exact h

theorem callbackInsert (h : OidcSound state) (call : ι) {localCode : String}
    (elapsed now : Reading) (hfresh : localCode ∉ state.completions.issued.map Prod.fst) :
    OidcSound (OidcService.callbackInsert state call localCode elapsed now) := by
  unfold OidcService.callbackInsert
  split
  · rename_i exchange link account credentialVersion checkedAt hcall
    dsimp only
    split
    · exact h.ended call
    split
    · exact (h.ended call).prune now
    have haccount : AccountSound state.flows state.invalidations exchange link account
        checkedAt := h.calls call _ hcall
    have hpruned := h.prune now
    let completion : Completion :=
      ⟨account, credentialVersion, link.id, link.revision, exchange.config.revision,
        exchange.flow.browserDigest, floatAdd elapsed.seconds 60, exchange.flow.authorityEpoch⟩
    have hcode : CodeSound (state.prune now).flows (state.prune now).invalidations
        ⟨localCode, exchange, link, completion, checkedAt⟩ :=
      ⟨haccount.mono (.keep fun flow => now.seconds < flow.deadline), rfl, rfl,
        haccount.revision, rfl, rfl⟩
    refine hpruned.issueCode hcall rfl ?_ ?_ hcode hfresh rfl rfl rfl rfl rfl
    · exact update_self ..
    · intro other hother
      exact update_of_ne hother ..
  · exact h

omit [DecidableEq ι] in
theorem complete (h : OidcSound state) (code browserToken : String) (now : Reading)
    (environment : AuthorityEnvironment) :
    OidcSound (service.complete state code browserToken now environment).2 := by
  unfold OidcService.complete
  split
  · exact h
  dsimp only
  split
  · exact h.prune now
  have htaken := (h.prune now).takeCompletion code
  split
  · exact htaken
  · split
    · exact htaken
    · exact htaken

theorem step (h : OidcSound state) (event : OidcEvent ι)
    (hevent : service.machine.admissible state event) :
    OidcSound (service.machine.step state event) := by
  cases event with
  | startBegin call redirectUri browserToken =>
      change OidcSound (if state.closed then state else state.proceed call (some (.starting ..)))
      split
      · exact h
      refine h.proceed call _ ?_ ?_
      · intro reached hreached
        cases hreached
        trivial
      · intro reached flow hreached hflow
        cases hreached
        cases hflow
  | startConfig call metadata => exact h.startConfig call metadata
  | startInsert call stateValue nonce verifier elapsed now =>
      exact h.startInsert call nonce verifier elapsed now hevent
  | callbackTake call stateValue code browserToken now =>
      exact h.callbackTake call stateValue code browserToken now
  | callbackConfig call => exact h.callbackConfig call
  | callbackLink call claims => exact h.callbackLink call claims
  | callbackUser call environment => exact h.callbackUser call environment
  | callbackCurrent call environment => exact h.callbackCurrent call environment
  | callbackInsert call localCode elapsed now => exact h.callbackInsert call elapsed now hevent
  | complete code browserToken now environment => exact h.complete code browserToken now environment
  | configure provider =>
      exact h.of_grows .refl h.stamps h.flows h.keys h.completions rfl rfl rfl
  | link row =>
      change OidcSound (state.link row)
      unfold OidcState.link
      split
      · exact h
      · exact h.of_grows .refl h.stamps h.flows h.keys h.completions rfl rfl rfl
  | unlink id => exact h.of_grows .refl h.stamps h.flows h.keys h.completions rfl rfl rfl
  | invalidateUser userId => exact h.invalidateUser userId
  | close =>
      exact h.of_grows (.keep fun _ => false) h.stamps (h.flows.keep fun _ => false) h.keys
        (h.completions.keep fun _ => false) rfl rfl rfl

end OidcSound

/-! ## What is accepted -/

/-- What `complete` has checked of a code when it returns the account. -/
structure CompletionAccepted (service : OidcService) (state : OidcState ι) (issued : IssuedCode)
    (browserToken : String) (now : Reading) (environment : AuthorityEnvironment)
    (account : UserAccount) : Prop where
  browser : service.tokenDigest browserToken = issued.exchange.flow.browserDigest
  alive : now.seconds < issued.completion.deadline
  provider : ∃ config, state.provider = some config ∧ config.enabled = true ∧
    config.revision = issued.exchange.flow.revision
  link : ∃ link ∈ state.links, link.id = issued.link.id ∧ link.revision = issued.link.revision ∧
    link.userId = account.id
  user : account.id = issued.link.userId
  registered : service.registry.get environment.db account.id = some account
  active : account.enabled = true
  quiet : account.id ∉ state.invalidations.drop issued.exchange.flow.authorityEpoch

variable {code browserToken : String} {now : Reading} {environment : AuthorityEnvironment}
  {account : UserAccount} {credentialVersion : Sha256}

theorem primaryCurrent_cases {provider : Option Provider} {links : List Link}
    {stamps : Stamps Uuid} {pending : Completion}
    (h : service.primaryCurrent provider links stamps environment pending = some account) :
    (∃ config, provider = some config ∧ config.enabled = true ∧
      config.revision = pending.providerRevision) ∧
    (∃ link ∈ links, link.id = pending.linkId ∧ link.revision = pending.linkRevision ∧
      link.userId = pending.account.id) ∧
    Auth.primaryCurrent service.sha256 service.registry stamps environment pending.account
      pending.credentialVersion pending.authorityEpoch = some account := by
  unfold OidcService.primaryCurrent at h
  split at h
  · cases h
  rename_i config
  split at h
  · cases h
  rename_i hconfig
  simp only [ne_eq, Bool.or_eq_true, Bool.not_eq_eq_eq_not, Bool.not_true,
    decide_eq_true_eq, not_or, not_not, Bool.not_eq_false] at hconfig
  split at h
  · rename_i link hfilter
    have hmem : link ∈ links.filter fun link =>
        link.id = pending.linkId && link.revision = pending.linkRevision := by simp [hfilter]
    obtain ⟨hlink, hsame⟩ := List.mem_filter.mp hmem
    simp only [Bool.and_eq_true, decide_eq_true_eq] at hsame
    split at h
    · cases h
    · rename_i huser
      exact ⟨⟨config, rfl, hconfig⟩, ⟨link, hlink, hsame.1, hsame.2, not_not.mp huser⟩, h⟩
  · cases h

theorem complete_cases (h : (service.complete state code browserToken now environment).1 =
      some (account, credentialVersion)) :
    ∃ pending, (state.prune now).completions.find? code = some pending ∧
      pending.browserDigest = service.tokenDigest browserToken ∧
      service.primaryCurrent state.provider state.links state.stamps environment pending =
        some account ∧
      (service.complete state code browserToken now environment).2.completions =
        (state.prune now).completions.take code := by
  unfold OidcService.complete at h ⊢
  split at h
  · cases h
  rename_i hclosed
  rw [if_neg hclosed]
  dsimp only at h ⊢
  cases hfind : (state.prune now).completions.find? code with
  | none =>
      rw [hfind] at h
      cases h
  | some pending =>
      rw [hfind] at h
      dsimp only at h ⊢
      split at h
      · cases h
      rename_i hbrowser
      rw [if_neg hbrowser]
      cases hcurrent : service.primaryCurrent (state.prune now).provider (state.prune now).links
          (state.prune now).stamps environment pending with
      | none =>
          rw [hcurrent] at h
          cases h
      | some current =>
          rw [hcurrent] at h
          cases h
          exact ⟨pending, rfl, not_not.mp hbrowser, hcurrent, rfl⟩

theorem OidcSound.accepted (h : OidcSound state)
    (hcomplete : (service.complete state code browserToken now environment).1 =
      some (account, credentialVersion)) :
    code ∉ state.completions.taken ∧
    code ∈ (service.complete state code browserToken now environment).2.completions.taken ∧
    ∃ issued ∈ state.codes, issued.localCode = code ∧
      CompletionAccepted service state issued browserToken now environment account := by
  obtain ⟨pending, hfind, hbrowser, hcurrent, hafter⟩ := complete_cases hcomplete
  obtain ⟨hlive, halive⟩ := Tickets.find?_keep hfind
  have hissued := h.completions.issued _ hlive
  rw [h.issued] at hissued
  obtain ⟨issued, hmem, hpair⟩ := List.mem_map.mp hissued
  obtain ⟨rfl, rfl⟩ := Prod.mk.inj hpair
  have hsound := h.codes issued hmem
  obtain ⟨hprovider, ⟨link, hlink, hid, hrevision, huser⟩, hprimary⟩ :=
    primaryCurrent_cases hcurrent
  obtain ⟨hquiet, haccount⟩ := primaryCurrent_eq_some hprimary
  obtain ⟨hget, henabled⟩ := currentAccount_eq_some haccount
  have hsame : account.id = issued.completion.account.id := (get_eq_some hget).2
  refine ⟨h.completions.unspent _ hlive, ?_, issued, hmem, rfl, ?_⟩
  · rw [hafter, Tickets.taken_take hfind]
    exact List.mem_cons_self
  constructor
  case browser => rw [← hbrowser, hsound.completionBrowser]
  case alive => exact of_decide_eq_true halive
  case provider =>
    rw [hsound.providerRevision] at hprovider
    exact hprovider
  case link =>
    rw [hsound.linkId] at hid
    rw [hsound.linkRevision] at hrevision
    exact ⟨link, hlink, hid, hrevision, huser.trans hsame.symm⟩
  case user => exact hsame.trans hsound.user
  case registered =>
    rw [hsame]
    exact hget
  case active => exact henabled
  case quiet =>
    rw [h.stamps, Stamps.last_ofLog_le_iff, hsound.authorityEpoch] at hquiet
    rw [hsame]
    exact hquiet

theorem mem_taken_take {tickets : Tickets String Completion} {key : String}
    (h : code ∈ tickets.taken) : code ∈ (tickets.take key).taken := by
  cases hfind : tickets.find? key with
  | none =>
      rw [Tickets.taken_take_of_none hfind]
      exact h
  | some value =>
      rw [Tickets.taken_take hfind]
      exact List.mem_cons_of_mem _ h

/-- The code was taken. -/
def Spent (code : String) (state : OidcState ι) : Prop := code ∈ state.completions.taken

theorem Spent.step [DecidableEq ι] (h : Spent code state) (event : OidcEvent ι) :
    Spent code (service.step state event) := by
  unfold Spent at h ⊢
  cases event with
  | startBegin call redirectUri browserToken =>
      dsimp only [OidcService.step]
      split <;> exact h
  | startConfig call metadata =>
      dsimp only [OidcService.step, OidcService.startConfig]
      split
      · split
        · exact h
        · split <;> exact h
      · exact h
  | startInsert call stateValue nonce verifier elapsed now =>
      dsimp only [OidcService.step, OidcService.startInsert]
      split
      · split
        · exact h
        · split <;> exact h
      · exact h
  | callbackTake call stateValue code browserToken now =>
      dsimp only [OidcService.step, OidcService.callbackTake]
      split
      · exact h
      · split <;> exact h
  | callbackConfig call =>
      dsimp only [OidcService.step, OidcService.callbackConfig]
      split
      · split
        · exact h
        · split
          · exact h
          · split <;> exact h
      · exact h
  | callbackLink call claims =>
      dsimp only [OidcService.step, OidcService.callbackLink]
      split <;> exact h
  | callbackUser call environment =>
      dsimp only [OidcService.step, OidcService.callbackUser]
      split <;> exact h
  | callbackCurrent call environment =>
      dsimp only [OidcService.step, OidcService.callbackCurrent]
      split <;> exact h
  | callbackInsert call localCode elapsed now =>
      dsimp only [OidcService.step, OidcService.callbackInsert]
      split
      · split
        · exact h
        · split <;> exact h
      · exact h
  | complete code browserToken now environment =>
      dsimp only [OidcService.step, OidcService.complete]
      split
      · exact h
      split
      · exact h
      · split
        · exact mem_taken_take h
        · split <;> exact mem_taken_take h
  | configure => exact h
  | link row =>
      dsimp only [OidcService.step, OidcState.link]
      split <;> exact h
  | unlink => exact h
  | invalidateUser => exact h
  | close => exact h

/-- In every run: a state is given at most one code; what a code stands for was
established from the browser, the lifetime of the state, the provider, the link and the
account; and when `complete` returns an account, the provider, the link and the account
are those of the code at that very instant, the browser is that of the flow, nobody
invalidated the user since the flow was started, and no later call accepts the code. -/
theorem oidc_flow_safe [DecidableEq ι] (service : OidcService) (provider : Option Provider)
    (links : List Link) (events : List (OidcEvent ι)) (state : OidcState ι)
    (h : service.machine.Reaches (OidcState.opened provider links) events state) :
    state.stamps.revision = state.invalidations.length ∧
    (state.codes.map (·.exchange.flow.state)).Nodup ∧
    (∀ issued ∈ state.codes, CodeSound state.flows state.invalidations issued) ∧
    ∀ code browserToken now environment account credentialVersion,
      (service.complete state code browserToken now environment).1 =
        some (account, credentialVersion) →
      (∃ issued ∈ state.codes, issued.localCode = code ∧
        CompletionAccepted service state issued browserToken now environment account) ∧
      ∀ later final,
        service.machine.Reaches (service.complete state code browserToken now environment).2 later
          final →
        ∀ token reading meanwhile, (service.complete final code token reading meanwhile).1 = none := by
  have hsound : OidcSound state :=
    h.invariant (fun _ event h hevent => h.step event hevent) (.opened provider links)
  refine ⟨?_, hsound.spent, hsound.codes, ?_⟩
  · rw [hsound.stamps, Stamps.revision_ofLog]
  intro code browserToken now environment account credentialVersion hcomplete
  obtain ⟨-, htaken, hissued⟩ := hsound.accepted hcomplete
  refine ⟨hissued, ?_⟩
  intro later final hlater token reading meanwhile
  have hafter : OidcSound (service.complete state code browserToken now environment).2 :=
    hsound.complete code browserToken now environment
  have hfinal : OidcSound final :=
    hlater.invariant (fun _ event h hevent => h.step event hevent) hafter
  have hspent : Spent code final :=
    hlater.invariant (fun _ event h _ => Spent.step h event) htaken
  cases hanswer : (service.complete final code token reading meanwhile).1 with
  | none => rfl
  | some answer => exact absurd hspent (hfinal.accepted hanswer).1

/-! ## A sign-on that is accepted -/

def siteService : OidcService := ⟨paddedHash, localSite⟩

def siteProvider : Provider :=
  ⟨true, "https://login.example", "k5", "", "groups", "00000000000000000000000000000001"⟩

def administratorLink : Link :=
  ⟨7, "https://login.example", "subject", 1, none, "00000000000000000000000000000002"⟩

def siteAuthority : AuthorityEnvironment := ⟨siteSetup.2.db, true⟩

/-- The administrator signs on, up to the code. -/
def signOn : List (OidcEvent Unit) :=
  [.startBegin () "https://localhost/callback" "browser", .startConfig () true,
    .startInsert () "state" "nonce" "verifier" oneSecond oneSecond,
    .callbackTake () "state" "code" "browser" twoSeconds, .callbackConfig (),
    .callbackLink () (some ⟨"subject", fun _ => none⟩), .callbackUser () siteAuthority,
    .callbackCurrent () siteAuthority,
    .callbackInsert () "local" twoSeconds twoSeconds]

theorem oidc_flow_safe_sign_on :
    let state := signOn.foldl siteService.step
      (OidcState.opened (some siteProvider) [administratorLink])
    let answer := (siteService.complete state "local" "browser" threeSeconds siteAuthority).1
    answer.map (·.1) = some administrator ∧ (state.codes.map (·.exchange.flow.state)).Nodup := by
  intro state answer
  refine ⟨by decide +kernel, ?_⟩
  refine (oidc_flow_safe siteService (some siteProvider) [administratorLink] signOn state ?_).2.1
  have hcode : "local" ∉ (((signOn.take 8).foldl siteService.step
      (OidcState.opened (some siteProvider) [administratorLink])).completions.issued.map
        Prod.fst) := by
    decide +kernel
  exact ⟨trivial, trivial, List.not_mem_nil, trivial, trivial, trivial, trivial, trivial, hcode,
    rfl⟩

end K5Vision.Auth
