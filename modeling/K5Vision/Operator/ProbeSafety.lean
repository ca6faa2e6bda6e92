import K5Vision.Operator.ProbeVault

/-!
# Probe handles are single use

The vault is described by three readings: the dictionary, `terms` (what a probe was made with) and
`isConnecting`.  Everything but `reserve` leaves the terms and only drops rows (`Shrunk`).  What a
step of a call does beyond that is one of three moves (`Moves`): it leaves the claims as they are,
claims a free probe, or releases its own.

`Sound` is the invariant of the runs: at most sixteen probes; every row was reserved in the run and
not cleared since (`Open`); a claimed probe is marked, and claimed by one call; an identifier that
was connected is not in the dictionary, and will not be drawn again.
-/

namespace K5Vision.Operator.Probes

open Library Identity Auth

namespace Vault

variable {κ : Type} {vault before after final : Vault κ} {identifier : String} {address : ℕ}
  {owner : Owner} {now : Reading}

/-! ## The readings of a vault -/

def terms (vault : Vault κ) (address : ℕ) : Option (Owner × ℚ) :=
  vault.objects[address]?.map fun probe => (probe.owner, probe.expires)

def isConnecting (vault : Vault κ) (address : ℕ) : Bool :=
  vault.objects[address]?.any (·.connecting)

/-- Rows may be gone, and no probe was made. -/
structure Shrunk (before after : Vault κ) : Prop where
  rows : ∀ identifier address, after.probes.find? identifier = some address →
    before.probes.find? identifier = some address
  size : after.probes.rows.length ≤ before.probes.rows.length
  terms : ∀ address, after.terms address = before.terms address

theorem Shrunk.refl (vault : Vault κ) : Shrunk vault vault :=
  ⟨fun _ _ h => h, le_refl _, fun _ => rfl⟩

theorem Shrunk.trans (hfirst : Shrunk before after) (hsecond : Shrunk after final) :
    Shrunk before final where
  rows identifier address h := hfirst.rows identifier address (hsecond.rows identifier address h)
  size := hsecond.size.trans hfirst.size
  terms address := (hsecond.terms address).trans (hfirst.terms address)

theorem shrunk_keep (p : String × ℕ → Bool) (vault : Vault κ) :
    Shrunk vault { vault with probes := vault.probes.keep p } where
  rows _ _ h := (Table.find?_keep.mp h).1
  size := List.length_filter_le _ _
  terms _ := rfl

theorem shrunk_prune (now : Reading) (vault : Vault κ) : Shrunk vault (vault.prune now) :=
  shrunk_keep _ vault

theorem shrunk_clearToken (digest : Sha256) (vault : Vault κ) :
    Shrunk vault (vault.clearToken digest) :=
  shrunk_keep _ vault

theorem shrunk_clear (vault : Vault κ) : Shrunk vault vault.clear where
  rows identifier _ h := by
    change (Table.empty : Table String ℕ).find? identifier = _ at h
    rw [Table.find?_empty] at h
    cases h
  size := Nat.zero_le _
  terms _ := rfl

theorem shrunk_discard (identifier : String) (address : ℕ) (vault : Vault κ) :
    Shrunk vault (vault.discard identifier address) := by
  rw [discard]
  split_ifs
  · exact shrunk_keep _ vault
  · exact .refl vault

theorem terms_modify {f : Probe κ → Probe κ}
    (hf : ∀ probe, (f probe).owner = probe.owner ∧ (f probe).expires = probe.expires)
    (vault : Vault κ) (changed address : ℕ) :
    terms { vault with objects := vault.objects.modify changed f } address =
      vault.terms address := by
  simp only [terms, List.getElem?_modify]
  cases vault.objects[address]? with
  | none => rfl
  | some probe =>
      by_cases heq : changed = address
      · simp [heq, hf probe]
      · simp [heq]

theorem shrunk_setConnecting (address : ℕ) (connecting : Bool) (vault : Vault κ) :
    Shrunk vault (vault.setConnecting address connecting) where
  rows _ _ h := h
  size := le_refl _
  terms other := by
    rw [setConnecting, terms_modify]
    exact fun _ => ⟨rfl, rfl⟩

theorem shrunk_addProfiles (address : ℕ) (profiles : List (String × Profile κ)) (vault : Vault κ) :
    Shrunk vault (vault.addProfiles address profiles) where
  rows _ _ h := h
  size := le_refl _
  terms other := by
    rw [addProfiles, terms_modify]
    exact fun _ => ⟨rfl, rfl⟩

@[simp] theorem isConnecting_prune (now : Reading) (vault : Vault κ) :
    (vault.prune now).isConnecting = vault.isConnecting := rfl

@[simp] theorem isConnecting_clearToken (digest : Sha256) (vault : Vault κ) :
    (vault.clearToken digest).isConnecting = vault.isConnecting := rfl

@[simp] theorem isConnecting_clear (vault : Vault κ) :
    vault.clear.isConnecting = vault.isConnecting := rfl

@[simp] theorem isConnecting_discard (identifier : String) (address : ℕ) (vault : Vault κ) :
    (vault.discard identifier address).isConnecting = vault.isConnecting := by
  rw [discard]
  split_ifs <;> rfl

@[simp] theorem isConnecting_addProfiles (changed : ℕ) (profiles : List (String × Profile κ))
    (vault : Vault κ) : (vault.addProfiles changed profiles).isConnecting = vault.isConnecting := by
  funext address
  simp only [isConnecting, addProfiles, List.getElem?_modify]
  by_cases heq : changed = address
  · cases hfind : vault.objects[address]? <;> simp [heq]
  · simp [heq]

theorem isConnecting_setConnecting (changed : ℕ) (connecting : Bool) (vault : Vault κ)
    (address : ℕ) : (vault.setConnecting changed connecting).isConnecting address =
      if changed = address then (vault.terms address).isSome && connecting
      else vault.isConnecting address := by
  simp only [isConnecting, setConnecting, terms, List.getElem?_modify]
  by_cases heq : changed = address
  · cases hfind : vault.objects[address]? <;> simp [heq]
  · simp [heq]

/-! ## Getting a probe -/

theorem get_snd (identifier : String) (owner : Owner) (now : Reading) (vault : Vault κ) :
    (vault.get identifier owner now).2 = vault.prune now := by
  rw [get]
  split
  · rfl
  · split_ifs <;> rfl

theorem get_ok (h : (vault.get identifier owner now).1 = .ok address) :
    vault.probes.find? identifier = some address ∧
      ∃ expires, vault.terms address = some (owner, expires) ∧ now.seconds < expires := by
  rw [get] at h
  split at h
  case h_1 => cases h
  case h_2 found hfound =>
    split_ifs at h with howner
    cases h
    obtain ⟨hfind, htime⟩ := Table.find?_keep.mp hfound
    change vault.objects[address]?.any _ = true at howner
    refine ⟨hfind, ?_⟩
    cases hobject : vault.objects[address]? with
    | none =>
        rw [hobject] at howner
        cases howner
    | some probe =>
        rw [hobject] at howner htime
        have heq : probe.owner = owner := of_decide_eq_true howner
        exact ⟨probe.expires, by rw [terms, hobject, ← heq]; rfl, of_decide_eq_true htime⟩

theorem claimed_snd (identifier : String) (address : ℕ) (owner : Owner) (now : Reading)
    (vault : Vault κ) : (vault.claimed identifier address owner now).2 = vault.prune now := by
  have hget := get_snd identifier owner now vault
  rw [claimed]
  cases hresult : vault.get identifier owner now with
  | mk result pruned =>
      rw [hresult] at hget
      cases result with
      | error error => exact hget
      | ok found =>
          dsimp only
          split_ifs <;> exact hget

theorem claimed_ok (h : (vault.claimed identifier address owner now).1 = .ok ()) :
    (vault.get identifier owner now).1 = .ok address ∧ vault.isConnecting address = true := by
  have hget := get_snd identifier owner now vault
  rw [claimed] at h
  cases hresult : vault.get identifier owner now with
  | mk result pruned =>
      rw [hresult] at hget h
      cases result with
      | error error => cases h
      | ok found =>
          dsimp only at h hget
          split_ifs at h with hclaimed
          obtain ⟨rfl, hconnecting⟩ := hclaimed
          rw [hget] at hconnecting
          exact ⟨rfl, hconnecting⟩

end Vault

/-! ## The moves of a call -/

variable {κ : Type}

/-- The probe that a call has claimed, with the identifier that it came with. -/
def Phase.claim : Phase κ → Option (String × ℕ)
  | .enrolling request _ address => some (request.probeId, address)
  | .applying request _ address => some (request.probeId, address)
  | _ => none

inductive Moves (before after : Phase κ × Vault κ) : Prop
  | stays (hshrunk : Vault.Shrunk before.2 after.2)
      (hconnecting : after.2.isConnecting = before.2.isConnecting)
      (hclaim : after.1.claim = before.1.claim)
      (hspent : ∀ identifier, after.1 ≠ .ended (.connected identifier))
  | claims (identifier : String) (address : ℕ) (hfree : before.1.claim = none)
      (hclaim : after.1.claim = some (identifier, address))
      (hshrunk : Vault.Shrunk before.2 after.2)
      (hbefore : before.2.isConnecting address = false)
      (hafter : after.2.isConnecting address = true)
      (hothers : ∀ other ≠ address, after.2.isConnecting other = before.2.isConnecting other)
      (hfound : before.2.probes.find? identifier = some address)
  | releases (identifier : String) (address : ℕ)
      (hclaim : before.1.claim = some (identifier, address)) (hfree : after.1.claim = none)
      (hshrunk : Vault.Shrunk before.2 after.2)
      (hothers : ∀ other ≠ address, after.2.isConnecting other = before.2.isConnecting other)
      (hspent : ∀ other, after.1 = .ended (.connected other) →
        other = identifier ∧ after.2.probes.find? identifier ≠ some address)

section Moves

variable {installed : Installed κ} {session : Session} {identifier : String} {address : ℕ}
  {now again : Reading} {vault : Vault κ}

theorem Moves.of_shrunk {phase after : Phase κ} {final : Vault κ} (hclaim : phase.claim = none)
    (hafter : after.claim = none) (hshrunk : Vault.Shrunk vault final)
    (hconnecting : final.isConnecting = vault.isConnecting)
    (hspent : ∀ identifier, after ≠ .ended (.connected identifier)) :
    Moves (phase, vault) (after, final) :=
  .stays hshrunk hconnecting (hafter.trans hclaim.symm) hspent

theorem moves_probed (request : ProfileRequest) (answer : ProbeAnswer κ) (handles : ℕ → String) :
    Moves (.probing request session identifier address, vault)
      (installed.probed request session identifier address answer handles vault) := by
  have hadded := fun kept => Vault.shrunk_addProfiles address kept vault
  cases answer with
  | cancelled =>
      exact .of_shrunk rfl rfl (Vault.shrunk_discard identifier address vault)
        (Vault.isConnecting_discard identifier address vault) (fun _ h => by cases h)
  | raised code clock => exact .of_shrunk rfl rfl (.refl vault) rfl (fun _ h => by cases h)
  | selected found =>
      match found with
      | none => exact .of_shrunk rfl rfl (.refl vault) rfl (fun _ h => by cases h)
      | some [] => exact .of_shrunk rfl rfl (.refl vault) rfl (fun _ h => by cases h)
      | some (first :: rest) =>
          rw [Installed.probed]
          split_ifs
          · exact .of_shrunk rfl rfl (.refl vault) rfl (fun _ h => by cases h)
          dsimp only
          split
          · exact .of_shrunk rfl rfl (hadded _) (Vault.isConnecting_addProfiles _ _ _)
              (fun _ h => by cases h)
          · exact .of_shrunk rfl rfl (hadded _) (Vault.isConnecting_addProfiles _ _ _)
              (fun _ h => by cases h)

theorem admits_error {answer : AuthAnswer κ} {outcome : Outcome κ}
    (h : answer.admits session = .error outcome) (identifier : String) :
    outcome ≠ .connected identifier := by
  rintro rfl
  cases answer with
  | current account =>
      rw [AuthAnswer.admits] at h
      split_ifs at h
      cases h
  | raised error => cases h
  | cancelled => cases h

theorem moves_failed (error : HttpError κ) (answer : AuthAnswer κ) :
    Moves (.failing session identifier address error, vault)
      (failed session identifier address error answer vault) := by
  have hshrunk := Vault.shrunk_discard identifier address vault
  have hconnecting := Vault.isConnecting_discard identifier address vault
  rw [failed]
  split
  case h_1 outcome hadmits =>
    exact .of_shrunk rfl rfl hshrunk hconnecting
      (fun other h => admits_error hadmits other (Phase.ended.inj h))
  case h_2 => exact .of_shrunk rfl rfl hshrunk hconnecting (fun _ h => by cases h)

theorem moves_admitted (profiles : List PublicProfile) (clock : κ) (answer : AuthAnswer κ) :
    Moves (.admitting session identifier address profiles clock, vault)
      (installed.admitted session identifier address profiles clock answer now again vault) := by
  have hget := Vault.get_snd identifier (installed.owner session) now vault
  have hpruned := Vault.shrunk_prune now vault
  rw [Installed.admitted]
  split
  case h_1 outcome hadmits =>
    exact .of_shrunk rfl rfl (Vault.shrunk_discard identifier address vault)
      (Vault.isConnecting_discard identifier address vault)
      (fun other h => admits_error hadmits other (Phase.ended.inj h))
  case h_2 =>
    have hdropped := hpruned.trans (Vault.shrunk_discard identifier address (vault.prune now))
    have hmarks : ((vault.prune now).discard identifier address).isConnecting =
        vault.isConnecting := by simp
    cases hresult : vault.get identifier (installed.owner session) now with
    | mk result after =>
        rw [hresult] at hget
        subst hget
        cases result with
        | error error => exact .of_shrunk rfl rfl hdropped hmarks (fun _ h => by cases h)
        | ok found =>
            dsimp only
            split_ifs
            · exact .of_shrunk rfl rfl hpruned rfl (fun _ h => by cases h)
            · exact .of_shrunk rfl rfl hdropped hmarks (fun _ h => by cases h)

theorem moves_connect (request : ConnectRequest) (selectable : Bool) :
    Moves (.idle, vault) (installed.connect request session now selectable vault) := by
  have hget := Vault.get_snd request.probeId (installed.owner session) now vault
  have hpruned := Vault.shrunk_prune now vault
  rw [Installed.connect]
  cases hresult : vault.get request.probeId (installed.owner session) now with
  | mk result after =>
      rw [hresult] at hget
      subst hget
      cases result with
      | error error => exact .of_shrunk rfl rfl hpruned rfl (fun _ h => by cases h)
      | ok address =>
          obtain ⟨hfound, expires, hterms, -⟩ := Vault.get_ok (congrArg Prod.fst hresult)
          have hset : ∀ other, ((vault.prune now).setConnecting address true).isConnecting other =
              if address = other then true else vault.isConnecting other := by
            intro other
            have hsome : ((vault.prune now).terms address).isSome = true :=
              Option.isSome_iff_exists.mpr ⟨_, hterms⟩
            rw [Vault.isConnecting_setConnecting]
            split_ifs with heq
            · rw [← heq, hsome]
              rfl
            · rfl
          have hmarked := hpruned.trans (Vault.shrunk_setConnecting address true (vault.prune now))
          have hunmarked := hmarked.trans (Vault.shrunk_setConnecting address false _)
          dsimp only
          split
          case isTrue => exact .of_shrunk rfl rfl hpruned rfl (fun _ h => by cases h)
          case isFalse hbusy =>
            have hfree : vault.isConnecting address = false := Bool.not_eq_true _ ▸ hbusy
            split
            · exact .of_shrunk rfl rfl hpruned rfl (fun _ h => by cases h)
            split_ifs
            · exact .of_shrunk rfl rfl hpruned rfl (fun _ h => by cases h)
            · refine .claims request.probeId address rfl rfl hmarked hfree ?_ ?_ hfound
              · exact (hset address).trans (if_pos rfl)
              · exact fun other hne => (hset other).trans (if_neg hne.symm)
            refine .of_shrunk rfl rfl hunmarked ?_ (fun _ h => by cases h)
            funext other
            rw [Vault.isConnecting_setConnecting, Bool.and_false]
            split_ifs with heq
            · exact heq ▸ hfree.symm
            · exact (hset other).trans (if_neg heq)

theorem Moves.of_release {phase after : Phase κ} {final : Vault κ}
    (hclaim : phase.claim = some (identifier, address)) (hafter : after.claim = none)
    (hshrunk : Vault.Shrunk vault final) (hconnecting : final.isConnecting = vault.isConnecting)
    (hspent : ∀ other, after = .ended (.connected other) →
      other = identifier ∧ final.probes.find? identifier ≠ some address) :
    Moves (phase, vault) (after, final.setConnecting address false) := by
  refine .releases identifier address hclaim hafter
    (hshrunk.trans (Vault.shrunk_setConnecting address false final)) (fun other hne => ?_) hspent
  rw [Vault.isConnecting_setConnecting, if_neg hne.symm, hconnecting]

theorem moves_enrolled (request : ConnectRequest) (answer : AuthAnswer κ) (store : StoreEnd κ) :
    Moves (.enrolling request session address, vault)
      ((installed.enrolled request session address answer now store vault).1,
        (installed.enrolled request session address answer now store vault).2.1) ∧
    ((installed.enrolled request session address answer now store vault).2.2 = true →
      (vault.claimed request.probeId address (installed.owner session) now).1 = .ok ()) := by
  have hclaimed := Vault.claimed_snd request.probeId address (installed.owner session) now vault
  have hpruned := Vault.shrunk_prune now vault
  rw [Installed.enrolled]
  split
  case h_1 outcome hadmits =>
    refine ⟨.of_release rfl rfl (.refl vault) rfl fun other h => ?_, fun h => by cases h⟩
    exact absurd (Phase.ended.inj h) (admits_error hadmits other)
  case h_2 =>
    cases hresult : vault.claimed request.probeId address (installed.owner session) now with
    | mk result after =>
        rw [hresult] at hclaimed
        subst hclaimed
        cases result with
        | error error =>
            exact ⟨.of_release rfl rfl hpruned rfl (fun _ h => by cases h), fun h => by cases h⟩
        | ok =>
            dsimp only
            split
            · exact ⟨.of_release rfl rfl hpruned rfl (fun _ h => by cases h), fun _ => rfl⟩
            · exact ⟨.stays hpruned rfl rfl (fun _ h => by cases h), fun _ => rfl⟩

theorem moves_applied (request : ConnectRequest) (answer : ViewAnswer κ) :
    Moves (.applying request session address, vault) (applied request address answer vault) := by
  cases answer with
  | returned =>
      refine .of_release rfl rfl (Vault.shrunk_discard request.probeId address vault)
        (Vault.isConnecting_discard request.probeId address vault) fun other h => ?_
      cases h
      refine ⟨rfl, fun hfound => ?_⟩
      rw [Vault.discard] at hfound
      split_ifs at hfound with hsame
      · rw [Table.find?_erase, if_pos rfl] at hfound
        cases hfound
      · exact hsame hfound
  | raised error => exact .of_release rfl rfl (.refl vault) rfl (fun _ h => by cases h)
  | cancelled => exact .of_release rfl rfl (.refl vault) rfl (fun _ h => by cases h)

end Moves

/-! ## Reserving -/

namespace Vault

variable {vault before after : Vault κ} {address : ℕ}

theorem lt_of_terms {terms : Owner × ℚ} (h : vault.terms address = some terms) :
    address < vault.objects.length := by
  obtain ⟨_, hobject, -⟩ := Option.map_eq_some_iff.mp h
  exact (List.getElem?_eq_some_iff.mp hobject).1

theorem lt_of_isConnecting (h : vault.isConnecting address = true) :
    address < vault.objects.length := by
  rw [isConnecting] at h
  by_contra hge
  rw [List.getElem?_eq_none (not_lt.mp hge)] at h
  cases h

/-- A probe was made, and may be found under the identifier. -/
structure Reserves (identifier : String) (owner : Owner) (expires : ℚ)
    (before after : Vault κ) : Prop where
  rows : ∀ other address, after.probes.find? other = some address →
    other = identifier ∧ address = before.objects.length ∨
      before.probes.find? other = some address
  size : after.probes.rows.length ≤ maxProbes
  made : after.terms before.objects.length = some (owner, expires)
  terms : ∀ address < before.objects.length, after.terms address = before.terms address
  connecting : ∀ address < before.objects.length,
    after.isConnecting address = before.isConnecting address

theorem reserves_append (identifier : String) {now : Reading} (probe : Probe κ)
    (hroom : (vault.prune now).probes.rows.length < maxProbes) :
    Reserves identifier probe.owner probe.expires vault
      ⟨vault.objects ++ [probe],
        (vault.prune now).probes.upsert identifier vault.objects.length⟩ where
  rows other address h := by
    rw [Table.find?_upsert] at h
    split_ifs at h with heq
    · exact .inl ⟨heq, (Option.some.inj h).symm⟩
    · exact .inr ((shrunk_prune now vault).rows other address h)
  size := (Table.length_upsert_le _ _ _).trans hroom
  made := by simp [Vault.terms]
  terms address hlt := by simp [Vault.terms, List.getElem?_append_left hlt]
  connecting address hlt := by simp [Vault.isConnecting, List.getElem?_append_left hlt]

end Vault

theorem profiles_cases (installed : Installed κ) (request : ProfileRequest) (session : Session)
    (identifier : String) (now again : Reading) (vault : Vault κ) :
    Moves (.idle, vault) (installed.profiles request session identifier now again vault) ∨
      (installed.profiles request session identifier now again vault).1 =
          .probing request session identifier vault.objects.length ∧
        Vault.Reserves identifier (installed.owner session)
          (floatAdd again.seconds probeTtlSeconds) vault
          (installed.profiles request session identifier now again vault).2 := by
  rw [Installed.profiles, Vault.reserve]
  dsimp only
  by_cases hfull : maxProbes ≤ (vault.prune now).probes.rows.length
  · rw [if_pos hfull]
    exact .inl (.of_shrunk rfl rfl (Vault.shrunk_prune now vault) rfl (fun _ h => by cases h))
  rw [if_neg hfull]
  let probe : Probe κ := ⟨installed.owner session, request.host, request.port, request.secure,
    floatAdd again.seconds probeTtlSeconds, Table.empty, false⟩
  exact .inr ⟨rfl, Vault.reserves_append identifier probe (not_le.mp hfull)⟩

/-! ## The invariant -/

section Sound

variable {ι : Type} {installed : Installed κ} {past : List (Event ι κ)}
  {system after : System ι κ} {event : Event ι κ}

/-- The probe was reserved by the session in the run, and neither its logout nor the end of the
application has cleared it. -/
def Open (installed : Installed κ) (past : List (Event ι κ)) (vault : Vault κ)
    (identifier : String) (address : ℕ) (creator : Session) : Prop :=
  ∃ before call request now again later,
    past = before ++ Event.profiles call request creator identifier now again :: later ∧
      Event.clearToken creator.2 ∉ later ∧ Event.clear ∉ later ∧
        vault.terms address =
          some (installed.owner creator, floatAdd again.seconds probeTtlSeconds)

variable {identifier : String} {later : Vault κ}

theorem Open.snoc {before : Vault κ} {address : ℕ} {creator : Session}
    (h : Open installed past before identifier address creator)
    (htoken : Event.clearToken creator.2 ≠ event) (hclear : Event.clear ≠ event)
    (hterms : later.terms address = before.terms address) :
    Open installed (past ++ [event]) later identifier address creator := by
  obtain ⟨first, call, request, now, again, rest, rfl, hkept, hrunning, hmade⟩ := h
  refine ⟨first, call, request, now, again, rest ++ [event], by simp, ?_, ?_, hterms.trans hmade⟩
  · simp [hkept, htoken]
  · simp [hrunning, hclear]

structure Sound (installed : Installed κ) (past : List (Event ι κ)) (system : System ι κ) :
    Prop where
  size : system.vault.probes.rows.length ≤ maxProbes
  row : ∀ identifier address, system.vault.probes.find? identifier = some address →
    identifier ∈ system.drawn ∧
      ∃ creator, Open installed past system.vault identifier address creator
  held : ∀ call identifier address, (system.phase call).claim = some (identifier, address) →
    system.vault.isConnecting address = true ∧ identifier ∈ system.drawn ∧
      ∀ other, system.vault.probes.find? identifier = some other → other = address
  alone : ∀ call other identifier identifier' address,
    (system.phase call).claim = some (identifier, address) →
      (system.phase other).claim = some (identifier', address) → call = other
  spent : ∀ call identifier, system.phase call = .ended (.connected identifier) →
    identifier ∈ system.drawn ∧ system.vault.probes.find? identifier = none

theorem find?_eq_none_of_shrunk {before : Vault κ} (h : Vault.Shrunk before later)
    (hnone : before.probes.find? identifier = none) : later.probes.find? identifier = none := by
  rw [Option.eq_none_iff_forall_ne_some] at hnone ⊢
  exact fun address hsome => hnone address (h.rows identifier address hsome)

theorem Sound.create : Sound installed [] (System.create ι κ) := by
  refine ⟨Nat.zero_le _, fun _ _ h => ?_, fun _ _ _ h => ?_, fun _ _ _ _ _ h => ?_, fun _ _ h => ?_⟩
  all_goals cases h

theorem Sound.shrink (h : Sound installed past system) (hshrunk : Vault.Shrunk system.vault later)
    (hconnecting : later.isConnecting = system.vault.isConnecting)
    (hopen : ∀ identifier address creator, later.probes.find? identifier = some address →
      Open installed past system.vault identifier address creator →
        Event.clearToken creator.2 ≠ event ∧ Event.clear ≠ event) :
    Sound installed (past ++ [event]) { system with vault := later } := by
  refine ⟨hshrunk.size.trans h.size, fun identifier address hfound => ?_,
    fun call identifier address hclaim => ?_, h.alone, fun call identifier hended => ?_⟩
  · obtain ⟨hdrawn, creator, hcreator⟩ := h.row identifier address
      (hshrunk.rows identifier address hfound)
    obtain ⟨htoken, hclear⟩ := hopen identifier address creator hfound hcreator
    exact ⟨hdrawn, creator, hcreator.snoc htoken hclear (hshrunk.terms address)⟩
  · obtain ⟨hmarked, hdrawn, hsame⟩ := h.held call identifier address hclaim
    refine ⟨(congrFun hconnecting address).trans hmarked, hdrawn, fun other hfound => ?_⟩
    exact hsame other (hshrunk.rows identifier other hfound)
  · obtain ⟨hdrawn, hnone⟩ := h.spent call identifier hended
    exact ⟨hdrawn, find?_eq_none_of_shrunk hshrunk hnone⟩

theorem Sound.ignored (h : Sound installed past system)
    (htoken : ∀ token, Event.clearToken token ≠ event) (hclear : Event.clear ≠ event) :
    Sound installed (past ++ [event]) system :=
  h.shrink (.refl _) rfl fun _ _ _ _ _ => ⟨htoken _, hclear⟩

variable {vault : Vault κ}

theorem creator_ne_of_find? {token : String} {address : ℕ} {creator : Session}
    (hfound : (vault.clearToken (installed.digest token)).probes.find? identifier = some address)
    (hopen : Open installed past vault identifier address creator) : creator.2 ≠ token := by
  rintro rfl
  obtain ⟨_, _, _, _, again, _, -, -, -, hmade⟩ := hopen
  obtain ⟨probe, hobject, hterms⟩ := Option.map_eq_some_iff.mp hmade
  have howner : probe.owner = installed.owner creator := congrArg Prod.fst hterms
  have hkept := (Table.find?_keep.mp hfound).2
  rw [hobject, Option.any_some, howner] at hkept
  simp [Installed.owner] at hkept

variable [DecidableEq ι]

variable {call : ι}

theorem Sound.moves (h : Sound installed past system) {phase : Phase κ} {stored : List (Stored ι)}
    (hmoves : Moves (system.phase call, system.vault) (phase, vault)) {drawn : List String}
    (hdrawn : ∀ identifier ∈ system.drawn, identifier ∈ drawn)
    (htoken : ∀ token, Event.clearToken token ≠ event) (hclear : Event.clear ≠ event) :
    Sound installed (past ++ [event])
      ⟨vault, Function.update system.phase call phase, stored, drawn⟩ := by
  have hshrunk : Vault.Shrunk system.vault vault := by
    cases hmoves <;> assumption
  -- The claims of the other calls are not touched.
  have hkept : ∀ other ≠ call, ∀ identifier address,
      (system.phase other).claim = some (identifier, address) →
        vault.isConnecting address = true := by
    intro other hne identifier address hclaim
    have hmarked := (h.held other identifier address hclaim).1
    cases hmoves with
    | stays _ hconnecting => exact (congrFun hconnecting address).trans hmarked
    | claims _ claimed _ _ _ hbefore _ hothers =>
        refine (hothers address ?_).trans hmarked
        rintro rfl
        exact absurd (hmarked.symm.trans hbefore) (by decide)
    | releases _ released hclaim' _ _ hothers =>
        refine (hothers address ?_).trans hmarked
        rintro rfl
        exact hne (h.alone other call _ _ _ hclaim hclaim')
  -- A claim that the call has now is its old one, or one that was free.
  have hnew : ∀ identifier address, phase.claim = some (identifier, address) →
      vault.isConnecting address = true ∧ identifier ∈ system.drawn ∧
        (∀ other, system.vault.probes.find? identifier = some other → other = address) ∧
          ∀ other ≠ call, ∀ identifier',
            (system.phase other).claim ≠ some (identifier', address) := by
    intro identifier address hclaim
    cases hmoves with
    | stays _ hconnecting hsame =>
        have hbefore := hsame.symm.trans hclaim
        obtain ⟨hmarked, hold, hfound⟩ := h.held call identifier address hbefore
        refine ⟨(congrFun hconnecting address).trans hmarked, hold, hfound, ?_⟩
        exact fun other hne _ hother => hne (h.alone other call _ _ _ hother hbefore)
    | claims claimed found hfree hafter _ hbefore hmarked _ hrow =>
        obtain ⟨rfl, rfl⟩ := Prod.mk.inj (Option.some.inj (hafter.symm.trans hclaim))
        refine ⟨hmarked, (h.row claimed found hrow).1, ?_, ?_⟩
        · exact fun other hother => Option.some.inj (hother.symm.trans hrow)
        · intro other _ identifier' hother
          exact absurd ((h.held other _ _ hother).1.symm.trans hbefore) (by decide)
    | releases _ _ _ hfree => cases hfree.symm.trans hclaim
  refine ⟨hshrunk.size.trans h.size, fun identifier address hfound => ?_,
    fun other identifier address hclaim => ?_,
    fun first second identifier identifier' address hfirst hsecond => ?_,
    fun other identifier hended => ?_⟩
  · obtain ⟨hold, creator, hopen⟩ := h.row identifier address
      (hshrunk.rows identifier address hfound)
    exact ⟨hdrawn _ hold, creator, hopen.snoc (htoken _) hclear (hshrunk.terms address)⟩
  · dsimp only at hclaim ⊢
    by_cases heq : other = call
    · subst heq
      rw [Function.update_self] at hclaim
      obtain ⟨hmarked, hold, hfound, -⟩ := hnew identifier address hclaim
      exact ⟨hmarked, hdrawn _ hold, fun found hrow =>
        hfound found (hshrunk.rows identifier found hrow)⟩
    · rw [Function.update_of_ne heq] at hclaim
      obtain ⟨-, hold, hfound⟩ := h.held other identifier address hclaim
      exact ⟨hkept other heq identifier address hclaim, hdrawn _ hold, fun found hrow =>
        hfound found (hshrunk.rows identifier found hrow)⟩
  · dsimp only at hfirst hsecond
    by_cases heq : first = call <;> by_cases heq' : second = call
    · exact heq.trans heq'.symm
    · subst heq
      rw [Function.update_self] at hfirst
      rw [Function.update_of_ne heq'] at hsecond
      exact absurd hsecond ((hnew _ _ hfirst).2.2.2 second heq' identifier')
    · subst heq'
      rw [Function.update_of_ne heq] at hfirst
      rw [Function.update_self] at hsecond
      exact absurd hfirst ((hnew _ _ hsecond).2.2.2 first heq identifier)
    · rw [Function.update_of_ne heq] at hfirst
      rw [Function.update_of_ne heq'] at hsecond
      exact h.alone first second _ _ _ hfirst hsecond
  · dsimp only at hended ⊢
    by_cases heq : other = call
    · subst heq
      rw [Function.update_self] at hended
      cases hmoves with
      | stays _ _ _ hspent => exact absurd hended (hspent identifier)
      | claims _ _ _ hafter =>
          subst hended
          cases hafter
      | releases claimed released hclaim _ _ _ hspent =>
          obtain ⟨rfl, hgone⟩ := hspent identifier hended
          obtain ⟨-, hold, hfound⟩ := h.held other _ _ hclaim
          refine ⟨hdrawn _ hold, Option.eq_none_iff_forall_ne_some.mpr fun found hrow => ?_⟩
          exact hgone (hfound found (hshrunk.rows _ _ hrow) ▸ hrow)
    · rw [Function.update_of_ne heq] at hended
      obtain ⟨hold, hnone⟩ := h.spent other identifier hended
      exact ⟨hdrawn _ hold, find?_eq_none_of_shrunk hshrunk hnone⟩

theorem Sound.reserves (h : Sound installed past system) {request : ProfileRequest}
    {session : Session} {now again : Reading} {phase : Phase κ}
    (hdrawn : identifier ∉ system.drawn) (hclaim : phase.claim = none)
    (hspent : ∀ identifier, phase ≠ .ended (.connected identifier))
    (hreserves : Vault.Reserves identifier (installed.owner session)
      (floatAdd again.seconds probeTtlSeconds) system.vault vault) :
    Sound installed (past ++ [.profiles call request session identifier now again])
      ⟨vault, Function.update system.phase call phase, system.stored,
        identifier :: system.drawn⟩ := by
  have hold : ∀ other address, other ∈ system.drawn → vault.probes.find? other = some address →
      system.vault.probes.find? other = some address := by
    intro other address hother hfound
    rcases hreserves.rows other address hfound with ⟨rfl, -⟩ | hrow
    · exact absurd hother hdrawn
    · exact hrow
  have hothers : ∀ other identifier address,
      (Function.update system.phase call phase other).claim = some (identifier, address) →
        (system.phase other).claim = some (identifier, address) := by
    intro other identifier address hother
    by_cases heq : other = call
    · subst heq
      rw [Function.update_self, hclaim] at hother
      cases hother
    · rwa [Function.update_of_ne heq] at hother
  refine ⟨hreserves.size, fun other address hfound => ?_, fun other claimed address hother => ?_,
    fun first second _ _ address hfirst hsecond => ?_, fun other connected hended => ?_⟩
  · rcases hreserves.rows other address hfound with ⟨rfl, rfl⟩ | hrow
    · refine ⟨List.mem_cons_self, session, past, call, request, now, again, [], rfl, ?_, ?_,
        hreserves.made⟩
      all_goals exact List.not_mem_nil
    · obtain ⟨hmem, creator, hopen⟩ := h.row other address hrow
      have hterms : vault.terms address = system.vault.terms address := by
        obtain ⟨_, _, _, _, _, _, _, _, _, hmade⟩ := hopen
        exact hreserves.terms address (Vault.lt_of_terms hmade)
      exact ⟨List.mem_cons_of_mem _ hmem, creator, hopen.snoc (fun heq => by cases heq)
        (fun heq => by cases heq) hterms⟩
  · obtain ⟨hmarked, hmem, hfound⟩ := h.held other claimed address
      (hothers other claimed address hother)
    refine ⟨?_, List.mem_cons_of_mem _ hmem, fun found hrow => hfound found (hold _ _ hmem hrow)⟩
    exact (hreserves.connecting address (Vault.lt_of_isConnecting hmarked)).trans hmarked
  · exact h.alone first second _ _ address (hothers _ _ _ hfirst) (hothers _ _ _ hsecond)
  · dsimp only at hended ⊢
    by_cases heq : other = call
    · subst heq
      rw [Function.update_self] at hended
      exact absurd hended (hspent connected)
    rw [Function.update_of_ne heq] at hended
    obtain ⟨hmem, hnone⟩ := h.spent other connected hended
    refine ⟨List.mem_cons_of_mem _ hmem, Option.eq_none_iff_forall_ne_some.mpr ?_⟩
    intro address hfound
    exact absurd (hold _ _ hmem hfound) (Option.eq_none_iff_forall_ne_some.mp hnone address)

theorem Sound.step (h : Sound installed past system)
    (hadmissible : (System.machine ι installed).admissible system event) :
    Sound installed (past ++ [event]) (system.step installed event) := by
  cases event with
  | profiles call request session identifier now again =>
      obtain ⟨hidle, hfresh⟩ := hadmissible
      rw [System.step, hidle]
      rcases profiles_cases installed request session identifier now again system.vault with
        hmoves | ⟨hphase, hreserves⟩
      · exact h.moves (hidle ▸ hmoves) (fun _ => List.mem_cons_of_mem _)
          (fun _ heq => by cases heq) (fun heq => by cases heq)
      refine h.reserves hfresh ?_ (fun _ heq => ?_) hreserves
      · rw [hphase]
        rfl
      · rw [hphase] at heq
        cases heq
  | probed call answer handles =>
      rw [System.step]
      split
      case h_1 request session identifier address hphase =>
        exact h.moves (hphase ▸ moves_probed request answer handles) (fun _ hmem => hmem) nofun
          nofun
      case h_2 => exact h.ignored nofun nofun
  | admitted call answer now again =>
      rw [System.step]
      split
      case h_1 session identifier address error hphase =>
        exact h.moves (hphase ▸ moves_failed error answer) (fun _ hmem => hmem) nofun nofun
      case h_2 session identifier address profiles clock hphase =>
        exact h.moves (hphase ▸ moves_admitted profiles clock answer) (fun _ hmem => hmem) nofun
          nofun
      case h_3 => exact h.ignored nofun nofun
  | connect call request session now selectable =>
      rw [System.step]
      split
      case h_1 hphase =>
        exact h.moves (hphase ▸ moves_connect request selectable) (fun _ hmem => hmem) nofun nofun
      case h_2 => exact h.ignored nofun nofun
  | enrolled call answer now store =>
      rw [System.step]
      split
      case h_1 request session address hphase =>
        exact h.moves (hphase ▸ (moves_enrolled request answer store).1) (fun _ hmem => hmem) nofun
          nofun
      case h_2 => exact h.ignored nofun nofun
  | applied call answer =>
      rw [System.step]
      split
      case h_1 request session address hphase =>
        exact h.moves (hphase ▸ moves_applied request answer) (fun _ hmem => hmem) nofun nofun
      case h_2 => exact h.ignored nofun nofun
  | prune now => exact h.shrink (Vault.shrunk_prune now _) rfl fun _ _ _ _ _ => ⟨nofun, nofun⟩
  | clearToken token =>
      refine h.shrink (Vault.shrunk_clearToken _ _) rfl fun _ _ _ hfound hopen =>
        ⟨fun heq => ?_, nofun⟩
      exact creator_ne_of_find? hfound hopen (Event.clearToken.inj heq)
  | clear =>
      refine h.shrink (Vault.shrunk_clear _) rfl fun identifier address _ hfound _ => ?_
      rw [Vault.clear] at hfound
      cases hfound

theorem sound_of_reaches {events : List (Event ι κ)}
    (h : (System.machine ι installed).Reaches (System.create ι κ) events system) :
    Sound installed events system :=
  h.history (fun _ _ _ hsound hadmissible => hsound.step hadmissible) Sound.create

theorem ended_step {outcome : Outcome κ} (h : system.phase call = .ended outcome)
    (event : Event ι κ) : (system.step installed event).phase call = .ended outcome := by
  have hkept : ∀ (other : ι) (waits next : Phase κ), system.phase other = waits →
      (∀ outcome, waits ≠ .ended outcome) →
        Function.update system.phase other next call = .ended outcome := by
    intro other waits next hother hwaits
    rw [Function.update_of_ne, h]
    rintro rfl
    exact hwaits outcome (hother.symm.trans h)
  cases event with
  | profiles other | probed other | connect other | enrolled other | applied other =>
      rw [System.step]
      split
      case h_1 hother => exact hkept other _ _ hother nofun
      case h_2 => exact h
  | admitted other =>
      rw [System.step]
      split
      case h_1 hother => exact hkept other _ _ hother nofun
      case h_2 hother => exact hkept other _ _ hother nofun
      case h_3 => exact h
  | prune | clearToken | clear => exact h

end Sound

/-! ## The handles -/

variable {ι : Type} {installed : Installed κ}

/-- The camera is stored by the one call that has claimed the probe, for the session that reserved
it, within its time and not after a logout. -/
structure Rightful (installed : Installed κ) (past : List (Event ι κ)) (system : System ι κ)
    (stored : Stored ι) : Prop where
  claimed : (system.phase stored.call).claim = some (stored.identifier, stored.address) ∧
    system.vault.isConnecting stored.address = true
  alone : ∀ other identifier,
    (system.phase other).claim = some (identifier, stored.address) → other = stored.call
  reserved : ∃ before call request creator now again later,
    past = before ++ Event.profiles call request creator stored.identifier now again :: later ∧
      installed.owner stored.session = installed.owner creator ∧
        Event.clearToken creator.2 ∉ later ∧ Event.clear ∉ later ∧
          stored.storedAt.seconds < floatAdd again.seconds probeTtlSeconds

def HasConnected (call : ι) (identifier : String) (system : System ι κ) : Prop :=
  system.phase call = .ended (.connected identifier)

variable [DecidableEq ι]

theorem stored_step {past : List (Event ι κ)} {system : System ι κ}
    (h : Sound installed past system) (event : Event ι κ) :
    (system.step installed event).stored = system.stored ∨
      ∃ stored, (system.step installed event).stored = stored :: system.stored ∧
        Rightful installed past system stored := by
  cases event with
  | enrolled call answer now store =>
      rw [System.step]
      split
      case h_2 => exact .inl rfl
      case h_1 request session address hphase =>
        cases hstores :
            (installed.enrolled request session address answer now store system.vault).2.2 with
        | false => exact .inl (if_neg (by rw [hstores]; decide))
        | true =>
            refine .inr ⟨⟨call, session, request.probeId, address, now⟩, if_pos hstores, ?_⟩
            have hclaim : (system.phase call).claim = some (request.probeId, address) := by
              rw [hphase]
              rfl
            obtain ⟨hget, hmarked⟩ :=
              Vault.claimed_ok ((moves_enrolled request answer store).2 hstores)
            obtain ⟨hfound, expires, hterms, htime⟩ := Vault.get_ok hget
            obtain ⟨-, creator, before, first, made, began, again, later, hpast, htoken, hclear,
              hmade⟩ := h.row request.probeId address hfound
            obtain ⟨howner, hexpires⟩ := Prod.mk.inj (Option.some.inj (hterms.symm.trans hmade))
            refine ⟨⟨hclaim, hmarked⟩, fun other _ hother => h.alone _ _ _ _ _ hother hclaim, ?_⟩
            exact ⟨before, first, made, creator, began, again, later, hpast, howner, htoken, hclear,
              hexpires ▸ htime⟩
  | profiles | probed | connect | applied =>
      rw [System.step]
      split <;> exact .inl rfl
  | admitted =>
      rw [System.step]
      split <;> exact .inl rfl
  | prune | clearToken | clear => exact .inl rfl

/-- Probe handles are single use and bound to a session, in every interleaving of the calls, the
logouts and the expiry: the vault is bounded; what is stored is stored rightfully; no two calls have
claimed one probe; and an identifier that has been connected is refused ever after. -/
theorem probe_handles_single_use (installed : Installed κ) {events : List (Event ι κ)}
    {system : System ι κ}
    (h : (System.machine ι installed).Reaches (System.create ι κ) events system) :
    system.vault.probes.rows.length ≤ 16 ∧
    (∀ event, (system.step installed event).stored = system.stored ∨
      ∃ stored, (system.step installed event).stored = stored :: system.stored ∧
        Rightful installed events system stored) ∧
    (∀ first second identifier identifier' address,
      (system.phase first).claim = some (identifier, address) →
        (system.phase second).claim = some (identifier', address) → first = second) ∧
    ∀ call identifier, HasConnected call identifier system →
      ∀ later final, (System.machine ι installed).Reaches system later final →
        ∀ session now,
          (final.vault.get identifier (installed.owner session) now).1 = .error probeExpired := by
  have hsound := sound_of_reaches h
  refine ⟨hsound.size, stored_step hsound, hsound.alone, ?_⟩
  intro call identifier hended later final hlater session now
  have hfinal := sound_of_reaches (h.append hlater)
  have hstep : ∀ state event, HasConnected call identifier state →
      HasConnected call identifier (state.step installed event) :=
    fun _ event hstate => ended_step hstate event
  have hphase : HasConnected call identifier final :=
    hlater.invariant (fun state event hstate _ => hstep state event hstate) hended
  have hnone := find?_eq_none_of_shrunk (Vault.shrunk_prune now final.vault)
    (hfinal.spent call identifier hphase).2
  rw [Vault.get, hnone]

/-! ## A run -/

def sampleInstalled : Installed Unit where
  sha256 := Auth.paddedHash
  unavailable := ()

def sampleAdministrator : UserAccount := Identity.sampleAccount .administrator

def sampleSession : Session := (sampleAdministrator, "token")

def sampleReading : Reading := ⟨0, by decide +kernel⟩

def sampleProfile : Profile Unit := ⟨"p", some "Main", "H264", some 1920, some 1080, "rtsp://a", ()⟩

/-- A probe by the call `false`, and its connect by the call `true`. -/
def sampleEvents : List (Event Bool Unit) :=
  [.profiles false ⟨"10.0.0.1", 80, false, "", ""⟩ sampleSession "probe" sampleReading
      sampleReading,
    .probed false (.selected (some [sampleProfile])) (fun _ => "profile"),
    .admitted false (.current sampleAdministrator) sampleReading sampleReading,
    .connect true ⟨"probe", "profile", "Door"⟩ sampleSession sampleReading true,
    .enrolled true (.current sampleAdministrator) sampleReading ⟨true, none⟩,
    .applied true .returned]

def sampleSystem : System Bool Unit :=
  sampleEvents.foldl (System.step sampleInstalled) (System.create Bool Unit)

theorem probe_handles_single_use_sample : sampleSystem.stored.map (·.identifier) = ["probe"] ∧
      sampleSystem.vault.probes.rows.length ≤ 16 ∧ ∀ session now, (sampleSystem.vault.get "probe" (sampleInstalled.owner session) now).1 =
        .error probeExpired := by
  have hreaches : (System.machine Bool sampleInstalled).Reaches (System.create Bool Unit)
      sampleEvents sampleSystem :=
    ⟨⟨rfl, List.not_mem_nil⟩, trivial, trivial, trivial, trivial, trivial, rfl⟩
  obtain ⟨hsize, -, -, hspent⟩ := probe_handles_single_use sampleInstalled hreaches
  have hconnected : HasConnected true "probe" sampleSystem := by
    unfold HasConnected
    decide +kernel
  exact ⟨by decide +kernel, hsize, hspent true "probe" hconnected [] _ (.nil _)⟩

end K5Vision.Operator.Probes
