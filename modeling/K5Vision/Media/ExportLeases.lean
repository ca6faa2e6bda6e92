import K5Vision.Media.CatalogAgreement
import K5Vision.Media.ExportBodies

/-!
# The leases of exports

Every turn of an export keeps its reservation, and discards it exactly when the export stops being
leased (`Turn.Keeps`).  A coordinator whose exports take such turns, and which lets an export in
with a new object, keeps the invariant `Inv`: its reservations are those of the leased exports.
-/

namespace K5Vision.Media.Exports

open Catalog Devices Identity Library

/-! ## The statement -/

/-- The validation task has not ended, or its callback is still to be called. -/
def Worker.pending : Worker → Bool
  | .absent => false
  | .running _ _ => true
  | .ended _ callback => callback

/-- `begin_export` is still to end, or its response to be closed. -/
def Route.isOpen : Route → Bool
  | .validating _ => true
  | .responded response => !response.closed
  | _ => false

def Export.leased (e : Export) : Bool := e.worker.pending || e.route.isOpen

section

variable {ι : Type*}

/-- The slots of a coordinator are those of the exports that are to hold one, and its bodies are
whole. -/
structure LeasesExact (c : Coordinator) (s : System ι) : Prop where
  bounded : s.activeExports ≤ c.maxActiveExports
  /-- Each slot is that of one export. -/
  owned : ∀ slot ∈ s.reservations, ∃! i, (s.exports i).reservation = some slot
  held : ∀ i slot, (s.exports i).reservation = some slot →
    (slot ∈ s.reservations ↔ (s.exports i).leased)
  unadmitted : ∀ i, (s.exports i).reservation = none → (s.exports i).leased = false
  settled : (∀ i, (s.exports i).leased = false) → s.activeExports = 0
  whole : ∀ i response, (s.exports i).route = .responded response →
    response.body.stage = .ended .exhausted → response.Whole c

end

/-! ## Exports -/

/-- The exports that there can be. -/
inductive Export.Sound (c : Coordinator) : Export → Prop
  | idle : Sound c ⟨none, .idle, .absent⟩
  | loading (recordingId : Uuid) : Sound c ⟨none, .loading recordingId, .absent⟩
  | refused (failure : Failure) : Sound c ⟨none, .raised failure, .absent⟩
  /-- It was admitted, and its task could not be created. -/
  | uncreated (slot : ℕ) (failure : Failure) : Sound c ⟨some slot, .raised failure, .absent⟩
  | running (slot : ℕ) (prepared : Prepared) (hprepared : prepared.Sound c) :
      Sound c ⟨some slot, .validating prepared, .running prepared.descriptor false⟩
  /-- The task has ended, and `begin_export` has not gone on yet. -/
  | ended (slot : ℕ) (prepared : Prepared) (workerEnd : WorkerEnd)
      (hprepared : prepared.Sound c) (hend : workerEnd.Sound prepared) :
      Sound c ⟨some slot, .validating prepared, .ended workerEnd false⟩
  /-- `begin_export` was cancelled before the task ended. -/
  | orphaned (slot : ℕ) (failure : Failure) (descriptor : StoredDescriptor) :
      Sound c ⟨some slot, .raised failure, .running descriptor true⟩
  | raised (slot : ℕ) (failure : Failure) (workerEnd : WorkerEnd) (callback : Bool) :
      Sound c ⟨some slot, .raised failure, .ended workerEnd callback⟩
  | responded (slot : ℕ) (prepared : Prepared) (response : Response) (workerEnd : WorkerEnd)
      (hresponse : response.Sound c prepared slot) :
      Sound c ⟨some slot, .responded response, .ended workerEnd false⟩

/-- What a turn keeps of an export: its reservation is discarded exactly when the export stops
being leased, or was no longer. -/
structure Turn.Keeps (c : Coordinator) (e : Export) (turn : Turn) : Prop where
  sound : turn.next.Sound c
  reservation_eq : turn.next.reservation = e.reservation
  kept : turn.discarded = none → turn.next.leased = e.leased
  discarded : ∀ slot, turn.discarded = some slot →
    e.reservation = some slot ∧ turn.next.leased = false

section Turns

variable {c : Coordinator} {e : Export}

theorem keeps_stay (h : e.Sound c) : e.stay.Keeps c e :=
  ⟨h, rfl, fun _ => rfl, by simp [Export.stay]⟩

theorem keeps_begin (principal : UserAccount) (recordingId : Uuid) (h : e.Sound c) :
    (e.begin principal recordingId).Keeps c e := by
  cases h with
  | idle =>
      simp only [Export.begin]
      split
      · next failure _ => exact ⟨.refused failure, rfl, fun _ => rfl, by simp⟩
      · exact ⟨.loading recordingId, rfl, fun _ => rfl, by simp⟩
  | _ => exact keeps_stay (by constructor <;> assumption)

theorem keeps_workerEnds (run : Export.WorkerRun) (h : e.Sound c) :
    (e.workerEnds run).Keeps c e := by
  cases h with
  | running slot prepared hprepared =>
      exact ⟨.ended slot prepared _ hprepared (sound_workerEnd prepared run), rfl, fun _ => rfl,
        by simp [Export.workerEnds]⟩
  | orphaned slot failure descriptor =>
      exact ⟨.raised slot failure _ true, rfl, fun _ => rfl, by simp [Export.workerEnds]⟩
  | _ => exact keeps_stay (by constructor <;> assumption)

theorem keeps_validationFinished (h : e.Sound c) : e.validationFinished.Keeps c e := by
  cases h with
  | raised slot failure workerEnd callback =>
      cases callback with
      | false => exact keeps_stay (.raised slot failure workerEnd false)
      | true =>
          refine ⟨.raised slot failure workerEnd false, rfl,
            by simp [Export.validationFinished], ?_⟩
          intro other hother
          exact ⟨hother, rfl⟩
  | _ => exact keeps_stay (by constructor <;> assumption)

theorem keeps_fail_running {slot : ℕ} {prepared : Prepared} (failure : Failure) :
    (Export.fail failure
      ⟨some slot, .validating prepared, .running prepared.descriptor false⟩).Keeps
      c ⟨some slot, .validating prepared, .running prepared.descriptor false⟩ :=
  ⟨.orphaned slot failure.reported prepared.descriptor, rfl, fun _ => rfl, by simp [Export.fail]⟩

theorem keeps_fail_ended {slot : ℕ} {prepared : Prepared} {workerEnd : WorkerEnd}
    (failure : Failure) :
    (Export.fail failure ⟨some slot, .validating prepared, .ended workerEnd false⟩).Keeps
      c ⟨some slot, .validating prepared, .ended workerEnd false⟩ := by
  refine ⟨.raised slot failure.reported workerEnd false, rfl, by simp [Export.fail], ?_⟩
  intro other hother
  exact ⟨hother, rfl⟩

theorem keeps_respond {slot : ℕ} {prepared : Prepared} {identity : FileIdentity} (made : Bool)
    (hprepared : prepared.Sound c) (hend : (WorkerEnd.returned identity).Sound prepared) :
    (Export.respond (prepared.handle identity slot) made
      ⟨some slot, .validating prepared, .ended (.returned identity) false⟩).Keeps
      c ⟨some slot, .validating prepared, .ended (.returned identity) false⟩ := by
  cases made with
  | false =>
      refine ⟨.raised slot .other _ false, rfl, by simp [Export.respond], ?_⟩
      intro other hother
      exact ⟨hother, rfl⟩
  | true =>
      refine ⟨.responded slot prepared _ _ ⟨hprepared, hend, rfl, ?_⟩, rfl, fun _ => rfl, ?_⟩
      · rfl
      · simp [Export.respond]

theorem keeps_resume (interrupted made : Bool) (h : e.Sound c) :
    (e.resume interrupted made).Keeps c e := by
  cases h with
  | running slot prepared hprepared =>
      cases interrupted with
      | true => exact keeps_fail_running .cancelled
      | false => exact keeps_stay (.running slot prepared hprepared)
  | ended slot prepared workerEnd hprepared hend =>
      cases interrupted with
      | true => exact keeps_fail_ended .cancelled
      | false =>
          cases workerEnd with
          | returned identity => exact keeps_respond made hprepared hend
          | raised failure => exact keeps_fail_ended failure
          | cancelled => exact keeps_fail_ended .cancelled
  | _ => exact keeps_stay (by constructor <;> assumption)

theorem keeps_stream {act : OperatorExportHandle → Body → Body}
    (hover : ∀ handle body, body.isOver → act handle body = body)
    (hsound : ∀ handle body,
      (c.files.bytesOf handle.fileIdentity).length = handle.fileBytes →
        body.Sound c.files handle → (act handle body).Sound c.files handle)
    (h : e.Sound c) : (e.stream act).Keeps c e := by
  cases h with
  | responded slot prepared response workerEnd hresponse =>
      have hnext := hsound response.handle response.body hresponse.length_bytesOf
        hresponse.body_sound
      refine ⟨.responded slot prepared _ workerEnd
        ⟨hresponse.prepared_sound, hresponse.validated, hresponse.handle_eq, hnext⟩, rfl, ?_, ?_⟩
      · intro hkept
        -- the body is over afterwards only if it was before
        have hsame : (act response.handle response.body).isOver = response.body.isOver := by
          cases hbefore : response.body.isOver with
          | true => rw [hover _ _ hbefore, hbefore]
          | false => simpa [Export.stream, hbefore] using hkept
        simp [Export.stream, Export.leased, Route.isOpen, Response.closed, hsame]
      · intro other hdiscarded
        simp only [Export.stream] at hdiscarded
        split at hdiscarded
        · next hended =>
            simp only [Bool.and_eq_true] at hended
            rw [hresponse.reservation_eq] at hdiscarded
            refine ⟨hdiscarded, ?_⟩
            simp [Export.stream, Export.leased, Worker.pending, Route.isOpen, Response.closed,
              hended.1]
        · cases hdiscarded
  | _ => exact keeps_stay (by constructor <;> assumption)

theorem keeps_unwind (closes : Bool) (h : e.Sound c) : (e.unwind closes).Keeps c e := by
  cases h with
  | responded slot prepared response workerEnd hresponse =>
      have hstay := Export.Sound.responded slot prepared response workerEnd hresponse
      simp only [Export.unwind]
      split
      · exact keeps_stay hstay
      have hbody : (if closes then response.body.aclose else response.body).Sound c.files
          response.handle := by
        split
        · exact hresponse.body_sound.aclose
        · exact hresponse.body_sound
      refine ⟨.responded slot prepared _ workerEnd
        ⟨hresponse.prepared_sound, hresponse.validated, hresponse.handle_eq, hbody⟩,
        rfl, by simp, ?_⟩
      intro other hdiscarded
      rw [hresponse.reservation_eq] at hdiscarded
      exact ⟨hdiscarded, by simp [Export.leased, Worker.pending, Route.isOpen, Response.closed]⟩
  | _ => exact keeps_stay (by constructor <;> assumption)

end Turns

/-! ## The invariant -/

section Invariant

variable {ι : Type*} {c : Coordinator} {s : System ι}

structure Inv (c : Coordinator) (s : System ι) : Prop where
  sound : ∀ i, (s.exports i).Sound c
  bounded : s.reservations.card ≤ c.maxActiveExports
  issued : ∀ i slot, (s.exports i).reservation = some slot → slot < s.issued
  distinct : ∀ i j slot, (s.exports i).reservation = some slot →
    (s.exports j).reservation = some slot → i = j
  owned : ∀ slot ∈ s.reservations, ∃ i, (s.exports i).reservation = some slot
  held : ∀ i slot, (s.exports i).reservation = some slot →
    (slot ∈ s.reservations ↔ (s.exports i).leased)

theorem inv_create (c : Coordinator) (ι : Type*) : Inv c (System.create ι) where
  sound _ := .idle
  bounded := Nat.zero_le _
  issued := by simp [System.create]
  distinct := by simp [System.create]
  owned := by simp [System.create]
  held := by simp [System.create]

/-- What a step makes of a coordinator: the invariant holds again, an export keeps its slot, and a
slot that was given back is not taken again. -/
structure Follows (c : Coordinator) (s next : System ι) : Prop where
  inv : Inv c next
  reservation : ∀ i slot, (s.exports i).reservation = some slot →
    (next.exports i).reservation = some slot
  released : ∀ i slot, (s.exports i).reservation = some slot → slot ∈ next.reservations →
    slot ∈ s.reservations

theorem Inv.refl (h : Inv c s) : Follows c s s := ⟨h, fun _ _ => id, fun _ _ _ => id⟩

theorem Follows.trans {middle next : System ι} (hfirst : Follows c s middle)
    (hsecond : Follows c middle next) : Follows c s next where
  inv := hsecond.inv
  reservation i slot hslot := hsecond.reservation i slot (hfirst.reservation i slot hslot)
  released i slot hslot hmem := hfirst.released i slot hslot
    (hsecond.released i slot (hfirst.reservation i slot hslot) hmem)

variable [DecidableEq ι]

theorem exports_turn (i : ι) (turn : Turn) (s : System ι) :
    (s.turn i turn).exports i = turn.next := by
  simp [System.turn]

theorem reservations_turn_subset (i : ι) (turn : Turn) (s : System ι) :
    (s.turn i turn).reservations ⊆ s.reservations := by
  unfold System.turn
  simp only
  split
  · exact Finset.Subset.refl _
  · exact Finset.erase_subset _ _

theorem Inv.turn {i : ι} {turn : Turn} (h : Inv c s) (hkeeps : turn.Keeps c (s.exports i)) :
    Follows c s (s.turn i turn) := by
  have hreservation : ∀ j, ((s.turn i turn).exports j).reservation = (s.exports j).reservation := by
    intro j
    by_cases hij : j = i
    · subst hij
      simp [System.turn, hkeeps.reservation_eq]
    · simp [System.turn, hij]
  have hsubset := reservations_turn_subset i turn s
  refine ⟨⟨?_, (Finset.card_le_card hsubset).trans h.bounded, ?_, ?_, ?_, ?_⟩, ?_, ?_⟩
  · intro j
    by_cases hij : j = i
    · subst hij
      simpa [System.turn] using hkeeps.sound
    · simpa [System.turn, hij] using h.sound j
  · intro j slot hslot
    rw [hreservation] at hslot
    exact h.issued j slot hslot
  · intro j k slot hj hk
    rw [hreservation] at hj hk
    exact h.distinct j k slot hj hk
  · intro slot hslot
    simp only [hreservation]
    exact h.owned slot (hsubset hslot)
  · intro j slot hslot
    rw [hreservation] at hslot
    have hheld := h.held j slot hslot
    cases hdiscarded : turn.discarded with
    | none =>
        have hleased := hkeeps.kept hdiscarded
        by_cases hij : j = i
        · subst hij
          simp [System.turn, hdiscarded, hheld, hleased]
        · simp [System.turn, hdiscarded, hij, hheld]
    | some discarded =>
        obtain ⟨howner, hleased⟩ := hkeeps.discarded discarded hdiscarded
        by_cases hij : j = i
        · subst hij
          rw [howner, Option.some.injEq] at hslot
          simp [System.turn, hdiscarded, hslot, hleased]
        -- the discarded slot is that of another export
        have hne : slot ≠ discarded := by
          rintro rfl
          exact hij (h.distinct j i slot hslot howner)
        simp [System.turn, hdiscarded, hij, hne, hheld]
  · intro j slot hslot
    rw [hreservation, hslot]
  · exact fun _ _ _ hmem => hsubset hmem

theorem Inv.admitted {i : ι} {turn : Turn} (h : Inv c s)
    (hfree : s.reservations.card < c.maxActiveExports)
    (hnone : (s.exports i).reservation = none) (hsound : turn.next.Sound c)
    (hreservation : turn.next.reservation = some s.issued)
    (hkept : turn.discarded = none → turn.next.leased = true)
    (hdiscarded : ∀ slot, turn.discarded = some slot →
      slot = s.issued ∧ turn.next.leased = false) :
    Follows c s ((s.admitted i).turn i turn) := by
  have hsubset : ((s.admitted i).turn i turn).reservations ⊆ insert s.issued s.reservations :=
    reservations_turn_subset i turn (s.admitted i)
  have hself := exports_turn i turn (s.admitted i)
  have hother : ∀ j, j ≠ i → ((s.admitted i).turn i turn).exports j = s.exports j := by
    intro j hij
    simp [System.turn, System.admitted, hij]
  refine ⟨⟨?_, ?_, ?_, ?_, ?_, ?_⟩, ?_, ?_⟩
  · intro j
    by_cases hij : j = i
    · subst hij
      rw [hself]
      exact hsound
    · rw [hother j hij]
      exact h.sound j
  · calc ((s.admitted i).turn i turn).reservations.card
        ≤ (insert s.issued s.reservations).card := Finset.card_le_card hsubset
      _ ≤ s.reservations.card + 1 := Finset.card_insert_le _ _
      _ ≤ c.maxActiveExports := hfree
  · intro j slot hslot
    show slot < s.issued + 1
    by_cases hij : j = i
    · subst hij
      rw [hself, hreservation, Option.some.injEq] at hslot
      omega
    · rw [hother j hij] at hslot
      have hlt := h.issued j slot hslot
      omega
  · intro j k slot hj hk
    by_cases hij : j = i <;> by_cases hik : k = i
    · rw [hij, hik]
    · subst hij
      rw [hself, hreservation, Option.some.injEq] at hj
      rw [hother k hik] at hk
      have hlt := h.issued k slot hk
      omega
    · subst hik
      rw [hself, hreservation, Option.some.injEq] at hk
      rw [hother j hij] at hj
      have hlt := h.issued j slot hj
      omega
    · rw [hother j hij] at hj
      rw [hother k hik] at hk
      exact h.distinct j k slot hj hk
  · intro slot hslot
    rcases Finset.mem_insert.mp (hsubset hslot) with rfl | hold
    · exact ⟨i, by rw [hself, hreservation]⟩
    obtain ⟨j, hj⟩ := h.owned slot hold
    have hij : j ≠ i := by
      rintro rfl
      rw [hnone] at hj
      cases hj
    exact ⟨j, by rw [hother j hij, hj]⟩
  · intro j slot hslot
    by_cases hij : j = i
    · subst hij
      rw [hself, hreservation, Option.some.injEq] at hslot
      rw [hself]
      cases hturn : turn.discarded with
      | none => simp [System.turn, System.admitted, hturn, hslot, hkept hturn]
      | some discarded =>
          obtain ⟨rfl, hleased⟩ := hdiscarded discarded hturn
          simp [System.turn, hturn, hslot, hleased]
    · rw [hother j hij] at hslot
      have hne : slot ≠ s.issued := (h.issued j slot hslot).ne
      rw [hother j hij, ← h.held j slot hslot]
      cases hturn : turn.discarded with
      | none => simp [System.turn, System.admitted, hturn, hne]
      | some discarded =>
          obtain ⟨rfl, -⟩ := hdiscarded discarded hturn
          simp [System.turn, System.admitted, hturn, hne]
  · intro j slot hslot
    have hij : j ≠ i := by
      rintro rfl
      rw [hnone] at hslot
      cases hslot
    rw [hother j hij, hslot]
  · intro j slot hslot hmem
    rcases Finset.mem_insert.mp (hsubset hmem) with rfl | hold
    · exact absurd (h.issued j s.issued hslot) (Nat.lt_irrefl _)
    · exact hold

theorem Inv.admission {i : ι} (h : Inv c s) (answer : LoadAnswer) (registry : RegistryAnswer)
    (creation : Creation) : Follows c s (c.admission i answer registry creation s) := by
  have hsound := h.sound i
  unfold Coordinator.admission
  cases hexport : s.exports i with
  | mk reservation route worker =>
  rw [hexport] at hsound
  cases hsound with
  | loading recordingId =>
      have hrefuse : ∀ failure,
          Follows c s (s.turn i ⟨⟨none, .raised failure, .absent⟩, none⟩) := by
        intro failure
        refine h.turn ⟨.refused failure, ?_, ?_, by simp⟩
        · rw [hexport]
        · intro _
          rw [hexport]
          rfl
      simp only
      split
      · exact hrefuse _
      next prepared hprepare =>
        have hprepared := sound_prepare hprepare
        split
        · exact hrefuse _
        next hfree =>
          have hnone : (s.exports i).reservation = none := by rw [hexport]
          have hself : (s.admitted i).exports i =
              ⟨some s.issued, .loading recordingId, .absent⟩ := by
            simp [System.admitted, hexport]
          cases creation with
          | created =>
              refine h.admitted (Nat.lt_of_not_le hfree) hnone ?_ ?_ ?_ ?_
              · rw [hself]
                exact .running s.issued prepared hprepared
              · rw [hself]
              · intro _
                rfl
              · intro slot hslot
                cases hslot
          | raised failure =>
              rw [hself]
              refine h.admitted (Nat.lt_of_not_le hfree) hnone
                (.uncreated s.issued failure.reported) rfl ?_ ?_
              · simp [Export.fail]
              · intro slot hslot
                cases hslot
                exact ⟨rfl, rfl⟩
  | _ => exact h.refl

theorem Inv.step (h : Inv c s) (event : Event ι) : Follows c s (c.machine.step s event) := by
  cases event with
  | begin i principal recordingId => exact h.turn (keeps_begin principal recordingId (h.sound i))
  | loaded i answer registry creation => exact h.admission answer registry creation
  | workerEnds i run => exact h.turn (keeps_workerEnds run (h.sound i))
  | validationFinished i => exact h.turn (keeps_validationFinished (h.sound i))
  | resume i interrupted made => exact h.turn (keeps_resume interrupted made (h.sound i))
  | advance i answer =>
      refine h.turn (keeps_stream ?_ ?_ (h.sound i))
      · exact fun handle body hover => body.advance_of_isOver answer hover
      · exact fun handle body hsize hsound => hsound.advance hsize answer
  | interrupt i =>
      refine h.turn (keeps_stream ?_ ?_ (h.sound i))
      · exact fun handle body hover => body.interrupt_of_isOver hover
      · exact fun handle body hsize hsound => hsound.interrupt
  | aclose i =>
      refine h.turn (keeps_stream ?_ ?_ (h.sound i))
      · exact fun handle body hover => body.aclose_of_isOver hover
      · exact fun handle body hsize hsound => hsound.aclose
  | unwind i closes => exact h.turn (keeps_unwind closes (h.sound i))

theorem Inv.reaches {events : List (Event ι)} {final : System ι} (h : Inv c s)
    (hrun : c.machine.Reaches s events final) : Follows c s final := by
  have hstep : ∀ state event, Follows c s state → c.machine.admissible state event →
      Follows c s (c.machine.step state event) := by
    intro state event hfollows _
    exact hfollows.trans (hfollows.inv.step event)
  exact hrun.invariant hstep h.refl

/-! ## The way back to zero -/

def settling (i : ι) : List (Event ι) :=
  [.interrupt i, .workerEnds i .cancelled, .resume i true false, .validationFinished i,
    .unwind i true]

/-- An export behind these events. -/
def Export.settle (e : Export) : Export :=
  let interrupted := (e.stream fun _ body => body.interrupt).next
  let worked := (interrupted.workerEnds .cancelled).next
  let resumed := (worked.resume true false).next
  (resumed.validationFinished.next.unwind true).next

theorem leased_settle {e : Export} (h : e.Sound c) : e.settle.leased = false := by
  cases h with
  | raised slot failure workerEnd callback => cases callback <;> rfl
  | responded slot prepared response workerEnd hresponse =>
      obtain ⟨handle, ⟨stage, sent⟩, unwound⟩ := response
      cases stage <;> rfl
  | _ => rfl

theorem exports_settling (i : ι) (s : System ι) :
    ((settling i).foldl c.machine.step s).exports i = (s.exports i).settle := by
  simp [settling, Coordinator.machine, System.turn, Export.settle]

theorem reservations_settling_subset (i : ι) (s : System ι) :
    ((settling i).foldl c.machine.step s).reservations ⊆ s.reservations := by
  simp only [settling, List.foldl_cons, List.foldl_nil]
  exact (reservations_turn_subset i _ _).trans <| (reservations_turn_subset i _ _).trans <|
    (reservations_turn_subset i _ _).trans <| (reservations_turn_subset i _ _).trans <|
      reservations_turn_subset i _ _

/-- No slot is lost: whatever has happened, all of them can come back. -/
theorem Inv.exists_settled (h : Inv c s) :
    ∃ later final, c.machine.Reaches s later final ∧ final.activeExports = 0 := by
  induction hcard : s.reservations.card using Nat.strong_induction_on generalizing s with
  | _ n ih =>
      rcases s.reservations.eq_empty_or_nonempty with hempty | ⟨slot, hslot⟩
      · exact ⟨[], s, .nil s, by rw [System.activeExports, hempty, Finset.card_empty]⟩
      obtain ⟨i, hi⟩ := h.owned slot hslot
      have hrun : c.machine.Reaches s (settling i) ((settling i).foldl c.machine.step s) :=
        Machine.reaches_foldl (fun _ _ _ => trivial) s
      have hnext := h.reaches hrun
      have hfree : slot ∉ ((settling i).foldl c.machine.step s).reservations := by
        rw [hnext.inv.held i slot (hnext.reservation i slot hi), exports_settling,
          leased_settle (h.sound i)]
        simp
      have hfewer : ((settling i).foldl c.machine.step s).reservations.card < n := by
        rw [← hcard]
        exact Finset.card_lt_card ((Finset.ssubset_iff_of_subset
          (reservations_settling_subset i s)).mpr ⟨slot, hslot, hfree⟩)
      obtain ⟨later, final, hlater, hzero⟩ := ih _ hfewer hnext.inv rfl
      exact ⟨settling i ++ later, final, hrun.append hlater, hzero⟩

/-! ## Exact leases -/

/-- The lease of an export is held from its admission until its validation has ended and its
response is closed, and no longer; there are never too many, and they can all come back.  The body
of a response that is streamed to its end is whole, and as long as it was announced. -/
theorem export_leases_exact (c : Coordinator) {events : List (Event ι)} {s : System ι}
    (h : c.machine.Reaches (System.create ι) events s) :
    LeasesExact c s ∧
      (∀ later final, c.machine.Reaches s later final →
        ∀ i slot, (s.exports i).reservation = some slot →
          (final.exports i).reservation = some slot ∧
            (slot ∈ final.reservations → slot ∈ s.reservations)) ∧
      ∃ later final, c.machine.Reaches s later final ∧ final.activeExports = 0 := by
  have hinv : Inv c s := ((inv_create c ι).reaches h).inv
  refine ⟨⟨hinv.bounded, ?_, hinv.held, ?_, ?_, ?_⟩, ?_, hinv.exists_settled⟩
  · intro slot hslot
    obtain ⟨i, hi⟩ := hinv.owned slot hslot
    exact ⟨i, hi, fun j hj => hinv.distinct j i slot hj hi⟩
  · intro i hnone
    have hsound := hinv.sound i
    generalize s.exports i = e at hsound hnone
    cases hsound <;> first | rfl | cases hnone
  · intro hsettled
    rw [System.activeExports, Finset.card_eq_zero, Finset.eq_empty_iff_forall_notMem]
    intro slot hslot
    obtain ⟨i, hi⟩ := hinv.owned slot hslot
    rw [hinv.held i slot hi, hsettled i] at hslot
    cases hslot
  · intro i response hroute hended
    have hsound := hinv.sound i
    generalize s.exports i = e at hsound hroute
    cases hsound with
    | responded slot prepared response' workerEnd hresponse =>
        cases hroute
        exact hresponse.whole hended
    | _ => cases hroute
  · intro later final hlater i slot hslot
    have hfollows := hinv.reaches hlater
    exact ⟨hfollows.reservation i slot hslot, hfollows.released i slot hslot⟩

end Invariant

/-! ## An export that is streamed to its end -/

def samplePacket : Packet := 0x80 :: 0x60 :: List.replicate 10 0

def sampleFile : FileIdentity := ⟨0, 1, 28, 0⟩

/-- There is one recording, and other files are empty of content. -/
def sampleContents : FileContents where
  bytesOf identity :=
    if identity = sampleFile then recordingFile [samplePacket] else List.replicate identity.size 0
  length_bytesOf identity := by
    split
    · next hsample =>
        rw [hsample, recordingFile, List.length_append, length_framed]
        rfl
    · exact List.length_replicate

def sampleCoordinator : Coordinator where
  maxExportBytes := 64 * 1024 * 1024
  maxActiveExports := 2
  exportBytes_valid := by decide
  activeExports_valid := by decide
  reader := sampleReader
  toJsonBytes _ := encodeAscii (codePoints sampleText)
  files := sampleContents

def sampleRoot : Catalog.RecordingRoot :=
  ⟨[(descriptorName sampleDescriptor.recordingId, .file (textFile sampleText)),
    (recordingName sampleDescriptor.recordingId, .file sampleRecording)], by decide +kernel⟩

theorem load_sampleRoot :
    loadRecordingPair sampleReader (some sampleRoot) sampleDescriptor.recordingId =
      .ok sampleDescriptor := by
  rw [loadRecordingPair_eq_ok_iff]
  have hsize : 1 ≤ (textFile sampleText).size ∧
      (textFile sampleText).size ≤ maxDescriptorBytes := by
    rw [size_textFile]
    exact size_sampleText
  have hstored : sampleRoot.find? (descriptorName sampleDescriptor.recordingId) =
      some (.file (textFile sampleText)) :=
    Table.mem_rows.mp (by simp [sampleRoot])
  have hrecording : sampleRoot.find? (recordingName sampleDescriptor.recordingId) =
      some (.file sampleRecording) :=
    Table.mem_rows.mp (by simp [sampleRoot])
  exact ⟨sampleText.toUTF8,
    ⟨textFile sampleText, sampleRecording, hstored, hrecording, hsize, bytes_textFile sampleText,
      rfl⟩, parse_sampleText, rfl⟩

def sampleCamera : Device := { Devices.camera with id := 0 }

def samplePrepared : Prepared where
  recordingId := sampleDescriptor.recordingId
  descriptor := sampleDescriptor
  descriptorBytes := sampleCoordinator.toJsonBytes sampleDescriptor
  boundary := boundaryOf sampleDescriptor.recordingId
  responseBytes := responseBytesOf
    (multipartSections sampleDescriptor.recordingId (boundaryOf sampleDescriptor.recordingId)
      sampleDescriptor.fileBytes)
    (sampleCoordinator.toJsonBytes sampleDescriptor) sampleDescriptor.fileBytes

theorem prepare_eq {c : Coordinator} {recordingId : Uuid} {answer : LoadAnswer}
    {registry : RegistryAnswer} {descriptor : StoredDescriptor} {device : Device}
    (hloaded : c.loaded recordingId answer = .ok descriptor)
    (hdevice : findDevice registry = .ok device) (hvalid : validateDevice device = .ok ())
    (hsmall : responseBytesOf
      (multipartSections recordingId (boundaryOf recordingId) descriptor.fileBytes)
      (c.toJsonBytes descriptor) descriptor.fileBytes ≤ c.maxExportBytes) :
    c.prepare recordingId answer registry = .ok
      { recordingId := recordingId
        descriptor := descriptor
        descriptorBytes := c.toJsonBytes descriptor
        boundary := boundaryOf recordingId
        responseBytes := responseBytesOf
          (multipartSections recordingId (boundaryOf recordingId) descriptor.fileBytes)
          (c.toJsonBytes descriptor) descriptor.fileBytes } := by
  rw [Coordinator.prepare, hloaded]
  simp only [bind, Except.bind, hdevice, hvalid]
  rw [if_neg (Nat.not_lt.mpr hsmall)]
  rfl

theorem exports_loaded {ι : Type*} [DecidableEq ι] {c : Coordinator} {s : System ι} {i : ι}
    {recordingId : Uuid} {answer : LoadAnswer} {registry : RegistryAnswer} {prepared : Prepared}
    (h : s.exports i = ⟨none, .loading recordingId, .absent⟩)
    (hprepare : c.prepare recordingId answer registry = .ok prepared)
    (hfree : s.reservations.card < c.maxActiveExports) :
    (c.machine.step s (.loaded i answer registry .created)).exports i =
      ⟨some s.issued, .validating prepared, .running prepared.descriptor false⟩ := by
  have hself : (s.admitted i).exports i = ⟨some s.issued, .loading recordingId, .absent⟩ := by
    simp only [System.admitted, Function.update_self, h]
  simp only [Coordinator.machine, Coordinator.admission, h, hprepare]
  rw [if_neg (Nat.not_le.mpr hfree)]
  simp only [exports_turn, hself]

theorem prepare_sample :
    sampleCoordinator.prepare sampleDescriptor.recordingId (.ran (some sampleRoot))
      (.found (some sampleCamera)) = .ok samplePrepared := by
  have hloaded : sampleCoordinator.loaded sampleDescriptor.recordingId (.ran (some sampleRoot)) =
      .ok sampleDescriptor := by
    rw [Coordinator.loaded, show sampleCoordinator.reader = sampleReader from rfl, load_sampleRoot]
  have hdevice : validateDevice sampleCamera = .ok () := by rfl
  have hbytes : (sampleCoordinator.toJsonBytes sampleDescriptor).length ≤ 1024 := by
    have hchars : sampleChars.length ≤ 1024 := by decide +kernel
    simp only [sampleCoordinator]
    rw [length_encodeAscii, codePoints, List.length_map, sampleText, String.toList_ofList]
    exact hchars
  have hsmall : responseBytesOf
      (multipartSections sampleDescriptor.recordingId (boundaryOf sampleDescriptor.recordingId)
        sampleDescriptor.fileBytes)
      (sampleCoordinator.toJsonBytes sampleDescriptor) sampleDescriptor.fileBytes ≤
        sampleCoordinator.maxExportBytes := by
    have hdigits : (toString (28 : ℕ)).length = 2 := by decide +kernel
    have hfile : sampleDescriptor.fileBytes = 28 := rfl
    have hmax : sampleCoordinator.maxExportBytes = 67108864 := rfl
    rw [responseBytesOf_eq, hfile, hdigits, hmax]
    omega
  exact prepare_eq hloaded rfl hdevice hsmall

theorem one_packet : 1 ≤ 1 ∧ 1 ≤ 1000000 := by decide

def sampleLimits : FramedLimits :=
  { FramedLimits.default with
    maxPackets := 1
    maxPayloadBytes := 12
    maxPackets_mem := one_packet
    maxPayloadBytes_mem := by omega }

def sampleInspection : Inspection :=
  ⟨some (.regular sampleFile), some (recordingFile [samplePacket]), some (.regular sampleFile)⟩

theorem verify_sample :
    verifyRecordingForExport sampleDescriptor.toRecordingStreamDescriptor sampleInspection =
      .ok sampleFile := by
  have hfits : Fits sampleLimits 0 0 [samplePacket] :=
    ⟨by decide, by decide, by decide, by decide⟩
  obtain ⟨items, reader, hread, -, hstate, hpackets, hpayload, hfile⟩ :=
    FramedRecordingReader.iterPackets_recordingFile hfits
  have hlimits : readerLimits sampleDescriptor.toRecordingStreamDescriptor = some sampleLimits := rfl
  have hlength : (recordingFile [samplePacket]).length = 28 := by
    rw [recordingFile, List.length_append, length_framed]
    rfl
  have hcheck : checkRecording sampleDescriptor.toRecordingStreamDescriptor
      (some (recordingFile [samplePacket])) = .ok () := by
    simp only [checkRecording, hlimits, hread, hstate, hpackets, hpayload, hfile, hlength]
    rfl
  have hsize : sampleFile.size = sampleDescriptor.fileBytes := rfl
  simp [verifyRecordingForExport, sampleInspection, hcheck, hsize]

/-- The validation ends, the response is made, and its body is taken to its end: the recording comes
in two chunks. -/
def sampleRest : List (Event Unit) :=
  [.workerEnds () (.ran sampleInspection), .resume () false true] ++
    List.replicate 9 (.advance () ⟨some (.regular sampleFile), true, some sampleFile, some 20⟩) ++
    [.unwind () true]

def sampleViewer : UserAccount := Identity.sampleAccount .viewer

def sampleEvents : List (Event Unit) :=
  [.begin () sampleViewer sampleDescriptor.recordingId,
    .loaded () (.ran (some sampleRoot)) (.found (some sampleCamera)) .created] ++ sampleRest

def streamed : System Unit := sampleEvents.foldl sampleCoordinator.machine.step (.create Unit)

theorem exhausted_of_validating {s : System Unit}
    (h : s.exports () = ⟨some 0, .validating samplePrepared,
      .running sampleDescriptor false⟩) :
    ∃ response, ((sampleRest.foldl sampleCoordinator.machine.step s).exports ()).route =
      .responded response ∧ response.body.stage = .ended .exhausted := by
  have hvalidated : (Export.workerEnds (.ran sampleInspection)
      ⟨some 0, .validating samplePrepared, .running sampleDescriptor false⟩).next =
        ⟨some 0, .validating samplePrepared, .ended (.returned sampleFile) false⟩ := by
    simp only [Export.workerEnds, Export.WorkerRun.workerEnd, verify_sample]
  simp only [sampleRest, Coordinator.machine, List.replicate, List.cons_append, List.nil_append,
    List.foldl_cons, List.foldl_nil, exports_turn, h, hvalidated]
  exact ⟨_, rfl, rfl⟩

theorem exhausted_streamed : ∃ response, (streamed.exports ()).route = .responded response ∧
    response.body.stage = .ended .exhausted := by
  rw [streamed, sampleEvents, List.foldl_append, List.foldl_cons, List.foldl_cons, List.foldl_nil]
  refine exhausted_of_validating (exports_loaded ?_ prepare_sample ?_)
  · simp only [Coordinator.machine, exports_turn]
    rfl
  · decide

theorem export_leases_exact_streamed : LeasesExact sampleCoordinator streamed ∧
    ∃ response, (streamed.exports ()).route = .responded response ∧
      response.body.stage = .ended .exhausted ∧ response.Whole sampleCoordinator := by
  have hrun : sampleCoordinator.machine.Reaches (.create Unit) sampleEvents streamed :=
    Machine.reaches_foldl (fun _ _ _ => trivial) _
  have hexact := (export_leases_exact sampleCoordinator hrun).1
  obtain ⟨response, hroute, hended⟩ := exhausted_streamed
  exact ⟨hexact, response, hroute, hended, hexact.whole () response hroute hended⟩

end K5Vision.Media.Exports
