import K5Vision.Media.Coordinators

/-!
# Slots are given back exactly once

A call takes its slot once and gives it back in the last step of its `finally` clause.  What
stands before that step is awaited too, so the slot is given back if and only if these awaits
return: a cancellation that arrives in one of them leaves the `finally` clause, and with it the
coordinator keeps counting a call that has ended.

The count is carried by `Counted`; every other step of a call is `Quiet`.
-/

set_option linter.unusedSectionVars false

namespace K5Vision.Media.Coordinators

open Library Routine

variable {ι : Type} [DecidableEq ι] [Fintype ι] {calls : ι → Call} {i : ι}
  {permits : AwaitEnd → Request → Prop} {before after state : State ι}

/-- A call has a slot that it has not given back. -/
def Holds (state : State ι) (i : ι) : Prop := state.reserved i = 1 ∧ state.released i = 0

instance (state : State ι) (i : ι) : Decidable (Holds state i) :=
  inferInstanceAs (Decidable (_ ∧ _))

/-- An identifier is registered exactly while the call that reserved it holds its slot. -/
def Registered (calls : ι → Call) (state : State ι) : Prop :=
  ∀ id i, state.controls.find? id = some i ↔ calls i = .play (some id) ∧ Holds state i

/-- The coordinators count the slots that are held. -/
structure Counted (calls : ι → Call) (state : State ι) : Prop where
  recordings : state.activeRecordings =
    (Finset.univ.filter fun i => (calls i).isRecording = true ∧ Holds state i).card
  playbacks : state.activePlaybacks =
    (Finset.univ.filter fun i => (calls i).isRecording = false ∧ Holds state i).card
  controls : Registered calls state

structure SameCall (before after : State ι) (i : ι) : Prop where
  reserved : after.reserved i = before.reserved i
  released : after.released i = before.released i
  locals : after.locals i = before.locals i

/-- The calls among each other: none touches what belongs to another, and the count stays
right. -/
def among (calls : ι → Call) (permits : AwaitEnd → Request → Prop) (i : ι) :
    Among interface Raised (State ι) AwaitEnd where
  toServer := server calls permits i
  rely before after := (Counted calls before → Counted calls after) ∧ SameCall before after i
  guar before after := (Counted calls before → Counted calls after) ∧
    ∀ j, j ≠ i → SameCall before after j

/-- The count is right, and the call has taken and given back its slot so often. -/
structure At (calls : ι → Call) (i : ι) (reserved released : ℕ) (state : State ι) : Prop where
  counted : Counted calls state
  reserved : state.reserved i = reserved
  released : state.released i = released

theorem At.of_rely {reserved released : ℕ} (h : At calls i reserved released before)
    (hrely : (among calls permits i).rely before after) : At calls i reserved released after where
  counted := hrely.1 h.counted
  reserved := hrely.2.reserved.trans h.reserved
  released := hrely.2.released.trans h.released

/-! ## Steps that do not touch the slots -/

structure SameSlots (before after : State ι) : Prop where
  activeRecordings : after.activeRecordings = before.activeRecordings
  activePlaybacks : after.activePlaybacks = before.activePlaybacks
  controls : after.controls = before.controls
  reserved : after.reserved = before.reserved
  released : after.released = before.released

theorem SameSlots.counted (h : SameSlots before after) (hcounted : Counted calls before) :
    Counted calls after := by
  have hholds : Holds after = Holds before := by
    funext i
    unfold Holds
    rw [h.reserved, h.released]
  constructor
  case recordings => rw [h.activeRecordings, hcounted.recordings]; simp only [hholds]
  case playbacks => rw [h.activePlaybacks, hcounted.playbacks]; simp only [hholds]
  case controls =>
    intro id i
    rw [h.controls, hholds]
    exact hcounted.controls id i

theorem sameSlots_refl (state : State ι) : SameSlots state state := ⟨rfl, rfl, rfl, rfl, rfl⟩

theorem sameSlots_setLocals (state : State ι) (i : ι) (locals : Locals) :
    SameSlots state (state.setLocals i locals) := ⟨rfl, rfl, rfl, rfl, rfl⟩

theorem sameCall_setLocals {j : ι} (h : j ≠ i) (locals : Locals) :
    SameCall state (state.setLocals i locals) j :=
  ⟨rfl, rfl, Function.update_of_ne h _ _⟩

/-- Neither takes nor gives back a slot. -/
def Request.isQuiet : Request → Bool
  | .reserve => false
  | .release => false
  | _ => true

theorem serve_quiet {request : Request} (hquiet : request.isQuiet = true) (awaited : AwaitEnd)
    (state : State ι) : SameSlots state (serve calls i awaited request state).2 ∧
      ∀ j, j ≠ i → SameCall state (serve calls i awaited request state).2 j := by
  cases request with
  | check => exact ⟨sameSlots_refl _, fun _ _ => ⟨rfl, rfl, rfl⟩⟩
  | locals => exact ⟨sameSlots_refl _, fun _ _ => ⟨rfl, rfl, rfl⟩⟩
  | await => exact ⟨sameSlots_setLocals _ _ _, fun _ hne => sameCall_setLocals hne _⟩
  | segments => exact ⟨sameSlots_setLocals _ _ _, fun _ hne => sameCall_setLocals hne _⟩
  | assign => exact ⟨sameSlots_setLocals _ _ _, fun _ hne => sameCall_setLocals hne _⟩
  | reserve => cases hquiet
  | release => cases hquiet

/-- All requests of a routine are quiet. -/
def Quiet {α : Type} (routine : Routine interface Raised α) : Prop :=
  routine.Asks fun request : Request => request.isQuiet = true

theorem quiet_call {request : Request} (h : request.isQuiet = true) :
    Quiet (call (I := interface) request : Routine interface Raised _) :=
  asks_call h

theorem quiet_translated {routine : Coroutine} (h : Quiet routine) (error : Raised) :
    Quiet (translated routine error) := by
  refine h.recover fun raised => ?_
  split <;> trivial

theorem quiet_recordingErrors {routine : Coroutine} (h : Quiet routine) (error : Raised) :
    Quiet (recordingErrors routine error) := by
  refine h.recover fun raised => ?_
  cases raised <;> trivial

theorem quiet_playbackErrors {routine : Coroutine} (h : Quiet routine) (error : Raised) :
    Quiet (playbackErrors routine error) := by
  refine h.recover fun raised => ?_
  cases raised <;> trivial

theorem quiet_resolveSource (error : Raised) : Quiet (resolveSource error) :=
  (quiet_translated (quiet_call rfl) error).bind fun _ => quiet_call rfl

theorem quiet_recordBody : Quiet recordBody := by
  have hdelivery : Quiet (do await .deliver; await .finalize) :=
    (quiet_call rfl).bind fun _ => quiet_call rfl
  refine (quiet_resolveSource _).bind fun _ => (quiet_call rfl).bind fun _ =>
    (quiet_call rfl).bind fun _ => (quiet_call rfl).bind fun _ => ?_
  exact (quiet_recordingErrors hdelivery _).bind fun _ => (quiet_call rfl).bind fun _ =>
    (quiet_translated (quiet_call rfl) _).bind fun _ => (quiet_call rfl).bind fun _ =>
      quiet_call rfl

theorem quiet_recordContinuousBody : Quiet recordContinuousBody := by
  have hdelivery : Quiet (do segments .deliver; segments .finalize) :=
    (quiet_call rfl).bind fun _ => quiet_call rfl
  exact (quiet_resolveSource _).bind fun _ => (quiet_call rfl).bind fun _ =>
    (quiet_recordingErrors hdelivery _).bind fun _ => quiet_call rfl

theorem quiet_playBody : Quiet playBody :=
  (quiet_resolveSource _).bind fun _ =>
    (quiet_playbackErrors (quiet_call rfl) _).bind fun _ => quiet_call rfl

theorem quiet_spec {α : Type} {routine : Routine interface Raised α} {reserved released : ℕ}
    (h : Quiet routine) :
    Spec (among calls permits i) (At calls i reserved released) routine
      (fun _ => At calls i reserved released) (fun _ => At calls i reserved released) := by
  refine Spec.of_asks h (fun _ _ hat hrely => hat.of_rely hrely) ?_
  intro request state awaited hquiet hat
  have hserved := @serve_quiet _ _ _ calls i request hquiet awaited state
  exact ⟨⟨hserved.1.counted, hserved.2⟩, hserved.1.counted hat.counted,
    (congrFun hserved.1.reserved i).trans hat.reserved,
    (congrFun hserved.1.released i).trans hat.released⟩

/-! ## Taking and giving back a slot -/

theorem card_filter_insert {p q : ι → Prop} [DecidablePred p] [DecidablePred q]
    (hother : ∀ j, j ≠ i → (q j ↔ p j)) (hp : ¬ p i) (hq : q i) :
    (Finset.univ.filter q).card = (Finset.univ.filter p).card + 1 := by
  have hinsert : Finset.univ.filter q = insert i (Finset.univ.filter p) := by
    ext j
    by_cases hji : j = i
    · subst hji
      simp [hq]
    · simp [hji, hother j hji]
  rw [hinsert, Finset.card_insert_of_notMem (by simpa using hp)]

theorem card_filter_same {p q : ι → Prop} [DecidablePred p] [DecidablePred q]
    (h : ∀ j, q j ↔ p j) : (Finset.univ.filter q).card = (Finset.univ.filter p).card := by
  congr 1
  ext j
  simp [h j]

/-- A step after which one call holds a slot that it did not hold before. -/
structure Taken (calls : ι → Call) (i : ι) (before after : State ι) : Prop where
  free : ¬ Holds before i
  held : Holds after i
  other : ∀ j, j ≠ i → SameCall before after j
  recordings : after.activeRecordings =
    before.activeRecordings + if (calls i).isRecording then 1 else 0
  playbacks : after.activePlaybacks =
    before.activePlaybacks + if (calls i).isRecording then 0 else 1

theorem holds_of_sameCall {j : ι} (h : SameCall before after j) :
    Holds after j ↔ Holds before j := by
  unfold Holds
  rw [h.reserved, h.released]

theorem Taken.card (h : Taken calls i before after) (recording : Bool) :
    (Finset.univ.filter fun j => (calls j).isRecording = recording ∧ Holds after j).card =
      (Finset.univ.filter fun j => (calls j).isRecording = recording ∧ Holds before j).card +
        if (calls i).isRecording = recording then 1 else 0 := by
  have hother : ∀ j, j ≠ i → ((calls j).isRecording = recording ∧ Holds after j ↔
      (calls j).isRecording = recording ∧ Holds before j) := by
    intro j hne
    rw [holds_of_sameCall (h.other j hne)]
  by_cases hkind : (calls i).isRecording = recording
  · rw [if_pos hkind]
    exact card_filter_insert hother (fun hp => h.free hp.2) ⟨hkind, h.held⟩
  rw [if_neg hkind]
  refine card_filter_same fun j => ?_
  by_cases hne : j = i
  · subst hne
    exact ⟨fun hq => absurd hq.1 hkind, fun hp => absurd hp.1 hkind⟩
  · exact hother j hne

theorem Taken.counted (h : Taken calls i before after) (hcounted : Counted calls before)
    (hcontrols : Registered calls after) : Counted calls after where
  recordings := by
    rw [h.recordings, h.card, hcounted.recordings]
  playbacks := by
    rw [h.playbacks, h.card, hcounted.playbacks]
    cases (calls i).isRecording <;> rfl
  controls := hcontrols

/-- The count behind a slot that was given back, which is one that was taken, seen backwards. -/
theorem Taken.uncounted (h : Taken calls i after before) (hcounted : Counted calls before)
    (hcontrols : Registered calls after) : Counted calls after where
  recordings := by
    have hcard := hcounted.recordings
    rw [h.card, h.recordings] at hcard
    exact Nat.add_right_cancel hcard
  playbacks := by
    have hcard := hcounted.playbacks
    rw [h.card, h.playbacks] at hcard
    cases hkind : (calls i).isRecording <;> rw [hkind] at hcard <;>
      exact Nat.add_right_cancel hcard
  controls := hcontrols

structure SameCalls (before after : State ι) : Prop where
  reserved : after.reserved = before.reserved
  released : after.released = before.released
  locals : after.locals = before.locals

theorem taken_noteReserved (hat : At calls i 0 0 state) (hsame : SameCalls state after)
    (hrecordings : after.activeRecordings =
      state.activeRecordings + if (calls i).isRecording then 1 else 0)
    (hplaybacks : after.activePlaybacks =
      state.activePlaybacks + if (calls i).isRecording then 0 else 1) :
    Taken calls i state (after.noteReserved i) where
  free hholds := by
    have hreserved := hholds.1
    rw [hat.reserved] at hreserved
    cases hreserved
  held := by
    constructor
    · simp [State.noteReserved, hsame.reserved, hat.reserved]
    · simp [State.noteReserved, hsame.released, hat.released]
  other j hne := by
    constructor
    · simp [State.noteReserved, hne, hsame.reserved]
    · simp [State.noteReserved, hsame.released]
    · simp [State.noteReserved, hsame.locals]
  recordings := hrecordings
  playbacks := hplaybacks

theorem taken_noteReleased (hat : At calls i 1 0 state) (hsame : SameCalls state after)
    (hrecordings : state.activeRecordings =
      after.activeRecordings + if (calls i).isRecording then 1 else 0)
    (hplaybacks : state.activePlaybacks =
      after.activePlaybacks + if (calls i).isRecording then 0 else 1) :
    Taken calls i (after.noteReleased i) state where
  free hholds := by
    have hreleased := hholds.2
    simp [State.noteReleased] at hreleased
  held := ⟨hat.reserved, hat.released⟩
  other j hne := by
    constructor
    · simp [State.noteReleased, hsame.reserved]
    · simp [State.noteReleased, hne, hsame.released]
    · simp [State.noteReleased, hsame.locals]
  recordings := hrecordings
  playbacks := hplaybacks

theorem registered_of_other (hregistered : Registered calls before)
    (hcall : ∀ id, calls i ≠ .play (some id))
    (hother : ∀ j, j ≠ i → (Holds after j ↔ Holds before j))
    (hcontrols : after.controls = before.controls) : Registered calls after := by
  intro id j
  rw [hcontrols, hregistered id j]
  by_cases hne : j = i
  · subst hne
    exact ⟨fun h => absurd h.1 (hcall id), fun h => absurd h.1 (hcall id)⟩
  · rw [hother j hne]

theorem registered_insert {id : ℕ} (hregistered : Registered calls before)
    (htaken : Taken calls i before after) (hcall : calls i = .play (some id))
    (hinsert : before.controls.insert? id i = some after.controls) : Registered calls after := by
  obtain ⟨hfree, -, hfind⟩ := Table.insert?_eq_some hinsert
  intro other j
  rw [hfind other]
  by_cases hji : j = i
  · subst hji
    rw [hcall]
    constructor
    · intro h
      split_ifs at h with heq
      · exact ⟨by rw [heq], htaken.held⟩
      · exact absurd ((hregistered other j).mp h).2 htaken.free
    · rintro ⟨heq, -⟩
      cases heq
      exact if_pos rfl
  · rw [holds_of_sameCall (htaken.other j hji), ← hregistered other j]
    split_ifs with heq
    · subst heq
      rw [hfree]
      constructor
      · rintro ⟨⟩
        exact absurd rfl hji
      · rintro ⟨⟩
    · exact Iff.rfl

theorem registered_erase {id : ℕ} (hregistered : Registered calls before)
    (htaken : Taken calls i after before) (hcall : calls i = .play (some id))
    (herase : after.controls = before.controls.erase id) : Registered calls after := by
  have hid : before.controls.find? id = some i := (hregistered id i).mpr ⟨hcall, htaken.held⟩
  intro other j
  rw [herase, Table.find?_erase]
  by_cases hji : j = i
  · subst hji
    constructor
    · intro h
      split_ifs at h with heq
      rw [hregistered other j, hcall] at h
      cases h.1
      exact absurd rfl heq
    · intro h
      exact absurd h.2 htaken.free
  · rw [← holds_of_sameCall (htaken.other j hji), ← hregistered other j]
    split_ifs with heq
    · subst heq
      rw [hid]
      constructor
      · rintro ⟨⟩
      · rintro ⟨⟩
        exact absurd rfl hji
    · exact Iff.rfl

theorem reserve_cases (hat : At calls i 0 0 state) :
    (∃ error, state.reserve i (calls i) = (.error error, state)) ∨
      ∃ after, state.reserve i (calls i) = (.ok (), after) ∧ Taken calls i state after ∧
        Registered calls after := by
  have hcontrols := hat.counted.controls
  cases hcall : calls i with
  | record | recordContinuous =>
      change (∃ error, state.reserveRecording i = _) ∨ ∃ after, state.reserveRecording i = _ ∧ _
      unfold State.reserveRecording
      split_ifs
      · exact .inl ⟨_, rfl⟩
      have htaken : Taken calls i state
          ({ state with activeRecordings := state.activeRecordings + 1 }.noteReserved i) :=
        taken_noteReserved hat ⟨rfl, rfl, rfl⟩ (by rw [hcall]; rfl) (by rw [hcall]; rfl)
      refine .inr ⟨_, rfl, htaken, ?_⟩
      exact registered_of_other hcontrols (by simp [hcall])
        (fun j hne => holds_of_sameCall (htaken.other j hne)) rfl
  | play controlId =>
      change (∃ error, state.reservePlayback i controlId = _) ∨
        ∃ after, state.reservePlayback i controlId = _ ∧ _
      unfold State.reservePlayback
      split_ifs
      · exact .inl ⟨_, rfl⟩
      cases controlId with
      | none =>
          have htaken : Taken calls i state
              ({ state with activePlaybacks := state.activePlaybacks + 1 }.noteReserved i) :=
            taken_noteReserved hat ⟨rfl, rfl, rfl⟩ (by rw [hcall]; rfl) (by rw [hcall]; rfl)
          refine .inr ⟨_, rfl, htaken, ?_⟩
          exact registered_of_other hcontrols (by simp [hcall])
            (fun j hne => holds_of_sameCall (htaken.other j hne)) rfl
      | some id =>
          dsimp only
          cases hinsert : state.controls.insert? id i with
          | none => exact .inl ⟨_, rfl⟩
          | some controls =>
              have htaken : Taken calls i state ({ state with
                  controls := controls
                  activePlaybacks := state.activePlaybacks + 1 }.noteReserved i) :=
                taken_noteReserved hat ⟨rfl, rfl, rfl⟩ (by rw [hcall]; rfl) (by rw [hcall]; rfl)
              exact .inr ⟨_, rfl, htaken, registered_insert hcontrols htaken hcall hinsert⟩

theorem Counted.one_le_recordings (hcounted : Counted calls state) (hholds : Holds state i)
    (hcall : (calls i).isRecording = true) : 1 ≤ state.activeRecordings := by
  rw [hcounted.recordings]
  exact Finset.card_pos.mpr ⟨i, by simp [hcall, hholds]⟩

theorem Counted.one_le_playbacks (hcounted : Counted calls state) (hholds : Holds state i)
    (hcall : (calls i).isRecording = false) : 1 ≤ state.activePlaybacks := by
  rw [hcounted.playbacks]
  exact Finset.card_pos.mpr ⟨i, by simp [hcall, hholds]⟩

theorem release_eq (hat : At calls i 1 0 state) :
    ∃ after, state.release i (calls i) = (.ok (), after) ∧ Taken calls i after state ∧
      Registered calls after ∧ after.reserved i = 1 ∧ after.released i = 1 := by
  have hholds : Holds state i := ⟨hat.reserved, hat.released⟩
  have hcontrols := hat.counted.controls
  have hcounts : ∀ next : State ι, SameCalls state next →
      (next.noteReleased i).reserved i = 1 ∧ (next.noteReleased i).released i = 1 := by
    intro next hsame
    simp [State.noteReleased, hsame.reserved, hsame.released, hat.reserved, hat.released]
  cases hcall : calls i with
  | record | recordContinuous =>
      have hone := hat.counted.one_le_recordings hholds (by rw [hcall]; rfl)
      have htaken : Taken calls i
          ({ state with activeRecordings := state.activeRecordings - 1 }.noteReleased i) state :=
        taken_noteReleased hat ⟨rfl, rfl, rfl⟩ (by rw [hcall]; exact (Nat.sub_add_cancel hone).symm)
          (by rw [hcall]; rfl)
      refine ⟨_, rfl, htaken, ?_, hcounts _ ⟨rfl, rfl, rfl⟩⟩
      exact registered_of_other hcontrols (by simp [hcall])
        (fun j hne => (holds_of_sameCall (htaken.other j hne)).symm) rfl
  | play controlId =>
      have hone := hat.counted.one_le_playbacks hholds (by rw [hcall]; rfl)
      cases controlId with
      | none =>
          have htaken : Taken calls i
              ({ state with activePlaybacks := state.activePlaybacks - 1 }.noteReleased i) state :=
            taken_noteReleased hat ⟨rfl, rfl, rfl⟩ (by rw [hcall]; rfl)
              (by rw [hcall]; exact (Nat.sub_add_cancel hone).symm)
          refine ⟨_, rfl, htaken, ?_, hcounts _ ⟨rfl, rfl, rfl⟩⟩
          exact registered_of_other hcontrols (by simp [hcall])
            (fun j hne => (holds_of_sameCall (htaken.other j hne)).symm) rfl
      | some id =>
          have htaken : Taken calls i ({ state with
              controls := state.controls.erase id
              activePlaybacks := state.activePlaybacks - 1 }.noteReleased i) state :=
            taken_noteReleased hat ⟨rfl, rfl, rfl⟩ (by rw [hcall]; rfl)
              (by rw [hcall]; exact (Nat.sub_add_cancel hone).symm)
          exact ⟨_, rfl, htaken, registered_erase hcontrols htaken hcall rfl,
            hcounts _ ⟨rfl, rfl, rfl⟩⟩

/-! ## The calls -/

theorem SameCall.symm (h : SameCall before after i) : SameCall after before i :=
  ⟨h.reserved.symm, h.released.symm, h.locals.symm⟩

theorem reserve_spec :
    Spec (among calls permits i) (At calls i 0 0) reserve (fun _ => At calls i 1 0)
      (fun _ => At calls i 0 0) := by
  refine Spec.call (fun _ _ hat hrely => hat.of_rely hrely) ?_
  intro state awaited hat _
  change ((Counted calls state → Counted calls (state.reserve i (calls i)).2) ∧
    ∀ j, j ≠ i → SameCall state (state.reserve i (calls i)).2 j) ∧
      Ends _ _ (state.reserve i (calls i)).1 (state.reserve i (calls i)).2
  rcases reserve_cases hat with ⟨error, heq⟩ | ⟨after, heq, htaken, hregistered⟩
  · rw [heq]
    exact ⟨⟨id, fun _ _ => ⟨rfl, rfl, rfl⟩⟩, hat⟩
  · rw [heq]
    have hcounted := htaken.counted hat.counted hregistered
    exact ⟨⟨fun _ => hcounted, htaken.other⟩, hcounted, htaken.held.1, htaken.held.2⟩

theorem release_spec :
    Spec (among calls permits i) (At calls i 1 0) release (fun _ => At calls i 1 1)
      (fun _ _ => False) := by
  refine Spec.call (fun _ _ hat hrely => hat.of_rely hrely) ?_
  intro state awaited hat _
  change ((Counted calls state → Counted calls (state.release i (calls i)).2) ∧
    ∀ j, j ≠ i → SameCall state (state.release i (calls i)).2 j) ∧
      Ends _ _ (state.release i (calls i)).1 (state.release i (calls i)).2
  obtain ⟨after, heq, htaken, hregistered, hcounts⟩ := release_eq hat
  rw [heq]
  have hcounted := htaken.uncounted hat.counted hregistered
  exact ⟨⟨fun _ => hcounted, fun j hne => (htaken.other j hne).symm⟩,
    ⟨hcounted, hcounts.1, hcounts.2⟩⟩

section Cleanup

variable {reserved released : ℕ}

theorem await_spec {point : Await} :
    Spec (among calls undisturbed i) (At calls i reserved released) (await point)
      (fun _ => At calls i reserved released)
      (fun error state => At calls i reserved released state ∧
        ∃ awaited, undisturbed awaited (.await point) ∧ awaited.outcome = .error error) := by
  refine Spec.call (fun _ _ hat hrely => hat.of_rely hrely) ?_
  intro state awaited hat hpermits
  have hserved := @serve_quiet _ _ _ calls i (.await point) rfl awaited state
  have hafter : At calls i reserved released (serve calls i awaited (.await point) state).2 :=
    ⟨hserved.1.counted hat.counted, hat.reserved, hat.released⟩
  refine ⟨⟨hserved.1.counted, hserved.2⟩, ?_⟩
  change Ends _ _ awaited.outcome _
  cases houtcome : awaited.outcome with
  | ok => exact hafter
  | error error => exact ⟨hafter, awaited, hpermits, houtcome⟩

theorem deleteRecordingPair_spec :
    Spec (among calls undisturbed i) (At calls i reserved released) (await .deleteRecordingPair)
      (fun _ => At calls i reserved released) (fun _ _ => False) := by
  refine await_spec.mono (fun _ _ h => h) ?_
  rintro error state ⟨-, awaited, hallowed, houtcome⟩
  have hok : awaited.outcome = .ok () := hallowed
  rw [houtcome] at hok
  cases hok

theorem abortRecorder_spec (recorder : Option RecordingState) :
    Spec (among calls undisturbed i) (At calls i reserved released) (abortRecorder recorder)
      (fun _ => At calls i reserved released) (fun _ _ => False) := by
  unfold abortRecorder
  split_ifs
  · exact Spec.pure fun _ h => h
  refine await_spec.recover fun error => ?_
  split_ifs with hcancelled
  · -- a cancelled abort is ruled out
    refine Spec.raise ?_
    rintro state ⟨-, awaited, hallowed, houtcome⟩
    rw [hcancelled] at houtcome
    exact hallowed houtcome
  · exact Spec.pure fun _ h => h.1

theorem removeUnfinalized_spec (locals : Locals) :
    Spec (among calls undisturbed i) (At calls i reserved released) (removeUnfinalized locals)
      (fun _ => At calls i reserved released) (fun _ _ => False) := by
  unfold removeUnfinalized
  split_ifs
  · exact Spec.pure fun _ h => h
  · exact (abortRecorder_spec _).bind fun _ => deleteRecordingPair_spec

theorem removeActive_spec (locals : Locals) :
    Spec (among calls undisturbed i) (At calls i reserved released) (removeActive locals)
      (fun _ => At calls i reserved released) (fun _ _ => False) := by
  unfold removeActive abortActiveSegment deleteActive
  split_ifs
  · exact (abortRecorder_spec _).bind fun _ => deleteRecordingPair_spec
  · exact (abortRecorder_spec _).bind fun _ => Spec.pure fun _ h => h
  · exact Spec.pure fun _ h => h

theorem withLocals_spec {next : Locals → Coroutine}
    (hnext : ∀ locals, Spec (among calls permits i) (At calls i reserved released) (next locals)
      (fun _ => At calls i reserved released) (fun _ _ => False)) :
    Spec (among calls permits i) (At calls i reserved released) (withLocals next)
      (fun _ => At calls i reserved released) (fun _ _ => False) := by
  refine Spec.bind ?_ hnext
  refine Spec.call (fun _ _ hat hrely => hat.of_rely hrely) ?_
  intro state awaited hat _
  exact ⟨⟨id, fun _ _ => ⟨rfl, rfl, rfl⟩⟩, hat⟩

end Cleanup

/-- The call never had a slot, or has given it back. -/
def Settled (calls : ι → Call) (i : ι) (state : State ι) : Prop :=
  At calls i 0 0 state ∨ At calls i 1 1 state

theorem bracket_spec {body cleanup : Coroutine} (hbody : Quiet body)
    (hcleanup : Spec (among calls permits i) (At calls i 1 0) cleanup
      (fun _ => At calls i 1 0) (fun _ _ => False)) :
    Spec (among calls permits i) (At calls i 0 0)
      (do reserve; body.ensure (do cleanup; release))
      (fun _ => Settled calls i) (fun _ => Settled calls i) := by
  refine Spec.bind (reserve_spec.mono (fun _ _ h => h) fun _ _ h => .inl h) fun _ => ?_
  have hrelease : Spec (among calls permits i) (At calls i 1 0) (do cleanup; release)
      (fun _ => At calls i 1 1) (fun _ _ => False) := hcleanup.bind fun _ => release_spec
  have hsettled : Spec (among calls permits i) (At calls i 1 0) (do cleanup; release)
      (fun _ => Settled calls i) (fun _ => Settled calls i) :=
    hrelease.mono (fun _ _ h => .inr h) fun _ _ h => h.elim
  exact (quiet_spec hbody).ensure (fun _ => hsettled) fun _ => hsettled

theorem quiet_first_spec {first next : Coroutine} (hfirst : Quiet first)
    (hnext : Spec (among calls permits i) (At calls i 0 0) next
      (fun _ => Settled calls i) (fun _ => Settled calls i)) :
    Spec (among calls permits i) (At calls i 0 0) (do first; next)
      (fun _ => Settled calls i) (fun _ => Settled calls i) :=
  ((quiet_spec hfirst).mono (fun _ _ h => h) fun _ _ h => .inl h).bind fun _ => hnext

/-- Every call settles its slot, if its `finally` clause is not disturbed. -/
theorem coroutine_spec (i : ι) :
    Spec (among calls undisturbed i) (At calls i 0 0) (calls i).coroutine
      (fun _ => Settled calls i) (fun _ => Settled calls i) := by
  cases calls i with
  | record =>
      exact quiet_first_spec (quiet_call rfl)
        (bracket_spec quiet_recordBody (withLocals_spec removeUnfinalized_spec))
  | recordContinuous =>
      exact quiet_first_spec (quiet_call rfl)
        (bracket_spec quiet_recordContinuousBody (withLocals_spec removeActive_spec))
  | play controlId =>
      refine quiet_first_spec (quiet_call rfl) (quiet_first_spec (quiet_call rfl)
        (quiet_first_spec (quiet_call rfl) ?_))
      refine Spec.bind (reserve_spec.mono (fun _ _ h => h) fun _ _ h => .inl h) fun _ => ?_
      have hrelease : Spec (among calls undisturbed i) (At calls i 1 0) release
          (fun _ => Settled calls i) (fun _ => Settled calls i) :=
        release_spec.mono (fun _ _ h => .inr h) fun _ _ h => h.elim
      exact (quiet_spec quiet_playBody).ensure (fun _ => hrelease) fun _ => hrelease

/-! ## The release is the last step -/

/-- A call that has given back its slot has nothing more to do. -/
def ReleasesLast : Coroutine → Prop
  | .done _ => True
  | .ask request next => ∀ answer,
      (request = .release → (next answer).isDone = true) ∧ ReleasesLast (next answer)

/-- All requests are others than the release. -/
def Keeps {α : Type} (routine : Routine interface Raised α) : Prop :=
  routine.Asks fun request : Request => request ≠ .release

theorem Quiet.keeps {α : Type} {routine : Routine interface Raised α} (h : Quiet routine) :
    Keeps routine := by
  refine Asks.mono h ?_
  rintro request hquiet rfl
  cases hquiet

theorem Keeps.follow {α : Type} {routine : Routine interface Raised α}
    {next : Except Raised α → Coroutine} (h : Keeps routine)
    (hnext : ∀ outcome, ReleasesLast (next outcome)) : ReleasesLast (routine.follow next) := by
  induction routine with
  | done outcome => exact hnext outcome
  | ask request after ih =>
      exact fun answer => ⟨fun heq => absurd heq h.1, ih answer (h.2 answer)⟩

theorem Keeps.bind {α : Type} {routine : Routine interface Raised α} {next : α → Coroutine}
    (h : Keeps routine) (hnext : ∀ a, ReleasesLast (next a)) :
    ReleasesLast (routine.bind next) := by
  rw [bind_eq_follow]
  refine h.follow fun outcome => ?_
  cases outcome with
  | ok a => exact hnext a
  | error => trivial

theorem releasesLast_release (outcome : Except Raised Unit) :
    ReleasesLast (release.bind fun _ => .done outcome) := by
  intro answer
  cases answer with
  | ok => exact ⟨fun _ => rfl, trivial⟩
  | error => exact ⟨fun _ => rfl, trivial⟩

theorem quiet_abortRecorder (recorder : Option RecordingState) : Quiet (abortRecorder recorder) := by
  unfold abortRecorder
  split_ifs
  · trivial
  · refine (quiet_call rfl).recover fun raised => ?_
    split_ifs <;> trivial

theorem quiet_removeUnfinalized (locals : Locals) : Quiet (removeUnfinalized locals) := by
  unfold removeUnfinalized
  split_ifs
  · trivial
  · exact (quiet_abortRecorder _).bind fun _ => quiet_call rfl

theorem quiet_removeActive (locals : Locals) : Quiet (removeActive locals) := by
  unfold removeActive abortActiveSegment deleteActive
  split_ifs
  · exact (quiet_abortRecorder _).bind fun _ => quiet_call rfl
  · exact (quiet_abortRecorder _).bind fun _ => trivial
  · trivial

theorem releasesLast_bracket {body cleanup : Coroutine} (hbody : Quiet body)
    (hcleanup : Quiet cleanup) :
    ReleasesLast (do reserve; body.ensure (do cleanup; release)) := by
  have hreserve : Keeps reserve := asks_call (by rintro ⟨⟩)
  refine hreserve.bind fun _ => hbody.keeps.follow fun outcome => ?_
  change ReleasesLast ((cleanup.bind fun _ => release).bind fun _ => .done outcome)
  rw [Routine.bind_assoc]
  exact hcleanup.keeps.bind fun _ => releasesLast_release outcome

theorem releasesLast_coroutine (call : Call) : ReleasesLast call.coroutine := by
  have hcheck : Keeps check := (quiet_call rfl).keeps
  cases call with
  | record =>
      exact hcheck.bind fun _ => releasesLast_bracket quiet_recordBody
        ((quiet_call rfl).bind quiet_removeUnfinalized)
  | recordContinuous =>
      exact hcheck.bind fun _ => releasesLast_bracket quiet_recordContinuousBody
        ((quiet_call rfl).bind quiet_removeActive)
  | play controlId =>
      have hload : Keeps (await .loadRecordingPair) := (quiet_call rfl).keeps
      have hreserve : Keeps reserve := asks_call (by rintro ⟨⟩)
      exact hcheck.bind fun _ => hload.bind fun _ => hcheck.bind fun _ => hreserve.bind fun _ =>
        quiet_playBody.keeps.follow fun outcome => releasesLast_release outcome

theorem released_serve {request : Request} (awaited : AwaitEnd) (state : State ι) {j : ι}
    (h : request ≠ .release ∨ j ≠ i) :
    (serve calls i awaited request state).2.released j = state.released j := by
  cases request with
  | reserve =>
      change (state.reserve i (calls i)).2.released j = _
      cases calls i with
      | record | recordContinuous =>
          change (state.reserveRecording i).2.released j = _
          unfold State.reserveRecording
          split_ifs <;> rfl
      | play controlId =>
          change (state.reservePlayback i controlId).2.released j = _
          unfold State.reservePlayback
          split_ifs
          · rfl
          cases controlId with
          | none => rfl
          | some id =>
              dsimp only
              cases state.controls.insert? id i <;> rfl
  | release =>
      have hne : j ≠ i := h.resolve_left fun hrelease => hrelease rfl
      change (state.release i (calls i)).2.released j = _
      cases calls i <;> exact Function.update_of_ne hne _ _
  | _ => rfl

/-- A call that goes on has not given back a slot. -/
structure Unreleased (threads : Threads interface Raised Unit (State ι) ι) (i : ι) : Prop where
  last : ReleasesLast (threads.routine i)
  released : (threads.routine i).isDone = false → threads.state.released i = 0

theorem unreleased_advance {threads : Threads interface Raised Unit (State ι) ι}
    (h : ∀ i, Unreleased threads i) (event : ι × AwaitEnd) (i : ι) :
    Unreleased (threads.advance (server calls permits) event) i := by
  unfold Threads.advance
  cases hroutine : threads.routine event.1 with
  | done outcome => exact h i
  | ask request next =>
      have hlast := (h event.1).last
      rw [hroutine] at hlast
      have hzero : threads.state.released event.1 = 0 := (h event.1).released (by rw [hroutine]; rfl)
      by_cases hi : i = event.1
      · subst hi
        constructor
        · dsimp only
          rw [Function.update_self]
          exact (hlast _).2
        dsimp only
        rw [Function.update_self]
        intro hdone
        have hrequest : request ≠ .release := by
          intro heq
          rw [(hlast _).1 heq] at hdone
          cases hdone
        exact (released_serve event.2 threads.state (.inl hrequest)).trans hzero
      · constructor
        · dsimp only
          rw [Function.update_of_ne hi]
          exact (h i).last
        · dsimp only
          rw [Function.update_of_ne hi]
          intro hdone
          exact (released_serve event.2 threads.state (.inr hi)).trans ((h i).released hdone)

theorem unreleased_reaches {start threads : Threads interface Raised Unit (State ι) ι}
    {events : List (ι × AwaitEnd)}
    (h : (machine Unit (server calls permits)).Reaches start events threads)
    (hstart : ∀ i, Unreleased start i) (i : ι) : Unreleased threads i := by
  induction events generalizing start with
  | nil =>
      cases h
      exact hstart i
  | cons event rest ih => exact ih h.2 (unreleased_advance hstart event)

/-! ## Every run -/

/-- A call has been admitted, and has not ended. -/
def InFlight (threads : Threads interface Raised Unit (State ι) ι) (i : ι) : Prop :=
  threads.state.reserved i = 1 ∧ (threads.routine i).isDone = false

instance (threads : Threads interface Raised Unit (State ι) ι) (i : ι) :
    Decidable (InFlight threads i) :=
  inferInstanceAs (Decidable (_ ∧ _))

/-- The counts and the identifiers are those of the calls in flight, and a call that has ended
gave back what it took. -/
structure SlotsCorrect (calls : ι → Call) (threads : Threads interface Raised Unit (State ι) ι) :
    Prop where
  recordings : threads.state.activeRecordings =
    (Finset.univ.filter fun i => (calls i).isRecording = true ∧ InFlight threads i).card
  playbacks : threads.state.activePlaybacks =
    (Finset.univ.filter fun i => (calls i).isRecording = false ∧ InFlight threads i).card
  controls : ∀ id i, threads.state.controls.find? id = some i ↔
    calls i = .play (some id) ∧ InFlight threads i
  ended : ∀ i, (threads.routine i).isDone = true →
    threads.state.released i = threads.state.reserved i ∧ threads.state.reserved i ≤ 1
  idle : (∀ i, ¬ InFlight threads i) →
    threads.state.activeRecordings = 0 ∧ threads.state.activePlaybacks = 0

theorem fits_among : Routine.Fits (among calls permits)
    (fun i outcome => Ends (fun _ : Unit => Settled calls i) (fun _ => Settled calls i) outcome) where
  refl i state := ⟨id, rfl, rfl, rfl⟩
  trans i first second third hfirst hsecond :=
    ⟨fun h => hsecond.1 (hfirst.1 h), hsecond.2.reserved.trans hfirst.2.reserved,
      hsecond.2.released.trans hfirst.2.released, hsecond.2.locals.trans hfirst.2.locals⟩
  guar i j before after hne hguar := ⟨hguar.1, hguar.2 j (Ne.symm hne)⟩
  stable i outcome before after hpost hrely := by
    have hsettled : Settled calls i before → Settled calls i after :=
      Or.imp (fun h => h.of_rely hrely) fun h => h.of_rely hrely
    cases outcome <;> exact hsettled hpost

theorem counted_idle (maxActiveRecordings maxActivePlaybacks : ℕ) :
    Counted calls (State.idle maxActiveRecordings maxActivePlaybacks) := by
  constructor
  · simp [State.idle, Holds]
  · simp [State.idle, Holds]
  · intro id j
    simp [State.idle, Holds, Table.empty, Table.find?]

theorem at_idle (maxActiveRecordings maxActivePlaybacks : ℕ) (i : ι) :
    At calls i 0 0 (State.idle maxActiveRecordings maxActivePlaybacks) :=
  ⟨counted_idle _ _, rfl, rfl⟩

theorem Settled.balanced (h : Settled calls i state) :
    state.released i = state.reserved i ∧ state.reserved i ≤ 1 := by
  rcases h with h | h <;> simp [h.reserved, h.released]

variable {maxActiveRecordings maxActivePlaybacks : ℕ} {events : List (ι × AwaitEnd)}
  {threads : Threads interface Raised Unit (State ι) ι}

/-- **Slots are given back exactly once**, in every interleaving of any calls in which no
`finally` clause is cut short. -/
theorem slots_released (h : (machine Unit (server calls undisturbed)).Reaches
      (begin calls maxActiveRecordings maxActivePlaybacks) events threads) :
    SlotsCorrect calls threads := by
  have hstart : ∀ i, ((begin calls maxActiveRecordings maxActivePlaybacks).routine i).Meets
      (among calls undisturbed i)
      (fun outcome => Ends (fun _ : Unit => Settled calls i) (fun _ => Settled calls i) outcome)
      (State.idle maxActiveRecordings maxActivePlaybacks) :=
    fun i => (coroutine_spec i).run _ (at_idle _ _ i)
  have hmeets := reaches_meets fits_among h hstart
  have hcounted : Counted calls threads.state :=
    reaches_kept fits_among (fun _ _ _ hguar => hguar.1) h hstart (counted_idle _ _)
  have hunreleased : ∀ i, Unreleased threads i :=
    unreleased_reaches h fun i => ⟨releasesLast_coroutine _, fun _ => rfl⟩
  have hended : ∀ i, (threads.routine i).isDone = true → Settled calls i threads.state := by
    intro i hdone
    have hthread := hmeets i
    cases hroutine : threads.routine i with
    | done outcome =>
        rw [hroutine] at hthread
        cases outcome <;> exact hthread
    | ask request next =>
        rw [hroutine] at hdone
        cases hdone
  have hholds : Holds threads.state = InFlight threads := by
    funext i
    refine propext ⟨fun hholds => ⟨hholds.1, ?_⟩,
      fun hflight => ⟨hflight.1, (hunreleased i).released hflight.2⟩⟩
    -- a call that has ended holds nothing
    by_contra hdone
    have hbalanced := (hended i (by simpa using hdone)).balanced.1
    rw [hholds.1, hholds.2] at hbalanced
    cases hbalanced
  have hrecordings := hcounted.recordings
  have hplaybacks := hcounted.playbacks
  simp only [hholds] at hrecordings hplaybacks
  constructor
  case recordings => exact hrecordings
  case playbacks => exact hplaybacks
  case controls =>
    intro id i
    rw [hcounted.controls id i, hholds]
  case ended => exact fun i hdone => (hended i hdone).balanced
  case idle =>
    intro hidle
    rw [hrecordings, hplaybacks]
    simp [hidle]

/-! ## A recording whose source cannot be resolved -/

def quietly (outcome : Except Raised Unit) : Fin 1 × AwaitEnd :=
  (0, ⟨outcome, .created, ⟨false, none, false⟩⟩)

/-- The call is admitted, its source cannot be resolved, and it comes to the deletion. -/
def unresolved : List (Fin 1 × AwaitEnd) :=
  [quietly (.ok ()), quietly (.ok ()), quietly (.error .other), quietly (.ok ())]

def single : Fin 1 → Call := fun _ => .record

def afterEvents (events : List (Fin 1 × AwaitEnd)) :
    Threads interface Raised Unit (State (Fin 1)) (Fin 1) :=
  events.foldl (Threads.advance (server single possible)) (begin single 2 2)

/-- Left alone, the call gives its slot back. -/
theorem slots_released_unresolved :
    SlotsCorrect single (afterEvents (unresolved ++ [quietly (.ok ()), quietly (.ok ())])) ∧
      (afterEvents (unresolved ++ [quietly (.ok ()), quietly (.ok ())])).state.reserved 0 = 1 := by
  have hreach : (machine Unit (server single undisturbed)).Reaches (begin single 2 2)
      (unresolved ++ [quietly (.ok ()), quietly (.ok ())])
      (afterEvents (unresolved ++ [quietly (.ok ()), quietly (.ok ())])) :=
    ⟨(by rintro ⟨⟩), trivial, trivial, trivial, rfl, trivial, rfl⟩
  exact ⟨slots_released hreach, rfl⟩

/-- Cancelled in the deletion, it ends with its slot, and the coordinator counts it for ever. -/
theorem slot_leaked : (machine Unit (server single possible)).Reaches (begin single 2 2)
        (unresolved ++ [quietly (.error .cancelled)])
        (afterEvents (unresolved ++ [quietly (.error .cancelled)])) ∧
      ((afterEvents (unresolved ++ [quietly (.error .cancelled)])).routine 0).isDone = true ∧
      (afterEvents (unresolved ++ [quietly (.error .cancelled)])).state.activeRecordings = 1 ∧
      ¬ SlotsCorrect single (afterEvents (unresolved ++ [quietly (.error .cancelled)])) := by
  refine ⟨⟨(by rintro ⟨⟩), trivial, trivial, trivial, trivial, rfl⟩, rfl, rfl, fun h => ?_⟩
  have hbalanced := (h.ended 0 rfl).1
  exact absurd hbalanced (by decide)

end K5Vision.Media.Coordinators
