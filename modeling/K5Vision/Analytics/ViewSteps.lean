import K5Vision.Analytics.ViewResume

/-!
# Calls begin and are cancelled

With these steps `Inv` is kept by all of them.  Where no call is cancelled that has views before it
(`Thorough`), each view that has left the dictionary stays with somebody; without that, the rest of
the invariant holds all the same.
-/

namespace K5Vision.Analytics.Views

open Library
open Function (update update_of_ne update_self)

variable {ω γ : Type} [DecidableEq ω] [DecidableEq γ]

namespace Broker

variable {broker before after : Broker ω γ} {thorough : Prop} {hand locked rest : List ℕ}
  {call number : ℕ} {outcome : Outcome}

/-! ## A call begins -/

omit [DecidableEq ω] [DecidableEq γ] in
def start (call : ℕ) (method : Method ω γ) (broker : Broker ω γ) : Broker ω γ :=
  { broker with
    methods := update broker.methods call (some method) }.setPhase call .running

theorem Inv.start (h : Inv thorough [] [] broker) (hidle : broker.phases call = .idle)
    (method : Method ω γ) : Inv thorough [] [] (broker.start call method) := by
  have hmethods : ∀ other named, broker.methods other = some named →
      (broker.start call method).methods other = some named := by
    intro other named hnamed
    have hne : other ≠ call := by
      rintro rfl
      rw [(h.fresh other hidle).1] at hnamed
      cases hnamed
    exact (update_of_ne hne ..).trans hnamed
  have hstops : ∀ other number, broker.Stops other number →
      (broker.start call method).Stops other number := by
    rintro other number ⟨key, hkey, howner | hclose⟩
    · exact ⟨key, hkey, .inl (hmethods other _ howner)⟩
    · exact ⟨key, hkey, .inr (hmethods other _ hclose)⟩
  have halone : Alone call broker (broker.start call method) := by
    refine ⟨?_, fun other hne => update_of_ne hne ..⟩
    exact { Later.refl call broker with stops := hstops }
  have hself : (broker.start call method).phases call = .running := update_self ..
  have hcovered : ∀ number, broker.Covered number →
      (broker.start call method).Covered number :=
    fun number hcovered => halone.covered hcovered fun _ _ _ hjoining => by
      rw [hidle] at hjoining
      cases hjoining
  refine { h with
    current := fun number operation hoperation => ?_
    awaited := fun other operation hother => ?_
    busy := fun number hbusy => (h.busy number hbusy).imp_right (hcovered number)
    covered := fun hthorough number hdropped => ?_
    knows := halone.knows h (by rw [hself]; trivial)
    flagged := fun _ => halone.flagged h fun _ => by rw [hself]; rfl
    cancels := fun operation task htask => ?_
    fresh := fun other hother => ?_ }
  · obtain ⟨task, htask, hview, hawaiting⟩ := h.current number operation hoperation
    refine ⟨task, htask, hview, ?_⟩
    rw [halone.phases]
    · exact hawaiting
    · intro heq
      rw [heq, hidle] at hawaiting
      cases hawaiting
  · by_cases heq : other = call
    · rw [heq, hself] at hother
      cases hother
    · rw [halone.phases other heq] at hother
      exact h.awaited other operation hother
  · rcases (h.covered hthorough number hdropped).resolve_left List.not_mem_nil with
      hold | hlisted | hopen
    · exact .inr (.inl (hcovered number hold))
    · refine .inr (.inr (.inl ((halone.listed hlisted).resolve_left fun hmem => ?_)))
      rw [hidle] at hmem
      cases hmem
    · exact .inr (.inr (.inr hopen))
  · obtain ⟨hall, hnonempty⟩ := h.cancels operation task htask
    exact ⟨fun other hmem => (hall other hmem).imp_right (hstops other _), hnonempty⟩
  · obtain ⟨hne, hnone, hflag⟩ := halone.fresh h (by rw [hself]; simp) hother
    exact ⟨(update_of_ne hne ..).trans hnone, hflag⟩

omit [DecidableEq ω] [DecidableEq γ] in
/-- The views that `drop` takes out of the dictionary. -/
def selected (dropped : (ω × γ) × ℕ → Bool) (broker : Broker ω γ) : List ℕ :=
  (broker.views.rows.filter dropped).map Prod.snd

omit [DecidableEq ω] [DecidableEq γ] in
theorem drop_eq (mark : Bool) (dropped : (ω × γ) × ℕ → Bool) (broker : Broker ω γ) :
    broker.drop mark dropped = { broker with
      views := broker.views.keep fun row => !dropped row
      objects := fun number => { broker.objects number with
        closed := (mark && decide (number ∈ broker.selected dropped)) ||
          (broker.objects number).closed } } := by
  have hobjects : (broker.drop mark dropped).objects = fun number => { broker.objects number with
      closed := (mark && decide (number ∈ broker.selected dropped)) ||
        (broker.objects number).closed } := by
    funext number
    change (if mark = true ∧ number ∈ broker.selected dropped then _ else _) = _
    by_cases hmark : mark = true ∧ number ∈ broker.selected dropped
    · rw [if_pos hmark]
      simp [hmark.1, hmark.2]
    rw [if_neg hmark]
    have hfalse : (mark && decide (number ∈ broker.selected dropped)) = false := by
      simpa using hmark
    rw [hfalse, Bool.false_or]
  rw [← hobjects]
  rfl

theorem mem_selected {dropped : (ω × γ) × ℕ → Bool} : number ∈ broker.selected dropped ↔
      ∃ key, broker.views.find? key = some number ∧ dropped (key, number) = true := by
  simp only [selected, List.mem_map, List.mem_filter, Prod.exists, exists_eq_right, Table.mem_rows]

theorem find?_drop {mark : Bool} {dropped : (ω × γ) × ℕ → Bool} {key : ω × γ} :
    (broker.drop mark dropped).views.find? key = some number ↔
      broker.views.find? key = some number ∧ dropped (key, number) = false := by
  rw [drop_eq, Table.find?_keep, Bool.not_eq_true']

theorem Inv.not_selected (h : Inv thorough hand locked broker)
    {dropped : (ω × γ) × ℕ → Bool} {key : ω × γ}
    (hfind : broker.views.find? key = some number) (hkeep : dropped (key, number) = false) :
    number ∉ broker.selected dropped := by
  intro hmem
  obtain ⟨other, hother, hdropped⟩ := mem_selected.mp hmem
  have hkey := (h.rows key number hfind).2.1
  rw [(h.rows other number hother).2.1] at hkey
  cases hkey
  rw [hkeep] at hdropped
  cases hdropped

theorem later_drop (mark : Bool) (dropped : (ω × γ) × ℕ → Bool) (call : ℕ)
    (broker : Broker ω γ) : Later call broker (broker.drop mark dropped) := by
  have hdropped : ∀ number, broker.Dropped number →
      (broker.drop mark dropped).Dropped number :=
    fun number hnumber => ⟨hnumber.1, fun key hfound => hnumber.2 key (find?_drop.mp hfound).1⟩
  rw [drop_eq] at hdropped ⊢
  exact { Later.refl call broker with
    dropped := hdropped
    settled := fun number hsettled => ⟨hdropped number hsettled.1, hsettled.2⟩ }

theorem Inv.drop (h : Inv thorough [] [] broker) (mark : Bool) (dropped : (ω × γ) × ℕ → Bool) :
    Inv thorough (broker.selected dropped) [] (broker.drop mark dropped) := by
  have hlater := fun call => later_drop mark dropped call broker
  have hnot : ∀ key number, broker.views.find? key = some number →
      dropped (key, number) = false → number ∉ broker.selected dropped :=
    fun _ _ => h.not_selected
  have hfind : ∀ {key number}, (broker.drop mark dropped).views.find? key = some number →
      broker.views.find? key = some number ∧ dropped (key, number) = false := find?_drop.mp
  rw [drop_eq] at hlater hfind ⊢
  refine { h with
    rows := fun key number hfound => ?_
    size := (List.length_filter_le _ _).trans h.size
    closes := fun provider hprovider => ⟨(h.closes provider hprovider).1,
      (hlater 0).dropped _ (h.closes provider hprovider).2⟩
    busy := fun number hbusy =>
      (h.busy number hbusy).imp_right fun hcovered => hcovered.later (hlater 0) rfl
    covered := fun hthorough number hnumber => ?_
    knows := fun other => (h.knows other).later (Nat.succ_ne_self other).symm (hlater _) }
  · obtain ⟨hold, hkeep⟩ := hfind hfound
    obtain ⟨hlt, hkey, hopen⟩ := h.rows key number hold
    refine ⟨hlt, hkey, ?_⟩
    change ((mark && decide (number ∈ broker.selected dropped)) || _) = false
    rw [decide_eq_false (hnot key number hold hkeep), Bool.and_false, Bool.false_or]
    exact hopen
  by_cases hold : broker.Dropped number
  · rcases (h.covered hthorough number hold).resolve_left List.not_mem_nil with
      hcovered | hlisted | ⟨hclosed, hopen⟩
    · exact .inr (.inl (hcovered.later (hlater 0) rfl))
    · exact .inr (.inr (.inl hlisted))
    · refine .inr (.inr (.inr ⟨?_, hopen⟩))
      change ((mark && decide (number ∈ broker.selected dropped)) || _) = true
      rw [hclosed, Bool.or_true]
  · refine .inl ?_
    by_contra hkept
    refine hold ⟨hnumber.1, fun key hfound => hnumber.2 key ?_⟩
    rw [Table.find?_keep]
    refine ⟨hfound, Bool.not_eq_true' .. |>.mpr (Bool.eq_false_iff.mpr fun htrue => ?_)⟩
    exact hkept (mem_selected.mpr ⟨key, hfound, htrue⟩)

theorem Inv.dropped_selected (h : Inv thorough hand locked broker) {mark : Bool}
    {dropped : (ω × γ) × ℕ → Bool} (hmem : number ∈ broker.selected dropped) :
    (broker.drop mark dropped).Dropped number := by
  obtain ⟨key, hfind, -⟩ := mem_selected.mp hmem
  refine ⟨(h.rows key number hfind).1, fun other hother => ?_⟩
  obtain ⟨hold, hkeep⟩ := find?_drop.mp hother
  exact h.not_selected hold hkeep hmem

theorem Inv.disposeDropped (h : Inv thorough [] [] broker)
    (hrunning : broker.phases call = .running)
    (hflag : broker.flagged call = false) (mark : Bool) (dropped : (ω × γ) × ℕ → Bool)
    (hmay : ∀ key number, broker.views.find? key = some number → dropped (key, number) = true →
      (broker.objects number).operation = none ∨ broker.Stops call number) :
    Ready thorough call .nothing (broker.selected dropped) [] (broker.selected dropped)
      (broker.drop mark dropped) := by
  have hlater := later_drop mark dropped call broker
  refine ⟨h.drop mark dropped, ?_, ?_, fun number hmem => ?_, nofun⟩
  · rw [drop_eq]
    exact hrunning
  · rw [drop_eq]
    exact hflag
  refine ⟨h.dropped_selected hmem, ?_⟩
  obtain ⟨key, hfind, hdropped⟩ := mem_selected.mp hmem
  rcases hmay key number hfind hdropped with hnone | hstops
  · refine .inl ?_
    rw [drop_eq]
    exact hnone
  · exact .inr (hlater.stops call number hstops)

theorem Inv.closeOwner (h : Inv thorough [] [] broker) (hrunning : broker.phases call = .running)
    (hflag : broker.flagged call = false) (owner : Option ω)
    (hmethod : broker.methods call = some (.closeOwner owner)) :
    Inv thorough [] [] (broker.closeOwner call owner) := by
  cases owner with
  | none => exact Ready.finish ⟨h, hrunning, hflag, nofun, nofun⟩
  | some owner =>
      have hstops : ∀ key number, broker.views.find? key = some number →
          decide (key.1 = owner) = true → broker.Stops call number := by
        intro key number hfind hselected
        refine ⟨key, (h.rows key number hfind).2.1, .inl ?_⟩
        rw [hmethod, of_decide_eq_true hselected]
      exact (h.disposeDropped hrunning hflag true _
        fun key number hfind hselected => .inr (hstops key number hfind hselected)).disposeAll

theorem Inv.expireIdle (h : Inv thorough [] [] broker) (hrunning : broker.phases call = .running)
    (hflag : broker.flagged call = false) (now : ℚ) :
    Inv thorough [] [] (broker.expireIdle call now) := by
  have hfree : ∀ key number, broker.views.find? key = some number →
      ((broker.objects number).operation.isNone &&
        decide (broker.config.idle ≤ now - (broker.objects number).lastUsed)) = true →
          (broker.objects number).operation = none := fun key number _ hexpired =>
    Option.isNone_iff_eq_none.mp (Bool.and_eq_true_iff.mp hexpired).1
  exact (h.disposeDropped hrunning hflag false _
    fun key number hfind hexpired => .inl (hfree key number hfind hexpired)).disposeAll

theorem Inv.shut (h : Inv thorough hand locked broker) :
    Inv thorough hand locked { broker with closed := true } where
  __ := h

theorem Inv.aclose (h : Inv thorough [] [] broker) (hrunning : broker.phases call = .running)
    (hflag : broker.flagged call = false) (hmethod : broker.methods call = some .aclose) :
    Inv thorough [] [] (broker.aclose call) := by
  have hready := h.disposeDropped hrunning hflag true (fun _ => true)
    fun key number hfind _ => .inr ⟨key, (h.rows key number hfind).2.1, .inr hmethod⟩
  have hclosed : Ready thorough call .nothing (broker.selected fun _ => true) []
      (broker.selected fun _ => true) { broker.drop true fun _ => true with closed := true } := by
    exact { hready with inv := hready.inv.shut }
  exact hclosed.disposeAll

/-! ## `infer` begins -/

theorem Inv.lt_of_covered (h : Inv thorough hand locked broker) (hcovered : broker.Covered number) :
    number < broker.viewCount := by
  rcases hcovered with hsettled | ⟨other, operation, rest, outcome, hjoining⟩
  · exact hsettled.1.1
  · have hknows := h.knows other
    rw [hjoining] at hknows
    exact hknows.2.1.1

theorem Inv.providerViews_lt (h : Inv thorough hand locked broker) {provider : ℕ}
    (hlt : provider < broker.providerCount) :
    broker.providerViews provider < broker.viewCount := by
  rcases h.owned provider hlt with hclosed | hholds
  · exact (h.closes provider hclosed).2.1
  · exact (h.held _ provider hholds).2.2.2

theorem objects_addView_of_ne {key : ω × γ} {now : ℚ} (hne : number ≠ broker.viewCount) :
    (broker.addView key now).objects number = broker.objects number :=
  update_of_ne hne ..

theorem objects_addView (key : ω × γ) (now : ℚ) (broker : Broker ω γ) :
    (broker.addView key now).objects broker.viewCount =
      ⟨some key, now, now, none, none, none, false, none, 0⟩ :=
  update_self ..

theorem find?_addView (key : ω × γ) (now : ℚ) (broker : Broker ω γ) (other : ω × γ) :
    (broker.addView key now).views.find? other =
      if other = key then some broker.viewCount else broker.views.find? other :=
  Table.find?_upsert broker.views key broker.viewCount other

theorem Inv.later_addView (h : Inv thorough [] [] broker) {key : ω × γ} (now : ℚ) (call : ℕ) :
    Later call broker (broker.addView key now) := by
  have hdropped : ∀ number, broker.Dropped number → (broker.addView key now).Dropped number := by
    intro number hnumber
    refine ⟨Nat.lt_succ_of_lt hnumber.1, fun other hfound => ?_⟩
    rw [find?_addView] at hfound
    split_ifs at hfound with heq
    · exact Nat.ne_of_lt hnumber.1 (Option.some.inj hfound).symm
    · exact hnumber.2 other hfound
  refine ⟨hdropped, fun number hsettled => ?_, fun other number hstops => ?_,
    fun number hnumber hnone => ?_, fun other number _ hlock => ?_, fun _ _ _ => id,
    fun _ task htask => ⟨task, htask, rfl, rfl, fun _ => id⟩, fun _ => id⟩
  · refine ⟨hdropped number hsettled.1, ?_, hsettled.2.2⟩
    rw [objects_addView_of_ne (Nat.ne_of_lt hsettled.1.1)]
    exact hsettled.2.1
  · obtain ⟨found, hkey, hmethod⟩ := hstops
    refine ⟨found, ?_, hmethod⟩
    rw [objects_addView_of_ne]
    · exact hkey
    · rintro rfl
      rw [h.unborn _ (Nat.le_refl _)] at hkey
      cases hkey
  · rw [objects_addView_of_ne (Nat.ne_of_lt hnumber.1)]
    exact hnone
  · have hlt : number < broker.viewCount := by
      refine h.lt_of_covered ((h.busy number (.inl ?_)).resolve_left List.not_mem_nil)
      rw [hlock]
      exact Option.some_ne_none other
    rw [objects_addView_of_ne (Nat.ne_of_lt hlt)]
    exact hlock

theorem Inv.addView (h : Inv thorough [] [] broker) {key : ω × γ}
    (hnone : broker.views.find? key = none)
    (hroom : broker.views.rows.length < broker.config.maxViews) (now : ℚ) :
    Inv thorough [] [] (broker.addView key now) := by
  have hlater : ∀ call, Later call broker (broker.addView key now) := h.later_addView now
  have hold : ∀ {other}, other < broker.viewCount →
      (broker.addView key now).objects other = broker.objects other :=
    fun hlt => objects_addView_of_ne (Nat.ne_of_lt hlt)
  refine ⟨fun other number hfound => ?_, ?_, fun operation task htask => ?_,
    fun number operation hoperation => ?_, fun operation number hlive => ?_,
    fun call operation hawaiting => ?_, fun number provider hprovider => ?_,
    fun provider hlt => ?_, h.once,
    fun provider hmem =>
      ⟨(h.closes provider hmem).1, (hlater 0).dropped _ (h.closes provider hmem).2⟩,
    fun use huse => ?_, fun number hbusy => ?_, fun hthorough number hdropped => ?_,
    fun call => (h.knows call).later (Nat.succ_ne_self call).symm (hlater _), h.flagged,
    fun operation task htask => ?_, fun operation task htask hfactory => ?_, h.fresh,
    fun number hle => ?_⟩
  · rw [find?_addView] at hfound
    split_ifs at hfound with heq
    · cases hfound
      rw [objects_addView, heq]
      exact ⟨Nat.lt_succ_self _, rfl, rfl⟩
    · obtain ⟨hlt, hkey, hopen⟩ := h.rows other number hfound
      rw [hold hlt]
      exact ⟨Nat.lt_succ_of_lt hlt, hkey, hopen⟩
  · exact (Table.length_upsert_le ..).trans hroom
  · obtain ⟨hless, hlt, hkey⟩ := h.tasks operation task htask
    rw [hold hlt]
    exact ⟨hless, Nat.lt_succ_of_lt hlt, hkey⟩
  · have hne : number ≠ broker.viewCount := by
      rintro rfl
      rw [objects_addView] at hoperation
      cases hoperation
    rw [objects_addView_of_ne hne] at hoperation
    exact h.current number operation hoperation
  · have hcurrent := h.live operation number hlive
    obtain ⟨task, htask, rfl, -⟩ := hlive
    rw [hold (h.tasks operation task htask).2.1]
    exact hcurrent
  · obtain ⟨task, htask, hcall, hcurrent⟩ := h.awaited call operation hawaiting
    refine ⟨task, htask, hcall, ?_⟩
    rw [hold (h.tasks operation task htask).2.1]
    exact hcurrent
  · have hne : number ≠ broker.viewCount := by
      rintro rfl
      rw [objects_addView] at hprovider
      cases hprovider
    rw [objects_addView_of_ne hne] at hprovider
    obtain ⟨hlt, hviews, hopen, hcount⟩ := h.held number provider hprovider
    exact ⟨hlt, hviews, hopen, Nat.lt_succ_of_lt hcount⟩
  · refine (h.owned provider hlt).imp_right fun hholds => ?_
    have hless := h.providerViews_lt hlt
    exact (congrArg View.provider (hold hless)).trans hholds
  · obtain ⟨hlt, hkey⟩ := h.uses use huse
    exact ⟨hlt, (congrArg View.key (hold (h.providerViews_lt hlt))).trans hkey⟩
  · have hne : number ≠ broker.viewCount := by
      rintro rfl
      rw [objects_addView] at hbusy
      rcases hbusy with hlock | hpos
      · exact hlock rfl
      · cases hpos
    rw [objects_addView_of_ne hne] at hbusy
    exact (h.busy number hbusy).imp_right fun hcovered => hcovered.later (hlater 0) rfl
  · have hne : number ≠ broker.viewCount := by
      rintro rfl
      refine hdropped.2 key ?_
      rw [find?_addView, if_pos rfl]
    have hbefore : broker.Dropped number := by
      refine ⟨Nat.lt_of_le_of_ne (Nat.le_of_lt_succ hdropped.1) hne, fun other hfound => ?_⟩
      refine hdropped.2 other ?_
      rw [find?_addView, if_neg]
      · exact hfound
      · rintro rfl
        rw [hnone] at hfound
        cases hfound
    rw [objects_addView_of_ne hne]
    exact (h.covered hthorough number hbefore).imp_right
      (.imp_left fun hcovered => hcovered.later (hlater 0) rfl)
  · obtain ⟨hall, hnonempty⟩ := h.cancels operation task htask
    exact ⟨fun other hmem => (hall other hmem).imp_right ((hlater 0).stops other _), hnonempty⟩
  · rw [hold (h.tasks operation task htask).2.1]
    exact h.making operation task htask hfactory
  · have hne : number ≠ broker.viewCount := Nat.ne_of_gt hle
    rw [objects_addView_of_ne hne]
    exact h.unborn number (Nat.le_of_succ_le hle)

omit [DecidableEq ω] [DecidableEq γ] in
/-- The new operation of a view, in the call that awaits it. -/
def launch (call : ℕ) (submission : Submission ω γ) (number : ℕ) (now : ℚ)
    (broker : Broker ω γ) : Broker ω γ :=
  { broker with
    objects := fun other => { broker.objects other with
      lastUsed := if other = number then now else (broker.objects other).lastUsed
      lastSubmission := if other = number then some now else (broker.objects other).lastSubmission
      operation := if other = number then some broker.operationCount
        else (broker.objects other).operation }
    operationCount := broker.operationCount + 1
    operations := update broker.operations broker.operationCount
      (some ⟨call, number, submission, now, .created, false, []⟩)
    phases := update broker.phases call (.awaiting broker.operationCount) }

omit [DecidableEq ω] [DecidableEq γ] in
theorem submit_eq_launch (submission : Submission ω γ) (number : ℕ) (now : ℚ)
    (broker : Broker ω γ) :
    { (broker.setView number { broker.objects number with
          lastUsed := now
          lastSubmission := some now
          operation := some broker.operationCount }).setOperation broker.operationCount
        ⟨call, number, submission, now, .created, false, []⟩ with
      operationCount := broker.operationCount + 1 }.setPhase call
        (.awaiting broker.operationCount) = broker.launch call submission number now := by
  have hobjects : update broker.objects number { broker.objects number with
      lastUsed := now, lastSubmission := some now, operation := some broker.operationCount } =
        (broker.launch call submission number now).objects := by
    funext other
    by_cases heq : other = number
    · subst heq
      simp [launch]
    · simp [launch, heq]
  rw [setView, hobjects]
  rfl

theorem Inv.launch (h : Inv thorough [] [] broker) (hrunning : broker.phases call = .running)
    (hflag : broker.flagged call = false) {submission : Submission ω γ}
    (hfind : broker.views.find? submission.key = some number)
    (hfree : (broker.objects number).operation = none) (now : ℚ) :
    Inv thorough [] [] (broker.launch call submission number now) := by
  obtain ⟨hnumber, hkey, -⟩ := h.rows _ number hfind
  have hnotDropped : ∀ {other}, broker.Dropped other → other ≠ number := by
    rintro other hdropped rfl
    exact hdropped.2 _ hfind
  have hbefore : ∀ {operation task}, broker.operations operation = some task →
      (broker.launch call submission number now).operations operation = some task := by
    intro operation task htask
    have hne := Nat.ne_of_lt (h.tasks operation task htask).1
    exact (update_of_ne hne ..).trans htask
  have hafter : ∀ {operation task},
      (broker.launch call submission number now).operations operation = some task →
        (operation = broker.operationCount ∧
          task = ⟨call, number, submission, now, .created, false, []⟩) ∨
            broker.operations operation = some task := by
    intro operation task htask
    change update broker.operations broker.operationCount _ operation = some task at htask
    by_cases heq : operation = broker.operationCount
    · rw [heq, update_self] at htask
      exact .inl ⟨heq, (Option.some.inj htask).symm⟩
    · rw [update_of_ne heq] at htask
      exact .inr htask
  have hself : (broker.launch call submission number now).phases call =
      .awaiting broker.operationCount := update_self ..
  have hlater : Later call broker (broker.launch call submission number now) := by
    have hlive : ∀ operation other, broker.Dropped other →
        (broker.launch call submission number now).Live operation other →
          broker.Live operation other := by
      rintro operation other hdropped ⟨task, htask, rfl, hdone⟩
      rcases hafter htask with ⟨-, rfl⟩ | hold
      · exact absurd rfl (hnotDropped hdropped)
      · exact ⟨task, hold, rfl, hdone⟩
    refine { Later.refl call broker with
      settled := fun other hsettled => ⟨hsettled.1, hsettled.2.1, fun operation hother =>
        hsettled.2.2 operation (hlive operation other hsettled.1 hother)⟩
      operation := fun other hdropped hnone => ?_
      live := hlive
      tasks := fun _ task htask => ⟨task, hbefore htask, rfl, rfl, fun _ => id⟩ }
    change (if other = number then _ else (broker.objects other).operation) = none
    rwa [if_neg (hnotDropped hdropped)]
  have halone : Alone call broker (broker.launch call submission number now) :=
    ⟨hlater, fun other hne => update_of_ne hne ..⟩
  have hcovered : ∀ other, broker.Covered other →
      (broker.launch call submission number now).Covered other :=
    fun other hcovered => halone.covered hcovered fun _ _ _ hjoining => by
      rw [hrunning] at hjoining
      cases hjoining
  refine { h with
    tasks := fun operation task htask => ?_
    current := fun other operation hoperation => ?_
    live := fun operation other hlive => ?_
    awaited := fun other operation hawaiting => ?_
    busy := fun other hbusy => (h.busy other hbusy).imp_right (hcovered other)
    covered := fun hthorough other hdropped => ?_
    knows := halone.knows h (by rw [hself]; trivial)
    flagged := fun _ => halone.flagged h fun htrue => by rw [hflag] at htrue; cases htrue
    cancels := fun operation task htask => ?_
    making := fun operation task htask hfactory => ?_
    fresh := fun _ hidle => (halone.fresh h (by rw [hself]; simp) hidle).2 }
  · rcases hafter htask with ⟨rfl, rfl⟩ | hold
    · exact ⟨Nat.lt_succ_self _, hnumber, hkey⟩
    · obtain ⟨hless, hview, hsame⟩ := h.tasks operation task hold
      exact ⟨Nat.lt_succ_of_lt hless, hview, hsame⟩
  · change (if other = number then some broker.operationCount
      else (broker.objects other).operation) = some operation at hoperation
    split_ifs at hoperation with heq
    · cases hoperation
      exact ⟨_, update_self .., heq.symm, hself⟩
    obtain ⟨task, htask, hview, hawaiting⟩ := h.current other operation hoperation
    refine ⟨task, hbefore htask, hview, ?_⟩
    rw [halone.phases]
    · exact hawaiting
    · intro hcall
      rw [hcall, hrunning] at hawaiting
      cases hawaiting
  · change (if other = number then some broker.operationCount
      else (broker.objects other).operation) = some operation
    obtain ⟨task, htask, rfl, hdone⟩ := hlive
    rcases hafter htask with ⟨rfl, rfl⟩ | hold
    · exact if_pos rfl
    have hcurrent := h.live operation task.view ⟨task, hold, rfl, hdone⟩
    rw [if_neg]
    · exact hcurrent
    · intro heq
      rw [heq, hfree] at hcurrent
      cases hcurrent
  · by_cases heq : other = call
    · rw [heq, hself] at hawaiting
      cases hawaiting
      exact ⟨_, update_self .., heq.symm, if_pos rfl⟩
    · rw [halone.phases other heq] at hawaiting
      obtain ⟨task, htask, hcall, hcurrent⟩ := h.awaited other operation hawaiting
      refine ⟨task, hbefore htask, hcall, ?_⟩
      change (if task.view = number then some broker.operationCount
        else (broker.objects task.view).operation) = some operation
      rw [if_neg]
      · exact hcurrent
      · intro hview
        rw [hview, hfree] at hcurrent
        cases hcurrent
  · rcases (h.covered hthorough other hdropped).resolve_left List.not_mem_nil with
      hold | hlisted | ⟨hclosed, hopen⟩
    · exact .inr (.inl (hcovered other hold))
    · refine .inr (.inr (.inl ((halone.listed hlisted).resolve_left fun hmem => ?_)))
      rw [hrunning] at hmem
      cases hmem
    · refine .inr (.inr (.inr ⟨hclosed, ?_⟩))
      change (if other = number then some broker.operationCount
        else (broker.objects other).operation) ≠ none
      rwa [if_neg (hnotDropped hdropped)]
  · rcases hafter htask with ⟨rfl, rfl⟩ | hold
    · exact ⟨nofun, by rintro (hcancelling | hstate) <;> contradiction⟩
    · exact h.cancels operation task hold
  · rcases hafter htask with ⟨rfl, rfl⟩ | hold
    · cases hfactory
    · exact h.making operation task hold hfactory

theorem Inv.submit (h : Inv thorough [] [] broker) (hrunning : broker.phases call = .running)
    (hflag : broker.flagged call = false) {submission : Submission ω γ}
    (hfind : broker.views.find? submission.key = some number) (now : ℚ) :
    Inv thorough [] [] (broker.submit call submission number now) := by
  rw [Broker.submit]
  simp only
  split_ifs with hclosed hbusy
  · exact Ready.finish ⟨h, hrunning, hflag, (by simp), fun h => by cases h⟩
  · exact Ready.finish ⟨h, hrunning, hflag, (by simp), fun h => by cases h⟩
  have hfree : (broker.objects number).operation = none := by
    simp only [Bool.or_eq_true, not_or, Bool.not_eq_true, Option.isSome_eq_false_iff,
      Option.isNone_iff_eq_none] at hbusy
    exact hbusy.1
  rw [submit_eq_launch]
  exact h.launch hrunning hflag hfind hfree now

theorem Inv.infer (h : Inv thorough [] [] broker) (hrunning : broker.phases call = .running)
    (hflag : broker.flagged call = false) (arguments : Arguments ω γ) (now : ℚ) :
    Inv thorough [] [] (broker.infer call arguments now) := by
  rw [Broker.infer]
  cases arguments.validate with
  | error message => exact Ready.finish ⟨h, hrunning, hflag, (by simp), fun h => by cases h⟩
  | ok submission =>
      simp only
      cases hfind : broker.views.find? submission.key with
      | some number =>
          simp only
          split_ifs with hclosed
          · exact Ready.finish ⟨h, hrunning, hflag, (by simp), fun h => by cases h⟩
          · exact h.submit hrunning hflag hfind now
      | none =>
          simp only
          split_ifs with hclosed hfull
          · exact Ready.finish ⟨h, hrunning, hflag, (by simp), fun h => by cases h⟩
          · exact Ready.finish ⟨h, hrunning, hflag, (by simp), fun h => by cases h⟩
          · refine (h.addView hfind (Nat.lt_of_not_le hfull) now).submit hrunning hflag ?_ now
            rw [find?_addView, if_pos rfl]

theorem Inv.begin (h : Inv thorough [] [] broker) (hidle : broker.phases call = .idle)
    (method : Method ω γ) (now : ℚ) : Inv thorough [] [] (broker.begin call method now) := by
  have hstart := h.start hidle method
  have hrunning : (broker.start call method).phases call = .running := phases_setPhase ..
  have hflag : (broker.start call method).flagged call = false := (h.fresh call hidle).2
  have hmethod : (broker.start call method).methods call = some method := update_self ..
  unfold Broker.begin
  cases method with
  | infer arguments => exact hstart.infer hrunning hflag arguments now
  | closeOwner owner => exact hstart.closeOwner hrunning hflag owner hmethod
  | expireIdle => exact hstart.expireIdle hrunning hflag now
  | aclose => exact hstart.aclose hrunning hflag hmethod

/-! ## A caller cancels its call -/

theorem Inv.request (h : Inv thorough [] [] broker) (call : ℕ) :
    Inv thorough [] [] { broker with requested := update broker.requested call true } := by
  have hrequested : ∀ other, broker.requested other = true →
      update broker.requested call true other = true := by
    intro other hother
    by_cases heq : other = call
    · rw [heq, update_self]
    · rwa [update_of_ne heq]
  have hlater : ∀ other, Later other broker
      { broker with requested := update broker.requested call true } := fun other =>
    { Later.refl other broker with requested := hrequested }
  exact { h with
    knows := fun other => (h.knows other).later (Nat.succ_ne_self other).symm (hlater _)
    flagged := fun other hflagged =>
      ⟨hrequested other (h.flagged other hflagged).1, (h.flagged other hflagged).2⟩
    cancels := fun operation task htask =>
      ⟨fun other hmem => ((h.cancels operation task htask).1 other hmem).imp_left
        (.imp_right (hrequested other)), (h.cancels operation task htask).2⟩ }

theorem Inv.flag (h : Inv thorough [] [] broker) (hrequested : broker.requested call = true)
    (hidle : broker.phases call ≠ .idle)
    (hnone : thorough → (broker.phases call).abandoned = []) :
    Inv thorough [] [] (broker.setFlag call true) := by
  refine { h with
    knows := fun other => (h.knows other).later (Nat.succ_ne_self other).symm (later_setFlag ..)
    flagged := fun other hflagged => ?_
    fresh := fun other hother => ?_ }
  · by_cases heq : other = call
    · rw [heq]
      exact ⟨hrequested, hnone⟩
    · change update broker.flagged call true other = true at hflagged
      rw [update_of_ne heq] at hflagged
      exact h.flagged other hflagged
  · have hne : other ≠ call := by
      rintro rfl
      exact hidle hother
    exact ⟨(h.fresh other hother).1, (update_of_ne hne ..).trans (h.fresh other hother).2⟩

/-- A call is only cancelled where it leaves no views. -/
def Thorough (broker : Broker ω γ) : Event ω γ → Prop
  | .cancel call => (broker.phases call).abandoned = []
  | _ => True

theorem Inv.cancel (h : Inv thorough [] [] broker)
    (hnone : thorough → (broker.phases call).abandoned = []) :
    Inv thorough [] [] (broker.cancel call) := by
  have hasked := h.request call
  have hrequested : update broker.requested call true call = true :=
    update_self ..
  unfold Broker.cancel
  cases hphase : broker.phases call with
  | awaiting operation =>
      obtain ⟨task, htask, hcall, -⟩ := h.awaited call operation hphase
      simp only [htask]
      split_ifs with hdone
      · exact hasked.flag hrequested (by change broker.phases call ≠ _; rw [hphase]; simp) hnone
      · exact hasked.cancelOperation htask (.inl ⟨hcall.symm, hrequested⟩)
  | joining operation number rest outcome =>
      have hknows := h.knows call
      rw [hphase] at hknows
      obtain ⟨-, -, ⟨task, htask, hview⟩, -, hstops, -⟩ := hknows
      simp only [htask]
      split_ifs with hdone
      · exact hasked.flag hrequested (by change broker.phases call ≠ _; rw [hphase]; simp) hnone
      · exact hasked.cancelOperation htask (.inr (hview ▸ hstops))
  | locking number rest outcome =>
      exact hasked.flag hrequested (by change broker.phases call ≠ _; rw [hphase]; simp) hnone
  | closing number rest outcome =>
      exact hasked.flag hrequested (by change broker.phases call ≠ _; rw [hphase]; simp) hnone
  | _ => exact h

theorem Inv.step (h : Inv thorough [] [] broker) {event : Event ω γ}
    (hthorough : thorough → broker.Thorough event) :
    Inv thorough [] [] (broker.step event) := by
  cases event with
  | begin call method now =>
      rw [Broker.step]
      split
      case h_1 hidle => exact h.begin hidle method now
      case h_2 => exact h
  | resume call answer now => exact h.resume call answer now
  | cancel call => exact h.cancel hthorough
  | operate operation answer => exact h.operate operation answer

theorem inv_create (config : Config) : Inv thorough [] [] (create config : Broker ω γ) where
  rows := nofun
  size := Nat.zero_le _
  tasks := nofun
  current := nofun
  live := by
    rintro operation number ⟨task, htask, -⟩
    cases htask
  awaited := nofun
  held := nofun
  owned := nofun
  once := List.nodup_nil
  closes := nofun
  uses := nofun
  busy number hbusy := by
    rcases hbusy with hlock | hpos
    · exact absurd rfl hlock
    · cases hpos
  covered _ number hdropped := absurd hdropped.1 (Nat.not_lt_zero number)
  knows _ := trivial
  flagged := nofun
  cancels := nofun
  making := nofun
  fresh _ _ := ⟨rfl, rfl⟩
  unborn _ _ := rfl

end Broker

end K5Vision.Analytics.Views
