import K5Vision.Analytics.ViewInvariant

/-!
# Calls and operations go on

The steps in which a call or an operation comes back from an await.  A call that comes back takes
its views into the hand (`Inv.depart`), and from there `Ready.disposeAll` has the rest.
-/

namespace K5Vision.Analytics.Views

open Library
open Function (update update_eq_self update_idem update_of_ne update_self)

variable {ω γ : Type} [DecidableEq ω] [DecidableEq γ]

namespace Broker

variable {broker before after : Broker ω γ} {thorough : Prop} {hand locked rest : List ℕ}
  {call number : ℕ} {outcome : Outcome}

/-! ## A call goes on -/

theorem Inv.depart (h : Inv thorough [] [] broker)
    (hawaiting : ∀ operation, broker.phases call ≠ .awaiting operation)
    (hrest : ∀ number ∈ (broker.phases call).rest, number ∈ hand)
    (hjoining : ∀ operation number rest outcome,
      broker.phases call = .joining operation number rest outcome →
        number ∈ hand ∧ number ∈ locked) :
    Inv thorough hand locked (broker.setPhase call .running) := by
  have halone : Alone call broker (broker.setPhase call .running) := alone_setPhase ..
  have hself : (broker.setPhase call .running).phases call = .running := phases_setPhase ..
  have hcovered : ∀ number, broker.Covered number →
      (number ∈ hand ∧ number ∈ locked) ∨ (broker.setPhase call .running).Covered number := by
    intro number hcovered
    by_cases hown : ∃ operation rest outcome,
        broker.phases call = .joining operation number rest outcome
    · obtain ⟨operation, rest, outcome, hphase⟩ := hown
      exact .inl (hjoining operation number rest outcome hphase)
    · exact .inr (halone.covered hcovered fun operation rest outcome hphase =>
        hown ⟨operation, rest, outcome, hphase⟩)
  refine { h with
    current := fun number operation hoperation => ?_
    awaited := fun other operation hother => ?_
    busy := fun number hbusy => ?_
    covered := fun hthorough number hdropped => ?_
    knows := halone.knows h (by rw [hself]; trivial)
    flagged := fun _ => halone.flagged h fun _ => by rw [hself]; rfl
    fresh := fun _ hidle => (halone.fresh h (by rw [hself]; simp) hidle).2 }
  · obtain ⟨task, htask, hview, htasks⟩ := h.current number operation hoperation
    refine ⟨task, htask, hview, ?_⟩
    rw [phases_setPhase_of_ne]
    · exact htasks
    · rintro rfl
      exact hawaiting operation htasks
  · by_cases heq : other = call
    · subst heq
      rw [hself] at hother
      cases hother
    · rw [phases_setPhase_of_ne heq] at hother
      exact h.awaited other operation hother
  · rcases hcovered number ((h.busy number hbusy).resolve_left List.not_mem_nil) with hown | hstill
    · exact .inl hown.2
    · exact .inr hstill
  · rcases (h.covered hthorough number hdropped).resolve_left List.not_mem_nil with
      hold | hlisted | hopen
    · rcases hcovered number hold with hown | hstill
      · exact .inl hown.1
      · exact .inr (.inl hstill)
    · exact (halone.listed hlisted).imp (hrest number) fun hstill => .inr (.inl hstill)
    · exact .inr (.inr (.inr hopen))

theorem later_setFlag (by_ call : ℕ) (flag : Bool) (broker : Broker ω γ) :
    Later call broker (broker.setFlag by_ flag) :=
  { Later.refl call broker with }

omit [DecidableEq ω] [DecidableEq γ] in
theorem flagged_of_unflagged {other : ℕ} (h : (broker.setFlag call false).flagged other = true) :
    broker.flagged other = true := by
  change update broker.flagged call false other = true at h
  by_cases heq : other = call
  · subst heq
    rw [update_self] at h
    cases h
  · rwa [update_of_ne heq] at h

omit [DecidableEq ω] [DecidableEq γ] in
theorem unflagged (broker : Broker ω γ) : (broker.setFlag call false).flagged call = false :=
  update_self ..

theorem Inv.unflag (h : Inv thorough hand locked broker) (call : ℕ) :
    Inv thorough hand locked (broker.setFlag call false) where
  __ := h
  knows other :=
    (h.knows other).later (Nat.succ_ne_self other).symm (later_setFlag call _ false broker)
  flagged other hflagged := h.flagged other (flagged_of_unflagged hflagged)
  fresh other hidle := by
    refine ⟨(h.fresh other hidle).1, Bool.eq_false_iff.mpr fun htrue => ?_⟩
    have hold := flagged_of_unflagged htrue
    rw [(h.fresh other hidle).2] at hold
    cases hold

theorem Inv.stopWaiting (h : Inv thorough hand [] broker) (hrunning : broker.phases call = .running)
    (number : ℕ) :
    Inv thorough hand [] (broker.setView number { broker.objects number with
      waiters := (broker.objects number).waiters - 1 }) ∧
    Later call broker (broker.setView number { broker.objects number with
      waiters := (broker.objects number).waiters - 1 }) := by
  have hleft : broker.setView number { broker.objects number with
      waiters := (broker.objects number).waiters - 1 } = _ :=
    setView_eq_relock number (broker.objects number).closed (broker.objects number).lock
      ((broker.objects number).waiters - 1) broker
  have hlock : ∀ other view, other ≠ call → (broker.objects view).lock = some other →
      update (fun view => (broker.objects view).lock) number
        (broker.objects number).lock view = some other := by
    intro other view _ hview
    rwa [update_eq_self number fun view => (broker.objects view).lock]
  rw [hleft]
  refine ⟨h.relock hrunning (fun other hclosed => ?_) (fun other hclosed => .inl ?_) hlock
    (fun other hother => .inr ?_), later_relock hlock⟩
  · rwa [update_eq_self number fun view => (broker.objects view).closed]
  · rwa [update_eq_self number fun view => (broker.objects view).closed] at hclosed
  rw [update_eq_self number fun view => (broker.objects view).lock] at hother
  refine (h.busy other (hother.imp_right fun hpos => ?_)).resolve_left List.not_mem_nil
  by_cases heq : other = number
  · rw [heq, update_self] at hpos
    rw [heq]
    omega
  · rwa [update_of_ne heq] at hpos

theorem Inv.resume_locking (h : Inv thorough [] [] broker)
    (hphase : broker.phases call = .locking number rest outcome) (answer : Answer) (now : ℚ) :
    Inv thorough [] [] (broker.resume call answer now) := by
  have hknows := h.knows call
  rw [hphase] at hknows
  obtain ⟨hview, hrest, hexcused⟩ := hknows
  have hdeparts : ∀ hand, (∀ other ∈ rest, other ∈ hand) →
      Inv thorough hand [] (broker.setPhase call .running) := by
    intro hand hmem
    refine h.depart (fun _ => by rw [hphase]; simp) (fun other hother => hmem other ?_)
      fun _ _ _ _ hjoining => by rw [hphase] at hjoining; cases hjoining
    rwa [hphase] at hother
  have hrunning : (broker.setPhase call .running).phases call = .running := phases_setPhase ..
  have hmoved : Later call broker (broker.setPhase call .running) := later_setPhase ..
  simp only [Broker.resume, hphase]
  split_ifs with hflag hlock
  · have hnone : thorough → rest = [] := by
      have hflagged := (h.flagged call hflag).2
      rwa [hphase] at hflagged
    have hstarted : Inv thorough [] [] (broker.setPhase call .running) :=
      (hdeparts rest fun _ => id).letGo fun hthorough => by rw [hnone hthorough]; simp
    obtain ⟨hstop, hlater⟩ := hstarted.stopWaiting hrunning number
    refine Ready.finish ⟨hstop.unflag call, hrunning, unflagged _, (by simp), fun _ => ?_⟩
    exact .inl (h.flagged call hflag).1
  · exact h
  · have hstarted := hdeparts (number :: rest) fun _ => List.mem_cons_of_mem _
    obtain ⟨hstop, hlater⟩ := hstarted.stopWaiting hrunning number
    have hall := (hmoved.trans hlater).trans (later_setFlag call call false _)
    refine Ready.enter ⟨hstop.unflag call, hrunning, unflagged _, fun other hmem => ?_,
      hexcused.later hall⟩ ?_ fun later hready => hready.disposeAll
    · rcases List.mem_cons.mp hmem with rfl | hother
      · exact hview.later hall
      · exact (hrest other hother).later hall
    · have hfree : (broker.objects number).lock = none := by simpa using hlock
      simpa [setView, setFlag, setPhase] using hfree

variable {operation : ℕ}

theorem Inv.resume_joining (h : Inv thorough [] [] broker)
    (hphase : broker.phases call = .joining operation number rest outcome) (answer : Answer)
    (now : ℚ) : Inv thorough [] [] (broker.resume call answer now) := by
  have hknows := h.knows call
  rw [hphase] at hknows
  obtain ⟨hlock, hdropped, ⟨task, htask, hview⟩, honly, -, hrest, hexcused⟩ := hknows
  have hstarted : Inv thorough (number :: rest) [number] (broker.setPhase call .running) := by
    refine h.depart (fun _ => by rw [hphase]; nofun) (fun other hother => ?_)
      fun _ _ _ _ hjoining => ?_
    · rw [hphase] at hother
      exact List.mem_cons_of_mem _ hother
    · rw [hphase] at hjoining
      cases hjoining
      exact ⟨List.mem_cons_self, List.mem_singleton_self _⟩
  have hmoved : Later call broker (broker.setPhase call .running) := later_setPhase ..
  have hall := hmoved.trans (later_setFlag call call false _)
  simp only [Broker.resume, hphase, htask]
  split_ifs with hdone
  · have hlive : ∀ other, ¬ broker.Live other number := by
      intro other hother
      have heq := honly other hother
      obtain ⟨found, hfound, -, hnot⟩ := hother
      rw [heq, htask] at hfound
      cases hfound
      rw [hdone] at hnot
      cases hnot
    exact Ready.takeProvider ⟨hstarted.unflag call, phases_setPhase _ _, unflagged _,
      fun other hmem => (hrest other hmem).later hall, hexcused.later hall⟩ hlock hdropped hlive
      fun later hready => hready.disposeAll
  · exact h

theorem Inv.resume_closing (h : Inv thorough [] [] broker)
    (hphase : broker.phases call = .closing number rest outcome) (answer : Answer) (now : ℚ) :
    Inv thorough [] [] (broker.resume call answer now) := by
  have hknows := h.knows call
  rw [hphase] at hknows
  obtain ⟨hlock, hsettled, hrest, hexcused⟩ := hknows
  have hstarted : Inv thorough rest [] (broker.setPhase call .running) := by
    refine h.depart (fun _ => by rw [hphase]; nofun) (fun other hother => ?_)
      fun _ _ _ _ hjoining => by rw [hphase] at hjoining; cases hjoining
    rwa [hphase] at hother
  have hunlocked :
      Inv thorough rest [] (((broker.setPhase call .running).setFlag call false).unlock number) :=
    (hstarted.unflag call).unlock (phases_setPhase _ _) nofun hsettled hlock
  have hmoved : Later call broker (broker.setPhase call .running) := later_setPhase ..
  have hall := (hmoved.trans (later_setFlag call call false _)).trans (later_unlock hlock)
  have hnext : Inv thorough [] [] (disposeAll call outcome rest
      (((broker.setPhase call .running).setFlag call false).unlock number)) :=
    Ready.disposeAll ⟨hunlocked, phases_setPhase _ _, unflagged _,
      fun other hmem => (hrest other hmem).later hall, hexcused.later hall⟩
  simp only [Broker.resume, hphase]
  cases answer with
  | cancelled =>
      simp only
      split_ifs with hflag
      · have hnone : thorough → rest = [] := by
          have hflagged := (h.flagged call hflag).2
          rwa [hphase] at hflagged
        have hleft : Inv thorough [] []
            (((broker.setPhase call .running).setFlag call false).unlock number) :=
          hunlocked.letGo fun hthorough => by rw [hnone hthorough]; nofun
        refine Ready.finish ⟨hleft, phases_setPhase _ _, unflagged _, nofun,
          fun _ => .inl (h.flagged call hflag).1⟩
      · exact h
  | _ => exact hnext

/-! ## `infer` comes back from its operation -/

omit [DecidableEq ω] [DecidableEq γ] in
/-- `view.operation = None`, with the time. -/
def release (number : ℕ) (now : ℚ) (broker : Broker ω γ) : Broker ω γ :=
  { broker with
    objects := fun other => { broker.objects other with
      operation := if other = number then none else (broker.objects other).operation
      lastUsed := if other = number then now else (broker.objects other).lastUsed } }

omit [DecidableEq ω] [DecidableEq γ] in
theorem setView_eq_release (number : ℕ) (now : ℚ) (broker : Broker ω γ) :
    broker.setView number { broker.objects number with operation := none, lastUsed := now } =
      broker.release number now := by
  have hobjects : update broker.objects number
      { broker.objects number with operation := none, lastUsed := now } =
        (broker.release number now).objects := by
    funext other
    by_cases heq : other = number
    · subst heq
      simp [release]
    · simp [release, heq]
  rw [setView, hobjects]
  rfl

theorem later_release (number : ℕ) (now : ℚ) (broker : Broker ω γ) :
    Later call broker (broker.release number now) where
  __ := Later.refl call broker
  operation other _ hnone := by
    change (if other = number then none else (broker.objects other).operation) = none
    rw [hnone, ite_self]

variable {task : Operation ω γ}

theorem Inv.release (h : Inv thorough [] [] broker)
    (hphase : broker.phases call = .awaiting operation)
    (htask : broker.operations operation = some task) (hdone : task.done = true)
    (hhand : (broker.objects task.view).closed = true → task.view ∈ hand) (now : ℚ) :
    Inv thorough hand [] ((broker.setPhase call .running).release task.view now) := by
  obtain ⟨found, hfound, hcall, hcurrent⟩ := h.awaited call operation hphase
  rw [htask] at hfound
  cases hfound
  have hself : ((broker.setPhase call .running).release task.view now).phases call = .running :=
    phases_setPhase ..
  have halone : Alone call broker ((broker.setPhase call .running).release task.view now) :=
    ⟨(later_setPhase _ _).trans (later_release _ _ _), (alone_setPhase .running broker).phases⟩
  have hcovered : ∀ number, broker.Covered number →
      ((broker.setPhase call .running).release task.view now).Covered number :=
    fun number hcovered => halone.covered hcovered fun _ _ _ hjoining => by
      rw [hphase] at hjoining
      cases hjoining
  -- No other operation can be on the view, and no other call awaits this one.
  have hview : ∀ other number, (broker.objects number).operation = some other →
      other = operation → number = task.view := by
    rintro other number hoperation rfl
    obtain ⟨found, hfound, hnumber, -⟩ := h.current number other hoperation
    rw [htask] at hfound
    cases hfound
    exact hnumber.symm
  refine { h with
    current := fun number other hoperation => ?_
    live := fun other number hlive => ?_
    awaited := fun other number hother => ?_
    busy := fun number hbusy =>
      .inr (hcovered number ((h.busy number hbusy).resolve_left List.not_mem_nil))
    covered := fun hthorough number hdropped => ?_
    knows := halone.knows h (by rw [hself]; trivial)
    flagged := fun _ => halone.flagged h fun _ => by rw [hself]; rfl
    fresh := fun _ hidle => (halone.fresh h (by rw [hself]; simp) hidle).2 }
  · change (if number = task.view then none else _) = some other at hoperation
    split_ifs at hoperation with hne
    obtain ⟨found, hfound, hnumber, hawaiting⟩ := h.current number other hoperation
    refine ⟨found, hfound, hnumber, ?_⟩
    change (broker.setPhase call .running).phases found.call = _
    rw [phases_setPhase_of_ne]
    · exact hawaiting
    intro heq
    rw [heq, hphase] at hawaiting
    cases hawaiting
    exact hne (hview operation number hoperation rfl)
  · have hoperation := h.live other number hlive
    have hne : number ≠ task.view := by
      intro heq
      rw [heq, hcurrent] at hoperation
      cases hoperation
      obtain ⟨found, hfound, -, hnot⟩ := hlive
      change broker.operations operation = some found at hfound
      rw [htask] at hfound
      cases hfound
      rw [hdone] at hnot
      cases hnot
    change (if number = task.view then none else (broker.objects number).operation) = some other
    rwa [if_neg hne]
  · change (broker.setPhase call .running).phases other = .awaiting number at hother
    have hne : other ≠ call := by
      rintro rfl
      rw [phases_setPhase] at hother
      cases hother
    rw [phases_setPhase_of_ne hne] at hother
    obtain ⟨found, hfound, hsame, hoperation⟩ := h.awaited other number hother
    refine ⟨found, hfound, hsame, ?_⟩
    have hother : found.view ≠ task.view := by
      intro heq
      rw [heq, hcurrent] at hoperation
      cases hoperation
      rw [htask] at hfound
      cases hfound
      exact hne (hsame.symm.trans hcall)
    change (if found.view = task.view then none
      else (broker.objects found.view).operation) = some number
    rwa [if_neg hother]
  · rcases (h.covered hthorough number hdropped).resolve_left List.not_mem_nil with
      hold | hlisted | ⟨hclosed, hopen⟩
    · exact .inr (.inl (hcovered number hold))
    · refine .inr (.inr (.inl ((halone.listed hlisted).resolve_left fun hmem => ?_)))
      rw [hphase] at hmem
      cases hmem
    · by_cases heq : number = task.view
      · rw [heq] at hclosed ⊢
        exact .inl (hhand hclosed)
      · refine .inr (.inr (.inr ⟨hclosed, ?_⟩))
        change (if number = task.view then none else _) ≠ none
        rwa [if_neg heq]

theorem Inv.erase (h : Inv thorough hand locked broker) {key : ω × γ} (hmem : number ∈ hand)
    (hnumber : broker.views.find? key = some number) (call : ℕ) :
    Inv thorough hand locked { broker with views := broker.views.erase key } ∧
      Later call broker { broker with views := broker.views.erase key } := by
  have hfind : ∀ {other found}, (broker.views.erase key).find? other = some found →
      other ≠ key ∧ broker.views.find? other = some found := by
    intro other found hfound
    rw [Table.find?_erase] at hfound
    split_ifs at hfound with hne
    exact ⟨hne, hfound⟩
  have hdropped : ∀ other, broker.Dropped other →
      Dropped { broker with views := broker.views.erase key } other :=
    fun other hother => ⟨hother.1, fun found hfound => hother.2 found (hfind hfound).2⟩
  have hlater : ∀ call, Later call broker { broker with views := broker.views.erase key } := by
    intro call
    exact { Later.refl call broker with
      dropped := hdropped
      settled := fun other hsettled => ⟨hdropped other hsettled.1, hsettled.2⟩ }
  refine ⟨{ h with
    rows := fun other found hfound => h.rows other found (hfind hfound).2
    size := ?_
    closes := fun provider hprovider => ⟨(h.closes provider hprovider).1,
      hdropped _ (h.closes provider hprovider).2⟩
    busy := fun other hbusy =>
      (h.busy other hbusy).imp_right fun hcovered => hcovered.later (hlater 0) rfl
    covered := fun hthorough other hother => ?_
    knows := fun other => (h.knows other).later (Nat.succ_ne_self other).symm (hlater _) },
    hlater call⟩
  · exact (List.length_filter_le _ _).trans h.size
  by_cases hold : broker.Dropped other
  · exact (h.covered hthorough other hold).imp_right
      (.imp_left fun hcovered => hcovered.later (hlater 0) rfl)
  -- It was in the dictionary until now, so it is the view of the key.
  refine .inl ?_
  have hrow : ∃ found, broker.views.find? found = some other := by
    by_contra hnone
    exact hold ⟨hother.1, fun found hfound => hnone ⟨found, hfound⟩⟩
  obtain ⟨found, hfound⟩ := hrow
  by_cases heq : found = key
  · rw [heq, hnumber] at hfound
    cases hfound
    exact hmem
  · exact absurd ((Table.find?_erase ..).trans ((if_neg heq).trans hfound)) (hother.2 found)

variable {ending : OperationEnd}

/-- An `infer` that ends cancelled was cancelled by its caller, or lost its operation. -/
theorem Inv.excused_settle (h : Inv thorough hand locked broker)
    (htask : broker.operations operation = some task) (hcall : task.call = call)
    (hstate : task.state = .done ending) (frameId : ℕ) :
    broker.Excused call (settle (broker.flagged call) frameId ending).2 := by
  intro hcancelled
  unfold settle at hcancelled
  split_ifs at hcancelled with hflag
  · exact .inl (h.flagged call hflag).1
  cases ending with
  | returned result => cases hcancelled
  | raised => cases hcancelled
  | cancelled =>
      obtain ⟨hall, hnonempty⟩ := h.cancels operation task htask
      obtain ⟨other, hmem⟩ := List.exists_mem_of_ne_nil _ (hnonempty (.inr hstate))
      rcases hall other hmem with ⟨rfl, hrequested⟩ | hstops
      · exact .inl (hcall ▸ hrequested)
      · exact .inr ⟨operation, task, other, htask, hcall, hmem, hstops⟩

theorem finishInfer_eq (hcurrent : (broker.objects task.view).operation = some operation)
    (ending : OperationEnd) (now : ℚ) :
    broker.finishInfer call operation task ending now =
      if (settle (broker.flagged call) task.submission.frameId ending).1 ||
          (broker.objects task.view).closed then
        disposeAll call (settle (broker.flagged call) task.submission.frameId ending).2 [task.view]
          (if broker.views.find? task.submission.key = some task.view then
            { (broker.release task.view now).setFlag call false with
              views := broker.views.erase task.submission.key }
          else (broker.release task.view now).setFlag call false)
      else ((broker.release task.view now).setFlag call false).setPhase call
        (.ended (settle (broker.flagged call) task.submission.frameId ending).2) := by
  simp only [Broker.finishInfer, hcurrent, if_true, setView_eq_release]
  rfl

theorem Inv.finishInfer (h : Inv thorough [] [] broker)
    (hphase : broker.phases call = .awaiting operation)
    (htask : broker.operations operation = some task) (hstate : task.state = .done ending)
    (now : ℚ) :
    Inv thorough [] []
      ((broker.setPhase call .running).finishInfer call operation task ending now) := by
  obtain ⟨found, hfound, hcall, hcurrent⟩ := h.awaited call operation hphase
  rw [htask] at hfound
  cases hfound
  have hdone : task.done = true := by rw [Operation.done, hstate]
  have hexcused := h.excused_settle htask hcall hstate task.submission.frameId
  have hmoved : Later call broker (broker.setPhase call .running) := later_setPhase ..
  have hlater : Later call broker
      (((broker.setPhase call .running).release task.view now).setFlag call false) :=
    (hmoved.trans (later_release ..)).trans (later_setFlag ..)
  have hrunning : (((broker.setPhase call .running).release task.view now).setFlag call
      false).phases call = .running := phases_setPhase ..
  have hfree : ((((broker.setPhase call .running).release task.view now).setFlag call
      false).objects task.view).operation = none := if_pos rfl
  have hcurrent' : ((broker.setPhase call .running).objects task.view).operation =
      some operation := hcurrent
  obtain ⟨-, hlt, hkey⟩ := h.tasks operation task htask
  rw [finishInfer_eq hcurrent']
  change Inv thorough [] [] (if _ then disposeAll call _ _
    (if broker.views.find? task.submission.key = some task.view then _ else _) else _)
  have hunique : ∀ key, broker.views.find? key = some task.view → key = task.submission.key := by
    intro key hfind
    have hrow := (h.rows key task.view hfind).2.1
    rw [hkey] at hrow
    exact (Option.some.inj hrow).symm
  split_ifs with hdispose hfind
  · have hinv : Inv thorough [task.view] [] _ :=
      (h.release hphase htask hdone (fun _ => List.mem_singleton_self _) now).unflag call
    obtain ⟨herased, hafter⟩ := hinv.erase (List.mem_singleton_self _) hfind call
    refine Ready.disposeAll ⟨herased, hrunning, unflagged _, fun other hmem => ?_,
      (hexcused.later hlater).later hafter⟩
    rw [List.mem_singleton.mp hmem]
    refine ⟨⟨hlt, fun key hfound => ?_⟩, .inl hfree⟩
    change (broker.views.erase task.submission.key).find? key = some task.view at hfound
    rw [Table.find?_erase] at hfound
    split_ifs at hfound with hne
    exact hne (hunique key hfound)
  · have hinv : Inv thorough [task.view] [] _ :=
      (h.release hphase htask hdone (fun _ => List.mem_singleton_self _) now).unflag call
    refine Ready.disposeAll ⟨hinv, hrunning, unflagged _, fun other hmem => ?_,
      hexcused.later hlater⟩
    rw [List.mem_singleton.mp hmem]
    refine ⟨⟨hlt, fun key hfound => hfind ?_⟩, .inl hfree⟩
    rw [← hunique key hfound]
    exact hfound
  · have hopen : (broker.objects task.view).closed ≠ true := by
      intro hclosed
      change ¬ (_ || (broker.objects task.view).closed) = true at hdispose
      rw [hclosed, Bool.or_true] at hdispose
      exact hdispose rfl
    have hinv : Inv thorough [] [] _ :=
      (h.release hphase htask hdone (fun hclosed => absurd hclosed hopen) now).unflag call
    exact Ready.finish ⟨hinv, hrunning, unflagged _, (by simp), hexcused.later hlater⟩

theorem Inv.resume (h : Inv thorough [] [] broker) (call : ℕ) (answer : Answer) (now : ℚ) :
    Inv thorough [] [] (broker.resume call answer now) := by
  cases hphase : broker.phases call with
  | awaiting operation =>
      simp only [Broker.resume, hphase]
      cases htask : broker.operations operation with
      | none => exact h
      | some task =>
          simp only
          split
          case h_1 ending hstate => exact h.finishInfer hphase htask hstate now
          case h_2 => exact h
  | locking number rest outcome => exact h.resume_locking hphase answer now
  | joining operation number rest outcome => exact h.resume_joining hphase answer now
  | closing number rest outcome => exact h.resume_closing hphase answer now
  | _ =>
      simp only [Broker.resume, hphase]
      exact h

/-! ## Operations go on -/

theorem Inv.finishOperation (h : Inv thorough hand locked broker)
    (htask : broker.operations operation = some task)
    (hending : ending = .cancelled → task.cancelling = true) :
    Inv thorough hand locked (broker.finishOperation operation task ending) := by
  obtain ⟨hall, hnonempty⟩ := h.cancels operation task htask
  refine h.setOperation htask ⟨rfl, rfl, rfl, fun _ => rfl, fun _ => id⟩ ⟨hall, ?_⟩ nofun
  rintro (hcancelling | hstate)
  · cases hcancelling
  · cases hstate
    exact hnonempty (.inl (hending rfl))

theorem Inv.record (h : Inv thorough hand locked broker) {use : Use ω γ}
    (huse : use.provider < broker.providerCount ∧
      (broker.objects (broker.providerViews use.provider)).key = some use.key) :
    Inv thorough hand locked { broker with uses := broker.uses ++ [use] } where
  __ := h
  uses other hother := by
    rcases List.mem_append.mp hother with hold | hnew
    · exact h.uses other hold
    · rw [List.mem_singleton.mp hnew]
      exact huse
  knows other := by
    refine (h.knows other).later (Nat.succ_ne_self other).symm ?_
    exact { Later.refl _ broker with }

theorem Inv.callProvider (h : Inv thorough hand locked broker)
    (htask : broker.operations operation = some task) (hdone : task.done = false) :
    Inv thorough hand locked (broker.callProvider operation task) := by
  rw [Broker.callProvider]
  simp only
  split_ifs with hclosed
  · exact h.finishOperation htask (by simp)
  cases hprovider : (broker.objects task.view).provider with
  | none => exact h.finishOperation htask (by simp)
  | some provider =>
      obtain ⟨hlt, hviews, -⟩ := h.held task.view provider hprovider
      have hgoes : Goes task { task with state := .inferring provider, cancelling := false } :=
        ⟨rfl, rfl, rfl, fun htrue => (by rw [hdone] at htrue; cases htrue), fun _ => id⟩
      have hinv := h.setOperation htask hgoes
        ⟨(h.cancels operation task htask).1, by rintro (hfalse | hstate) <;> contradiction⟩
        (by simp)
      refine hinv.record ⟨hlt, ?_⟩
      change (broker.objects (broker.providerViews provider)).key = _
      rw [hviews]
      exact (h.tasks operation task htask).2.2

omit [DecidableEq ω] [DecidableEq γ] in
/-- `view.provider = await self._factory()`. -/
def provide (number : ℕ) (broker : Broker ω γ) : Broker ω γ :=
  { broker with
    objects := fun other => { broker.objects other with
      provider := if other = number then some broker.providerCount
        else (broker.objects other).provider }
    providerCount := broker.providerCount + 1
    providerViews := update broker.providerViews broker.providerCount number }

omit [DecidableEq ω] [DecidableEq γ] in
theorem setView_eq_provide (number : ℕ) (broker : Broker ω γ) :
    { broker.setView number { broker.objects number with
        provider := some broker.providerCount } with
      providerCount := broker.providerCount + 1
      providerViews := update broker.providerViews broker.providerCount number } =
      broker.provide number := by
  have hobjects : update broker.objects number
      { broker.objects number with provider := some broker.providerCount } =
        (broker.provide number).objects := by
    funext other
    by_cases heq : other = number
    · subst heq
      simp [provide]
    · simp [provide, heq]
  rw [setView, hobjects]
  rfl

theorem later_provide (hlive : broker.Live operation number) :
    Later call broker (broker.provide number) where
  __ := Later.refl call broker
  settled other hsettled := by
    refine ⟨hsettled.1, ?_, hsettled.2.2⟩
    have hne : other ≠ number := by
      rintro rfl
      exact hsettled.2.2 operation hlive
    change (if other = number then _ else (broker.objects other).provider) = none
    rw [if_neg hne]
    exact hsettled.2.1

theorem Inv.provide (h : Inv thorough hand locked broker) (hlive : broker.Live operation number)
    (hnone : (broker.objects number).provider = none)
    (hfactory : ∀ other found, broker.operations other = some found → found.view = number →
      found.state ≠ .factory) : Inv thorough hand locked (broker.provide number) := by
  have hlater : ∀ call, Later call broker (broker.provide number) := fun _ => later_provide hlive
  have hold : ∀ provider < broker.providerCount,
      (broker.provide number).providerViews provider = broker.providerViews provider := by
    intro provider hlt
    exact update_of_ne (Nat.ne_of_lt hlt) ..
  have hnew : (broker.provide number).providerViews broker.providerCount = number :=
    update_self ..
  have hnumber : number < broker.viewCount := by
    obtain ⟨task, htask, rfl, -⟩ := hlive
    exact (h.tasks operation task htask).2.1
  refine { h with
    held := fun other provider hprovider => ?_
    owned := fun provider hlt => ?_
    closes := fun provider hprovider => ?_
    uses := fun use huse => ?_
    busy := fun other hbusy =>
      (h.busy other hbusy).imp_right fun hcovered => hcovered.later (hlater 0) rfl
    covered := fun hthorough other hdropped => (h.covered hthorough other hdropped).imp_right
      (.imp_left fun hcovered => hcovered.later (hlater 0) rfl)
    knows := fun other => (h.knows other).later (Nat.succ_ne_self other).symm (hlater _)
    making := fun other found hfound hstate => ?_ }
  · change (if other = number then some broker.providerCount
      else (broker.objects other).provider) = some provider at hprovider
    split_ifs at hprovider with heq
    · cases hprovider
      rw [hnew]
      refine ⟨Nat.lt_succ_self _, heq.symm, fun hmem => ?_, heq ▸ hnumber⟩
      exact Nat.lt_irrefl _ (h.closes _ hmem).1
    · obtain ⟨hlt, hviews, hopen, hcount⟩ := h.held other provider hprovider
      rw [hold provider hlt]
      exact ⟨Nat.lt_succ_of_lt hlt, hviews, hopen, hcount⟩
  · change provider ∈ broker.closes ∨
      (if (broker.provide number).providerViews provider = number then some broker.providerCount
        else (broker.objects ((broker.provide number).providerViews provider)).provider) =
          some provider
    rcases Nat.lt_succ_iff_lt_or_eq.mp hlt with hless | rfl
    · rw [hold provider hless]
      rcases h.owned provider hless with hclosed | hholds
      · exact .inl hclosed
      have hne : broker.providerViews provider ≠ number := by
        intro heq
        rw [heq, hnone] at hholds
        cases hholds
      rw [if_neg hne]
      exact .inr hholds
    · rw [hnew, if_pos rfl]
      exact .inr rfl
  · obtain ⟨hlt, hdropped⟩ := h.closes provider hprovider
    rw [hold provider hlt]
    exact ⟨Nat.lt_succ_of_lt hlt, hdropped⟩
  · obtain ⟨hlt, hkey⟩ := h.uses use huse
    rw [hold use.provider hlt]
    exact ⟨Nat.lt_succ_of_lt hlt, hkey⟩
  · change (if found.view = number then some broker.providerCount
      else (broker.objects found.view).provider) = none
    have hne : found.view ≠ number := fun heq => hfactory other found hfound heq hstate
    rw [if_neg hne]
    exact h.making other found hfound hstate

omit [DecidableEq ω] [DecidableEq γ] in
theorem callProvider_setOperation (operation : ℕ) (task earlier : Operation ω γ)
    (broker : Broker ω γ) :
    (broker.setOperation operation earlier).callProvider operation task =
      broker.callProvider operation task := by
  rw [callProvider, callProvider]
  simp only [setOperation, finishOperation, update_idem]

/-- The factory answers.  For the invariant the operation first leaves the factory, then its view
gets the provider, and then it goes on. -/
theorem Inv.provided (h : Inv thorough hand locked broker)
    (htask : broker.operations operation = some task) (hstate : task.state = .factory) :
    Inv thorough hand locked ({ broker.setView task.view { broker.objects task.view with
        provider := some broker.providerCount } with
      providerCount := broker.providerCount + 1
      providerViews := update broker.providerViews broker.providerCount
        task.view }.callProvider operation task) := by
  have hdone : task.done = false := by rw [Operation.done, hstate]
  have hgoes : Goes task { task with state := .inferring 0 } :=
    ⟨rfl, rfl, rfl, fun htrue => (by rw [hdone] at htrue; cases htrue), fun _ => id⟩
  obtain ⟨hall, hnonempty⟩ := h.cancels operation task htask
  have hleft := h.setOperation htask hgoes
    ⟨hall, by
      rintro (htrue | hcancelled)
      · exact hnonempty (.inl htrue)
      · cases hcancelled⟩ nofun
  have hlive : (broker.setOperation operation { task with state := .inferring 0 }).Live operation
      task.view := ⟨_, update_self .., rfl, rfl⟩
  have hprovided := hleft.provide hlive (h.making operation task htask hstate) ?_
  · have hself : ((broker.setOperation operation { task with state := .inferring 0 }).provide
        task.view).operations operation = some { task with state := .inferring 0 } :=
      update_self ..
    have hcalled := hprovided.callProvider hself rfl
    have hswap : (broker.setOperation operation { task with state := .inferring 0 }).provide
        task.view = (broker.provide task.view).setOperation operation
          { task with state := .inferring 0 } := rfl
    rw [hswap, callProvider_setOperation] at hcalled
    rw [setView_eq_provide]
    exact hcalled
  · intro other found hfound hview hfactory
    rcases operations_setOperation hfound with ⟨-, rfl⟩ | ⟨hne, hold⟩
    · cases hfactory
    have hother := h.live other task.view
      ⟨found, hold, hview, by rw [Operation.done, hfactory]⟩
    rw [h.live operation task.view ⟨task, htask, rfl, hdone⟩] at hother
    exact hne (Option.some.inj hother).symm

theorem Inv.finishInference (h : Inv thorough hand locked broker)
    (htask : broker.operations operation = some task) (values : List (Option Tracked)) :
    Inv thorough hand locked (broker.finishInference operation task values) := by
  rw [Broker.finishInference]
  cases adapt values with
  | none => exact h.finishOperation htask nofun
  | some observations => exact h.finishOperation htask nofun

theorem Inv.operate (h : Inv thorough [] [] broker) (operation : ℕ) (answer : Answer) :
    Inv thorough [] [] (broker.operate operation answer) := by
  unfold Broker.operate
  cases htask : broker.operations operation with
  | none => exact h
  | some task =>
      simp only
      split
      case h_1 hstate =>
        have hdone : task.done = false := by rw [Operation.done, hstate]
        split_ifs with hcancelling hprovider
        · exact h.finishOperation htask fun _ => hcancelling
        · have hgoes : Goes task { task with state := .factory } :=
            ⟨rfl, rfl, rfl, fun htrue => (by rw [hdone] at htrue; cases htrue), fun _ => id⟩
          refine h.setOperation htask hgoes ⟨(h.cancels operation task htask).1, ?_⟩ fun _ => ?_
          · rintro (htrue | hcancelled)
            · exact absurd htrue hcancelling
            · cases hcancelled
          · simpa using hprovider
        · exact h.callProvider htask hdone
      case h_2 hstate => exact h.provided htask hstate
      case h_3 hstate => exact h.finishInference htask _
      case h_4 hstate => exact h.finishOperation htask (by simp)
      case h_5 hstate => exact h.finishOperation htask (by simp)
      case h_6 hstate =>
        split_ifs with hcancelling
        · exact h.finishOperation htask fun _ => hcancelling
        · exact h
      case h_7 hstate =>
        split_ifs with hcancelling
        · exact h.finishOperation htask fun _ => hcancelling
        · exact h
      case h_8 => exact h

end Broker

end K5Vision.Analytics.Views
