import K5Vision.Presentation.HostCalls
import Mathlib.Data.Nat.Basic
import Mathlib.Order.Basic

/-!
# The host under overlapping calls

`close` drops the current runtime in its last section without asking whether it is the one that it
has closed.  `DropsOwn` says that it is; in the runs where it always is, one generation runs at a
time, none is left behind a `close`, and each is accounted for once (`host_safe`).  A `start`
between the closing of the runtime and the last section breaks it (`close_loses_generation`).

`Books` is the invariant of the host and of what was done: only the current generation runs, and the
entries are one for each generation before the current one.  A call that awaits something counts on
`Phase.Sound`, which the steps of the others keep because they only go on (`Later`), or because the
call has the lock.
-/

namespace K5Vision.Presentation.HostCalls

open Library

/-! ## Books -/

def sumOf (entries : List (ℕ × Totals)) : Totals :=
  entries.foldr (fun entry total => total.add entry.2) ⟨0, 0, 0⟩

structure Books (watched : Watched) : Prop where
  current : ∀ runtime, watched.host.runtime = some runtime →
    runtime.generation = watched.host.generation ∧ 0 < watched.host.generation
  dropped : watched.host.runtime = none →
    watched.host.accountedGeneration = watched.host.generation
  closed : watched.host.state = .closed → watched.host.runtime = none
  running : ∀ generation ∈ watched.running, ∃ runtime, watched.host.runtime = some runtime ∧
    runtime.generation = generation
  nodup : watched.running.Nodup
  bound : watched.host.accountedGeneration ≤ watched.host.generation
  totals : watched.host.totals = sumOf watched.accounted
  once : (watched.accounted.map Prod.fst).Nodup
  entries : ∀ generation, generation ∈ watched.accounted.map Prod.fst ↔
    0 < generation ∧ generation ≤ watched.host.generation ∧
      (generation = watched.host.generation →
        watched.host.accountedGeneration = watched.host.generation)
  shown : ∀ runtime, watched.host.runtime = some runtime →
    watched.shown runtime.generation = runtime.snapshot.totals
  final : ∀ entry ∈ watched.accounted, entry.1 ∉ watched.late → entry.2 = watched.shown entry.1

/-- What a step changes leaves the runtimes of the others as they count on them. -/
structure Later (before after : Watched) : Prop where
  generation : before.host.generation ≤ after.host.generation
  current : ∀ runtime : Runtime, runtime.generation ≤ before.host.generation →
    after.host.isCurrent runtime = true → before.host.isCurrent runtime = true
  accounted : before.host.generation = after.host.generation →
    before.host.accountedGeneration = before.host.generation →
      after.host.accountedGeneration = after.host.generation
  running : ∀ generation ∈ after.running, generation ≤ before.host.generation →
    generation ∈ before.running
  closed : before.host.state = .closed → after.host.state = .closed

theorem Later.refl (watched : Watched) : Later watched watched :=
  ⟨le_refl _, fun _ _ h => h, fun _ h => h, fun _ h _ => h, fun h => h⟩

theorem Later.trans {first second third : Watched} (h : Later first second)
    (h' : Later second third) : Later first third where
  generation := h.generation.trans h'.generation
  current runtime hle hcurrent :=
    h.current runtime hle (h'.current runtime (hle.trans h.generation) hcurrent)
  accounted heq hacc := by
    have hle := h.generation
    have hle' := h'.generation
    exact h'.accounted (by omega) (h.accounted (by omega) hacc)
  running generation hmem hle :=
    h.running generation (h'.running generation hmem (hle.trans h.generation)) hle
  closed hclosed := h'.closed (h.closed hclosed)

structure Goes (before after : Watched) : Prop where
  books : Books after
  later : Later before after

theorem Goes.trans {first second third : Watched} (h : Goes first second) (h' : Goes second third) :
    Goes first third :=
  ⟨h'.books, h.later.trans h'.later⟩

variable {watched : Watched}

theorem Books.goes (h : Books watched) : Goes watched watched := ⟨h, .refl watched⟩

theorem Books.state (h : Books watched) (state : HostState) (failures : ℕ)
    (hopen : watched.host.state ≠ .closed) (hstate : state ≠ .closed) :
    Goes watched
      (watched.mapHost fun host => { host with state := state, failures := failures }) where
  books := { h with closed := fun hclosed => absurd hclosed hstate }
  later := ⟨le_refl _, fun _ _ h => h, fun _ h => h, fun _ h _ => h, fun h => absurd h hopen⟩

theorem account_runtime (watched : Watched) :
    watched.account.host.runtime = watched.host.runtime := by
  simp only [Watched.account, Host.accountCurrent]
  split
  · rfl
  · split_ifs <;> rfl

theorem Books.account (h : Books watched) :
    Goes watched watched.account ∧ watched.account.host.state = watched.host.state ∧
      watched.account.host.generation = watched.host.generation ∧
        watched.account.host.accountedGeneration = watched.host.generation := by
  have hcurrent := account_runtime watched
  cases hruntime : watched.host.runtime with
  | none =>
      have hsame : watched.account = watched := by
        simp [Watched.account, Host.accountCurrent, hruntime]
      rw [hsame]
      exact ⟨h.goes, rfl, rfl, h.dropped hruntime⟩
  | some runtime =>
      obtain ⟨hgeneration, hpositive⟩ := h.current runtime hruntime
      by_cases hdone : watched.host.accountedGeneration = watched.host.generation
      · have hsame : watched.account = watched := by
          simp [Watched.account, Host.accountCurrent, hruntime, hdone]
        rw [hsame]
        exact ⟨h.goes, rfl, rfl, hdone⟩
      have hhost : watched.account.host.state = watched.host.state ∧
          watched.account.host.generation = watched.host.generation ∧
            watched.account.host.accountedGeneration = watched.host.generation ∧
              watched.account.host.totals = watched.host.totals.add runtime.snapshot.totals := by
        simp [Watched.account, Host.accountCurrent, hruntime, hdone]
      have hentries : watched.account.accounted =
          (watched.host.generation, runtime.snapshot.totals) :: watched.accounted := by
        simp [Watched.account, hruntime, hdone]
      obtain ⟨hstate, hsame, haccounted, htotals⟩ := hhost
      refine ⟨⟨?_, ?_⟩, hstate, hsame, haccounted⟩
      · refine
          { current := ?_, dropped := ?_, closed := ?_, running := ?_, nodup := h.nodup,
            bound := ?_, totals := ?_, once := ?_, entries := ?_, shown := ?_, final := ?_ }
        · rw [hcurrent, hsame]
          exact h.current
        · rw [haccounted, hsame]
          exact fun _ => rfl
        · rw [hstate, hcurrent]
          exact h.closed
        · rw [hcurrent]
          exact h.running
        · exact (haccounted.trans hsame.symm).le
        · rw [htotals, hentries, h.totals]
          rfl
        · rw [hentries, List.map_cons, List.nodup_cons]
          exact ⟨fun hmem => hdone (((h.entries _).mp hmem).2.2 rfl), h.once⟩
        · intro generation
          rw [hentries, List.map_cons, List.mem_cons, h.entries, hsame, haccounted]
          constructor
          · rintro (rfl | ⟨hzero, hle, -⟩)
            · exact ⟨hpositive, le_refl _, fun _ => rfl⟩
            · exact ⟨hzero, hle, fun _ => rfl⟩
          rintro ⟨hzero, hle, -⟩
          rcases eq_or_ne generation watched.host.generation with heq | hne
          · exact .inl heq
          · exact .inr ⟨hzero, hle, fun heq => absurd heq hne⟩
        · rw [hcurrent]
          exact h.shown
        · rw [hentries]
          refine List.forall_mem_cons.mpr ⟨fun _ => ?_, h.final⟩
          exact (hgeneration ▸ h.shown runtime hruntime).symm
      · refine ⟨hsame.ge, fun other _ hother => ?_, fun _ _ => haccounted.trans hsame.symm,
          fun _ hmem _ => hmem, fun hclosed => hstate.trans hclosed⟩
        rw [Host.isCurrent, hcurrent] at hother
        exact hother

theorem isCurrent_iff {host : Host} {runtime : Runtime} : host.isCurrent runtime = true ↔
      ∃ current, host.runtime = some current ∧ current.generation = runtime.generation := by
  rw [Host.isCurrent]
  cases host.runtime <;> simp

theorem isCurrent_none {host : Host} (h : host.runtime = none) (runtime : Runtime) :
    host.isCurrent runtime = false := by
  rw [Host.isCurrent, h]
  rfl

theorem Books.release (h : Books watched) (runtime : Runtime) :
    Goes watched (watched.release runtime) where
  books :=
    { h with
      running := fun generation hmem => h.running generation (List.mem_filter.mp hmem).1
      nodup := h.nodup.filter _ }
  later :=
    { Later.refl watched with running := fun _ hmem _ => (List.mem_filter.mp hmem).1 }

theorem Books.drop (h : Books watched) (hrunning : watched.running = [])
    (haccounted : watched.host.accountedGeneration = watched.host.generation) :
    Goes watched watched.drop where
  books :=
    { h with
      current := nofun
      dropped := fun _ => haccounted
      closed := fun _ => rfl
      shown := nofun
      running := by
        intro generation hmem
        change generation ∈ watched.running at hmem
        rw [hrunning] at hmem
        cases hmem }
  later :=
    { Later.refl watched with
      current := fun runtime _ hcurrent => by
        rw [isCurrent_none rfl] at hcurrent
        cases hcurrent }

theorem Books.running_release (h : Books watched) {runtime current : Runtime}
    (hcurrent : watched.host.runtime = some current)
    (hsame : runtime.generation = current.generation) :
    (watched.release runtime).running = [] := by
  refine List.filter_eq_nil_iff.mpr fun generation hmem => ?_
  obtain ⟨other, hother, rfl⟩ := h.running generation hmem
  rw [hcurrent] at hother
  cases hother
  simp [hsame]

/-- The generation of a new runtime, behind all the others. -/
def launched (snapshot : RuntimeSnapshot) (watched : Watched) : Watched :=
  { watched with
    host :=
      { watched.host with
        generation := watched.host.generation + 1
        runtime := some ⟨watched.host.generation + 1, snapshot⟩ }
    running := (watched.host.generation + 1) :: watched.running
    shown := Function.update watched.shown (watched.host.generation + 1) snapshot.totals }

theorem Books.launch (h : Books watched) (hnone : watched.host.runtime = none)
    (hopen : watched.host.state ≠ .closed) (snapshot : RuntimeSnapshot) :
    Goes watched (launched snapshot watched) := by
  have haccounted := h.dropped hnone
  have hempty : ∀ generation, generation ∉ watched.running := by
    intro generation hmem
    obtain ⟨runtime, hruntime, -⟩ := h.running generation hmem
    rw [hnone] at hruntime
    cases hruntime
  refine ⟨?_, ?_⟩
  · refine
      { current := ?_, dropped := nofun, closed := ?_, running := ?_,
        nodup := List.nodup_cons.mpr ⟨hempty _, h.nodup⟩, bound := ?_, totals := h.totals,
        once := h.once, entries := ?_, shown := ?_, final := ?_ }
    · intro runtime hruntime
      cases hruntime
      exact ⟨rfl, Nat.succ_pos _⟩
    · exact fun hclosed => absurd hclosed hopen
    · intro generation hmem
      rcases List.mem_cons.mp hmem with rfl | hmem
      · exact ⟨_, rfl, rfl⟩
      · exact absurd hmem (hempty generation)
    · exact h.bound.trans (Nat.le_succ _)
    · intro generation
      have hentries := h.entries generation
      simp only [launched]
      rw [hentries]
      constructor
      · rintro ⟨hpositive, hle, -⟩
        exact ⟨hpositive, by omega, fun heq => by omega⟩
      rintro ⟨hpositive, hle, hnew⟩
      have hne : generation ≠ watched.host.generation + 1 := by
        intro heq
        have := hnew heq
        omega
      exact ⟨hpositive, by omega, fun _ => haccounted⟩
    · intro runtime hruntime
      cases hruntime
      exact Function.update_self _ _ _
    · intro entry hmem hlate
      have hold := ((h.entries entry.1).mp (List.mem_map_of_mem hmem)).2.1
      have hne : entry.1 ≠ watched.host.generation + 1 := by omega
      exact (h.final entry hmem hlate).trans (Function.update_of_ne hne _ _).symm
  · refine ⟨Nat.le_succ _, fun runtime hle hcurrent => ?_, fun heq => ?_,
      fun generation hmem hle => ?_, fun hclosed => absurd hclosed hopen⟩
    · obtain ⟨current, hruntime, hsame⟩ := isCurrent_iff.mp hcurrent
      cases hruntime
      simp only at hsame
      omega
    · exact absurd heq (Nat.succ_ne_self _).symm
    · rcases List.mem_cons.mp hmem with rfl | hmem
      · exact absurd hle (Nat.not_succ_le_self _)
      · exact hmem

/-! ## What a call counts on -/

/-- The method that a phase belongs to. -/
def Phase.method? : Phase → Option Method
  | .closingPrevious _ | .starting _ => some .start
  | .waiting _ => some .wait
  | .stopping _ => some .stop
  | .closeStopping _ | .closeAccounting _ | .closeClosing _ | .closeDropping _ => some .close
  | .idle | .ended _ => none

def Phase.Ready (method : Method) (watched : Watched) : Phase → Prop
  | .closingPrevious runtime =>
      watched.host.isCurrent runtime = true ∧ watched.host.state ≠ .closed ∧
        watched.host.accountedGeneration = watched.host.generation
  | .starting _ => watched.host.state ≠ .closed
  | .closeStopping runtime | .closeAccounting runtime =>
      runtime.generation ≤ watched.host.generation
  | .closeClosing runtime =>
      runtime.generation ≤ watched.host.generation ∧
        (watched.host.isCurrent runtime = true →
          watched.host.accountedGeneration = watched.host.generation)
  | .closeDropping (some runtime) =>
      runtime.generation ≤ watched.host.generation ∧
        (watched.host.isCurrent runtime = true →
          watched.host.accountedGeneration = watched.host.generation) ∧
        runtime.generation ∉ watched.running
  | .ended (.returned _) => method = .close → watched.host.state = .closed
  | _ => True

structure Phase.Sound (method : Method) (watched : Watched) (phase : Phase) : Prop where
  belongs : ∀ other, phase.method? = some other → other = method
  ready : phase.Ready method watched

/-- The others' steps keep what a call without the lock counts on. -/
theorem Phase.Ready.later {before after : Watched} {method : Method} {phase : Phase}
    (h : phase.Ready method before) (hgoes : Goes before after) (hlocks : phase.locks = false) :
    phase.Ready method after := by
  have haccounted : ∀ runtime : Runtime, runtime.generation ≤ before.host.generation →
      (before.host.isCurrent runtime = true →
        before.host.accountedGeneration = before.host.generation) →
      after.host.isCurrent runtime = true →
        after.host.accountedGeneration = after.host.generation := by
    intro runtime hle hbefore hcurrent
    obtain ⟨current, hruntime, hsame⟩ := isCurrent_iff.mp hcurrent
    have hnewest := (hgoes.books.current current hruntime).1
    have hgeneration := hgoes.later.generation
    exact hgoes.later.accounted (by omega)
      (hbefore (hgoes.later.current runtime hle hcurrent))
  cases phase with
  | closingPrevious | starting => cases hlocks
  | closeStopping | closeAccounting => exact le_trans h hgoes.later.generation
  | closeClosing runtime =>
      exact ⟨h.1.trans hgoes.later.generation, haccounted runtime h.1 h.2⟩
  | closeDropping read =>
      cases read with
      | none => trivial
      | some runtime =>
          exact ⟨h.1.trans hgoes.later.generation, haccounted runtime h.1 h.2.1,
            fun hmem => h.2.2 (hgoes.later.running _ hmem h.1)⟩
  | ended outcome =>
      cases outcome with
      | returned => exact fun hclose => hgoes.later.closed (h hclose)
      | raised | cancelled => trivial
  | idle | waiting | stopping => trivial

/-! ## The sections -/

/-- A section keeps the books, and leaves its call where it can go on. -/
structure Fine (method : Method) (before : Watched) (after : Turn) : Prop where
  goes : Goes before after.1
  sound : after.2.Sound method after.1

variable {method : Method} {before : Watched} {runtime : Runtime}

theorem Fine.raise (h : Goes before watched) (code : HostErrorCode) (message : String) :
    Fine method before (watched.raise code message) :=
  ⟨h, nofun, trivial⟩

theorem Fine.cancelled (h : Goes before watched) :
    Fine method before (watched, .ended .cancelled) :=
  ⟨h, nofun, trivial⟩

theorem Fine.giveSnapshot (h : Goes before watched)
    (hclose : method = .close → watched.host.state = .closed) :
    Fine method before watched.giveSnapshot :=
  ⟨h, nofun, hclose⟩

theorem Books.fail (h : Books watched) (hopen : watched.host.state ≠ .closed) :
    Goes watched watched.fail :=
  h.state .failed _ hopen (by decide)

theorem Books.setState (h : Books watched) {state : HostState}
    (hopen : watched.host.state ≠ .closed) (hstate : state ≠ .closed) :
    Goes watched (watched.setState state) :=
  h.state state _ hopen hstate

theorem Books.open_of_isCurrent (h : Books watched)
    (hcurrent : watched.host.isCurrent runtime = true) : watched.host.state ≠ .closed := by
  intro hclosed
  rw [isCurrent_none (h.closed hclosed)] at hcurrent
  cases hcurrent

theorem Books.ifCurrent (h : Books watched) (runtime : Runtime) {f : Watched → Watched}
    (hf : watched.host.state ≠ .closed → Goes watched (f watched)) :
    Goes watched (watched.ifCurrent runtime f) := by
  rw [Watched.ifCurrent]
  split_ifs with hcurrent
  · exact hf (h.open_of_isCurrent hcurrent)
  · exact h.goes

theorem Books.accounted_ifCurrent (h : Books watched)
    (hcurrent : (watched.ifCurrent runtime Watched.account).host.isCurrent runtime = true) :
    (watched.ifCurrent runtime Watched.account).host.accountedGeneration =
      (watched.ifCurrent runtime Watched.account).host.generation := by
  rw [Watched.ifCurrent] at hcurrent ⊢
  by_cases hbefore : watched.host.isCurrent runtime = true
  · obtain ⟨-, -, hgeneration, haccounted⟩ := h.account
    rw [if_pos hbefore]
    exact haccounted.trans hgeneration.symm
  · rw [if_neg hbefore] at hcurrent
    exact absurd hcurrent hbefore

theorem Books.failAccount (h : Books watched) (hopen : watched.host.state ≠ .closed) :
    Goes watched watched.fail.account :=
  (h.fail hopen).trans (h.fail hopen).books.account.1

theorem Books.stateAccount (h : Books watched) {state : HostState}
    (hopen : watched.host.state ≠ .closed) (hstate : state ≠ .closed) :
    Goes watched (watched.setState state).account :=
  (h.setState hopen hstate).trans (h.setState hopen hstate).books.account.1

theorem stoppedState_ne_closed (child : RuntimeSnapshot) : Host.stoppedState child ≠ .closed := by
  rw [Host.stoppedState]
  split_ifs <;> decide

theorem Books.launch_fine (h : Books watched) (hgoes : Goes before watched)
    (hnone : watched.host.runtime = none) (hopen : watched.host.state ≠ .closed)
    (made : Option RuntimeSnapshot) : Fine .start before (watched.launch made) := by
  cases made with
  | none => exact .raise (hgoes.trans (h.fail hopen)) _ _
  | some snapshot =>
      refine ⟨hgoes.trans (h.launch hnone hopen snapshot), fun other hother => ?_, hopen⟩
      exact (Option.some.inj hother).symm

theorem start_fine (h : Books watched) (made : Option RuntimeSnapshot) :
    Fine .start watched (watched.start made) := by
  rw [Watched.start]
  split_ifs with hstate hlimit
  · exact .raise h.goes _ _
  · exact .raise h.goes _ _
  have hopen : watched.host.state ≠ .closed := fun hclosed => hstate (.inr hclosed)
  split
  case h_1 hnone => exact h.launch_fine h.goes hnone hopen made
  case h_2 runtime hruntime =>
    obtain ⟨hgoes, hsame, hgeneration, haccounted⟩ := h.account
    have hcurrent : watched.account.host.isCurrent runtime = true :=
      isCurrent_iff.mpr ⟨runtime, (account_runtime watched).trans hruntime, rfl⟩
    refine ⟨hgoes, fun other hother => (Option.some.inj hother).symm, hcurrent, ?_, ?_⟩
    · rw [hsame]
      exact hopen
    · exact haccounted.trans hgeneration.symm

theorem begin_fine (h : Books watched) (method : Method) (made : Option RuntimeSnapshot) :
    Fine method watched (watched.begin method made) := by
  cases method with
  | start => exact start_fine h made
  | wait =>
      rw [Watched.begin, Watched.wait]
      split
      · exact .raise h.goes _ _
      · split_ifs
        · exact .raise h.goes _ _
        · exact ⟨h.goes, fun other hother => (Option.some.inj hother).symm, trivial⟩
  | stop =>
      rw [Watched.begin, Watched.stop]
      split_ifs with hready hrunning
      · exact .raise h.goes _ _
      · exact .giveSnapshot h.goes nofun
      split
      · refine .raise (h.fail ?_) _ _
        rw [not_not.mp hrunning]
        decide
      · exact ⟨h.goes, fun other hother => (Option.some.inj hother).symm, trivial⟩
  | close =>
      rw [Watched.begin, Watched.close]
      split
      case isTrue hclosed => exact .giveSnapshot h.goes fun _ => hclosed
      case isFalse =>
        split
        case h_1 => exact ⟨h.goes, fun other hother => (Option.some.inj hother).symm, trivial⟩
        case h_2 runtime hruntime =>
          have hle := (h.current runtime hruntime).1.le
          split_ifs
          · exact ⟨h.goes, fun other hother => (Option.some.inj hother).symm, hle⟩
          · exact ⟨h.goes, fun other hother => (Option.some.inj hother).symm, hle⟩

/-- What `close` drops in its last section is what it has closed, or nothing. -/
def DropsOwnRuntime (watched : Watched) (read : Option Runtime) : Prop :=
  ∀ current ∈ watched.host.runtime, ∃ runtime ∈ read, runtime.generation = current.generation

theorem drop_fine (h : Books watched) {read : Option Runtime}
    (hsound : (Phase.closeDropping read).Ready .close watched)
    (hdrops : DropsOwnRuntime watched read) :
    Fine .close watched (watched.drop.setState .closed).giveSnapshot := by
  have hempty : watched.running = [] ∧
      watched.host.accountedGeneration = watched.host.generation := by
    cases hruntime : watched.host.runtime with
    | none =>
        refine ⟨List.eq_nil_iff_forall_not_mem.mpr fun generation hmem => ?_, h.dropped hruntime⟩
        obtain ⟨other, hother, -⟩ := h.running generation hmem
        rw [hruntime] at hother
        cases hother
    | some current =>
        obtain ⟨runtime, rfl, hsame⟩ := hdrops current hruntime
        obtain ⟨-, haccounted, hreleased⟩ := hsound
        refine ⟨List.eq_nil_iff_forall_not_mem.mpr fun generation hmem => ?_,
          haccounted (isCurrent_iff.mpr ⟨current, hruntime, hsame.symm⟩)⟩
        obtain ⟨other, hother, rfl⟩ := h.running generation hmem
        rw [hruntime] at hother
        cases hother
        exact hreleased (hsame ▸ hmem)
  have hgoes := h.drop hempty.1 hempty.2
  refine .giveSnapshot ⟨{ hgoes.books with closed := fun _ => rfl },
    { hgoes.later with closed := fun _ => rfl }⟩ fun _ => rfl

theorem waited_fine (h : Books watched) (runtime : Runtime) (child : RuntimeSnapshot) :
    Fine .wait watched (watched.waited runtime child) := by
  rw [Watched.waited]
  split_ifs with hcurrent hclosed hcomplete hstopped
  · exact .raise h.goes _ _
  · exact .giveSnapshot h.goes nofun
  · exact .giveSnapshot (h.stateAccount hclosed (by decide)) nofun
  · exact .giveSnapshot (h.stateAccount hclosed (by decide)) nofun
  · exact .raise (h.failAccount hclosed) _ _

theorem stopped_fine (h : Books watched) (runtime : Runtime) (child : RuntimeSnapshot) :
    Fine .stop watched (watched.stopped runtime child) := by
  rw [Watched.stopped]
  split_ifs with hcurrent hchild
  · exact .raise (h.failAccount (h.open_of_isCurrent hcurrent)) _ _
  · exact .giveSnapshot
      (h.stateAccount (h.open_of_isCurrent hcurrent) (stoppedState_ne_closed child)) nofun
  · exact .giveSnapshot h.goes nofun

theorem resume_fine (h : Books watched) {method : Method} {phase : Phase}
    (hsound : phase.Sound method watched) (answer : Answer) (made : Option RuntimeSnapshot)
    (hdrops : ∀ child read, phase = .closeDropping read → answer = .returned child →
      DropsOwnRuntime watched read) :
    Fine method watched (watched.resume phase answer made) := by
  obtain ⟨hbelongs, hready⟩ := hsound
  have hfail : ∀ runtime,
      Goes watched (watched.ifCurrent runtime fun current => current.fail.account) :=
    fun runtime => h.ifCurrent runtime h.failAccount
  cases phase with
  | idle => exact ⟨h.goes, nofun, trivial⟩
  | ended outcome => exact ⟨h.goes, nofun, by cases outcome <;> exact hready⟩
  | closingPrevious runtime =>
      obtain rfl := hbelongs .start rfl
      obtain ⟨hcurrent, hopen, haccounted⟩ := hready
      cases answer with
      | returned child =>
          obtain ⟨current, hruntime, hsame⟩ := isCurrent_iff.mp hcurrent
          have hreleased := h.release runtime
          have hdropped := hreleased.books.drop (h.running_release hruntime hsame.symm) haccounted
          exact hdropped.books.launch_fine (hreleased.trans hdropped) rfl hopen made
      | raised => exact .raise (h.fail hopen) _ _
      | cancelled => exact .cancelled h.goes
  | starting runtime =>
      obtain rfl := hbelongs .start rfl
      cases answer with
      | returned child => exact .giveSnapshot (h.setState hready (by decide)) nofun
      | raised => exact .raise (h.fail hready) _ _
      | cancelled => exact .cancelled (h.fail hready)
  | waiting runtime =>
      obtain rfl := hbelongs .wait rfl
      cases answer with
      | returned child => exact waited_fine h runtime child
      | raised => exact .raise (hfail runtime) _ _
      | cancelled => exact .cancelled h.goes
  | stopping runtime =>
      obtain rfl := hbelongs .stop rfl
      cases answer with
      | returned child => exact stopped_fine h runtime child
      | raised => exact .raise (hfail runtime) _ _
      | cancelled => exact .cancelled h.goes
  | closeStopping runtime =>
      obtain rfl := hbelongs .close rfl
      cases answer with
      | returned child =>
          have hgoes : Goes watched (watched.ifCurrent runtime fun current =>
              (current.setState (Host.stoppedState child)).account) :=
            h.ifCurrent runtime fun hopen => h.stateAccount hopen (stoppedState_ne_closed child)
          exact ⟨hgoes, fun other hother => (Option.some.inj hother).symm,
            hready.trans hgoes.later.generation⟩
      | raised => exact .raise (hfail runtime) _ _
      | cancelled => exact .cancelled h.goes
  | closeAccounting runtime =>
      obtain rfl := hbelongs .close rfl
      cases answer with
      | returned child =>
          have hgoes := h.ifCurrent runtime fun _ => h.account.1
          exact ⟨hgoes, fun other hother => (Option.some.inj hother).symm,
            hready.trans hgoes.later.generation, h.accounted_ifCurrent⟩
      | raised => exact ⟨h.goes, hbelongs, hready⟩
      | cancelled => exact .cancelled h.goes
  | closeClosing runtime =>
      obtain rfl := hbelongs .close rfl
      cases answer with
      | returned child =>
          refine ⟨h.release runtime, fun other hother => (Option.some.inj hother).symm, hready.1,
            hready.2, fun hmem => ?_⟩
          simpa using (List.mem_filter.mp hmem).2
      | raised => exact .raise (h.ifCurrent runtime h.fail) _ _
      | cancelled => exact .cancelled h.goes
  | closeDropping read =>
      obtain rfl := hbelongs .close rfl
      cases answer with
      | returned child => exact drop_fine h hready (hdrops child read rfl rfl)
      | raised => exact ⟨h.goes, hbelongs, hready⟩
      | cancelled => exact .cancelled h.goes

/-! ## The runs -/

variable {ι : Type} {methods : ι → Method} {system : System ι}

/-- A `close` that takes its last section drops the runtime that it has closed, or none. -/
def DropsOwn (system : System ι) : Event ι → Prop
  | .resume call (.returned _) _ =>
      match system.phases call with
      | .closeDropping read => DropsOwnRuntime system.watched read
      | _ => True
  | _ => True

structure Inv (methods : ι → Method) (system : System ι) : Prop where
  books : Books system.watched
  sound : ∀ call, (system.phases call).Sound (methods call) system.watched
  holder : ∀ call, (system.phases call).locks = true → system.holder = some call

theorem inv_create (methods : ι → Method) (maxGenerations : ℕ) :
    Inv methods (System.create ι maxGenerations) where
  books :=
    { current := nofun
      dropped := fun _ => rfl
      closed := fun _ => rfl
      running := nofun
      nodup := List.nodup_nil
      bound := le_refl _
      totals := rfl
      once := List.nodup_nil
      entries := fun _ =>
        ⟨nofun, fun ⟨hpositive, hle, _⟩ => absurd (hpositive.trans_le hle) (Nat.lt_irrefl 0)⟩
      shown := nofun
      final := nofun }
  sound _ := ⟨nofun, trivial⟩
  holder := nofun

theorem resume_unlocked {phase : Phase} {answer : Answer} (h : needsLock phase answer = false)
    (made : Option RuntimeSnapshot) (watched : Watched) :
    (watched.resume phase answer made).1.host = watched.host ∧
      (watched.resume phase answer made).2.locks = false := by
  cases answer with
  | returned => cases phase <;> first | exact ⟨rfl, rfl⟩ | cases h
  | raised => cases phase <;> cases h
  | cancelled => cases phase <;> first | exact ⟨rfl, rfl⟩ | cases h

theorem Phase.Ready.of_host {before after : Watched} {method : Method} {phase : Phase}
    (h : phase.Ready method before) (hlocks : phase.locks = true)
    (hhost : after.host = before.host) : phase.Ready method after := by
  cases phase with
  | closingPrevious | starting =>
      simp only [Phase.Ready] at h ⊢
      rwa [hhost]
  | _ => cases hlocks

theorem Inv.turn [DecidableEq ι] (h : Inv methods system) {call : ι} {after : Turn}
    (hfine : Fine (methods call) system.watched after)
    (hlock : system.isFree call ∨ after.1.host = system.watched.host ∧ after.2.locks = false) :
    Inv methods (system.turn call after) := by
  -- whoever else has the lock is not disturbed
  have hothers : ∀ other ≠ call, (system.phases other).locks = true →
      system.holder = some other ∧ after.1.host = system.watched.host ∧
        after.2.locks = false := by
    intro other hne hlocks
    have hholder := h.holder other hlocks
    rcases hlock with hfree | hunlocked
    · rcases hfree with hnone | hcall
      · cases hnone.symm.trans hholder
      · exact absurd (Option.some.inj (hholder.symm.trans hcall)) hne
    · exact ⟨hholder, hunlocked⟩
  refine ⟨hfine.goes.books, fun other => ?_, fun other hlocks => ?_⟩
  · rcases eq_or_ne other call with rfl | hne
    · simpa [System.turn] using hfine.sound
    · obtain ⟨hbelongs, hready⟩ := h.sound other
      simp only [System.turn, Function.update_of_ne hne]
      cases hlocks : (system.phases other).locks with
      | false => exact ⟨hbelongs, hready.later hfine.goes hlocks⟩
      | true => exact ⟨hbelongs, hready.of_host hlocks (hothers other hne hlocks).2.1⟩
  · rcases eq_or_ne other call with rfl | hne
    · simp only [System.turn, Function.update_self] at hlocks ⊢
      rw [if_pos hlocks]
    · simp only [System.turn, Function.update_of_ne hne] at hlocks ⊢
      obtain ⟨hholder, -, hunlocked⟩ := hothers other hne hlocks
      have hcall : system.holder ≠ some call := by
        rw [hholder]
        exact fun heq => hne (Option.some.inj heq)
      rw [hunlocked, if_neg Bool.false_ne_true, if_neg hcall]
      exact hholder

theorem shows_of_some {current : Runtime} (h : watched.host.runtime = some current)
    (snapshot : RuntimeSnapshot) :
    watched.shows snapshot =
      { watched with
        host := { watched.host with runtime := some ⟨current.generation, snapshot⟩ }
        shown := Function.update watched.shown current.generation snapshot.totals
        late :=
          if watched.host.accountedGeneration = watched.host.generation ∧
              snapshot.totals ≠ current.snapshot.totals then
            current.generation :: watched.late
          else watched.late } := by
  simp only [Watched.shows, h]

theorem shows_of_none (h : watched.host.runtime = none) (snapshot : RuntimeSnapshot) :
    watched.shows snapshot = watched := by
  simp only [Watched.shows, h]

theorem isCurrent_shows (snapshot : RuntimeSnapshot) (watched : Watched) (runtime : Runtime) :
    (watched.shows snapshot).host.isCurrent runtime = watched.host.isCurrent runtime := by
  cases hcurrent : watched.host.runtime with
  | none => rw [shows_of_none hcurrent]
  | some current =>
      rw [shows_of_some hcurrent]
      simp [Host.isCurrent, hcurrent]

theorem Books.shows (h : Books watched) (snapshot : RuntimeSnapshot) :
    Goes watched (watched.shows snapshot) := by
  have hsame := isCurrent_shows snapshot watched
  cases hcurrent : watched.host.runtime with
  | none =>
      rw [shows_of_none hcurrent]
      exact h.goes
  | some current =>
      rw [shows_of_some hcurrent] at hsame ⊢
      refine ⟨{ h with
        current := ?_
        dropped := nofun
        closed := ?_
        running := ?_
        shown := ?_
        final := ?_ }, { Later.refl watched with current := fun runtime _ hruntime => ?_ }⟩
      · intro runtime hruntime
        cases hruntime
        exact h.current current hcurrent
      · intro hclosed
        cases hcurrent.symm.trans (h.closed hclosed)
      · intro generation hmem
        obtain ⟨runtime, hruntime, hgeneration⟩ := h.running generation hmem
        cases hcurrent.symm.trans hruntime
        exact ⟨_, rfl, hgeneration⟩
      · intro runtime hruntime
        cases hruntime
        exact Function.update_self _ _ _
      · intro entry hmem hlate
        dsimp only at hmem hlate ⊢
        by_cases heq : entry.1 = current.generation
        · have hnewest := (h.current current hcurrent).1
          have hdone : watched.host.accountedGeneration = watched.host.generation :=
            ((h.entries entry.1).mp (List.mem_map_of_mem hmem)).2.2 (heq.trans hnewest)
          have htotals : snapshot.totals = current.snapshot.totals := by
            by_contra hne
            rw [if_pos ⟨hdone, hne⟩] at hlate
            exact hlate (heq ▸ List.mem_cons_self)
          rw [if_neg (fun hboth => hboth.2 htotals)] at hlate
          rw [heq, Function.update_self, htotals, h.final entry hmem hlate, heq]
          exact h.shown current hcurrent
        · rw [Function.update_of_ne heq]
          refine h.final entry hmem fun hold => hlate ?_
          split_ifs
          · exact List.mem_cons_of_mem _ hold
          · exact hold
      · rwa [hsame] at hruntime

theorem host_shows (snapshot : RuntimeSnapshot) (watched : Watched) :
    (watched.shows snapshot).host.state = watched.host.state ∧
      (watched.shows snapshot).host.accountedGeneration = watched.host.accountedGeneration ∧
        (watched.shows snapshot).host.generation = watched.host.generation := by
  rw [Watched.shows]
  split <;> exact ⟨rfl, rfl, rfl⟩

theorem Inv.shows (h : Inv methods system) (snapshot : RuntimeSnapshot) :
    Inv methods { system with watched := system.watched.shows snapshot } := by
  have hgoes := h.books.shows snapshot
  obtain ⟨hstate, haccounted, hgeneration⟩ := host_shows snapshot system.watched
  refine ⟨hgoes.books, fun call => ⟨(h.sound call).belongs, ?_⟩, h.holder⟩
  have hready := (h.sound call).ready
  dsimp only
  cases hphase : system.phases call with
  | closingPrevious runtime =>
      rw [hphase] at hready
      obtain ⟨hcurrent, hopen, hdone⟩ := hready
      refine ⟨(isCurrent_shows snapshot _ runtime).trans hcurrent, ?_, ?_⟩
      · rwa [hstate]
      · rw [haccounted, hgeneration, hdone]
  | starting runtime =>
      rw [hphase] at hready
      rw [Phase.Ready, hstate]
      exact hready
  | _ =>
      rw [hphase] at hready
      exact hready.later hgoes rfl

theorem Inv.step [DecidableEq ι] (h : Inv methods system) {event : Event ι}
    (hpossible : system.possible event) (hdrops : DropsOwn system event) :
    Inv methods (system.step methods event) := by
  cases event with
  | begin call made =>
      rw [System.step]
      split_ifs
      · exact h.turn (begin_fine h.books (methods call) made) (.inl hpossible)
      · exact h
  | resume call answer made =>
      refine h.turn (resume_fine h.books (h.sound call) answer made ?_) ?_
      · rintro child read hphase rfl
        rw [DropsOwn, hphase] at hdrops
        exact hdrops
      · cases hneeds : needsLock (system.phases call) answer with
        | false => exact .inr (resume_unlocked hneeds made system.watched)
        | true => exact .inl (hpossible hneeds)
  | shows snapshot => exact h.shows snapshot

/-- One generation runs at a time, none runs behind a `close` that has returned, and each generation
that the host has let go of is in the totals, once, with what it has shown when it was accounted
for; that is what it has shown last, unless it has gone on after that. -/
structure HostSafe (methods : ι → Method) (system : System ι) : Prop where
  single : system.watched.running.length ≤ 1
  released : ∀ call snapshot, methods call = .close →
    system.phases call = .ended (.returned snapshot) → system.watched.running = []
  totals : system.watched.host.totals = sumOf system.watched.accounted
  once : (system.watched.accounted.map Prod.fst).Nodup
  entries : ∀ generation, 0 < generation → generation ≤ system.watched.host.generation →
    generation ∈ system.watched.accounted.map Prod.fst ∨
      ∃ runtime, system.watched.host.runtime = some runtime ∧ runtime.generation = generation
  final : ∀ entry ∈ system.watched.accounted, entry.1 ∉ system.watched.late →
    entry.2 = system.watched.shown entry.1

theorem Books.running_eq_nil (h : Books watched) (hnone : watched.host.runtime = none) :
    watched.running = [] := by
  refine List.eq_nil_iff_forall_not_mem.mpr fun generation hmem => ?_
  obtain ⟨runtime, hruntime, -⟩ := h.running generation hmem
  rw [hnone] at hruntime
  cases hruntime

theorem Inv.safe (h : Inv methods system) : HostSafe methods system where
  single := by
    cases hruntime : system.watched.host.runtime with
    | none =>
        rw [h.books.running_eq_nil hruntime]
        exact Nat.zero_le 1
    | some current =>
        have hall : ∀ generation ∈ system.watched.running, generation = current.generation := by
          intro generation hmem
          obtain ⟨runtime, hsome, rfl⟩ := h.books.running generation hmem
          rw [hruntime] at hsome
          cases hsome
          rfl
        have hnodup := h.books.nodup
        rwa [List.eq_replicate_of_mem hall, List.nodup_replicate] at hnodup
  released call snapshot hclose hended := by
    have hready := (h.sound call).ready
    rw [hended] at hready
    exact h.books.running_eq_nil (h.books.closed (hready hclose))
  totals := h.books.totals
  once := h.books.once
  entries generation hpositive hle := by
    rcases eq_or_ne generation system.watched.host.generation with rfl | hne
    · cases hruntime : system.watched.host.runtime with
      | none =>
          exact .inl ((h.books.entries _).mpr ⟨hpositive, hle, fun _ => h.books.dropped hruntime⟩)
      | some runtime => exact .inr ⟨runtime, rfl, (h.books.current runtime hruntime).1⟩
    · exact .inl ((h.books.entries _).mpr ⟨hpositive, hle, fun heq => absurd heq hne⟩)
  final := h.books.final

/-- In a run where every `close` drops its own runtime the host is safe in every state. -/
theorem host_safe [DecidableEq ι] (methods : ι → Method) (maxGenerations : ℕ)
    {events : List (Event ι)}
    (h : (System.machine methods DropsOwn).Reaches (System.create ι maxGenerations) events system) :
    HostSafe methods system := by
  have hstep : ∀ state event, Inv methods state →
      (System.machine methods DropsOwn).admissible state event →
        Inv methods (state.step methods event) :=
    fun _ _ hinv hadmissible => hinv.step hadmissible.1 hadmissible.2
  exact (h.invariant hstep (inv_create methods maxGenerations)).safe

/-! ## A generation that is lost -/

/-- A `close`, and a `start` before and after it begins. -/
def sampleMethods : Fin 3 → Method
  | 0 => .start
  | 1 => .close
  | 2 => .start

def sampleSnapshot (state : RuntimeState) (frames : ℕ) : RuntimeSnapshot :=
  ⟨state, ⟨2, 1, 1, 2⟩, ⟨frames, 100 * frames, 0⟩⟩

/-- The first generation runs; `close` has stopped it, and awaits that it is closed. -/
def closingEvents : List (Event (Fin 3)) :=
  [.begin 0 (some (sampleSnapshot .created 0)),
    .resume 0 (.returned (sampleSnapshot .running 0)) none,
    .shows (sampleSnapshot .running 5),
    .begin 1 none,
    .resume 1 (.returned (sampleSnapshot .stopped 5)) none,
    .resume 1 (.returned (sampleSnapshot .stopped 5)) none]

/-- It is closed, and `close` comes to its end. -/
def closedEvents : List (Event (Fin 3)) :=
  [.resume 1 (.returned (sampleSnapshot .closed 5)) none,
    .resume 1 (.returned (sampleSnapshot .closed 5)) none]

/-- Another `start` closes the first generation too, and starts the second one. -/
def overtakingEvents : List (Event (Fin 3)) :=
  [.begin 2 none,
    .resume 2 (.returned (sampleSnapshot .closed 5)) (some (sampleSnapshot .created 0)),
    .resume 2 (.returned (sampleSnapshot .running 0)) none]

def sampleRun (events : List (Event (Fin 3))) : System (Fin 3) :=
  events.foldl (System.step sampleMethods) (System.create (Fin 3) 128)

theorem host_safe_sample : HostSafe sampleMethods (sampleRun (closingEvents ++ closedEvents)) ∧
      (sampleRun (closingEvents ++ closedEvents)).watched.host.totals = ⟨5, 500, 0⟩ := by
  have hreaches : (System.machine sampleMethods DropsOwn).Reaches (System.create (Fin 3) 128)
      (closingEvents ++ closedEvents) (sampleRun (closingEvents ++ closedEvents)) := by
    refine ⟨⟨.inl rfl, trivial⟩, ⟨fun _ => .inr rfl, trivial⟩, ⟨trivial, trivial⟩,
      ⟨.inl rfl, trivial⟩, ⟨fun _ => .inl rfl, trivial⟩, ⟨fun _ => .inl rfl, trivial⟩,
      ⟨fun _ => .inl rfl, trivial⟩, ⟨fun _ => .inl rfl, ?_⟩, rfl⟩
    intro current hcurrent
    exact ⟨current, hcurrent, rfl⟩
  exact ⟨host_safe sampleMethods 128 hreaches, by decide⟩

/-- `close` returns while the second generation runs, and is in no total. -/
theorem close_loses_generation :
    ∃ system snapshot, (System.machine sampleMethods fun _ _ => True).Reaches
        (System.create (Fin 3) 128) (closingEvents ++ overtakingEvents ++ closedEvents) system ∧
      system.phases 1 = .ended (.returned snapshot) ∧ system.watched.running = [2] ∧
        2 ∉ system.watched.accounted.map Prod.fst ∧ ¬ HostSafe sampleMethods system := by
  refine ⟨sampleRun (closingEvents ++ overtakingEvents ++ closedEvents), _,
    ⟨⟨.inl rfl, trivial⟩, ⟨fun _ => .inr rfl, trivial⟩, ⟨trivial, trivial⟩,
      ⟨.inl rfl, trivial⟩, ⟨fun _ => .inl rfl, trivial⟩, ⟨fun _ => .inl rfl, trivial⟩,
      ⟨.inl rfl, trivial⟩, ⟨fun _ => .inr rfl, trivial⟩, ⟨fun _ => .inr rfl, trivial⟩,
      ⟨fun _ => .inl rfl, trivial⟩, ⟨fun _ => .inl rfl, trivial⟩, rfl⟩, rfl, rfl, by decide, ?_⟩
  intro hsafe
  have hempty := hsafe.released 1 _ rfl rfl
  cases hempty

end K5Vision.Presentation.HostCalls
