import K5Vision.Library.Routine

/-!
# A routine alone

`Runs` is a routine that nobody disturbs, from one state to another, with what it asked for and was
answered.  A composed routine runs as its parts do, one after the other: `Runs.follow` and
`Runs.bind` take a run apart where the routine was put together.
-/

namespace Library

namespace Routine

/-- A request, with its answer. -/
structure Served (I : Interface) (ε : Type) where
  request : I.Request
  answer : Except ε (I.Answer request)

variable {I : Interface} {ε α β σ φ : Type} {server : Server I ε σ φ}

/-- The routine alone. -/
def Runs (server : Server I ε σ φ) : Routine I ε α → σ → List (Served I ε) → Except ε α → σ → Prop
  | .done result, start, log, outcome, final => log = [] ∧ outcome = result ∧ final = start
  | .ask request next, start, log, outcome, final =>
      ∃ choice, server.permits choice request start ∧
        ∃ rest, log = ⟨request, (server.serve choice request start).1⟩ :: rest ∧
          Runs server (next (server.serve choice request start).1)
            (server.serve choice request start).2 rest outcome final

variable {start final : σ} {log : List (Served I ε)}

theorem runs_done (outcome : Except ε α) (state : σ) :
    (done outcome : Routine I ε α).Runs server state [] outcome state :=
  ⟨rfl, rfl, rfl⟩

theorem runs_ask {request : I.Request} {next : Except ε (I.Answer request) → Routine I ε α}
    {outcome : Except ε α} (choice : φ) (hpermits : server.permits choice request start)
    (h : (next (server.serve choice request start).1).Runs server
      (server.serve choice request start).2 log outcome final) :
    (ask request next).Runs server start (⟨request, (server.serve choice request start).1⟩ :: log)
      outcome final :=
  ⟨choice, hpermits, log, rfl, h⟩

theorem Runs.follow {routine : Routine I ε α} {next : Except ε α → Routine I ε β}
    {outcome : Except ε β} (h : (routine.follow next).Runs server start log outcome final) :
    ∃ first second result middle, log = first ++ second ∧
      routine.Runs server start first result middle ∧
        (next result).Runs server middle second outcome final := by
  induction routine generalizing start log with
  | done result => exact ⟨[], log, result, start, rfl, ⟨rfl, rfl, rfl⟩, h⟩
  | ask request after ih =>
      obtain ⟨choice, hpermits, rest, hlog, hrest⟩ := h
      obtain ⟨first, second, result, middle, hsplit, hfirst, hsecond⟩ := ih _ hrest
      refine ⟨_ :: first, second, result, middle, ?_, ⟨choice, hpermits, first, rfl, hfirst⟩,
        hsecond⟩
      rw [hlog, hsplit]
      rfl

theorem Runs.bind {routine : Routine I ε α} {next : α → Routine I ε β} {outcome : Except ε β}
    (h : (routine >>= next).Runs server start log outcome final) :
    (∃ error, outcome = .error error ∧ routine.Runs server start log (.error error) final) ∨
      ∃ first second a middle, log = first ++ second ∧
        routine.Runs server start first (.ok a) middle ∧
          (next a).Runs server middle second outcome final := by
  change (routine.bind next).Runs server start log outcome final at h
  rw [bind_eq_follow] at h
  obtain ⟨first, second, result, middle, hlog, hfirst, hsecond⟩ := h.follow
  cases result with
  | ok a => exact .inr ⟨first, second, a, middle, hlog, hfirst, hsecond⟩
  | error error =>
      obtain ⟨rfl, rfl, rfl⟩ := hsecond
      rw [List.append_nil] at hlog
      exact .inl ⟨error, rfl, hlog ▸ hfirst⟩

theorem Runs.call {request : I.Request} {outcome : Except ε (I.Answer request)}
    (h : (call request).Runs server start log outcome final) :
    ∃ choice, server.permits choice request start ∧ log = [⟨request, outcome⟩] ∧
      server.serve choice request start = (outcome, final) := by
  obtain ⟨choice, hpermits, rest, hlog, rfl, rfl, rfl⟩ := h
  exact ⟨choice, hpermits, hlog, rfl⟩

end Routine

end Library
