import K5Vision.Library.Handler

/-!
# Outcomes of request handlers

How a handler ends from a state, as two relations: `Returns`, with the value and the state behind
it, and `Escapes`, where it raises an error that counts as an escape.  Which errors do, and as what,
is said by `escape`.  Each way to compose handlers has a rule for either relation; rewriting with
the rules says of a whole handler when it returns and when it escapes.
-/

namespace Library

namespace Handler

variable {σ ε ρ α β : Type}

def Returns (handler : Handler σ ε α) (state : σ) (a : α) (after : σ) : Prop :=
  handler.exec state = (.ok a, after)

/-- The handler raises an error that escapes as `raised`. -/
def Escapes (escape : ε → Option ρ) (handler : Handler σ ε α) (state : σ) (raised : ρ) : Prop :=
  ∃ error after, handler.exec state = (.error error, after) ∧ escape error = some raised

variable {escape : ε → Option ρ} {handler : Handler σ ε α} {state after : σ} {a : α} {raised : ρ}

/-! ## Steps -/

theorem returns_pure_iff {b : α} :
    (pure a : Handler σ ε α).Returns state b after ↔ b = a ∧ after = state := by
  rw [Returns, exec_pure, Prod.mk.injEq, Except.ok.injEq, eq_comm, @eq_comm _ state]

theorem not_escapes_pure : ¬ (pure a : Handler σ ε α).Escapes escape state raised := by
  rintro ⟨error, after, hexec, -⟩
  cases hexec

theorem returns_read_iff {f : σ → Except ε α} :
    (read f).Returns state a after ↔ f state = .ok a ∧ after = state := by
  rw [Returns, read, exec_of, Prod.mk.injEq, @eq_comm _ state]

theorem escapes_read_iff {f : σ → Except ε α} : (read f).Escapes escape state raised ↔
      ∃ error, f state = .error error ∧ escape error = some raised := by
  constructor
  · rintro ⟨error, after, hexec, hescape⟩
    exact ⟨error, congrArg Prod.fst hexec, hescape⟩
  · rintro ⟨error, hread, hescape⟩
    exact ⟨error, state, by rw [read, exec_of, hread], hescape⟩

theorem returns_modify_iff {change : σ → σ} {done : PUnit} :
    (modify change : Handler σ ε PUnit).Returns state done after ↔ after = change state := by
  change ((Except.ok PUnit.unit, change state) : Except ε PUnit × σ) = (.ok done, after) ↔ _
  rw [Prod.mk.injEq, and_iff_right rfl, eq_comm]

theorem not_escapes_modify {change : σ → σ} :
    ¬ (modify change : Handler σ ε PUnit).Escapes escape state raised := by
  rintro ⟨error, after, hexec, -⟩
  cases congrArg Prod.fst hexec

theorem returns_require_iff {condition : Bool} {error : ε} {done : Unit} :
    (require condition error).Returns state done after ↔ condition = true ∧ after = state := by
  unfold require Returns
  cases condition with
  | true => simp [eq_comm]
  | false => simp

theorem escapes_require_iff {condition : Bool} {error : ε} :
    (require condition error).Escapes escape state raised ↔
      condition = false ∧ escape error = some raised := by
  unfold require Escapes
  cases condition with
  | true => simp
  | false => simp

/-! ## Sequences -/

theorem returns_bind_iff {next : α → Handler σ ε β} {b : β} :
    (handler >>= next).Returns state b after ↔
      ∃ a middle, handler.Returns state a middle ∧ (next a).Returns middle b after := by
  unfold Returns
  rw [exec_bind]
  rcases hexec : handler.exec state with ⟨outcome, middle⟩
  cases outcome with
  | ok a =>
      constructor
      · intro h
        exact ⟨a, middle, rfl, h⟩
      · rintro ⟨a', middle', heq, h⟩
        cases heq
        exact h
  | error error => simp

theorem escapes_bind_iff {next : α → Handler σ ε β} :
    (handler >>= next).Escapes escape state raised ↔ handler.Escapes escape state raised ∨
      ∃ a middle, handler.Returns state a middle ∧ (next a).Escapes escape middle raised := by
  unfold Escapes Returns
  rw [exec_bind]
  rcases hexec : handler.exec state with ⟨outcome, middle⟩
  cases outcome with
  | ok a =>
      constructor
      · intro h
        exact .inr ⟨a, middle, rfl, h⟩
      rintro (⟨error, after, heq, -⟩ | ⟨a', middle', heq, h⟩)
      · cases heq
      · cases heq
        exact h
  | error error => simp

/-- A handler that only reports errors does not return where there is one. -/
theorem returns_recover_iff {handle : ε → Handler σ ε α}
    (hraises : ∀ error state, ∃ other after, (handle error).exec state = (.error other, after)) :
    (handler.recover handle).Returns state a after ↔ handler.Returns state a after := by
  unfold Returns recover
  rw [exec_of]
  rcases hexec : handler.exec state with ⟨outcome, middle⟩
  cases outcome with
  | ok a => rfl
  | error error =>
      obtain ⟨other, left, hhandle⟩ := hraises error middle
      simp only [hhandle]
      constructor
      · intro h
        cases h
      · intro h
        cases h

/-- What escapes from a handler that only reports errors: `keep` says which it lets through. -/
theorem escapes_recover_iff {handle : ε → Handler σ ε α} {keep : ρ → Prop}
    (hraises : ∀ error state, ∃ other after, (handle error).exec state = (.error other, after) ∧
      ∀ raised, escape other = some raised ↔ escape error = some raised ∧ keep raised) :
    (handler.recover handle).Escapes escape state raised ↔
      handler.Escapes escape state raised ∧ keep raised := by
  unfold Escapes recover
  rw [exec_of]
  rcases hexec : handler.exec state with ⟨outcome, middle⟩
  cases outcome with
  | ok a => simp
  | error error =>
      obtain ⟨other, left, hhandle, hkeep⟩ := hraises error middle
      simp only [hhandle]
      constructor
      · rintro ⟨error', after, heq, hescape⟩
        cases heq
        obtain ⟨hbefore, hkept⟩ := (hkeep raised).1 hescape
        exact ⟨⟨error, middle, rfl, hbefore⟩, hkept⟩
      · rintro ⟨⟨error', after, heq, hescape⟩, hkept⟩
        cases heq
        exact ⟨other, left, rfl, (hkeep raised).2 ⟨hescape, hkept⟩⟩

/-- A handler that lets everything through. -/
theorem escapes_recover_all_iff {handle : ε → Handler σ ε α}
    (hraises : ∀ error state, ∃ other after, (handle error).exec state = (.error other, after) ∧
      escape other = escape error) :
    (handler.recover handle).Escapes escape state raised ↔ handler.Escapes escape state raised := by
  rw [@escapes_recover_iff _ _ _ _ escape handler state raised handle fun _ => True, and_true]
  intro error state
  obtain ⟨other, after, hexec, hsame⟩ := hraises error state
  exact ⟨other, after, hexec, fun _ => by rw [hsame, and_true]⟩

/-! ## Lists -/

section ForEach

variable {f : α → Handler σ ε Unit} {ok : σ → α → Prop} {next : σ → α → σ}

/-- Every item is handled in the state that those before it leave. -/
def AllOk (ok : σ → α → Prop) (next : σ → α → σ) (state : σ) (items : List α) : Prop :=
  ∀ before item rest, items = before ++ item :: rest → ok (before.foldl next state) item

theorem allOk_nil : AllOk ok next state [] := by
  intro before item rest hsplit
  simp at hsplit

theorem allOk_cons_iff {items : List α} :
    AllOk ok next state (a :: items) ↔ ok state a ∧ AllOk ok next (next state a) items := by
  constructor
  · intro h
    refine ⟨h [] a items rfl, ?_⟩
    rintro before item rest rfl
    exact h (a :: before) item rest rfl
  rintro ⟨hfirst, hrest⟩ before item rest hsplit
  cases before with
  | nil =>
      cases hsplit
      exact hfirst
  | cons first before =>
      cases hsplit
      exact hrest before item rest rfl

theorem returns_forEach_iff (hreturns : ∀ state a after, (f a).Returns state () after ↔
      ok state a ∧ after = next state a) {items : List α} {done : Unit} :
    (forEach f items).Returns state done after ↔
      AllOk ok next state items ∧ after = items.foldl next state := by
  induction items generalizing state with
  | nil =>
      rw [forEach, returns_pure_iff, and_iff_right rfl, and_iff_right allOk_nil]
      rfl
  | cons item rest ih =>
      rw [forEach, returns_bind_iff, allOk_cons_iff, List.foldl_cons]
      constructor
      · rintro ⟨⟨⟩, middle, hitem, hrest⟩
        obtain ⟨hok, rfl⟩ := (hreturns _ _ _).1 hitem
        obtain ⟨hall, hafter⟩ := ih.1 hrest
        exact ⟨⟨hok, hall⟩, hafter⟩
      · rintro ⟨⟨hok, hall⟩, hafter⟩
        exact ⟨(), _, (hreturns _ _ _).2 ⟨hok, rfl⟩, ih.2 ⟨hall, hafter⟩⟩

theorem escapes_forEach_iff (hreturns : ∀ state a after, (f a).Returns state () after ↔
      ok state a ∧ after = next state a) {items : List α} :
    (forEach f items).Escapes escape state raised ↔
      ∃ before item rest, items = before ++ item :: rest ∧ AllOk ok next state before ∧
        (f item).Escapes escape (before.foldl next state) raised := by
  induction items generalizing state with
  | nil =>
      rw [forEach]
      constructor
      · intro h
        exact absurd h not_escapes_pure
      · rintro ⟨before, item, rest, hsplit, -⟩
        simp at hsplit
  | cons first items ih =>
      rw [forEach, escapes_bind_iff]
      constructor
      · rintro (hfirst | ⟨⟨⟩, middle, hfirst, hrest⟩)
        · exact ⟨[], first, items, rfl, allOk_nil, hfirst⟩
        · obtain ⟨hok, rfl⟩ := (hreturns _ _ _).1 hfirst
          obtain ⟨before, item, rest, rfl, hall, hitem⟩ := ih.1 hrest
          exact ⟨first :: before, item, rest, rfl, allOk_cons_iff.2 ⟨hok, hall⟩, hitem⟩
      rintro ⟨before, item, rest, hsplit, hall, hitem⟩
      cases before with
      | nil =>
          cases hsplit
          exact .inl hitem
      | cons other before =>
          cases hsplit
          obtain ⟨hok, hbefore⟩ := allOk_cons_iff.1 hall
          exact .inr ⟨(), _, (hreturns _ _ _).2 ⟨hok, rfl⟩,
            ih.2 ⟨before, item, rest, rfl, hbefore, hitem⟩⟩

end ForEach

end Handler

end Library
