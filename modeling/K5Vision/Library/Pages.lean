import K5Vision.Library.Machine
import Mathlib.Data.List.Pairwise

/-!
# Reading a table in pages

A table holds its rows in the order of their keys.  A page is the newest rows that match a
filter and lie before a cursor; one row more than its limit is asked for, to tell whether there
are further ones, and the key of its last row is the cursor of the next page.

`Lossless` says what a walk from page to page is worth while the table is written to between the
pages.  It does not depend on what is written, but on the cursors alone: the pages of a walk
cover the keys in disjoint ranges (`Reading.Covers`), and a page has just the rows that its range
and its table have.
-/

namespace Library

variable {ρ τ σ Op : Type*}

structure Page (τ : Type*) where
  items : List τ
  hasMore : Bool
  nextBefore : Option ℕ
  deriving DecidableEq, Repr

/-- A key lies before a cursor; the first page has none. -/
def below (before : Option ℕ) (n : ℕ) : Bool := before.all fun cursor => n < cursor

/-- The page of the newest rows that match, from a table in the order of its keys. -/
def pageOf (key : ρ → ℕ) (rows : List ρ) (matching : ρ → Bool) (limit : ℕ) (before : Option ℕ) :
    Page ρ :=
  let found := (rows.reverse.filter fun row => matching row && below before (key row)).take
    (limit + 1)
  ⟨found.take limit, limit < found.length,
    if limit < found.length then (found.take limit).getLast?.map key else none⟩

def Page.map (item : ρ → τ) (page : Page ρ) : Page τ :=
  ⟨page.items.map item, page.hasMore, page.nextBefore⟩

def Sorted (key : ρ → ℕ) (rows : List ρ) : Prop := rows.Pairwise fun a b => key a < key b

section Page

variable {key : ρ → ℕ} {rows : List ρ} {matching : ρ → Bool} {limit : ℕ} {before : Option ℕ}

theorem Sorted.sublist {kept : List ρ} (h : Sorted key rows) (hsub : kept.Sublist rows) :
    Sorted key kept :=
  List.Pairwise.sublist hsub h

theorem Sorted.eq_of_key_eq {a b : ρ} (h : Sorted key rows) (ha : a ∈ rows) (hb : b ∈ rows)
    (hkey : key a = key b) : a = b := by
  obtain ⟨i, hi, rfl⟩ := List.getElem_of_mem ha
  obtain ⟨j, hj, rfl⟩ := List.getElem_of_mem hb
  have hpairs := List.pairwise_iff_getElem.mp h
  rcases Nat.lt_trichotomy i j with hlt | rfl | hgt
  · exact absurd hkey (Nat.ne_of_lt (hpairs i j hi hj hlt))
  · rfl
  · exact absurd hkey.symm (Nat.ne_of_lt (hpairs j i hj hi hgt))

theorem Sorted.snoc {row : ρ} (h : Sorted key rows) (hnew : ∀ old ∈ rows, key old < key row) :
    Sorted key (rows ++ [row]) := by
  refine List.pairwise_append.mpr ⟨h, List.pairwise_singleton _ _, ?_⟩
  intro old hold new hmem
  rw [List.mem_singleton.mp hmem]
  exact hnew old hold

/-- The rows that a page is cut from, the newest one first. -/
def found (key : ρ → ℕ) (rows : List ρ) (matching : ρ → Bool) (before : Option ℕ) : List ρ :=
  rows.reverse.filter fun row => matching row && below before (key row)

theorem mem_found {row : ρ} : row ∈ found key rows matching before ↔
    row ∈ rows ∧ matching row = true ∧ below before (key row) = true := by
  simp [found]

theorem found_decreasing (h : Sorted key rows) :
    (found key rows matching before).Pairwise fun a b => key b < key a :=
  (List.pairwise_reverse.mpr h).filter _

theorem page_items : (pageOf key rows matching limit before).items =
    (found key rows matching before).take limit := by
  simp [pageOf, found, List.take_take]

theorem lt_length_take {n : ℕ} : limit < min (limit + 1) n ↔ limit < n := by omega

theorem page_hasMore : (pageOf key rows matching limit before).hasMore = true ↔
    limit < (found key rows matching before).length := by
  simp only [pageOf, found, List.length_take, lt_length_take, decide_eq_true_eq]

theorem page_nextBefore : (pageOf key rows matching limit before).nextBefore =
    if limit < (found key rows matching before).length then
      ((found key rows matching before).take limit).getLast?.map key else none := by
  simp only [pageOf, found, List.length_take, lt_length_take, List.take_take]
  simp

theorem page_nextBefore_none (h : (pageOf key rows matching limit before).nextBefore = none)
    (hlimit : 0 < limit) : (found key rows matching before).length ≤ limit := by
  by_contra hlt
  rw [page_nextBefore, if_pos (by omega), Option.map_eq_none_iff, List.getLast?_eq_none_iff,
    List.take_eq_nil_iff] at h
  rcases h with hzero | hnil
  · omega
  · rw [hnil] at hlt
    simp at hlt

/-- The cursor behind a page is the key of its last row, and there are further ones. -/
theorem page_nextBefore_some {cursor : ℕ}
    (h : (pageOf key rows matching limit before).nextBefore = some cursor) :
    ∃ initial last rest, found key rows matching before = initial ++ last :: rest ∧
      rest ≠ [] ∧ initial.length + 1 = limit ∧ key last = cursor := by
  rw [page_nextBefore] at h
  split_ifs at h with hlt
  obtain ⟨last, hlast, hkey⟩ := Option.map_eq_some_iff.mp h
  obtain ⟨initial, hinitial⟩ := List.getLast?_eq_some_iff.mp hlast
  have hlength := congrArg List.length hinitial
  simp only [List.length_take, List.length_append, List.length_singleton] at hlength
  refine ⟨initial, last, (found key rows matching before).drop limit, ?_, ?_, by omega, hkey⟩
  · calc found key rows matching before
        = (found key rows matching before).take limit ++ (found key rows matching before).drop
            limit := (List.take_append_drop limit _).symm
      _ = initial ++ last :: (found key rows matching before).drop limit := by
        rw [hinitial, List.append_assoc, List.singleton_append]
  · rw [Ne, List.drop_eq_nil_iff]
    omega

theorem mem_page_iff (hsorted : Sorted key rows) (hlimit : 0 < limit) {row : ρ} :
    row ∈ (pageOf key rows matching limit before).items ↔
      row ∈ found key rows matching before ∧
        ∀ cursor ∈ (pageOf key rows matching limit before).nextBefore, cursor ≤ key row := by
  rw [page_items]
  have hdecreasing : (found key rows matching before).Pairwise fun a b => key b < key a :=
    found_decreasing hsorted
  cases hnext : (pageOf key rows matching limit before).nextBefore with
  | none =>
      rw [List.take_of_length_le (page_nextBefore_none hnext hlimit)]
      simp
  | some cursor =>
      obtain ⟨initial, last, rest, hfound, -, hlength, hkey⟩ := page_nextBefore_some hnext
      have htake : (found key rows matching before).take limit = initial ++ [last] := by
        rw [hfound, ← hlength, List.take_length_add_append]
        simp
      rw [hfound] at hdecreasing
      have hsplit := List.pairwise_append.mp hdecreasing
      have hafter := List.pairwise_cons.mp hsplit.2.1
      rw [htake, hfound]
      simp only [List.mem_append, List.mem_cons, List.not_mem_nil, or_false, Option.mem_def,
        Option.some.injEq, forall_eq']
      constructor
      · rintro (hinitial | rfl)
        · have := hsplit.2.2 row hinitial last (List.mem_cons_self ..)
          exact ⟨.inl hinitial, by omega⟩
        · exact ⟨.inr (.inl rfl), by omega⟩
      · rintro ⟨hinitial | rfl | hrest, hle⟩
        · exact .inl hinitial
        · exact .inr rfl
        · have := hafter.1 row hrest
          omega

theorem page_hasMore_iff (hsorted : Sorted key rows) :
    (pageOf key rows matching limit before).hasMore = true ↔
      ∃ row ∈ found key rows matching before,
        row ∉ (pageOf key rows matching limit before).items := by
  have hdecreasing : (found key rows matching before).Pairwise fun a b => key b < key a :=
    found_decreasing hsorted
  rw [page_hasMore, page_items]
  constructor
  · intro hlt
    refine ⟨(found key rows matching before)[limit], List.getElem_mem hlt, fun hmem => ?_⟩
    obtain ⟨j, hj, heq⟩ := List.getElem_of_mem hmem
    rw [List.length_take] at hj
    rw [List.getElem_take] at heq
    have := List.pairwise_iff_getElem.mp hdecreasing j limit (by omega) hlt (by omega)
    rw [heq] at this
    omega
  · rintro ⟨row, hrow, hnot⟩
    by_contra hle
    rw [List.take_of_length_le (by omega)] at hnot
    exact hnot hrow

end Page

/-! ## Walks -/

/-- A page that was read, with its cursor and the table at that moment. -/
structure Reading (ρ τ : Type*) where
  before : Option ℕ
  rows : List ρ
  page : Page τ

/-- The keys that a page is about: before its cursor, and not before the next one. -/
def Reading.Covers (reading : Reading ρ τ) (n : ℕ) : Prop :=
  below reading.before n = true ∧ ∀ cursor ∈ reading.page.nextBefore, cursor ≤ n

/-- The cursor that a walk goes on with, if it is not at its end. -/
def cursorOf (readings : List (Reading ρ τ)) : Option (Option ℕ) :=
  match readings.getLast? with
  | none => some none
  | some reading => reading.page.nextBefore.map some

/-- The walk is past a key. -/
def Passed (readings : List (Reading ρ τ)) (n : ℕ) : Prop :=
  ∀ before, cursorOf readings = some before → below before n = false

structure Lossless (key : ρ → ℕ) (item : ρ → τ) (label : τ → ℕ) (matching : ρ → Bool)
    (readings : List (Reading ρ τ)) : Prop where
  /-- The items come in strictly decreasing order, so each of them comes once. -/
  decreasing : (readings.flatMap fun reading => reading.page.items).Pairwise
    fun a b => label b < label a
  sound : ∀ reading ∈ readings, ∀ shown ∈ reading.page.items,
    ∃ row ∈ reading.rows, matching row = true ∧ item row = shown
  /-- A matching row of the first page's table comes, or was gone when its page was read. -/
  complete : ∀ first, readings.head? = some first → ∀ row ∈ first.rows, matching row = true →
    Passed readings (key row) → (∃ reading ∈ readings, item row ∈ reading.page.items) ∨
      ∃ reading ∈ readings, reading.Covers (key row) ∧ row ∉ reading.rows
  /-- `has_more` tells whether a matching row is left. -/
  further : ∀ reading ∈ readings, (reading.page.hasMore = true ↔ ∃ row ∈ reading.rows,
    matching row = true ∧ below reading.before (key row) = true ∧ item row ∉ reading.page.items)

section Walk

variable {key : ρ → ℕ} {item : ρ → τ} {label : τ → ℕ} {matching : ρ → Bool} {limit : ℕ}
  {readings : List (Reading ρ τ)} {reading : Reading ρ τ}

/-- A reading whose page is the one of its table and cursor. -/
structure Reading.Correct (key : ρ → ℕ) (item : ρ → τ) (matching : ρ → Bool) (limit : ℕ)
    (reading : Reading ρ τ) : Prop where
  sorted : Sorted key reading.rows
  page : reading.page = (pageOf key reading.rows matching limit reading.before).map item

theorem mem_items_iff (hlabel : ∀ row, label (item row) = key row) (hlimit : 0 < limit)
    (hcorrect : reading.Correct key item matching limit) {row : ρ} (hrow : row ∈ reading.rows) :
    item row ∈ reading.page.items ↔ matching row = true ∧ reading.Covers (key row) := by
  have hmem : row ∈ (pageOf key reading.rows matching limit reading.before).items ↔ _ :=
    mem_page_iff hcorrect.sorted hlimit
  have hnext : reading.page.nextBefore =
      (pageOf key reading.rows matching limit reading.before).nextBefore := by
    rw [hcorrect.page]
    rfl
  have hitems : item row ∈ reading.page.items ↔
      row ∈ (pageOf key reading.rows matching limit reading.before).items := by
    rw [hcorrect.page]
    simp only [Page.map, List.mem_map]
    constructor
    · rintro ⟨other, hother, heq⟩
      have hkeys : key other = key row := by rw [← hlabel, heq, hlabel]
      have hrows := (mem_found.mp (by rw [page_items] at hother; exact List.mem_of_mem_take hother)).1
      rwa [← hcorrect.sorted.eq_of_key_eq hrows hrow hkeys]
    · exact fun h => ⟨row, h, rfl⟩
  rw [hitems, hmem, mem_found, Reading.Covers, hnext]
  exact ⟨fun h => ⟨h.1.2.1, h.1.2.2, h.2⟩, fun h => ⟨⟨hrow, h.1, h.2.1⟩, h.2.2⟩⟩

theorem exists_row (hcorrect : reading.Correct key item matching limit) {shown : τ}
    (hshown : shown ∈ reading.page.items) :
    ∃ row ∈ reading.rows, matching row = true ∧ item row = shown := by
  rw [hcorrect.page] at hshown
  obtain ⟨row, hrow, heq⟩ := List.mem_map.mp hshown
  rw [page_items] at hrow
  have hfound := mem_found.mp (List.mem_of_mem_take hrow)
  exact ⟨row, hfound.1, hfound.2.1, heq⟩

theorem covers_label (hlabel : ∀ row, label (item row) = key row) (hlimit : 0 < limit)
    (hcorrect : reading.Correct key item matching limit) {shown : τ}
    (hshown : shown ∈ reading.page.items) : reading.Covers (label shown) := by
  obtain ⟨row, hrow, -, rfl⟩ := exists_row hcorrect hshown
  rw [hlabel]
  exact ((mem_items_iff hlabel hlimit hcorrect hrow).mp hshown).2

theorem items_decreasing (hlabel : ∀ row, label (item row) = key row)
    (hcorrect : reading.Correct key item matching limit) :
    reading.page.items.Pairwise fun a b => label b < label a := by
  rw [hcorrect.page]
  change List.Pairwise _ (List.map item _)
  rw [List.pairwise_map, page_items]
  simp only [hlabel]
  exact (found_decreasing hcorrect.sorted).sublist (List.take_sublist _ _)

theorem next_below (hcorrect : reading.Correct key item matching limit) {cursor : ℕ}
    (hnext : reading.page.nextBefore = some cursor) : below reading.before cursor = true := by
  rw [hcorrect.page] at hnext
  obtain ⟨initial, last, rest, hfound, -, -, rfl⟩ := page_nextBefore_some hnext
  have hlast : last ∈ found key reading.rows matching reading.before := by
    rw [hfound]
    simp
  exact (mem_found.mp hlast).2.2

theorem further_iff (hlabel : ∀ row, label (item row) = key row) (hlimit : 0 < limit)
    (hcorrect : reading.Correct key item matching limit) :
    reading.page.hasMore = true ↔ ∃ row ∈ reading.rows, matching row = true ∧
      below reading.before (key row) = true ∧ item row ∉ reading.page.items := by
  have hmore : reading.page.hasMore = (pageOf key reading.rows matching limit
      reading.before).hasMore := by
    rw [hcorrect.page]
    rfl
  rw [hmore, page_hasMore_iff hcorrect.sorted]
  constructor
  · rintro ⟨row, hfound, hnot⟩
    obtain ⟨hrow, hmatching, hbelow⟩ := mem_found.mp hfound
    refine ⟨row, hrow, hmatching, hbelow, fun hitem => hnot ?_⟩
    refine (mem_page_iff hcorrect.sorted hlimit).mpr ⟨hfound, ?_⟩
    have hcovers := ((mem_items_iff hlabel hlimit hcorrect hrow).mp hitem).2.2
    rw [hcorrect.page] at hcovers
    exact hcovers
  · rintro ⟨row, hrow, hmatching, hbelow, hnot⟩
    refine ⟨row, mem_found.mpr ⟨hrow, hmatching, hbelow⟩, fun hmem => hnot ?_⟩
    rw [hcorrect.page]
    exact List.mem_map_of_mem hmem

/-! ### From page to page -/

structure Walked (key : ρ → ℕ) (item : ρ → τ) (label : τ → ℕ) (matching : ρ → Bool) (limit : ℕ)
    (readings : List (Reading ρ τ)) : Prop where
  correct : ∀ reading ∈ readings, reading.Correct key item matching limit
  decreasing : (readings.flatMap fun reading => reading.page.items).Pairwise
    fun a b => label b < label a
  behind : ∀ reading ∈ readings, ∀ shown ∈ reading.page.items, Passed readings (label shown)
  /-- What the walk is past, one of its pages was about. -/
  covered : ∀ n, Passed readings n → ∃ reading ∈ readings, reading.Covers n

theorem walked_nil : Walked key item label matching limit ([] : List (Reading ρ τ)) where
  correct := by simp
  decreasing := by simp
  behind := by simp
  covered n h := by
    have := h none rfl
    simp [below] at this

theorem cursorOf_snoc : cursorOf (readings ++ [reading]) = reading.page.nextBefore.map some := by
  simp [cursorOf]

theorem passed_snoc {n : ℕ} : Passed (readings ++ [reading]) n ↔
    ∀ cursor ∈ reading.page.nextBefore, cursor ≤ n := by
  simp [Passed, cursorOf_snoc, below]

theorem Walked.snoc (hlabel : ∀ row, label (item row) = key row) (hlimit : 0 < limit)
    (h : Walked key item label matching limit readings)
    (hcorrect : reading.Correct key item matching limit)
    (hcursor : cursorOf readings = some reading.before) :
    Walked key item label matching limit (readings ++ [reading]) := by
  have hkept : ∀ n, Passed readings n → Passed (readings ++ [reading]) n := by
    intro n hpassed
    rw [passed_snoc]
    intro cursor hnext
    have hbelow := next_below hcorrect hnext
    have hnot := hpassed reading.before hcursor
    cases hbefore : reading.before with
    | none => simp [hbefore, below] at hnot
    | some start =>
        simp only [hbefore, below, Option.all_some, decide_eq_true_eq, decide_eq_false_iff_not]
          at hbelow hnot
        omega
  constructor
  case correct =>
    intro other hother
    rcases List.mem_append.mp hother with hold | hnew
    · exact h.correct other hold
    · rw [List.mem_singleton.mp hnew]
      exact hcorrect
  case decreasing =>
    rw [List.flatMap_append, List.flatMap_singleton]
    refine List.pairwise_append.mpr ⟨h.decreasing, items_decreasing hlabel hcorrect, ?_⟩
    intro old hold new hnew
    obtain ⟨earlier, hearlier, hshown⟩ := List.mem_flatMap.mp hold
    have hpassed := h.behind earlier hearlier old hshown reading.before hcursor
    have hcovers := (covers_label hlabel hlimit hcorrect hnew).1
    cases hbefore : reading.before with
    | none => simp [hbefore, below] at hpassed
    | some start =>
        simp only [hbefore, below, Option.all_some, decide_eq_true_eq, decide_eq_false_iff_not]
          at hcovers hpassed
        omega
  case behind =>
    intro other hother shown hshown
    rcases List.mem_append.mp hother with hold | hnew
    · exact hkept _ (h.behind other hold shown hshown)
    · rw [List.mem_singleton.mp hnew] at hshown
      exact passed_snoc.mpr (covers_label hlabel hlimit hcorrect hshown).2
  case covered =>
    intro n hpassed
    by_cases hbelow : below reading.before n = true
    · exact ⟨reading, List.mem_append_right _ (List.mem_singleton_self _), hbelow,
        passed_snoc.mp hpassed⟩
    obtain ⟨earlier, hearlier, hcovers⟩ := h.covered n fun before hbefore => by
      rw [hcursor, Option.some.injEq] at hbefore
      rw [← hbefore]
      simpa using hbelow
    exact ⟨earlier, List.mem_append_left _ hearlier, hcovers⟩

theorem Walked.lossless (hlabel : ∀ row, label (item row) = key row) (hlimit : 0 < limit)
    (h : Walked key item label matching limit readings) :
    Lossless key item label matching readings where
  decreasing := h.decreasing
  sound reading hreading _ hshown := exists_row (h.correct reading hreading) hshown
  complete first _ row _ hmatching hpassed := by
    obtain ⟨reading, hreading, hcovers⟩ := h.covered _ hpassed
    by_cases hrow : row ∈ reading.rows
    · exact .inl ⟨reading, hreading,
        (mem_items_iff hlabel hlimit (h.correct reading hreading) hrow).mpr ⟨hmatching, hcovers⟩⟩
    · exact .inr ⟨reading, hreading, hcovers, hrow⟩
  further reading hreading := further_iff hlabel hlimit (h.correct reading hreading)

end Walk

/-! ## Walks through a store -/

/-- A store that is read in pages. -/
structure PagedStore (σ Op ρ τ : Type*) where
  write : Op → σ → σ
  rows : σ → List ρ
  /-- The page at a cursor; it may be refused. -/
  read : σ → Option ℕ → Option (Page τ)

structure Walk (σ ρ τ : Type*) where
  store : σ
  readings : List (Reading ρ τ)

namespace PagedStore

variable (paged : PagedStore σ Op ρ τ)

def readNext (walk : Walk σ ρ τ) : Walk σ ρ τ :=
  match cursorOf walk.readings with
  | none => walk
  | some before =>
      match paged.read walk.store before with
      | none => walk
      | some page => { walk with
          readings := walk.readings ++ [⟨before, paged.rows walk.store, page⟩] }

/-- Writes, and between them the pages of one walk.  An event is a write, or the next page, which
is read under a condition on its cursor and table. -/
def machine (condition : Option ℕ → List ρ → Prop) : Machine (Walk σ ρ τ) (Option Op) where
  step walk event :=
    match event with
    | none => paged.readNext walk
    | some op => { walk with store := paged.write op walk.store }
  admissible walk event := event = none → ∀ before, cursorOf walk.readings = some before →
    condition before (paged.rows walk.store)

variable {paged} {key : ρ → ℕ} {item : ρ → τ} {label : τ → ℕ} {matching : ρ → Bool} {limit : ℕ}
  {inv : σ → Prop} {condition : Option ℕ → List ρ → Prop} {walk : Walk σ ρ τ}

/-- Reading a store gives the pages of its table. -/
structure Reads (paged : PagedStore σ Op ρ τ) (key : ρ → ℕ) (item : ρ → τ) (label : τ → ℕ)
    (matching : ρ → Bool) (limit : ℕ) (inv : σ → Prop)
    (condition : Option ℕ → List ρ → Prop) : Prop where
  label_item : ∀ row, label (item row) = key row
  limit_pos : 0 < limit
  kept : ∀ op store, inv store → inv (paged.write op store)
  sorted : ∀ store, inv store → Sorted key (paged.rows store)
  read : ∀ store before, inv store → condition before (paged.rows store) →
    (∀ cursor ∈ before, ∃ other, inv other ∧ ∃ row ∈ paged.rows other, key row = cursor) →
    paged.read store before =
      some ((pageOf key (paged.rows store) matching limit before).map item)

structure Walks (paged : PagedStore σ Op ρ τ) (key : ρ → ℕ) (item : ρ → τ) (label : τ → ℕ)
    (matching : ρ → Bool) (limit : ℕ) (inv : σ → Prop) (walk : Walk σ ρ τ) : Prop where
  store_inv : inv walk.store
  walked : Walked key item label matching limit walk.readings
  /-- The tables of the pages were tables of the store. -/
  tables : ∀ reading ∈ walk.readings, ∃ store, inv store ∧ paged.rows store = reading.rows

theorem cursor_mem (hwalks : Walks paged key item label matching limit inv walk)
    {before : Option ℕ} (hcursor : cursorOf walk.readings = some before) :
    ∀ cursor ∈ before, ∃ other, inv other ∧ ∃ row ∈ paged.rows other, key row = cursor := by
  rintro cursor rfl
  rcases List.eq_nil_or_concat walk.readings with hnil | ⟨readings, reading, hsnoc⟩
  · rw [hnil] at hcursor
    cases hcursor
  rw [List.concat_eq_append] at hsnoc
  have hmem : reading ∈ walk.readings := by
    rw [hsnoc]
    exact List.mem_append_right _ (List.mem_singleton_self _)
  rw [hsnoc, cursorOf_snoc, Option.map_eq_some_iff] at hcursor
  obtain ⟨next, hnext, heq⟩ := hcursor
  cases heq
  obtain ⟨store, hinv, hrows⟩ := hwalks.tables reading hmem
  rw [(hwalks.walked.correct reading hmem).page] at hnext
  obtain ⟨initial, last, rest, hfound, -, -, hkey⟩ := page_nextBefore_some hnext
  have hlast : last ∈ found key reading.rows matching reading.before := by
    rw [hfound]
    simp
  refine ⟨store, hinv, last, ?_, hkey⟩
  rw [hrows]
  exact (mem_found.mp hlast).1

theorem walks_step (hreads : Reads paged key item label matching limit inv condition)
    (event : Option Op) (hwalks : Walks paged key item label matching limit inv walk)
    (hadmissible : (paged.machine condition).admissible walk event) :
    Walks paged key item label matching limit inv ((paged.machine condition).step walk event) := by
  cases event with
  | some op => exact ⟨hreads.kept op _ hwalks.store_inv, hwalks.walked, hwalks.tables⟩
  | none =>
      change Walks paged key item label matching limit inv (paged.readNext walk)
      unfold readNext
      cases hcursor : cursorOf walk.readings with
      | none => exact hwalks
      | some before =>
          dsimp only
          rw [hreads.read _ before hwalks.store_inv (hadmissible rfl before hcursor)
            (cursor_mem hwalks hcursor)]
          refine ⟨hwalks.store_inv, ?_, ?_⟩
          · exact hwalks.walked.snoc hreads.label_item hreads.limit_pos
              ⟨hreads.sorted _ hwalks.store_inv, rfl⟩ hcursor
          intro reading hreading
          rcases List.mem_append.mp hreading with hold | hnew
          · exact hwalks.tables reading hold
          · rw [List.mem_singleton.mp hnew]
            exact ⟨walk.store, hwalks.store_inv, rfl⟩

/-- What a walk is worth, in the state that it reached: the next page can be read, and the pages
so far are lossless. -/
structure PagesWell (paged : PagedStore σ Op ρ τ) (key : ρ → ℕ) (item : ρ → τ) (label : τ → ℕ)
    (matching : ρ → Bool) (condition : Option ℕ → List ρ → Prop) (walk : Walk σ ρ τ) : Prop where
  readable : (paged.machine condition).admissible walk none →
    ∀ before, cursorOf walk.readings = some before →
      (paged.read walk.store before).isSome = true
  lossless : Lossless key item label matching walk.readings

theorem pagesWell_of_reaches (hreads : Reads paged key item label matching limit inv condition)
    {store : σ} {events : List (Option Op)} (hstore : inv store)
    (h : (paged.machine condition).Reaches ⟨store, []⟩ events walk) :
    PagesWell paged key item label matching condition walk := by
  have hwalks : Walks paged key item label matching limit inv walk :=
    h.invariant (fun _ event hwalks hadmissible => walks_step hreads event hwalks hadmissible)
      ⟨hstore, walked_nil, by simp⟩
  refine ⟨fun hadmissible before hcursor => ?_,
    hwalks.walked.lossless hreads.label_item hreads.limit_pos⟩
  rw [hreads.read _ before hwalks.store_inv (hadmissible rfl before hcursor)
    (cursor_mem hwalks hcursor)]
  rfl

end PagedStore

end Library
