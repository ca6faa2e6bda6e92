import Mathlib.Data.Set.Insert

/-!
# Access lists and their inheritance

A secured object has an owner and a list of entries, which allow or deny rights to principals.  An
entry says by four flags how it is passed on: to files, to directories, only to the direct children,
and whether it is there for passing on alone.  Two principals are placeholders: `ownerRights` is
whoever owns the object, `creatorOwner` becomes, in the entry that a new object gets, the creator.

* `Grants`: an allow entry gives a principal a right, whatever is denied.
* `child` is a new object with the entries that it inherits.
* `Confined trusted` says that every allow entry with a right is for a trusted principal, or is a
  `creatorOwner` that is only passed on.  New objects keep it (`Confined.child`), so all that is
  created below a confined object is confined (`Below.confined`): only the trusted may create there.
-/

namespace Library

namespace AccessLists

inductive Kind
  | file
  | directory
  deriving DecidableEq

structure Entry (P R : Type*) where
  allow : Bool
  subject : P
  rights : Set R
  objectInherit : Bool
  containerInherit : Bool
  noPropagate : Bool
  inheritOnly : Bool

structure Secured (P R : Type*) where
  kind : Kind
  owner : P
  entries : List (Entry P R)

/-- The principals that stand for another one. -/
structure Placeholders (P : Type*) where
  ownerRights : P
  creatorOwner : P

variable {P R : Type*} [DecidableEq P] (names : Placeholders P)

/-! ## What an object grants -/

/-- Whom an entry is for, on an object of `owner`. -/
def Placeholders.holder (owner : P) (entry : Entry P R) : P :=
  if entry.subject = names.ownerRights then owner else entry.subject

/-- The entry is about a right of a principal of the token, on the object itself. -/
def Entry.Concerns (owner : P) (token : Set P) (right : R) (entry : Entry P R) : Prop :=
  entry.inheritOnly = false ∧ names.holder owner entry ∈ token ∧ right ∈ entry.rights

/-- An allow entry gives the principal the right, whatever is denied. -/
def Grants (object : Secured P R) (principal : P) (right : R) : Prop :=
  ∃ entry ∈ object.entries, entry.allow = true ∧
    entry.Concerns names object.owner {principal} right

variable {names}

/-! ## What a new object inherits -/

/-- The entry holds of a new object of the kind, not only of what is created below that. -/
def Entry.reaches (entry : Entry P R) : Kind → Bool
  | .file => entry.objectInherit
  | .directory => entry.containerInherit

variable (names) in
/-- The entry on the new object itself; the placeholder has become the creator. -/
def Entry.effective (creator : P) (entry : Entry P R) : Entry P R :=
  { entry with
    subject := if entry.subject = names.creatorOwner then creator else entry.subject
    objectInherit := false
    containerInherit := false
    noPropagate := false
    inheritOnly := false }

/-- The entry that a new directory keeps for what is created below it. -/
def Entry.carried (entry : Entry P R) : Entry P R := { entry with inheritOnly := true }

variable (names) in
/-- The entries that a new object of the kind gets from one entry of its parent. -/
def Entry.inherited (creator : P) (kind : Kind) (entry : Entry P R) : List (Entry P R) :=
  (if entry.reaches kind then [entry.effective names creator] else []) ++
    if kind = .directory ∧ (entry.objectInherit || entry.containerInherit) ∧ !entry.noPropagate then
      [entry.carried]
    else []

variable (names) in
/-- A new object in the directory. -/
def Secured.child (parent : Secured P R) (creator : P) (kind : Kind) : Secured P R where
  kind := kind
  owner := creator
  entries := parent.entries.flatMap (·.inherited names creator kind)

variable (names) in
/-- What can come to be below `root`: the process creates objects there, and so does every principal
that a directory grants the right for it. -/
inductive Below (adds : Kind → R) (process : P) (root : Secured P R) : Secured P R → Prop
  | root : Below adds process root root
  | child {directory : Secured P R} (creator : P) (kind : Kind) :
      Below adds process root directory → directory.kind = .directory →
        (creator = process ∨ Grants names directory creator (adds kind)) →
          Below adds process root (directory.child names creator kind)

/-! ## Confinement -/

variable (names) in
/-- The entry gives its rights, if any, to a trusted principal, now or when it is passed on. -/
def Entry.Safe (trusted : Set P) (owner : P) (entry : Entry P R) : Prop :=
  entry.allow = true → entry.rights.Nonempty →
    names.holder owner entry ∈ trusted ∨
      entry.subject = names.creatorOwner ∧ entry.inheritOnly = true

variable (names) in
structure Confined (trusted : Set P) (object : Secured P R) : Prop where
  owner : object.owner ∈ trusted
  entries : ∀ entry ∈ object.entries, entry.Safe names trusted object.owner

variable {trusted : Set P} {object : Secured P R}

theorem Confined.trusted_of_grants {principal : P} {right : R} (h : Confined names trusted object)
    (hgrants : Grants names object principal right) : principal ∈ trusted := by
  obtain ⟨entry, hmem, hallow, hself, hholder, hright⟩ := hgrants
  rcases h.entries entry hmem hallow ⟨right, hright⟩ with htrusted | ⟨-, honly⟩
  · rw [Set.mem_singleton_iff] at hholder
    exact hholder ▸ htrusted
  · rw [honly] at hself
    exact absurd hself (by decide)

theorem Entry.Safe.subject {owner : P} {entry : Entry P R} (h : entry.Safe names trusted owner)
    (hallow : entry.allow = true) (hrights : entry.rights.Nonempty) :
    entry.subject = names.ownerRights ∨ entry.subject ∈ trusted ∨
      entry.subject = names.creatorOwner ∧ entry.inheritOnly = true := by
  by_cases hsubject : entry.subject = names.ownerRights
  · exact .inl hsubject
  · have hsafe := h hallow hrights
    rw [Placeholders.holder, if_neg hsubject] at hsafe
    exact .inr hsafe

theorem Entry.Safe.effective {owner creator : P} {entry : Entry P R}
    (h : entry.Safe names trusted owner) (hcreator : creator ∈ trusted) :
    (entry.effective names creator).Safe names trusted creator := by
  intro hallow hrights
  refine .inl ?_
  rw [Placeholders.holder]
  split_ifs with howner
  · exact hcreator
  simp only [Entry.effective] at howner ⊢
  split_ifs at howner ⊢ with hsubject
  · exact hcreator
  rcases h.subject hallow hrights with hrightsOf | htrusted | ⟨hplaceholder, -⟩
  · exact absurd hrightsOf howner
  · exact htrusted
  · exact absurd hplaceholder hsubject

theorem Entry.Safe.carried {owner creator : P} {entry : Entry P R}
    (h : entry.Safe names trusted owner) (hcreator : creator ∈ trusted) :
    entry.carried.Safe names trusted creator := by
  intro hallow hrights
  rw [Placeholders.holder]
  split_ifs with howner
  · exact .inl hcreator
  rcases h.subject hallow hrights with hrightsOf | htrusted | ⟨hplaceholder, -⟩
  · exact absurd hrightsOf howner
  · exact .inl htrusted
  · exact .inr ⟨hplaceholder, rfl⟩

theorem Confined.child {creator : P} (h : Confined names trusted object)
    (hcreator : creator ∈ trusted) (kind : Kind) :
    Confined names trusted (object.child names creator kind) := by
  refine ⟨hcreator, fun entry hmem => ?_⟩
  obtain ⟨parent, hparent, hentry⟩ := List.mem_flatMap.mp hmem
  have hsafe := h.entries parent hparent
  rw [Entry.inherited, List.mem_append] at hentry
  rcases hentry with hentry | hentry
  · split_ifs at hentry
    · rw [List.mem_singleton.mp hentry]
      exact hsafe.effective hcreator
    · exact absurd hentry List.not_mem_nil
  · split_ifs at hentry
    · rw [List.mem_singleton.mp hentry]
      exact hsafe.carried hcreator
    · exact absurd hentry List.not_mem_nil

/-- Only the trusted create below a confined object, and what they create is confined. -/
theorem Below.confined {adds : Kind → R} {process : P} {root : Secured P R}
    (h : Below names adds process root object) (hroot : Confined names trusted root)
    (hprocess : process ∈ trusted) : Confined names trusted object := by
  induction h with
  | root => exact hroot
  | child creator kind _ _ hcreates ih =>
      refine ih.child ?_ kind
      rcases hcreates with rfl | hgrants
      · exact hprocess
      · exact ih.trusted_of_grants hgrants

end AccessLists

end Library
