import K5Vision.Library.Table

/-!
# File trees

A tree of directories and files under paths, the leaf of a path first.  What has a path
has a directory above it.  A tree grows by `add?`, which a taken path refuses; `rewrite`
changes a file in its place, and `remove?` takes a file away.  No write moves or removes
a directory.

Everything that is said about a tree later is said through `find?`.
-/

namespace Library

abbrev FilePath := List String

/-- What stands at a path: a directory with data `δ`, a file with data `φ`, or something
that is neither. -/
inductive FileNode (δ φ : Type*)
  | directory (data : δ)
  | file (data : φ)
  | other

def FileNode.mapFile {δ φ : Type*} (f : φ → φ) : FileNode δ φ → FileNode δ φ
  | .file data => .file (f data)
  | node => node

/-- Nodes under paths; above every node there is a directory. -/
structure FileTree (δ φ : Type*) where
  table : Table FilePath (FileNode δ φ)
  rooted : ∀ name parent, (table.find? (name :: parent)).isSome →
    parent = [] ∨ ∃ data, table.find? parent = some (.directory data)

namespace FileTree

variable {δ φ : Type*} (tree : FileTree δ φ)

def find? (path : FilePath) : Option (FileNode δ φ) := tree.table.find? path

def file? (path : FilePath) : Option φ :=
  match tree.find? path with
  | some (.file data) => some data
  | _ => none

def directory? (path : FilePath) : Option δ :=
  match tree.find? path with
  | some (.directory data) => some data
  | _ => none

/-- The names in a directory, in the order in which they are listed. -/
def children (path : FilePath) : List String :=
  tree.table.keys.filterMap fun
    | [] => none
    | name :: parent => if parent = path then some name else none

variable {tree} {path other : FilePath} {node : FileNode δ φ} {data : φ}

theorem file?_eq_some : tree.file? path = some data ↔ tree.find? path = some (.file data) := by
  unfold file?
  constructor
  · intro h
    split at h
    · cases h
      assumption
    · cases h
  · intro h
    rw [h]

theorem directory?_eq_some {data : δ} :
    tree.directory? path = some data ↔ tree.find? path = some (.directory data) := by
  unfold directory?
  constructor
  · intro h
    split at h
    · cases h
      assumption
    · cases h
  · intro h
    rw [h]

theorem mem_children {name : String} :
    name ∈ tree.children path ↔ (tree.find? (name :: path)).isSome := by
  unfold children find?
  rw [List.mem_filterMap, Option.isSome_iff_exists]
  constructor
  · rintro ⟨key, hkey, hname⟩
    cases key with
    | nil => cases hname
    | cons head parent =>
        dsimp only at hname
        split at hname
        · cases hname
          subst path
          exact Table.mem_keys.mp hkey
        · cases hname
  · rintro ⟨node, hnode⟩
    exact ⟨name :: path, Table.mem_keys.mpr ⟨node, hnode⟩, if_pos rfl⟩

theorem directory?_parent {name : String} {parent : FilePath}
    (h : (tree.find? (name :: parent)).isSome) :
    parent = [] ∨ (tree.directory? parent).isSome := by
  refine (tree.rooted name parent h).imp_right ?_
  rintro ⟨data, hdata⟩
  rw [directory?_eq_some.mpr hdata]
  rfl

/-! ## Growing -/

/-- There is room for a node at a path: its parent is a directory, and it is free. -/
def Free (tree : FileTree δ φ) : FilePath → Prop
  | [] => False
  | name :: parent => tree.table.find? (name :: parent) = none ∧
      (parent = [] ∨ (tree.directory? parent).isSome)

instance (path : FilePath) : Decidable (tree.Free path) :=
  match path with
  | [] => inferInstanceAs (Decidable False)
  | name :: parent =>
      decidable_of_iff ((tree.table.find? (name :: parent)).isNone = true ∧
        (parent = [] ∨ (tree.directory? parent).isSome = true))
        (and_congr_left' Option.isNone_iff_eq_none)

/-- Put a node at a free path. -/
def add? (tree : FileTree δ φ) (path : FilePath) (node : FileNode δ φ) : Option (FileTree δ φ) :=
  if h : tree.Free path then
    some {
      table := tree.table.upsert path node
      rooted := by
        intro name parent hsome
        have hkept : ∀ data, tree.table.find? parent = some (.directory data) →
            (tree.table.upsert path node).find? parent = some (.directory data) := by
          intro data hdata
          rw [Table.find?_upsert, if_neg, hdata]
          rintro rfl
          cases parent with
          | nil => exact h
          | cons head rest =>
              rw [h.1] at hdata
              cases hdata
        rw [Table.find?_upsert] at hsome
        split at hsome
        · rename_i heq
          subst heq
          refine h.2.imp_right ?_
          intro hparent
          obtain ⟨data, hdata⟩ := Option.isSome_iff_exists.mp hparent
          exact ⟨data, hkept data (directory?_eq_some.mp hdata)⟩
        · exact (tree.rooted name parent hsome).imp_right fun ⟨data, hdata⟩ =>
            ⟨data, hkept data hdata⟩ }
  else none

theorem add?_eq_some {added : FileTree δ φ} (h : tree.add? path node = some added) :
    tree.Free path ∧
      ∀ other, added.find? other = if other = path then some node else tree.find? other := by
  unfold add? at h
  split at h
  · rename_i hfree
    cases h
    exact ⟨hfree, fun other => Table.find?_upsert ..⟩
  · cases h

theorem Free.find?_eq_none (h : tree.Free path) : tree.find? path = none := by
  cases path with
  | nil => exact h.elim
  | cons name parent => exact h.1

def empty : FileTree δ φ where
  table := Table.empty
  rooted := by
    intro name parent hsome
    rw [Table.find?_empty] at hsome
    cases hsome

/-- The nodes of a list, each below the ones before it. -/
def ofNodes (nodes : List (FilePath × FileNode δ φ)) : FileTree δ φ :=
  nodes.foldl (fun tree node => (tree.add? node.1 node.2).getD tree) empty

/-! ## Changing and removing files -/

def rewrite (tree : FileTree δ φ) (path : FilePath) (f : φ → φ) : FileTree δ φ where
  table := tree.table.modify path (FileNode.mapFile f)
  rooted := by
    intro name parent hsome
    have hbefore : (tree.table.find? (name :: parent)).isSome := by
      by_cases heq : name :: parent = path
      · rw [heq, Table.find?_modify_self, Option.isSome_map] at hsome
        rwa [heq]
      · rwa [Table.find?_modify_of_ne _ heq] at hsome
    refine (tree.rooted name parent hbefore).imp_right ?_
    rintro ⟨data, hdata⟩
    refine ⟨data, ?_⟩
    by_cases heq : parent = path
    · rw [heq, Table.find?_modify_self, ← heq, hdata]
      rfl
    · rw [Table.find?_modify_of_ne _ heq, hdata]

theorem find?_rewrite (f : φ → φ) : (tree.rewrite path f).find? other =
    if other = path then (tree.find? path).map (FileNode.mapFile f) else tree.find? other := by
  unfold rewrite find?
  split
  · rename_i heq
    rw [heq, Table.find?_modify_self]
  · rename_i hne
    exact Table.find?_modify_of_ne _ hne _

def remove? (tree : FileTree δ φ) (path : FilePath) : Option (FileTree δ φ) :=
  if h : (tree.file? path).isSome then
    some {
      table := tree.table.erase path
      rooted := by
        intro name parent hsome
        rw [Table.find?_erase] at hsome
        split at hsome
        · cases hsome
        refine (tree.rooted name parent hsome).imp_right ?_
        rintro ⟨data, hdata⟩
        refine ⟨data, ?_⟩
        rw [Table.find?_erase, if_neg, hdata]
        -- what is removed is no directory
        rintro rfl
        obtain ⟨file, hfile⟩ := Option.isSome_iff_exists.mp h
        rw [file?_eq_some, find?, hdata] at hfile
        cases hfile }
  else none

theorem remove?_eq_some {removed : FileTree δ φ} (h : tree.remove? path = some removed) :
    (tree.file? path).isSome ∧
      ∀ other, removed.find? other = if other = path then none else tree.find? other := by
  unfold remove? at h
  split at h
  · rename_i hfile
    cases h
    exact ⟨hfile, fun other => Table.find?_erase ..⟩
  · cases h

end FileTree

end Library
