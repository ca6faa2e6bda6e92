import K5Vision.Library.Texts
import Mathlib.Data.List.Nodup
import Mathlib.Logic.Function.Basic

/-!
# Elements and the namespaces in scope

A document is a tree of elements, and an element may declare namespaces: a prefix, with the empty
text for the default namespace, and the name it stands for.  A declaration is in scope on its
element and everywhere inside, up to an element that declares the prefix again (`bound`).

A reader of documents gives a flat stream of events instead (`Element.events`): the declarations of
an element, its start, what is inside, its end.  What is in scope has to be found again from the
stream, and `Element.scopes` lists it in the order of the starts: it has one entry for every element
(`map_fst_scopes`), the declarations in scope there (`mem_scopes_of_path`).
-/

namespace Library

/-- An element: what identifies it, its name, the characters before its first child, the namespaces
it declares and its children. -/
structure Element where
  id : ℕ
  tag : Text
  text : Option Text
  declared : List (Text × Text)
  children : List Element

inductive XmlEvent
  | startNs (name uri : Text)
  | start (element : Element)
  | finish

abbrev Bindings := Text → Option Text

namespace Bindings

def none : Bindings := fun _ => Option.none

/-- With one more declaration. -/
def declare (scope : Bindings) (declaration : Text × Text) : Bindings :=
  Function.update scope declaration.1 (some declaration.2)

/-- The declarations inside, and where there is none, those outside. -/
def override (outer inner : Bindings) : Bindings := fun name => (inner name).or (outer name)

@[simp] theorem override_none (outer : Bindings) : outer.override none = outer := by
  funext name
  exact Option.none_or

end Bindings

namespace Element

def declaration (element : Element) : Bindings := element.declared.foldl .declare .none

/-! ## Walks -/

mutual

def iter : Element → List Element
  | ⟨id, tag, text, declared, children⟩ => ⟨id, tag, text, declared, children⟩ :: iterAll children

def iterAll : List Element → List Element
  | [] => []
  | element :: elements => element.iter ++ iterAll elements

end

mutual

def events : Element → List XmlEvent
  | ⟨id, tag, text, declared, children⟩ =>
      declared.map (fun declaration => .startNs declaration.1 declaration.2) ++
        .start ⟨id, tag, text, declared, children⟩ :: (eventsAll children ++ [.finish])

def eventsAll : List Element → List XmlEvent
  | [] => []
  | element :: elements => element.events ++ eventsAll elements

end

mutual

def height : Element → ℕ
  | ⟨_, _, _, _, children⟩ => heightAll children + 1

def heightAll : List Element → ℕ
  | [] => 0
  | element :: elements => max element.height (heightAll elements)

end

mutual

/-- What is in scope on each element, in the order of the document. -/
def scopes (outer : Bindings) : Element → List (ℕ × Bindings)
  | ⟨id, tag, text, declared, children⟩ =>
      let scope := outer.override (declaration ⟨id, tag, text, declared, children⟩)
      (id, scope) :: scopesAll scope children

def scopesAll (outer : Bindings) : List Element → List (ℕ × Bindings)
  | [] => []
  | element :: elements => element.scopes outer ++ scopesAll outer elements

end

/-! ## Paths -/

/-- The elements from `element` outwards to `root`, both of them included. -/
inductive Path (root : Element) : List Element → Element → Prop
  | root : Path root [root] root
  | child {path : List Element} {parent child : Element} :
      Path root path parent → child ∈ parent.children → Path root (child :: path) child

/-- What a prefix stands for at the end of a path: the innermost declaration counts. -/
def bound (path : List Element) : Bindings := fun name =>
  path.findSome? fun element => element.declaration name

theorem bound_cons (element : Element) (path : List Element) :
    bound (element :: path) = (bound path).override element.declaration := by
  funext name
  rw [bound, List.findSome?_cons, Bindings.override]
  cases element.declaration name <;> rfl

variable {root : Element}

mutual

theorem exists_path_of_mem_iter : ∀ (element : Element) {path : List Element} {inner : Element},
    Path root path element → inner ∈ element.iter → ∃ path, Path root path inner
  | ⟨_, _, _, _, children⟩, path, inner, hpath, hmem => by
      rcases List.mem_cons.mp hmem with rfl | hinside
      · exact ⟨path, hpath⟩
      · exact exists_path_of_mem_iterAll children (fun child hchild => ⟨_, hpath.child hchild⟩)
          hinside

theorem exists_path_of_mem_iterAll : ∀ (elements : List Element) {inner : Element},
    (∀ element ∈ elements, ∃ path, Path root path element) → inner ∈ iterAll elements →
      ∃ path, Path root path inner
  | [], _, _, hmem => absurd hmem List.not_mem_nil
  | element :: elements, inner, hpaths, hmem => by
      rcases List.mem_append.mp hmem with hhere | hthere
      · obtain ⟨path, hpath⟩ := hpaths element List.mem_cons_self
        exact exists_path_of_mem_iter element hpath hhere
      · exact exists_path_of_mem_iterAll elements
          (fun other hother => hpaths other (List.mem_cons_of_mem _ hother)) hthere

end

/-! ## Scopes -/

mutual

/-- Every element has its entry, in the order of the document. -/
theorem map_fst_scopes : ∀ (element : Element) (outer : Bindings),
    (element.scopes outer).map Prod.fst = element.iter.map id
  | ⟨id, tag, text, declared, children⟩, outer => by
      rw [scopes, iter, List.map_cons, List.map_cons, map_fst_scopesAll]

theorem map_fst_scopesAll : ∀ (elements : List Element) (outer : Bindings),
    (scopesAll outer elements).map Prod.fst = (iterAll elements).map id
  | [], _ => rfl
  | element :: elements, outer => by
      rw [scopesAll, iterAll, List.map_append, List.map_append, map_fst_scopes element,
        map_fst_scopesAll elements]

end

theorem scopes_subset_of_mem {element : Element} {elements : List Element} {outer : Bindings}
    (h : element ∈ elements) : element.scopes outer ⊆ scopesAll outer elements := by
  induction elements with
  | nil => cases h
  | cons first elements ih =>
      rw [scopesAll]
      rcases List.mem_cons.mp h with rfl | hlater
      · exact List.subset_append_left _ _
      · exact List.subset_append_of_subset_right _ (ih hlater)

theorem scopes_eq (element : Element) (outer : Bindings) : element.scopes outer =
    (element.id, outer.override element.declaration) ::
      scopesAll (outer.override element.declaration) element.children := by
  cases element
  rw [scopes]

theorem override_bound_tail {path : List Element} {element : Element}
    (h : Path root path element) : (bound path.tail).override element.declaration = bound path := by
  cases h with
  | root => exact (bound_cons _ _).symm
  | child => exact (bound_cons _ _).symm

theorem scopes_subset_of_path {path : List Element} {element : Element}
    (h : Path root path element) : element.scopes (bound path.tail) ⊆ root.scopes .none := by
  induction h with
  | root => exact List.Subset.refl _
  | @child path parent child hpath hmem ih =>
      rw [scopes_eq, override_bound_tail hpath] at ih
      exact List.Subset.trans (scopes_subset_of_mem hmem)
        (List.Subset.trans (List.subset_cons_self _ _) ih)

theorem mem_scopes_of_path {path : List Element} {element : Element}
    (h : Path root path element) : (element.id, bound path) ∈ root.scopes .none := by
  have hsubset := scopes_subset_of_path h
  rw [scopes_eq, override_bound_tail h] at hsubset
  exact hsubset List.mem_cons_self

end Element

end Library
