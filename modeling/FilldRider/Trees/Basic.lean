import Mathlib.Data.List.Basic
import Mathlib.Data.List.Infix
import Mathlib.Data.List.Pairwise

/-!
# Trees of keys

A tree is given by its leaves, each at a path of keys. A node has a leaf or children,
not both: setting a leaf discards what is below its path and the leaf above it.
-/

set_option autoImplicit false

namespace FilldRider.Trees

variable {Key Leaf : Type}

/-- Neither path passes through the other. -/
def Apart (first second : List Key) : Prop :=
  ¬ first <+: second ∧ ¬ second <+: first

instance [DecidableEq Key] (first second : List Key) : Decidable (Apart first second) :=
  inferInstanceAs (Decidable (_ ∧ _))

theorem Apart.symm {first second : List Key} (apart : Apart first second) :
    Apart second first :=
  ⟨apart.2, apart.1⟩

@[simp] theorem not_apart_self (path : List Key) : ¬ Apart path path := by
  intro apart
  exact apart.1 (List.prefix_refl path)

@[simp] theorem not_apart_nil (path : List Key) : ¬ Apart [] path := by
  intro apart
  exact apart.1 (List.nil_prefix)

@[simp] theorem not_nil_apart (path : List Key) : ¬ Apart path [] := by
  intro apart
  exact apart.2 (List.nil_prefix)

@[simp] theorem apart_cons (first second : Key) (left right : List Key) :
    Apart (first :: left) (second :: right) ↔ first ≠ second ∨ Apart left right := by
  simp only [Apart, List.cons_prefix_cons]
  constructor
  · intro apart
    by_cases same : first = second
    · exact .inr ⟨fun below => apart.1 ⟨same, below⟩, fun below => apart.2 ⟨same.symm, below⟩⟩
    · exact .inl same
  · intro apart
    rcases apart with other | apart
    · exact ⟨fun below => other below.1, fun below => other below.1.symm⟩
    · exact ⟨fun below => apart.1 below.2, fun below => apart.2 below.2⟩

theorem apart_children {path : List Key} {first second : Key} (other : first ≠ second) :
    Apart (path ++ [first]) (path ++ [second]) := by
  induction path with
  | nil => exact (apart_cons first second [] []).mpr (.inl other)
  | cons key rest ih => exact (apart_cons key key _ _).mpr (.inr ih)

structure Tree (Key Leaf : Type) where
  entries : List (List Key × Leaf)
  apart : entries.Pairwise fun first second => Apart first.1 second.1

namespace Tree

def empty : Tree Key Leaf := ⟨[], .nil⟩

variable [DecidableEq Key]

def leaf? (tree : Tree Key Leaf) (path : List Key) : Option Leaf :=
  (tree.entries.find? fun entry => entry.1 = path).map Prod.snd

/-- Whether there is anything at this path or below it. -/
def has (tree : Tree Key Leaf) (path : List Key) : Bool :=
  tree.entries.any fun entry => path <+: entry.1

def remove (tree : Tree Key Leaf) (path : List Key) : Tree Key Leaf where
  entries := tree.entries.filter fun entry => ¬ path <+: entry.1
  apart := tree.apart.filter _

def set (tree : Tree Key Leaf) (path : List Key) (leaf : Leaf) : Tree Key Leaf where
  entries := tree.entries.filter (fun entry => Apart path entry.1) ++ [(path, leaf)]
  apart := by
    rw [List.pairwise_append]
    refine ⟨tree.apart.filter _, List.pairwise_singleton _ _, ?_⟩
    intro entry member new last
    rw [List.mem_singleton] at last
    subst last
    exact (of_decide_eq_true (List.mem_filter.mp member).2).symm

/-- Set some children of a node and leave the others. -/
def update (tree : Tree Key Leaf) (path : List Key) : List (Key × Leaf) → Tree Key Leaf
  | [] => tree
  | (key, leaf) :: rest => (tree.set (path ++ [key]) leaf).update path rest

/-- Replace a node by these children. -/
def setChildren (tree : Tree Key Leaf) (path : List Key) (children : List (Key × Leaf)) :
    Tree Key Leaf :=
  (tree.remove path).update path children

theorem leaf?_eq_some_iff {tree : Tree Key Leaf} {path : List Key} {leaf : Leaf} :
    tree.leaf? path = some leaf ↔ (path, leaf) ∈ tree.entries := by
  constructor
  · intro found
    obtain ⟨⟨at_, value⟩, first, rfl⟩ := Option.map_eq_some_iff.mp found
    have here : at_ = path := by simpa using List.find?_some first
    subst here
    exact List.mem_of_find?_eq_some first
  · intro member
    cases found : tree.entries.find? fun entry => entry.1 = path with
    | none =>
        have missing := List.find?_eq_none.mp found _ member
        simp at missing
    | some entry =>
        have here : entry.1 = path := by simpa using List.find?_some found
        have present := List.mem_of_find?_eq_some found
        by_cases same : entry = (path, leaf)
        · simp [leaf?, found, same]
        · have symmetric : Std.Symm fun first second : List Key × Leaf => Apart first.1 second.1 :=
            ⟨fun _ _ => Apart.symm⟩
          have apart := tree.apart.forall present member same
          rw [here] at apart
          exact (not_apart_self path apart).elim

@[simp] theorem leaf?_empty (path : List Key) :
    (empty : Tree Key Leaf).leaf? path = none := rfl

theorem leaf?_remove (tree : Tree Key Leaf) (path other : List Key) :
    (tree.remove path).leaf? other = if path <+: other then none else tree.leaf? other := by
  apply Option.ext
  intro leaf
  rw [leaf?_eq_some_iff, remove, List.mem_filter, ← leaf?_eq_some_iff]
  split
  · next below => simp [below]
  · next beside => simp [beside]

theorem leaf?_set (tree : Tree Key Leaf) (path other : List Key) (leaf : Leaf) :
    (tree.set path leaf).leaf? other =
      if other = path then some leaf else if Apart path other then tree.leaf? other else none := by
  apply Option.ext
  intro found
  rw [leaf?_eq_some_iff, set, List.mem_append, List.mem_filter, List.mem_singleton,
    ← leaf?_eq_some_iff]
  by_cases here : other = path
  · simp [here, eq_comm]
  · by_cases apart : Apart path other <;> simp [here, apart]

theorem leaf?_set_self (tree : Tree Key Leaf) (path : List Key) (leaf : Leaf) :
    (tree.set path leaf).leaf? path = some leaf := by
  rw [leaf?_set, if_pos rfl]

theorem leaf?_set_of_apart (tree : Tree Key Leaf) {path other : List Key} (leaf : Leaf)
    (apart : Apart path other) : (tree.set path leaf).leaf? other = tree.leaf? other := by
  have elsewhere : other ≠ path := by
    rintro rfl
    exact not_apart_self other apart
  rw [leaf?_set, if_neg elsewhere, if_pos apart]

theorem has_iff {tree : Tree Key Leaf} {path : List Key} :
    tree.has path = true ↔ ∃ below leaf, tree.leaf? (path ++ below) = some leaf := by
  rw [has, List.any_eq_true]
  constructor
  · intro found
    obtain ⟨⟨other, leaf⟩, member, under⟩ := found
    obtain ⟨below, rfl⟩ := of_decide_eq_true under
    exact ⟨below, leaf, leaf?_eq_some_iff.mpr member⟩
  · intro found
    obtain ⟨below, leaf, found⟩ := found
    exact ⟨_, leaf?_eq_some_iff.mp found, decide_eq_true (List.prefix_append _ _)⟩

@[simp] theorem remove_nil (tree : Tree Key Leaf) : tree.remove [] = empty := by
  have none : tree.entries.filter (fun entry => ¬ [] <+: entry.1) = [] := by
    simp
  simp only [remove, none, empty]

theorem has_nil_eq_false_iff {tree : Tree Key Leaf} : tree.has [] = false ↔ tree = empty := by
  obtain ⟨entries, apart⟩ := tree
  cases entries <;> simp [has, empty]

theorem apart_of_leaf {tree : Tree Key Leaf} {first second : List Key} {left right : Leaf}
    (here : tree.leaf? first = some left) (there : tree.leaf? second = some right)
    (other : first ≠ second) : Apart first second := by
  have symmetric : Std.Symm fun first second : List Key × Leaf => Apart first.1 second.1 :=
    ⟨fun _ _ => Apart.symm⟩
  have distinct : (first, left) ≠ (second, right) := fun same => other (congrArg Prod.fst same)
  exact tree.apart.forall (leaf?_eq_some_iff.mp here) (leaf?_eq_some_iff.mp there) distinct

/-- There is no leaf above another one. -/
theorem leaf?_above {tree : Tree Key Leaf} {path below : List Key} {key : Key} {leaf : Leaf}
    (found : tree.leaf? (path ++ key :: below) = some leaf) : tree.leaf? path = none := by
  cases above : tree.leaf? path with
  | none => rfl
  | some value =>
      have other : path ≠ path ++ key :: below := by
        intro same
        have lengths := congrArg List.length same
        simp at lengths
      exact ((apart_of_leaf above found other).1 (List.prefix_append _ _)).elim

/-- Writing what is there changes nothing. -/
theorem leaf?_set_of_stored {tree : Tree Key Leaf} {path : List Key} {leaf : Leaf}
    (stored : tree.leaf? path = some leaf) (other : List Key) :
    (tree.set path leaf).leaf? other = tree.leaf? other := by
  rw [leaf?_set]
  split
  · next here => rw [here, stored]
  · next elsewhere =>
    split
    · rfl
    · next close =>
      cases there : tree.leaf? other with
      | none => rfl
      | some value => exact (close (apart_of_leaf stored there (Ne.symm elsewhere))).elim

/-- `update` touches no path apart from all the children it sets. -/
theorem leaf?_update_of_apart {path other : List Key} {children : List (Key × Leaf)}
    (apart : ∀ child ∈ children, Apart (path ++ [child.1]) other) (tree : Tree Key Leaf) :
    (tree.update path children).leaf? other = tree.leaf? other := by
  induction children generalizing tree with
  | nil => rfl
  | cons child rest ih =>
      rw [update, ih (fun later member => apart later (List.mem_cons_of_mem _ member)),
        leaf?_set_of_apart _ _ (apart child (List.mem_cons_self ..))]

/-- Every child set is there afterwards, if no key comes twice. -/
theorem leaf?_update_of_mem (path : List Key) {children : List (Key × Leaf)} {key : Key}
    {leaf : Leaf} (distinct : (children.map Prod.fst).Nodup) (member : (key, leaf) ∈ children)
    (tree : Tree Key Leaf) : (tree.update path children).leaf? (path ++ [key]) = some leaf := by
  induction children generalizing tree with
  | nil => cases member
  | cons child rest ih =>
      rw [List.map_cons, List.nodup_cons] at distinct
      rcases List.mem_cons.mp member with here | later
      · subst here
        rw [update, leaf?_update_of_apart, leaf?_set_self]
        intro other present
        apply apart_children
        rintro rfl
        exact distinct.1 (List.mem_map.mpr ⟨other, present, rfl⟩)
      · exact ih distinct.2 later _

/-- `update` leaves the other children alone. -/
theorem leaf?_update_of_unwritten (path : List Key) {children : List (Key × Leaf)} {key : Key}
    (unwritten : key ∉ children.map Prod.fst) (tree : Tree Key Leaf) (below : List Key) :
    (tree.update path children).leaf? (path ++ key :: below) =
      tree.leaf? (path ++ key :: below) := by
  apply leaf?_update_of_apart
  intro child member
  have other : child.1 ≠ key := by
    rintro rfl
    exact unwritten (List.mem_map.mpr ⟨child, member, rfl⟩)
  induction path with
  | nil => exact (apart_cons child.1 key [] below).mpr (.inl other)
  | cons first rest ih => exact (apart_cons first first _ _).mpr (.inr ih)

theorem leaf?_update_of_stored {path : List Key} {children : List (Key × Leaf)}
    {tree : Tree Key Leaf}
    (stored : ∀ child ∈ children, tree.leaf? (path ++ [child.1]) = some child.2)
    (other : List Key) : (tree.update path children).leaf? other = tree.leaf? other := by
  induction children generalizing tree with
  | nil => rfl
  | cons child rest ih =>
      have first := stored child (List.mem_cons_self ..)
      rw [update, ih, leaf?_set_of_stored first]
      intro later member
      rw [leaf?_set_of_stored first]
      exact stored later (List.mem_cons_of_mem _ member)

end Tree

end FilldRider.Trees
