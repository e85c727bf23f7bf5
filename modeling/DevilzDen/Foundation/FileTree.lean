import Mathlib.Data.List.Basic
import Mathlib.Data.List.Infix
import Mathlib.Logic.Function.Basic

/-! Trees of files and directories, as partial functions from paths.

A path is the list of its names from the top; the top itself is no entry.
Whatever is in the tree stands in a directory, which each operation preserves.
-/

set_option autoImplicit false

namespace Foundation

inductive FileTree.Node (Content : Type) where
  | file (content : Content)
  | directory
  deriving DecidableEq, Repr

structure FileTree (Name Content : Type) where
  node : List Name → Option (FileTree.Node Content)
  listed : List (List Name)
  finite : ∀ path, (node path).isSome → path ∈ listed
  top : node [] = none
  nested : ∀ path name, path ≠ [] → (node (path ++ [name])).isSome → node path = some .directory

namespace FileTree

variable {Name Content : Type}

def empty : FileTree Name Content where
  node _ := none
  listed := []
  finite _ := nofun
  top := rfl
  nested _ _ _ := nofun

def isDirectory (tree : FileTree Name Content) (path : List Name) : Bool :=
  match tree.node path with
  | some .directory => true
  | _ => false

@[simp] theorem isDirectory_eq_true {tree : FileTree Name Content} {path : List Name} :
    tree.isDirectory path = true ↔ tree.node path = some .directory := by
  unfold isDirectory
  split <;> simp_all

/-- There is a directory for an entry at this path, and none in its place. -/
def Roomy (tree : FileTree Name Content) (path : List Name) : Prop :=
  path ≠ [] ∧ tree.isDirectory path = false ∧ (path.dropLast = [] ∨ tree.isDirectory path.dropLast = true)

theorem nested_append (tree : FileTree Name Content) {path rest : List Name} (proper : path ≠ [])
    (below : rest ≠ []) (present : (tree.node (path ++ rest)).isSome) :
    tree.node path = some .directory := by
  induction rest using List.reverseRecOn with
  | nil => exact absurd rfl below
  | append_singleton before name ih =>
    rw [← List.append_assoc] at present
    have parent := tree.nested (path ++ before) name (by simp [proper]) present
    by_cases done : before = []
    · rwa [done, List.append_nil] at parent
    · exact ih done (by rw [parent]; rfl)

theorem parent_of_present (tree : FileTree Name Content) {path : List Name} (present : (tree.node path).isSome) :
    path ≠ [] ∧ (path.dropLast = [] ∨ tree.node path.dropLast = some .directory) := by
  have proper : path ≠ [] := by
    rintro rfl
    rw [tree.top] at present
    exact nomatch present
  refine ⟨proper, ?_⟩
  by_cases first : path.dropLast = []
  · exact Or.inl first
  · rw [← List.dropLast_append_getLast proper] at present
    exact Or.inr (tree.nested _ _ first present)

theorem node_append_of_not_directory (tree : FileTree Name Content) {path rest : List Name}
    (proper : path ≠ []) (below : rest ≠ []) (leaf : tree.isDirectory path = false) :
    tree.node (path ++ rest) = none := by
  by_contra present
  have directory := tree.nested_append proper below (Option.isSome_iff_ne_none.mpr present)
  rw [isDirectory_eq_true.mpr directory] at leaf
  exact nomatch leaf

variable [DecidableEq Name]

instance (tree : FileTree Name Content) (path : List Name) : Decidable (tree.Roomy path) :=
  inferInstanceAs (Decidable (_ ∧ _ ∧ (_ ∨ _)))

/-- Put an entry where there is room for it, in place of a file or of nothing. -/
def put (tree : FileTree Name Content) (path : List Name) (node : Node Content) (roomy : tree.Roomy path) :
    FileTree Name Content where
  node := Function.update tree.node path (some node)
  listed := path :: tree.listed
  finite other present := by
    by_cases same : other = path
    · simp [same]
    · rw [Function.update_of_ne same] at present
      exact List.mem_cons_of_mem _ (tree.finite other present)
  top := by rw [Function.update_of_ne roomy.1.symm, tree.top]
  nested base name proper present := by
    by_cases child : base ++ [name] = path
    · have parent := roomy.2.2
      rw [← child, List.dropLast_concat] at parent
      have different : base ≠ path := by
        rintro rfl
        simp at child
      rw [Function.update_of_ne different]
      exact isDirectory_eq_true.mp (parent.resolve_left proper)
    · rw [Function.update_of_ne child] at present
      have directory := tree.nested base name proper present
      have different : base ≠ path := by
        rintro rfl
        simp [isDirectory, directory, Roomy] at roomy
      rwa [Function.update_of_ne different]

def childless (tree : FileTree Name Content) (path : List Name) : Bool :=
  tree.listed.all fun other => other.dropLast ≠ path || (tree.node other).isNone

theorem node_child_of_childless {tree : FileTree Name Content} {path : List Name}
    (none : tree.childless path = true) (name : Name) : tree.node (path ++ [name]) = .none := by
  by_contra present
  have listed := tree.finite _ (Option.isSome_iff_ne_none.mpr present)
  simp only [childless, List.all_eq_true, Bool.or_eq_true, decide_eq_true_eq, Option.isNone_iff_eq_none] at none
  rcases none _ listed with other | absent
  · exact other List.dropLast_concat
  · exact present absent

theorem childless_of_not_directory {tree : FileTree Name Content} {path : List Name} (proper : path ≠ [])
    (leaf : tree.isDirectory path = false) : tree.childless path = true := by
  simp only [childless, List.all_eq_true, Bool.or_eq_true, decide_eq_true_eq, Option.isNone_iff_eq_none]
  intro other _
  by_cases child : other.dropLast = path
  · right
    have nonempty : other ≠ [] := by
      rintro rfl
      exact proper child.symm
    have split := List.dropLast_append_getLast nonempty
    rw [child] at split
    rw [← split]
    exact tree.node_append_of_not_directory proper (by simp) leaf
  · exact Or.inl child

def erase (tree : FileTree Name Content) (path : List Name) (none : tree.childless path = true) :
    FileTree Name Content where
  node := Function.update tree.node path .none
  listed := tree.listed
  finite other present := by
    by_cases same : other = path
    · simp [same] at present
    · rw [Function.update_of_ne same] at present
      exact tree.finite other present
  top := by
    by_cases same : [] = path
    · rw [same, Function.update_self]
    · rw [Function.update_of_ne same, tree.top]
  nested base name proper present := by
    by_cases child : base ++ [name] = path
    · simp [child] at present
    · rw [Function.update_of_ne child] at present
      have different : base ≠ path := by
        rintro rfl
        rw [node_child_of_childless none] at present
        exact nomatch present
      rw [Function.update_of_ne different]
      exact tree.nested base name proper present

/-- An entry can move, with all that is below it, to where there is room for it outside of itself. -/
def Movable (tree : FileTree Name Content) (source destination : List Name) : Prop :=
  (tree.node source).isSome ∧ ¬source <+: destination ∧ tree.Roomy destination

instance (tree : FileTree Name Content) (source destination : List Name) :
    Decidable (tree.Movable source destination) :=
  inferInstanceAs (Decidable (_ ∧ _ ∧ _))

def relocated (node : List Name → Option (Node Content)) (source destination path : List Name) :
    Option (Node Content) :=
  if destination <+: path then node (source ++ path.drop destination.length)
  else if source <+: path then none
  else node path

@[simp] theorem relocated_append (node : List Name → Option (Node Content))
    (source destination rest : List Name) :
    relocated node source destination (destination ++ rest) = node (source ++ rest) := by
  simp [relocated]

theorem relocated_of_outside {node : List Name → Option (Node Content)} {source destination path : List Name}
    (notBelow : ¬destination <+: path) (notMoved : ¬source <+: path) :
    relocated node source destination path = node path := by
  rw [relocated, if_neg notBelow, if_neg notMoved]

theorem relocated_of_present {node : List Name → Option (Node Content)} {source destination path : List Name}
    (notBelow : ¬destination <+: path) (present : (relocated node source destination path).isSome) :
    ¬source <+: path ∧ (node path).isSome := by
  rw [relocated, if_neg notBelow] at present
  split at present
  · exact nomatch present
  · exact ⟨‹_›, present⟩

def relocate (tree : FileTree Name Content) (source destination : List Name)
    (movable : tree.Movable source destination) : FileTree Name Content where
  node := relocated tree.node source destination
  listed := tree.listed ++ tree.listed.map fun path => destination ++ path.drop source.length
  finite path present := by
    by_cases below : destination <+: path
    · obtain ⟨rest, rfl⟩ := below
      rw [relocated_append] at present
      refine List.mem_append_right _ (List.mem_map.mpr ⟨_, tree.finite _ present, ?_⟩)
      simp
    · exact List.mem_append_left _ (tree.finite path (relocated_of_present below present).2)
  top := by
    have notBelow : ¬destination <+: [] := by simpa using movable.2.2.1
    rw [relocated, if_neg notBelow, tree.top, ite_self]
  nested base name proper present := by
    have sourceProper : source ≠ [] := by
      rintro rfl
      exact movable.2.1 List.nil_prefix
    by_cases below : destination <+: base
    · -- below the new place, the tree is as it was below the old one
      obtain ⟨rest, rfl⟩ := below
      rw [List.append_assoc, relocated_append, ← List.append_assoc] at present
      rw [relocated_append]
      exact tree.nested _ name (by simp [sourceProper]) present
    · by_cases new : destination = base ++ [name]
      · have parent := movable.2.2.2.2
        rw [new, List.dropLast_concat] at parent
        have kept : ¬source <+: base := fun moved =>
          movable.2.1 (new ▸ moved.trans (List.prefix_append base [name]))
        rw [relocated_of_outside below kept]
        exact isDirectory_eq_true.mp (parent.resolve_left proper)
      · have notBelow : ¬destination <+: base ++ [name] := by
          intro prefix_child
          rcases List.prefix_concat_iff.mp prefix_child with same | inside
          · exact new same
          · exact below inside
        obtain ⟨kept, present⟩ := relocated_of_present notBelow present
        have parentKept : ¬source <+: base := fun moved =>
          kept (moved.trans (List.prefix_append base [name]))
        rw [relocated_of_outside below parentKept]
        exact tree.nested base name proper present

def Preserved (before after : FileTree Name Content) : Prop :=
  ∀ path content, before.node path = some (.file content) → after.node path = some (.file content)

omit [DecidableEq Name] in
theorem Preserved.refl (tree : FileTree Name Content) : Preserved tree tree := fun _ _ => id

end FileTree

end Foundation
