import DevilzDen.Foundation.FileTree
import DevilzDen.Backend.Error

/-! The file system manager: moving a file.

A path is the list of its components, in one normal form for each file. What the
standard library's calls do is that of its documentation; the operating system may
refuse each of them for reasons of its own.
-/

set_option autoImplicit false

namespace DevilzDen.Backend

open Foundation

abbrev Path := List Text

abbrev FileSystem (Content : Type) := FileTree Text Content

/-- What the operating system refuses of what would otherwise succeed, and the code of the call that fails. -/
structure FileSystemAnswers where
  refusesDirectory : Path → Bool := fun _ => false
  refusesStatus : Bool := false
  refusesRemove : Bool := false
  refusesRename : Bool := false
  code : UInt32

namespace FileSystemManager

variable {Content : Type}

def string (path : Path) : Text := (path.intersperse (text "\\")).flatten

def fsError (answers : FileSystemAnswers) (code : ErrorCode) (message : String) (path : Path) : Error :=
  ((Error.fromWin32 code .filesystem answers.code message).withContext "Path" (string path)).withContext
    "SystemCategory" (text "system")

/-- `std::filesystem::create_directories`, over the directories on the way. -/
def createDirectories (answers : FileSystemAnswers) (tree : FileSystem Content) :
    List Path → Bool × FileSystem Content
  | [] => (true, tree)
  | directory :: rest =>
      if tree.isDirectory directory then createDirectories answers tree rest
      else if (tree.node directory).isSome || answers.refusesDirectory directory then (false, tree)
      else if roomy : tree.Roomy directory then
        createDirectories answers (tree.put directory .directory roomy) rest
      else (false, tree)

/-- `std::filesystem::exists`, where a failing status counts as absence. -/
def present (answers : FileSystemAnswers) (tree : FileSystem Content) (path : Path) : Bool :=
  !answers.refusesStatus && (tree.node path).isSome

/-- `std::filesystem::remove`: a file, an empty directory, or nothing. -/
def remove (answers : FileSystemAnswers) (tree : FileSystem Content) (path : Path) :
    Bool × FileSystem Content :=
  if answers.refusesRemove then (false, tree)
  else if none : tree.childless path then (true, tree.erase path none)
  else (false, tree)

/-- `std::filesystem::rename`: it fails and leaves the file system unchanged, or
moves the entry; a file replaces an existing file. -/
def rename (answers : FileSystemAnswers) (tree : FileSystem Content) (source destination : Path) :
    Bool × FileSystem Content :=
  if answers.refusesRename then (false, tree)
  else if source = destination then ((tree.node source).isSome, tree)
  else if tree.isDirectory source && (tree.node destination).isSome then (false, tree)
  else if movable : tree.Movable source destination then (true, tree.relocate source destination movable)
  else (false, tree)

def ensureParent (answers : FileSystemAnswers) (tree : FileSystem Content) (path : Path) :
    Result Unit × FileSystem Content :=
  let parent := path.dropLast
  if parent = [] then (.ok (), tree)
  else
    let outcome := createDirectories answers tree parent.inits.tail
    if outcome.1 then (.ok (), outcome.2)
    else (.error (fsError answers .directoryCreateFailed "Unable to create parent directory" parent), outcome.2)

def renameOrFail (answers : FileSystemAnswers) (tree : FileSystem Content) (source destination : Path) :
    Result Unit × FileSystem Content :=
  let renamed := rename answers tree source destination
  if renamed.1 then (.ok (), renamed.2)
  else
    (.error ((fsError answers .fileWriteFailed "Unable to move file" source).withContext
      "Destination" (string destination)), renamed.2)

def move (answers : FileSystemAnswers) (tree : FileSystem Content) (source destination : Path) (overwrite : Bool) :
    Result Unit × FileSystem Content :=
  match ensureParent answers tree destination with
  | (.error error, tree) => (.error error, tree)
  | (.ok (), tree) =>
      if overwrite && present answers tree destination then
        let removed := remove answers tree destination
        if removed.1 then renameOrFail answers removed.2 source destination
        else
          (.error (fsError answers .fileWriteFailed "Unable to replace destination file" destination),
            removed.2)
      else renameOrFail answers tree source destination

/-! ## What each call does -/

/-- Nothing has changed, but for directories that are new. -/
def Grown (directories : List Path) (before after : FileSystem Content) : Prop :=
  ∀ path, after.node path = before.node path ∨
    before.node path = none ∧ path ∈ directories ∧ after.node path = some .directory

theorem Grown.refl (directories : List Path) (tree : FileSystem Content) : Grown directories tree tree :=
  fun _ => Or.inl rfl

theorem Grown.preserved {directories : List Path} {before after : FileSystem Content}
    (grown : Grown directories before after) : before.Preserved after := by
  intro path content found
  rcases grown path with same | ⟨absent, _, _⟩
  · rw [same, found]
  · exact nomatch absent.symm.trans found

theorem createDirectories_grown (answers : FileSystemAnswers) (tree : FileSystem Content)
    (directories : List Path) :
    Grown directories tree (createDirectories answers tree directories).2 := by
  induction directories generalizing tree with
  | nil => exact Grown.refl _ tree
  | cons directory rest ih =>
    have weaken {before after : FileSystem Content} (grown : Grown rest before after) :
        Grown (directory :: rest) before after := fun path =>
      (grown path).imp_right fun ⟨absent, listed, made⟩ => ⟨absent, List.mem_cons_of_mem _ listed, made⟩
    unfold createDirectories
    split
    · exact weaken (ih tree)
    · split
      · exact Grown.refl _ tree
      next known refused =>
        split
        next roomy =>
          intro path
          by_cases same : path = directory
          · subst same
            have absent : tree.node path = none := by
              simp only [Bool.or_eq_true, not_or, Option.not_isSome_iff_eq_none] at refused
              exact refused.1
            have put : (tree.put path .directory roomy).node path = some .directory :=
              Function.update_self _ _ _
            refine Or.inr ⟨absent, List.mem_cons_self, ?_⟩
            rcases ih (tree.put path .directory roomy) path with later | ⟨gone, _, _⟩
            · rw [later, put]
            · exact nomatch put.symm.trans gone
          · have kept : (tree.put directory .directory roomy).node path = tree.node path :=
              Function.update_of_ne same _ _
            have later := weaken (ih (tree.put directory .directory roomy)) path
            rwa [kept] at later
        next => exact Grown.refl _ tree

theorem Grown.isDirectory {directories : List Path} {before after : FileSystem Content}
    (grown : Grown directories before after) {path : Path} (directory : before.isDirectory path = true) :
    after.isDirectory path = true := by
  rw [FileTree.isDirectory_eq_true] at directory ⊢
  rcases grown path with same | ⟨absent, _, _⟩
  · rw [same, directory]
  · rw [absent] at directory
    cases directory

theorem createDirectories_made {answers : FileSystemAnswers} {tree : FileSystem Content} {directories : List Path}
    (succeeded : (createDirectories answers tree directories).1 = true) :
    ∀ directory ∈ directories, (createDirectories answers tree directories).2.isDirectory directory = true := by
  induction directories generalizing tree with
  | nil => exact nofun
  | cons first rest ih =>
    unfold createDirectories at succeeded ⊢
    split at succeeded
    next there =>
      rw [if_pos there, List.forall_mem_cons]
      exact ⟨(createDirectories_grown answers tree rest).isDirectory there, ih succeeded⟩
    next missing =>
      rw [if_neg missing]
      split at succeeded
      · cases succeeded
      next free =>
        rw [if_neg free]
        split at succeeded
        next roomy =>
          have made : (tree.put first .directory roomy).isDirectory first = true :=
            FileTree.isDirectory_eq_true.mpr (Function.update_self _ _ _)
          rw [dif_pos roomy, List.forall_mem_cons]
          exact ⟨(createDirectories_grown answers _ rest).isDirectory made, ih succeeded⟩
        · cases succeeded

theorem createDirectories_of_present (answers : FileSystemAnswers) (tree : FileSystem Content)
    {directories : List Path} (there : ∀ directory ∈ directories, tree.isDirectory directory = true) :
    createDirectories answers tree directories = (true, tree) := by
  induction directories with
  | nil => rfl
  | cons directory rest ih =>
    rw [List.forall_mem_cons] at there
    rw [createDirectories, if_pos there.1, ih there.2]

theorem mem_directories {path directory : Path} :
    directory ∈ path.inits.tail ↔ directory ≠ [] ∧ directory <+: path := by
  cases path with
  | nil =>
    simp only [List.inits, List.tail_cons, List.not_mem_nil, List.prefix_nil, false_iff]
    exact fun ⟨proper, same⟩ => proper same
  | cons name rest =>
    simp only [List.inits, List.tail_cons, List.mem_map, List.mem_inits, List.prefix_cons_iff]
    constructor
    · rintro ⟨before, inside, rfl⟩
      exact ⟨nofun, Or.inr ⟨before, rfl, inside⟩⟩
    · rintro ⟨proper, empty | ⟨before, rfl, inside⟩⟩
      · exact absurd empty proper
      · exact ⟨before, inside, rfl⟩

theorem ensureParent_grown (answers : FileSystemAnswers) (tree : FileSystem Content) (path : Path) :
    Grown path.dropLast.inits.tail tree (ensureParent answers tree path).2 := by
  simp only [ensureParent]
  split
  · exact Grown.refl _ tree
  · split
    · exact createDirectories_grown answers tree _
    · exact createDirectories_grown answers tree _

theorem ensureParent_of_present (answers : FileSystemAnswers) {tree : FileSystem Content} {path : Path}
    (present : (tree.node path).isSome) : ensureParent answers tree path = (.ok (), tree) := by
  obtain ⟨proper, _⟩ := tree.parent_of_present present
  have there : ∀ directory ∈ path.dropLast.inits.tail, tree.isDirectory directory = true := by
    intro directory listed
    obtain ⟨nonempty, between, split⟩ := mem_directories.mp listed
    have whole := List.dropLast_append_getLast proper
    rw [← split, List.append_assoc] at whole
    rw [← whole] at present
    exact FileTree.isDirectory_eq_true.mpr (tree.nested_append nonempty (by simp) present)
  simp only [ensureParent]
  split
  · rfl
  · rw [createDirectories_of_present answers tree there]
    rfl

theorem remove_cases (answers : FileSystemAnswers) (tree : FileSystem Content) (path : Path) :
    remove answers tree path = (false, tree) ∨ ∃ none, remove answers tree path = (true, tree.erase path none) := by
  unfold remove
  split
  · exact Or.inl rfl
  · split
    next none => exact Or.inr ⟨none, rfl⟩
    · exact Or.inl rfl

/-- What a rename needs, apart from the operating system's consent. -/
def Renamable (tree : FileSystem Content) (source destination : Path) : Prop :=
  (tree.node source).isSome ∧
    (source ≠ destination → (tree.isDirectory source = true → tree.node destination = none) ∧
      tree.Movable source destination)

theorem rename_of_renamable {answers : FileSystemAnswers} {tree : FileSystem Content} {source destination : Path}
    (allowed : answers.refusesRename = false) (renamable : Renamable tree source destination) :
    (rename answers tree source destination).1 = true := by
  unfold rename
  by_cases same : source = destination
  · simp [allowed, same, same ▸ renamable.1]
  · obtain ⟨free, movable⟩ := renamable.2 same
    by_cases directory : tree.isDirectory source = true
    · simp [allowed, same, free directory, movable]
    · simp [allowed, same, directory, movable]

theorem rename_cases (answers : FileSystemAnswers) (tree : FileSystem Content) (source destination : Path) :
    rename answers tree source destination = (false, tree) ∨
    ((rename answers tree source destination).1 = true ∧ answers.refusesRename = false ∧
      Renamable tree source destination ∧
      ∀ rest, (rename answers tree source destination).2.node (destination ++ rest) =
        tree.node (source ++ rest)) := by
  unfold rename
  split
  · exact Or.inl rfl
  next allowed =>
    rw [Bool.not_eq_true] at allowed
    split
    next same =>
      subst same
      cases found : tree.node source with
      | none => exact Or.inl rfl
      | some node => exact Or.inr ⟨rfl, allowed, ⟨by rw [found]; rfl, (absurd rfl ·)⟩, fun _ => rfl⟩
    next different =>
      split
      · exact Or.inl rfl
      next free =>
        split
        next movable =>
          have unblocked : tree.isDirectory source = true → tree.node destination = none := by
            intro directory
            simpa [directory] using free
          exact Or.inr ⟨rfl, allowed, ⟨movable.1, fun _ => ⟨unblocked, movable⟩⟩,
            fun rest => FileTree.relocated_append _ _ _ _⟩
        · exact Or.inl rfl

theorem renameOrFail_preserved {answers : FileSystemAnswers} {tree : FileSystem Content}
    {source destination : Path} {error : Error}
    (failed : (renameOrFail answers tree source destination).1 = .error error) :
    (renameOrFail answers tree source destination).2 = tree := by
  rcases rename_cases answers tree source destination with unchanged | ⟨done, _⟩
  · rw [renameOrFail, unchanged]
    rfl
  · rw [renameOrFail, done] at failed
    exact nomatch failed

theorem renameOrFail_done {answers : FileSystemAnswers} {tree : FileSystem Content}
    {source destination : Path} (done : (renameOrFail answers tree source destination).1 = .ok ()) :
    answers.refusesRename = false ∧ Renamable tree source destination ∧
      ∀ rest, (renameOrFail answers tree source destination).2.node (destination ++ rest) =
        tree.node (source ++ rest) := by
  rcases rename_cases answers tree source destination with unchanged | ⟨renamed, allowed, renamable, same⟩
  · rw [renameOrFail, unchanged] at done
    exact nomatch done
  · refine ⟨allowed, renamable, fun rest => ?_⟩
    rw [renameOrFail, renamed]
    exact same rest

theorem renameOrFail_of_renamable {answers : FileSystemAnswers} {tree : FileSystem Content}
    {source destination : Path} (allowed : answers.refusesRename = false)
    (renamable : Renamable tree source destination) :
    (renameOrFail answers tree source destination).1 = .ok () := by
  rw [renameOrFail, rename_of_renamable allowed renamable]
  rfl

/-! ## What a move promises -/

/-- A failure loses no file, a success moves the source, and what must not be
overwritten is not. -/
structure KeepsFiles (before : FileSystem Content) (source destination : Path) (overwrite : Bool)
    (outcome : Result Unit × FileSystem Content) : Prop where
  atomic : ∀ error, outcome.1 = .error error → before.Preserved outcome.2
  moved : outcome.1 = .ok () → (before.node source).isSome ∧
    ∀ rest, outcome.2.node (destination ++ rest) = before.node (source ++ rest)
  kept : overwrite = false → ∀ content, before.node destination = some (.file content) →
    outcome.2.node destination = some (.file content)

/-- Where the destination is a file: with `overwrite` it can stay or the rename is
sure to follow, without it nothing else takes its place. -/
def Safe (answers : FileSystemAnswers) (tree : FileSystem Content) (source destination : Path)
    (overwrite : Bool) : Prop :=
  ∀ content, tree.node destination = some (.file content) →
    if overwrite then
      answers.refusesStatus = true ∨ answers.refusesRemove = true ∨
        answers.refusesRename = false ∧ (tree.node source).isSome ∧ ¬source <+: destination
    else
      answers.refusesRename = true ∨
        ∀ other, tree.node source = some (.file other) → other = content

/-- The directories that are created lie on the way to the destination, so
nothing that could move there changes. -/
theorem Grown.source {before after : FileSystem Content} {source destination : Path}
    (grown : Grown destination.dropLast.inits.tail before after)
    (outside : source = destination ∨ ¬source <+: destination) (nonempty : destination ≠ []) (rest : Path) :
    after.node (source ++ rest) = before.node (source ++ rest) := by
  rcases grown (source ++ rest) with same | ⟨_, listed, _⟩
  · exact same
  · have inside : source <+: destination.dropLast :=
      (List.prefix_append source rest).trans (mem_directories.mp listed).2
    rcases outside with rfl | outside
    · have short := inside.length_le
      have positive := List.length_pos_iff.mpr nonempty
      rw [List.length_dropLast] at short
      omega
    · exact absurd (inside.trans (List.dropLast_prefix destination)) outside

theorem Renamable.outside {tree : FileSystem Content} {source destination : Path}
    (renamable : Renamable tree source destination) : source = destination ∨ ¬source <+: destination := by
  by_cases same : source = destination
  · exact Or.inl same
  · exact Or.inr (renamable.2 same).2.2.1

theorem Renamable.nonempty {tree : FileSystem Content} {source destination : Path}
    (renamable : Renamable tree source destination) : destination ≠ [] := by
  by_cases same : source = destination
  · exact same ▸ (tree.parent_of_present renamable.1).1
  · exact (renamable.2 same).2.2.2.1

theorem renamable_erase {tree : FileSystem Content} {source destination : Path}
    {none : tree.childless destination = true}
    (renamable : Renamable (tree.erase destination none) source destination) :
    source ≠ destination ∧ ¬source <+: destination ∧
      ∀ rest, (tree.erase destination none).node (source ++ rest) = tree.node (source ++ rest) := by
  have different : source ≠ destination := by
    rintro rfl
    have present := renamable.1
    simp [FileTree.erase] at present
  have outside := (renamable.2 different).2.2.1
  refine ⟨different, outside, fun rest => Function.update_of_ne ?_ _ _⟩
  rintro rfl
  exact outside (List.prefix_append _ _)

/-- A move ends before its rename, with the new directories only, or with the
rename, after the destination was removed or not. -/
theorem move_cases (answers : FileSystemAnswers) (tree : FileSystem Content) (source destination : Path)
    (overwrite : Bool) :
    ∃ ready : FileSystem Content, Grown destination.dropLast.inits.tail tree ready ∧
      ((∃ error, move answers tree source destination overwrite = (.error error, ready)) ∨
        move answers tree source destination overwrite = renameOrFail answers ready source destination ∨
        ∃ none, move answers tree source destination overwrite =
          renameOrFail answers (ready.erase destination none) source destination) := by
  have grown := ensureParent_grown answers tree destination
  rcases ensured : ensureParent answers tree destination with ⟨verdict, ready⟩
  rw [ensured] at grown
  refine ⟨ready, grown, ?_⟩
  unfold move
  rw [ensured]
  cases verdict with
  | error error => exact Or.inl ⟨error, rfl⟩
  | ok =>
    dsimp only
    split
    · rcases remove_cases answers ready destination with kept | ⟨none, erased⟩
      · rw [kept]
        exact Or.inl ⟨_, rfl⟩
      · rw [erased]
        exact Or.inr (Or.inr ⟨none, rfl⟩)
    · exact Or.inr (Or.inl rfl)

theorem move_moved {answers : FileSystemAnswers} {tree : FileSystem Content} {source destination : Path}
    {overwrite : Bool} (done : (move answers tree source destination overwrite).1 = .ok ()) :
    (tree.node source).isSome ∧
      ∀ rest, (move answers tree source destination overwrite).2.node (destination ++ rest) =
        tree.node (source ++ rest) := by
  obtain ⟨ready, grown, outcome⟩ := move_cases answers tree source destination overwrite
  -- what is renamed in the end is what was at the source before
  have finish {final : FileSystem Content}
      (last : move answers tree source destination overwrite = renameOrFail answers final source destination)
      (same : Renamable final source destination →
        ∀ rest, final.node (source ++ rest) = ready.node (source ++ rest)) :
      (tree.node source).isSome ∧
        ∀ rest, (move answers tree source destination overwrite).2.node (destination ++ rest) =
          tree.node (source ++ rest) := by
    rw [last] at done ⊢
    obtain ⟨_, renamable, moved⟩ := renameOrFail_done done
    have unchanged : ∀ rest, final.node (source ++ rest) = tree.node (source ++ rest) := fun rest =>
      (same renamable rest).trans (grown.source renamable.outside renamable.nonempty rest)
    have here := unchanged []
    rw [List.append_nil] at here
    exact ⟨here ▸ renamable.1, fun rest => (moved rest).trans (unchanged rest)⟩
  rcases outcome with ⟨error, failed⟩ | kept | ⟨none, erased⟩
  · rw [failed] at done
    exact nomatch done
  · exact finish kept fun _ _ => rfl
  · exact finish erased fun renamable => (renamable_erase renamable).2.2

theorem move_atomic_of_no_file {answers : FileSystemAnswers} {tree : FileSystem Content}
    {source destination : Path} {overwrite : Bool}
    (noFile : ∀ content, tree.node destination ≠ some (.file content)) {error : Error}
    (failed : (move answers tree source destination overwrite).1 = .error error) :
    tree.Preserved (move answers tree source destination overwrite).2 := by
  obtain ⟨ready, grown, outcome⟩ := move_cases answers tree source destination overwrite
  rcases outcome with ⟨other, early⟩ | kept | ⟨none, erased⟩
  · rw [early]
    exact grown.preserved
  · rw [kept] at failed ⊢
    rw [renameOrFail_preserved failed]
    exact grown.preserved
  · rw [erased] at failed ⊢
    rw [renameOrFail_preserved failed]
    intro path content found
    have different : path ≠ destination := by
      rintro rfl
      exact noFile content found
    exact (Function.update_of_ne different _ _).trans (grown.preserved path content found)

theorem move_onto_file (answers : FileSystemAnswers) {tree : FileSystem Content} (source : Path)
    {destination : Path} {content : Content} (found : tree.node destination = some (.file content))
    (overwrite : Bool) :
    ∃ none : tree.childless destination = true,
      move answers tree source destination overwrite =
        if overwrite && !answers.refusesStatus then
          if answers.refusesRemove then
            (.error (fsError answers .fileWriteFailed "Unable to replace destination file" destination), tree)
          else renameOrFail answers (tree.erase destination none) source destination
        else renameOrFail answers tree source destination := by
  have there : (tree.node destination).isSome := by rw [found]; rfl
  have leaf : tree.isDirectory destination = false := by simp [FileTree.isDirectory, found]
  have childless := FileTree.childless_of_not_directory (tree.parent_of_present there).1 leaf
  refine ⟨childless, ?_⟩
  have seen : present answers tree destination = !answers.refusesStatus := by simp [present, there]
  rw [move, ensureParent_of_present answers there]
  dsimp only
  rw [seen]
  split
  · by_cases refused : answers.refusesRemove = true
    · simp [remove, refused]
    · simp [remove, refused, childless]
  · rfl

theorem renamable_of_file {tree : FileSystem Content} {source destination : Path} {content other : Content}
    (found : tree.node destination = some (.file content)) (moving : tree.node source = some (.file other)) :
    Renamable tree source destination := by
  have leaf : tree.isDirectory destination = false := by simp [FileTree.isDirectory, found]
  have file : tree.isDirectory source = false := by simp [FileTree.isDirectory, moving]
  have there : (tree.node destination).isSome := by rw [found]; rfl
  obtain ⟨proper, parent⟩ := tree.parent_of_present there
  have here : (tree.node source).isSome := by rw [moving]; rfl
  refine ⟨here, fun different => ⟨fun directory => ?_, here, ?_, proper, leaf, ?_⟩⟩
  · exact nomatch file.symm.trans directory
  · -- only a directory has something below it
    rintro ⟨rest, rfl⟩
    have below : rest ≠ [] := by
      rintro rfl
      exact different (List.append_nil source).symm
    have directory := tree.nested_append (tree.parent_of_present here).1 below there
    exact nomatch moving.symm.trans directory
  · exact parent.imp_right FileTree.isDirectory_eq_true.mpr

theorem renamable_erase_of_file {tree : FileSystem Content} {source destination : Path} {content : Content}
    (found : tree.node destination = some (.file content)) (none : tree.childless destination = true)
    (here : (tree.node source).isSome) (outside : ¬source <+: destination) :
    Renamable (tree.erase destination none) source destination := by
  have there : (tree.node destination).isSome := by rw [found]; rfl
  obtain ⟨proper, parent⟩ := tree.parent_of_present there
  have gone : (tree.erase destination none).node destination = .none := Function.update_self _ _ _
  have kept {path : Path} (different : path ≠ destination) :
      (tree.erase destination none).node path = tree.node path := Function.update_of_ne different _ _
  have elsewhere : source ≠ destination := by
    rintro rfl
    exact outside List.prefix_rfl
  have present : ((tree.erase destination none).node source).isSome := by rwa [kept elsewhere]
  refine ⟨present, fun _ => ⟨fun _ => gone, present, outside, proper, ?_, ?_⟩⟩
  · simp [FileTree.isDirectory, gone]
  · refine parent.imp_right fun directory => FileTree.isDirectory_eq_true.mpr ?_
    have different : destination.dropLast ≠ destination := by
      intro same
      rw [same, found] at directory
      exact nomatch directory
    rwa [kept different]

theorem safe_of_keepsFiles {answers : FileSystemAnswers} {tree : FileSystem Content} {source destination : Path}
    {overwrite : Bool}
    (keeps : KeepsFiles tree source destination overwrite (move answers tree source destination overwrite)) :
    Safe answers tree source destination overwrite := by
  intro content found
  obtain ⟨none, outcome⟩ := move_onto_file answers source found overwrite
  cases overwrite with
  | true =>
    by_contra unsafe_
    simp only [if_true, not_or, Bool.not_eq_true] at unsafe_
    obtain ⟨status, removal, notSure⟩ := unsafe_
    simp only [status, removal, Bool.not_false, Bool.and_self, if_true, Bool.false_eq_true, if_false] at outcome
    cases verdict : (renameOrFail answers (tree.erase destination none) source destination).1 with
    | error error =>
      -- the destination is gone, and nothing has taken its place
      have lost := keeps.atomic error (outcome ▸ verdict) destination content found
      rw [outcome, renameOrFail_preserved verdict] at lost
      simp [FileTree.erase] at lost
    | ok =>
      obtain ⟨allowed, renamable, _⟩ := renameOrFail_done verdict
      obtain ⟨different, outside, same⟩ := renamable_erase renamable
      have here := same []
      rw [List.append_nil] at here
      exact notSure ⟨allowed, here ▸ renamable.1, outside⟩
  | false =>
    by_cases refused : answers.refusesRename = true
    · exact Or.inl refused
    · rw [Bool.not_eq_true] at refused
      refine Or.inr fun other moving => ?_
      have done := renameOrFail_of_renamable refused (renamable_of_file found moving)
      have renamed := (keeps.moved (outcome ▸ done)).2 []
      rw [List.append_nil, List.append_nil, keeps.kept rfl content found, moving] at renamed
      cases renamed
      rfl

theorem move_atomic_of_file {answers : FileSystemAnswers} {tree : FileSystem Content} {source destination : Path}
    {overwrite : Bool} (safe : Safe answers tree source destination overwrite) {content : Content}
    (found : tree.node destination = some (.file content)) {error : Error}
    (failed : (move answers tree source destination overwrite).1 = .error error) :
    tree.Preserved (move answers tree source destination overwrite).2 := by
  obtain ⟨none, outcome⟩ := move_onto_file answers source found overwrite
  have verdict := safe content found
  rw [outcome] at failed ⊢
  split at failed
  next replacing =>
    rw [if_pos replacing]
    split at failed
    next refused =>
      rw [if_pos refused]
      exact FileTree.Preserved.refl tree
    next allowed =>
      simp only [Bool.and_eq_true, Bool.not_eq_true'] at replacing
      simp only [replacing.1, replacing.2, allowed, if_true, Bool.false_eq_true, false_or] at verdict
      -- the rename is sure to succeed
      obtain ⟨renames, here, outside⟩ := verdict
      have done := renameOrFail_of_renamable renames (renamable_erase_of_file found none here outside)
      exact nomatch failed.symm.trans done
  next keeping =>
    rw [if_neg keeping, renameOrFail_preserved failed]
    exact FileTree.Preserved.refl tree

theorem exists_file_of_renamable {tree : FileSystem Content} {source destination : Path} {content : Content}
    (found : tree.node destination = some (.file content)) (renamable : Renamable tree source destination) :
    ∃ other, tree.node source = some (.file other) := by
  cases moving : tree.node source with
  | none => exact absurd renamable.1 (by simp [moving])
  | some node =>
    cases node with
    | file other => exact ⟨other, rfl⟩
    | directory =>
      have different : source ≠ destination := by
        rintro rfl
        exact nomatch moving.symm.trans found
      have absent := (renamable.2 different).1 (FileTree.isDirectory_eq_true.mpr moving)
      exact nomatch found.symm.trans absent

theorem keepsFiles_of_safe {answers : FileSystemAnswers} {tree : FileSystem Content} {source destination : Path}
    {overwrite : Bool} (safe : Safe answers tree source destination overwrite) :
    KeepsFiles tree source destination overwrite (move answers tree source destination overwrite) where
  moved := move_moved
  atomic error failed := by
    by_cases file : ∃ content, tree.node destination = some (.file content)
    · obtain ⟨content, found⟩ := file
      exact move_atomic_of_file safe found failed
    · exact move_atomic_of_no_file (not_exists.mp file) failed
  kept forbidden content found := by
    subst forbidden
    obtain ⟨none, outcome⟩ := move_onto_file answers source found false
    simp only [Bool.false_and, Bool.false_eq_true, if_false] at outcome
    rw [outcome]
    cases verdict : (renameOrFail answers tree source destination).1 with
    | error error => rw [renameOrFail_preserved verdict, found]
    | ok =>
      obtain ⟨renames, renamable, moved⟩ := renameOrFail_done verdict
      have renamed := moved []
      rw [List.append_nil, List.append_nil] at renamed
      obtain ⟨other, moving⟩ := exists_file_of_renamable found renamable
      rcases safe content found with refused | same
      · exact nomatch renames.symm.trans refused
      · rw [renamed, moving, same other moving]

/-- Exactly on these inputs is a move all or nothing, and honours `overwrite`. -/
theorem move_keepsFiles_iff (answers : FileSystemAnswers) (tree : FileSystem Content) (source destination : Path)
    (overwrite : Bool) :
    KeepsFiles tree source destination overwrite (move answers tree source destination overwrite) ↔
      Safe answers tree source destination overwrite :=
  ⟨safe_of_keepsFiles, keepsFiles_of_safe⟩

/-- With a missing source the destination is lost; without `overwrite` it is replaced. -/
theorem move_loses_files :
    let saved : FileSystem Nat := FileTree.empty.put [text "config"] (.file 1) (by decide)
    let both : FileSystem Nat := saved.put [text "draft"] (.file 2) (by decide)
    ¬KeepsFiles saved [text "draft"] [text "config"] true
      (move { code := 2 } saved [text "draft"] [text "config"] true) ∧
    ¬KeepsFiles both [text "draft"] [text "config"] false
      (move { code := 2 } both [text "draft"] [text "config"] false) := by
  intro saved both
  constructor
  · intro keeps
    have lost := keeps.atomic _ rfl [text "config"] 1 (by decide)
    exact absurd lost (by decide)
  · intro keeps
    have replaced := keeps.kept rfl 1 (by decide)
    exact absurd replaced (by decide)

end FileSystemManager

end DevilzDen.Backend
