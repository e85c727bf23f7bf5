import DevilzDen.Backend.Filesystem.FileSystemManager
import DevilzDen.Foundation.Run

/-! The file system manager as a store: what its calls report against what is on the disk.

A stream for writing keeps the end of what it is given in a buffer. That end
goes to the disk when the stream is closed, where nobody looks at the outcome.
-/

set_option autoImplicit false

namespace DevilzDen.Backend.FileSystemManager

open Foundation

/-- What the operating system answers to one call, and what the disk takes and gives. -/
structure StoreAnswers where
  system : FileSystemAnswers
  refusesOpen : Bool := false
  /-- How many bytes a stream still has in its buffer when it is closed. -/
  buffered : Nat := 0
  /-- How many bytes of a stream the disk takes. -/
  room : Nat
  refusesCopy : Bool := false
  refusesPosition : Bool := false
  /-- How many bytes of a file can be read. -/
  readable : Nat

def streamError (code : ErrorCode) (message : String) (path : Path) : Error :=
  let error : Error := { code, category := .filesystem, message := text message }
  error.withContext "Path" (string path)

def contents (tree : FileSystem Text) (path : Path) : Option Text :=
  match tree.node path with
  | some (.file content) => some content
  | _ => none

def pathExists (answers : StoreAnswers) (tree : FileSystem Text) (path : Path) : Result Bool :=
  if answers.system.refusesStatus then
    .error (fsError answers.system .fileOpenFailed "Unable to query file existence" path)
  else .ok (tree.node path).isSome

def size (answers : StoreAnswers) (tree : FileSystem Text) (path : Path) : Result Nat :=
  if answers.system.refusesStatus then
    .error (fsError answers.system .fileReadFailed "Unable to query file size" path)
  else match contents tree path with
    | none => .error (fsError answers.system .fileReadFailed "Unable to query file size" path)
    | some content => .ok content.length

/-- The iterators read the file behind the stream's back, so a failing disk ends the text without a trace. -/
def readText (answers : StoreAnswers) (tree : FileSystem Text) (path : Path) : Result Text :=
  match contents tree path with
  | none => .error (streamError .fileOpenFailed "Unable to open text file" path)
  | some content =>
      if answers.refusesOpen then .error (streamError .fileOpenFailed "Unable to open text file" path)
      else .ok (content.take answers.readable)

def readBinary (answers : StoreAnswers) (tree : FileSystem Text) (path : Path) : Result Text :=
  match contents tree path with
  | none => .error (streamError .fileOpenFailed "Unable to open binary file" path)
  | some content =>
      if answers.refusesOpen then .error (streamError .fileOpenFailed "Unable to open binary file" path)
      else if answers.refusesPosition then
        .error (streamError .fileReadFailed "Unable to determine binary file size" path)
      else if answers.readable < content.length then
        .error (streamError .fileReadFailed "Unable to read binary file" path)
      else .ok content

structure StreamKind where
  append : Bool
  opening : String
  writing : String

/-- A file at the path, opened for writing, written and closed. The result is what `write` reports. -/
def writeStream (kind : StreamKind) (answers : StoreAnswers) (tree : FileSystem Text) (path : Path) (bytes : Text) :
    Result Unit × FileSystem Text :=
  if answers.refusesOpen then (.error (streamError .fileWriteFailed kind.opening path), tree)
  else if roomy : tree.Roomy path then
    let held := if kind.append then (contents tree path).getD [] else []
    (if bytes.length - answers.buffered ≤ answers.room then .ok ()
      else .error (streamError .fileWriteFailed kind.writing path),
      tree.put path (.file (held ++ bytes.take answers.room)) roomy)
  else (.error (streamError .fileWriteFailed kind.opening path), tree)

def write (kind : StreamKind) (answers : StoreAnswers) (tree : FileSystem Text) (path : Path) (bytes : Text)
    (createParents : Bool) : Result Unit × FileSystem Text :=
  if createParents then
    match ensureParent answers.system tree path with
    | (.error error, tree) => (.error error, tree)
    | (.ok (), tree) => writeStream kind answers tree path bytes
  else writeStream kind answers tree path bytes

def writeText : StoreAnswers → FileSystem Text → Path → Text → Bool → Result Unit × FileSystem Text :=
  write ⟨false, "Unable to open text file for writing", "Unable to write text file"⟩

def writeBinary : StoreAnswers → FileSystem Text → Path → Text → Bool → Result Unit × FileSystem Text :=
  write ⟨false, "Unable to open binary file for writing", "Unable to write binary file"⟩

def appendText : StoreAnswers → FileSystem Text → Path → Text → Bool → Result Unit × FileSystem Text :=
  write ⟨true, "Unable to open text file for append", "Unable to append text file"⟩

/-- `std::filesystem::copy_file`, for a file that is not copied over itself. -/
def copyFile (answers : StoreAnswers) (tree : FileSystem Text) (source destination : Path) (overwrite : Bool) :
    Bool × FileSystem Text :=
  match contents tree source with
  | none => (false, tree)
  | some content =>
      if answers.refusesCopy || source == destination then (false, tree)
      else if (tree.node destination).isSome && !overwrite then (false, tree)
      else if roomy : tree.Roomy destination then (true, tree.put destination (.file content) roomy)
      else (false, tree)

def copy (answers : StoreAnswers) (tree : FileSystem Text) (source destination : Path) (overwrite : Bool) :
    Result Unit × FileSystem Text :=
  match ensureParent answers.system tree destination with
  | (.error error, tree) => (.error error, tree)
  | (.ok (), tree) =>
      let copied := copyFile answers tree source destination overwrite
      if copied.1 then (.ok (), copied.2)
      else
        (.error ((fsError answers.system .fileWriteFailed "Unable to copy file" source).withContext
          "Destination" (string destination)), copied.2)

def removeFile (answers : StoreAnswers) (tree : FileSystem Text) (path : Path) : Result Unit × FileSystem Text :=
  let removed := remove answers.system tree path
  if removed.1 then (.ok (), removed.2)
  else (.error (fsError answers.system .fileWriteFailed "Unable to remove file" path), removed.2)

inductive Call where
  | writeText (path : Path) (bytes : Text) (createParents : Bool)
  | writeBinary (path : Path) (bytes : Text) (createParents : Bool)
  | appendText (path : Path) (bytes : Text) (createParents : Bool)
  | copy (source destination : Path) (overwrite : Bool)
  | move (source destination : Path) (overwrite : Bool)
  | remove (path : Path)

def perform (answers : StoreAnswers) (tree : FileSystem Text) : Call → Result Unit × FileSystem Text
  | .writeText path bytes createParents => writeText answers tree path bytes createParents
  | .writeBinary path bytes createParents => writeBinary answers tree path bytes createParents
  | .appendText path bytes createParents => appendText answers tree path bytes createParents
  | .copy source destination overwrite => copy answers tree source destination overwrite
  | .move source destination overwrite => move answers.system tree source destination overwrite
  | .remove path => removeFile answers tree path

/-! ## The store behind it -/

/-- What a call that succeeds does to a store that knows files only. -/
def apply (files : Path → Option Text) : Call → Path → Option Text
  | .writeText path bytes _ | .writeBinary path bytes _ => Function.update files path (some bytes)
  | .appendText path bytes _ => Function.update files path (some ((files path).getD [] ++ bytes))
  | .copy source destination _ => Function.update files destination (files source)
  | .move source destination _ => fun path =>
      if destination <+: path then files (source ++ path.drop destination.length)
      else if source <+: path then none
      else files path
  | .remove path => Function.update files path none

def step (tree : FileSystem Text) (call : Call × StoreAnswers) : FileSystem Text × List Call :=
  let outcome := perform call.2 tree call.1
  (outcome.2, match outcome.1 with
    | .ok () => [call.1]
    | .error _ => [])

theorem contents_grown {directories : List Path} {before after : FileSystem Text}
    (grown : Grown directories before after) : contents after = contents before := by
  funext path
  unfold contents
  rcases grown path with same | ⟨absent, -, made⟩
  · rw [same]
  · rw [absent, made]

theorem contents_put (tree : FileSystem Text) {path : Path} (content : Text) (roomy : tree.Roomy path) :
    contents (tree.put path (.file content) roomy) = Function.update (contents tree) path (some content) := by
  funext other
  by_cases same : other = path
  · subst same
    simp [contents, FileTree.put]
  · simp [contents, FileTree.put, same]

theorem contents_erase (tree : FileSystem Text) {path : Path} (none : tree.childless path = true) :
    contents (tree.erase path none) = Function.update (contents tree) path .none := by
  funext other
  by_cases same : other = path
  · subst same
    simp [contents, FileTree.erase]
  · simp [contents, FileTree.erase, same]

/-- A success does to the files what it should, and a failure nothing. -/
structure Explained (files after next : Path → Option Text) (result : Result Unit) : Prop where
  done : result = .ok () → after = next
  failed : ∀ error, result = .error error → after = files

theorem Explained.of_failed {files after next : Path → Option Text} {error : Error} (same : after = files) :
    Explained files after next (.error error) where
  done succeeded := by cases succeeded
  failed _ _ := same

theorem Explained.of_done {files after next : Path → Option Text} (same : after = next) :
    Explained files after next (.ok ()) where
  done _ := same
  failed _ failed := by cases failed

theorem writeStream_explained (kind : StreamKind) {answers : StoreAnswers} (tree : FileSystem Text) (path : Path)
    {bytes : Text} (whole : bytes.length ≤ answers.room) :
    let outcome := writeStream kind answers tree path bytes
    Explained (contents tree) (contents outcome.2)
      (Function.update (contents tree) path
        (some ((if kind.append then (contents tree path).getD [] else []) ++ bytes))) outcome.1 := by
  intro outcome
  simp only [outcome, writeStream]
  split
  · exact .of_failed rfl
  · split
    next roomy =>
      rw [if_pos (Nat.sub_le_of_le_add (whole.trans (Nat.le_add_right _ _))), List.take_of_length_le whole]
      exact .of_done (contents_put tree _ roomy)
    · exact .of_failed rfl

theorem write_explained (kind : StreamKind) {answers : StoreAnswers} (tree : FileSystem Text) (path : Path)
    {bytes : Text} (whole : bytes.length ≤ answers.room) (createParents : Bool) :
    let outcome := write kind answers tree path bytes createParents
    Explained (contents tree) (contents outcome.2)
      (Function.update (contents tree) path
        (some ((if kind.append then (contents tree path).getD [] else []) ++ bytes))) outcome.1 := by
  intro outcome
  simp only [outcome, write]
  split
  · have grown := contents_grown (ensureParent_grown answers.system tree path)
    generalize ensureParent answers.system tree path = ensured at grown
    obtain ⟨verdict, ready⟩ := ensured
    cases verdict with
    | error error => exact .of_failed grown
    | ok =>
      rw [← grown]
      exact writeStream_explained kind ready path whole
  · exact writeStream_explained kind tree path whole

theorem copy_explained (answers : StoreAnswers) (tree : FileSystem Text) (source destination : Path)
    (overwrite : Bool) :
    let outcome := copy answers tree source destination overwrite
    Explained (contents tree) (contents outcome.2)
      (Function.update (contents tree) destination (contents tree source)) outcome.1 := by
  intro outcome
  simp only [outcome, copy]
  have grown := contents_grown (ensureParent_grown answers.system tree destination)
  generalize ensureParent answers.system tree destination = ensured at grown
  obtain ⟨verdict, ready⟩ := ensured
  cases verdict with
  | error error => exact .of_failed grown
  | ok =>
    rw [← grown]
    dsimp only
    unfold copyFile
    split
    · exact .of_failed rfl
    next content found =>
      split
      · exact .of_failed rfl
      · split
        · exact .of_failed rfl
        · split
          next roomy =>
            rw [found]
            exact .of_done (contents_put ready content roomy)
          · exact .of_failed rfl

theorem remove_explained (answers : StoreAnswers) (tree : FileSystem Text) (path : Path) :
    let outcome := removeFile answers tree path
    Explained (contents tree) (contents outcome.2) (Function.update (contents tree) path none) outcome.1 := by
  intro outcome
  simp only [outcome, removeFile]
  rcases remove_cases answers.system tree path with kept | ⟨none, erased⟩
  · rw [kept]
    exact .of_failed rfl
  · rw [erased]
    exact .of_done (contents_erase tree none)

/-- A move that is to replace a file cannot fail once the file is removed. -/
def Sure (answers : FileSystemAnswers) (tree : FileSystem Text) (source destination : Path) : Prop :=
  contents tree destination = none ∨ answers.refusesStatus = true ∨ answers.refusesRemove = true ∨
    answers.refusesRename = false ∧ (tree.node source).isSome ∧ ¬source <+: destination

instance decidableSure (answers : FileSystemAnswers) (tree : FileSystem Text) (source destination : Path) :
    Decidable (Sure answers tree source destination) :=
  inferInstanceAs (Decidable (_ ∨ _ ∨ _ ∨ _ ∧ _ ∧ _))

theorem contents_relocate (tree : FileSystem Text) {source destination : Path}
    (movable : tree.Movable source destination) :
    contents (tree.relocate source destination movable) =
      apply (contents tree) (.move source destination true) := by
  funext path
  by_cases below : destination <+: path
  · simp [apply, contents, FileTree.relocate, FileTree.relocated, below]
  · by_cases moved : source <+: path <;>
      simp [apply, contents, FileTree.relocate, FileTree.relocated, below, moved]

theorem renameOrFail_explained (answers : FileSystemAnswers) (tree : FileSystem Text) (source destination : Path) :
    let outcome := renameOrFail answers tree source destination
    Explained (contents tree) (contents outcome.2) (apply (contents tree) (.move source destination true))
      outcome.1 := by
  intro outcome
  simp only [outcome, renameOrFail, rename]
  split
  · exact .of_failed rfl
  · split
    next same =>
      subst same
      split
      · refine .of_done (funext fun path => ?_)
        simp only [apply]
        split
        next inside =>
          rw [List.prefix_iff_eq_append.mp inside]
        · rfl
      · exact .of_failed rfl
    · split
      · exact .of_failed rfl
      · split
        next movable => exact .of_done (contents_relocate tree movable)
        · exact .of_failed rfl

theorem apply_move_update {files : Path → Option Text} {source destination : Path}
    (outside : ¬source <+: destination) (overwrite : Bool) :
    apply (Function.update files destination none) (.move source destination overwrite) =
      apply files (.move source destination overwrite) := by
  funext path
  simp only [apply]
  split
  · refine Function.update_of_ne ?_ _ _
    rintro same
    exact outside ⟨_, same⟩
  next notBelow =>
    split
    · rfl
    · refine Function.update_of_ne ?_ _ _
      rintro rfl
      exact notBelow List.prefix_rfl

theorem move_explained_of_no_file (answers : FileSystemAnswers) {tree : FileSystem Text} (source : Path)
    {destination : Path} (absent : contents tree destination = none) (overwrite : Bool) :
    let outcome := move answers tree source destination overwrite
    Explained (contents tree) (contents outcome.2) (apply (contents tree) (.move source destination true))
      outcome.1 := by
  intro outcome
  obtain ⟨ready, grown, early | kept | ⟨none, erased⟩⟩ := move_cases answers tree source destination overwrite
  · obtain ⟨error, failed⟩ := early
    simp only [outcome, failed]
    exact .of_failed (contents_grown grown)
  · simp only [outcome, kept, ← contents_grown grown]
    exact renameOrFail_explained answers ready source destination
  · have same : contents (ready.erase destination none) = contents tree := by
      rw [contents_erase, contents_grown grown, ← absent, Function.update_eq_self]
    simp only [outcome, erased, ← same]
    exact renameOrFail_explained answers _ source destination

theorem exists_file_of_contents {tree : FileSystem Text} {path : Path} {content : Text}
    (found : contents tree path = some content) : tree.node path = some (.file content) := by
  unfold contents at found
  split at found
  next other same =>
    cases found
    exact same
  · cases found

theorem move_explained {answers : FileSystemAnswers} {tree : FileSystem Text} {source destination : Path}
    {overwrite : Bool} (sure : overwrite = true → Sure answers tree source destination) :
    let outcome := move answers tree source destination overwrite
    Explained (contents tree) (contents outcome.2) (apply (contents tree) (.move source destination overwrite))
      outcome.1 := by
  intro outcome
  cases found : contents tree destination with
  | none => exact move_explained_of_no_file answers source found overwrite
  | some content =>
    have file := exists_file_of_contents found
    obtain ⟨none, split⟩ := move_onto_file answers source file overwrite
    simp only [outcome, split]
    split
    next replacing =>
      split
      · exact .of_failed rfl
      next removes =>
        -- the file is gone, so the rename has to succeed
        simp only [Bool.and_eq_true, Bool.not_eq_true'] at replacing
        have surely := sure replacing.1
        simp only [Sure, found, replacing.2, removes, reduceCtorEq, Bool.false_eq_true, false_or] at surely
        obtain ⟨renames, here, outside⟩ := surely
        have done := renameOrFail_of_renamable renames (renamable_erase_of_file file none here outside)
        have explained := renameOrFail_explained answers (tree.erase destination none) source destination
        have after := explained.done done
        rw [contents_erase] at after
        rw [done]
        exact .of_done (after.trans (apply_move_update outside overwrite))
    · exact renameOrFail_explained answers tree source destination

/-- The disk takes what it is given, and what a move has removed it replaces. -/
def Respects (tree : FileSystem Text) (call : Call × StoreAnswers) : Prop :=
  match call.1 with
  | .writeText _ bytes _ | .writeBinary _ bytes _ | .appendText _ bytes _ => bytes.length ≤ call.2.room
  | .move source destination overwrite => overwrite = true → Sure call.2.system tree source destination
  | .copy _ _ _ | .remove _ => True

instance decidableRespects (tree : FileSystem Text) : DecidablePred (Respects tree)
  | (.writeText _ bytes _, answers) | (.writeBinary _ bytes _, answers) | (.appendText _ bytes _, answers) =>
      inferInstanceAs (Decidable (bytes.length ≤ answers.room))
  | (.move source destination overwrite, answers) =>
      inferInstanceAs (Decidable (overwrite = true → Sure answers.system tree source destination))
  | (.copy _ _ _, _) | (.remove _, _) => isTrue trivial

theorem perform_explained {tree : FileSystem Text} {call : Call × StoreAnswers} (respects : Respects tree call) :
    let outcome := perform call.2 tree call.1
    Explained (contents tree) (contents outcome.2) (apply (contents tree) call.1) outcome.1 := by
  obtain ⟨call, answers⟩ := call
  cases call with
  | writeText path bytes createParents | writeBinary path bytes createParents =>
    exact write_explained _ tree path respects createParents
  | appendText path bytes createParents => exact write_explained _ tree path respects createParents
  | copy source destination overwrite => exact copy_explained answers tree source destination overwrite
  | move source destination overwrite => exact move_explained respects
  | remove path => exact remove_explained answers tree path

/-- What the manager says of a tree with these files. A text that is read may end
early where the disk fails, and nothing shows it; what exists may be a directory. -/
structure Serves (tree : FileSystem Text) (files : Path → Option Text) : Prop where
  present : ∀ (answers : StoreAnswers) path content, answers.system.refusesStatus = false →
    files path = some content → pathExists answers tree path = .ok true
  absent : ∀ answers path, pathExists answers tree path = .ok false → files path = none
  sized : ∀ answers path length, size answers tree path = .ok length →
    (files path).map List.length = some length
  measured : ∀ (answers : StoreAnswers) path content, answers.system.refusesStatus = false →
    files path = some content → size answers tree path = .ok content.length
  binary : ∀ answers path content, readBinary answers tree path = .ok content → files path = some content
  text : ∀ answers path content, readText answers tree path = .ok content →
    ∃ whole, files path = some whole ∧ content = whole.take answers.readable
  readable : ∀ (answers : StoreAnswers) path content, answers.refusesOpen = false →
    answers.refusesPosition = false → files path = some content → content.length ≤ answers.readable →
      readBinary answers tree path = .ok content

theorem serves_contents (tree : FileSystem Text) : Serves tree (contents tree) where
  present answers path content answered found := by
    rw [pathExists, answered, if_neg Bool.false_ne_true, exists_file_of_contents found]
    rfl
  absent answers path missing := by
    unfold pathExists at missing
    split at missing
    · cases missing
    · have empty := Except.ok.inj missing
      rw [Option.isSome_eq_false_iff, Option.isNone_iff_eq_none] at empty
      rw [contents, empty]
  sized answers path length told := by
    unfold size at told
    split at told
    · cases told
    · split at told
      next => cases told
      next content found =>
        cases told
        rw [found, Option.map_some]
  measured answers path content answered found := by
    rw [size, answered, if_neg Bool.false_ne_true, found]
  binary answers path content read := by
    unfold readBinary at read
    split at read
    · cases read
    next found =>
      rw [found]
      split at read
      · cases read
      · split at read
        · cases read
        · split at read
          · cases read
          · cases read
            rfl
  text answers path content read := by
    unfold readText at read
    split at read
    · cases read
    next whole found =>
      split at read
      · cases read
      · cases read
        exact ⟨whole, found, rfl⟩
  readable answers path content opens positions found whole := by
    unfold readBinary
    rw [found]
    dsimp only
    rw [opens, positions, if_neg Bool.false_ne_true, if_neg Bool.false_ne_true, if_neg (Nat.not_lt.mpr whole)]

/-- The manager is a store of files, as far as its calls report: in every run on a
disk that takes what it is given, the files are those that the calls which
succeeded make of the first ones, one after the other, and these are read. -/
theorem store_holds_reported_calls (tree : FileSystem Text) (calls : List (Call × StoreAnswers))
    (respects : Guarded (fun tree call => (step tree call).1) Respects tree calls) :
    let after := run (fun tree call => (step tree call).1) tree calls
    let files := run apply (contents tree) (outputs step tree calls)
    contents after = files ∧ Serves after files := by
  intro after files
  have held : contents after = files := by
    refine Guarded.replay contents apply (fun tree call respects => ?_) respects
    have explained := perform_explained respects
    unfold step
    dsimp only
    cases verdict : (perform call.2 tree call.1).1 with
    | ok => exact (explained.done verdict).symm
    | error error => exact (explained.failed error verdict).symm
  exact ⟨held, held ▸ serves_contents after⟩

def willing : StoreAnswers where
  system := { code := 0 }
  room := 100
  readable := 100

def writtenAndMoved : List (Call × StoreAnswers) :=
  let log : Path := [text "logs", text "a.log"]
  let old : Path := [text "logs", text "old.log"]
  [(.writeText log (text "one") true, willing), (.appendText log (text " two") true, willing),
    (.copy log old false, willing), (.writeBinary log (text "three") true, { willing with refusesOpen := true }),
    (.copy log old false, willing), (.appendText log (text " four") true, willing),
    (.move log old true, willing), (.remove log, willing)]

theorem store_holds_written_and_moved :
    let after := run (fun tree call => (step tree call).1) FileTree.empty writtenAndMoved
    contents after = run apply (contents FileTree.empty) (outputs step FileTree.empty writtenAndMoved) ∧
      contents after [text "logs", text "old.log"] = some (text "one two four") :=
  ⟨(store_holds_reported_calls FileTree.empty writtenAndMoved (by decide)).1, by decide⟩

end DevilzDen.Backend.FileSystemManager
