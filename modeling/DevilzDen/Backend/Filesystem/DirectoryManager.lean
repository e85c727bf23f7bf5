import DevilzDen.Backend.Filesystem.FileSystemManager

/-! The directory manager.

Queries report through an error code as the C++ library does: a directory that
is missing is an error of the query. A directory iterator that fails to go on
reports the error and becomes the end iterator.
-/

set_option autoImplicit false

namespace DevilzDen.Backend

open Foundation

/-- A directory iterator, as its increments will find it. -/
inductive DirectoryIterator (Path : Type) where
  | end_
  | entry (path : Path) (next : DirectoryIterator Path)
  | failing (path : Path) (code : UInt32)
  deriving DecidableEq, Repr

namespace DirectoryIterator

variable {Path : Type}

def paths : DirectoryIterator Path → List Path
  | .end_ => []
  | .entry path next => path :: next.paths
  | .failing path _ => [path]

def error : DirectoryIterator Path → Option UInt32
  | .end_ => none
  | .entry _ next => next.error
  | .failing _ code => some code

end DirectoryIterator

namespace DirectoryManager

variable {Content : Type}

def directoryError (code : ErrorCode) (message : String) (path : Path) (systemCode : UInt32) : Error :=
  ((Error.fromWin32 code .filesystem systemCode message).withContext "Path"
    (FileSystemManager.string path)).withContext "SystemCategory" (text "system")

/-- `std::filesystem::is_directory`, with its error code. -/
def isDirectory (answers : FileSystemAnswers) (tree : FileSystem Content) (path : Path) : Bool × Option UInt32 :=
  if answers.refusesStatus then (false, some answers.code)
  else match tree.node path with
    | none => (false, some answers.code)
    | some (.file _) => (false, none)
    | some .directory => (true, none)

def «exists» (answers : FileSystemAnswers) (tree : FileSystem Content) (path : Path) : Result Bool :=
  let (result, ec) := isDirectory answers tree path
  match ec with
  | some code => .error (directoryError .directoryOpenFailed "Unable to query directory" path code)
  | none => .ok result

def create (answers : FileSystemAnswers) (tree : FileSystem Content) (path : Path) :
    Result Unit × FileSystem Content :=
  let created := FileSystemManager.createDirectories answers tree path.inits.tail
  if created.1 then (.ok (), created.2)
  else (.error (directoryError .directoryCreateFailed "Unable to create directory" path answers.code), created.2)

def ensure (answers : FileSystemAnswers) (tree : FileSystem Content) (path : Path) :
    Result Unit × FileSystem Content :=
  match «exists» answers tree path with
  | .error error => (.error error, tree)
  | .ok true => (.ok (), tree)
  | .ok false => create answers tree path

/-! ## Enumeration -/

/-- The loop of each branch of `Enumerate`: the error code is looked at in the
body only, which an iterator that has failed does not reach. -/
def enumerateLoop (path : Path) :
    DirectoryIterator Path → Option UInt32 → List Path → Result (List Path)
  | .end_, _, result => .ok result
  | .entry found next, ec, result =>
      match ec with
      | some code => .error (directoryError .directoryOpenFailed "Directory enumeration failed" path code)
      | none => enumerateLoop path next none (result ++ [found])
  | .failing found failure, ec, result =>
      match ec with
      | some code => .error (directoryError .directoryOpenFailed "Directory enumeration failed" path code)
      | none => enumerateLoop path .end_ (some failure) (result ++ [found])

/-- `Enumerate`, where `open_` answers the construction of the recursive and of the flat iterator. -/
def enumerate (open_ : Bool → Except UInt32 (DirectoryIterator Path)) (path : Path) (recursive : Bool) :
    Result (List Path) :=
  match open_ recursive with
  | .error code => .error (directoryError .directoryOpenFailed "Unable to enumerate directory" path code)
  | .ok iterator => enumerateLoop path iterator none []

/-- An error is reported, and a success has all the entries in order. -/
structure Faithful (opened : Except UInt32 (DirectoryIterator Path)) (outcome : Result (List Path)) : Prop where
  reported : ∀ iterator, opened = .ok iterator → iterator.error ≠ none → ∃ error, outcome = .error error
  complete : ∀ paths, outcome = .ok paths → ∃ iterator, opened = .ok iterator ∧ iterator.error = none ∧
    paths = iterator.paths

theorem enumerateLoop_eq (path : Path) (iterator : DirectoryIterator Path) (result : List Path) :
    enumerateLoop path iterator none result = .ok (result ++ iterator.paths) := by
  induction iterator generalizing result with
  | end_ => rw [enumerateLoop, DirectoryIterator.paths, List.append_nil]
  | entry found next ih =>
    rw [enumerateLoop, ih, DirectoryIterator.paths, List.append_assoc, List.singleton_append]
  | failing found failure => rw [enumerateLoop, enumerateLoop, DirectoryIterator.paths]

/-- The loop of the file system monitor has the error code in its condition, and
what it leaves there is tested behind the loop. -/
def buildSnapshotLoop :
    DirectoryIterator Path → Option UInt32 → List Path → List Path × Option UInt32
  | _, some code, result => (result, some code)
  | .end_, none, result => (result, none)
  | .entry found next, none, result => buildSnapshotLoop next none (result ++ [found])
  | .failing found failure, none, result => buildSnapshotLoop .end_ (some failure) (result ++ [found])

theorem buildSnapshotLoop_eq (iterator : DirectoryIterator Path) (result : List Path) :
    buildSnapshotLoop iterator none result = (result ++ iterator.paths, iterator.error) := by
  induction iterator generalizing result with
  | end_ => rw [buildSnapshotLoop, DirectoryIterator.paths, List.append_nil, DirectoryIterator.error]
  | entry found next ih =>
    rw [buildSnapshotLoop, ih, DirectoryIterator.paths, List.append_assoc, List.singleton_append,
      DirectoryIterator.error]
  | failing found failure =>
    rw [buildSnapshotLoop, buildSnapshotLoop, DirectoryIterator.paths, DirectoryIterator.error]

/-- An enumeration is faithful exactly when no increment of its iterator fails. -/
theorem enumerate_faithful_iff (open_ : Bool → Except UInt32 (DirectoryIterator Path)) (path : Path)
    (recursive : Bool) :
    Faithful (open_ recursive) (enumerate open_ path recursive) ↔
      ∀ iterator, open_ recursive = .ok iterator → iterator.error = none := by
  unfold enumerate
  cases open_ recursive with
  | error code =>
    constructor
    · intro _ iterator opened
      cases opened
    · intro _
      refine ⟨fun iterator opened => ?_, fun paths same => ?_⟩
      · cases opened
      · cases same
  | ok iterator =>
    dsimp only
    rw [enumerateLoop_eq, List.nil_append]
    constructor
    · intro faithful other opened
      by_contra fails
      obtain ⟨error, reported⟩ := faithful.reported other opened fails
      cases reported
    · intro succeeds
      refine ⟨fun other opened fails => absurd (succeeds other opened) fails, fun paths same => ?_⟩
      exact ⟨iterator, rfl, succeeds iterator rfl, (Except.ok.inj same).symm⟩

/-- The second of two entries cannot be reached; the listing of the first is a success. -/
theorem truncated_enumeration_succeeds :
    let opened : Except UInt32 (DirectoryIterator Path) := .ok (.failing [text "first"] 5)
    enumerate (fun _ => opened) [text "folder"] false = .ok [[text "first"]] ∧
      ¬Faithful opened (enumerate (fun _ => opened) [text "folder"] false) := by
  intro opened
  have listed : enumerate (fun _ => opened) [text "folder"] false = .ok [[text "first"]] :=
    enumerateLoop_eq _ _ _
  refine ⟨listed, fun faithful => ?_⟩
  obtain ⟨error, reported⟩ := faithful.reported _ rfl (by decide)
  rw [listed] at reported
  cases reported

end DirectoryManager

end DevilzDen.Backend
