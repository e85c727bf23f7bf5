import DevilzDen.Backend.Filesystem.DirectoryManager
import DevilzDen.Foundation.Table

/-! The folder system: named folders under a root, created on demand.

The map of folders is unordered, so the order of its iteration is a parameter,
and so are the current directories of the process. The module's other managers
take no part in its initialization and are left out.
-/

set_option autoImplicit false

namespace DevilzDen.Backend

open Foundation

/-- `std::filesystem::path`, taken apart. A separator at the end is not kept. -/
structure FilePath where
  rootName : Text := []
  rootDirectory : Bool := false
  names : List Text := []
  deriving DecidableEq, Repr

namespace FilePath

def isAbsolute (path : FilePath) : Bool := path.rootName ≠ [] && path.rootDirectory

def append (path other : FilePath) : FilePath :=
  if other.isAbsolute || (other.rootName ≠ [] && other.rootName ≠ path.rootName) then other
  else if other.rootDirectory then { other with rootName := path.rootName }
  else { path with names := path.names ++ other.names }

def dot : Text := text "."

def dotDot : Text := text ".."

/-- One name more of a normal form. -/
def normalStep (rootDirectory : Bool) (kept : List Text) (name : Text) : List Text :=
  if name = dot then kept
  else if name ≠ dotDot then kept ++ [name]
  else match kept.getLast? with
    | none => if rootDirectory then [] else [dotDot]
    | some last => if last = dotDot then kept ++ [dotDot] else kept.dropLast

def lexicallyNormal (path : FilePath) : FilePath :=
  let normal := { path with names := path.names.foldl (normalStep path.rootDirectory) [] }
  if path ≠ {} ∧ normal = {} then { names := [dot] } else normal

/-- Where the system looks a path up; `current` are the current directories of
the drives, and that of the process under the empty name. -/
def location (current : Text → Path) (path : FilePath) : Path :=
  let base :=
    if !path.rootDirectory then current path.rootName
    else if path.rootName = [] then (current []).take 1
    else [path.rootName]
  -- the empty path is looked up nowhere
  if path = {} then []
  else path.names.foldl
    (fun place name =>
      if name = dot then place
      else if name ≠ dotDot then place ++ [name]
      else if place.length ≤ 1 then place else place.dropLast)
    base

end FilePath

inductive ServiceState where
  | created
  | initializing
  | running
  | paused
  | stopping
  | stopped
  | failed
  deriving DecidableEq, Repr

structure FolderSystemManager where
  root : FilePath := {}
  folders : Table Text FilePath := ∅

structure FolderSystemModule where
  state : ServiceState := .created
  folders : FolderSystemManager := {}

section Folders

variable {Content : Type} (answers : FileSystemAnswers) (current : Text → Path)

namespace FolderSystemManager

def resolveRelative (manager : FolderSystemManager) (relativePath : FilePath) : FilePath :=
  if relativePath.isAbsolute then relativePath.lexicallyNormal
  else (manager.root.append relativePath).lexicallyNormal

def place (manager : FolderSystemManager) (relativePath : FilePath) : Path :=
  (manager.resolveRelative relativePath).location current

def insert (manager : FolderSystemManager) (name : Text) (relativePath : FilePath) : FolderSystemManager :=
  { manager with folders := manager.folders.insert name relativePath }

def folderError (message : String) : Error :=
  { code := .directoryCreateFailed, category := .filesystem, message := text message }

def registerFolder (manager : FolderSystemManager) (tree : FileSystem Content) (name : Text)
    (relativePath : FilePath) (create : Bool) : Result Unit × FolderSystemManager × FileSystem Content :=
  if name = [] then
    (.error (folderError "Folder registration requires a name"), manager, tree)
  else
    let registered := manager.insert name relativePath
    if !create then (.ok (), registered, tree)
    else match registered.folders.lookup name with
      | none =>
          (.error ((folderError "Registered folder could not be resolved after insertion").withContext
            "Folder" name), registered, tree)
      | some relative =>
          let ensured := DirectoryManager.ensure answers tree (registered.place current relative)
          (ensured.1, registered, ensured.2)

/-- The loop of `EnsureRegisteredFolders`. -/
def ensureFolders (manager : FolderSystemManager) (tree : FileSystem Content) :
    List (Text × FilePath) → Result Unit × FileSystem Content
  | [] => (.ok (), tree)
  | (name, relative) :: rest =>
      match DirectoryManager.ensure answers tree (manager.place current relative) with
      | (.error error, tree) => (.error (error.withContext "RegisteredFolder" name), tree)
      | (.ok (), tree) => ensureFolders manager tree rest

def ensureRegisteredFolders (iteration : Iteration Text FilePath) (manager : FolderSystemManager)
    (tree : FileSystem Content) : Result Unit × FileSystem Content :=
  manager.ensureFolders answers current tree (iteration.entries manager.folders)

end FolderSystemManager

namespace FolderSystemModule

def defaults : List Text :=
  [text "Logs", text "Configs", text "Scripts", text "Cache", text "CrashReports", text "Resources", text "Temp"]

def registerDefaults (manager : FolderSystemManager) (tree : FileSystem Content) :
    List Text → Result Unit × FolderSystemManager × FileSystem Content
  | [] => (.ok (), manager, tree)
  | name :: rest =>
      match manager.registerFolder answers current tree name { names := [name] } false with
      | (.error error, manager, tree) => (.error error, manager, tree)
      | (.ok (), manager, tree) => registerDefaults manager tree rest

def initializeFolders (iteration : Iteration Text FilePath) (folderSystem : FolderSystemModule)
    (tree : FileSystem Content) : Result Unit × FolderSystemModule × FileSystem Content :=
  match registerDefaults answers current folderSystem.folders tree defaults with
  | (.error error, folders, tree) => (.error error, { state := .failed, folders }, tree)
  | (.ok (), folders, tree) =>
      match folders.ensureRegisteredFolders answers current iteration tree with
      | (.error error, tree) => (.error error, { state := .failed, folders }, tree)
      | (.ok (), tree) => (.ok (), { state := .created, folders }, tree)

end FolderSystemModule

/-! ## Which folders are there in the end -/

variable {answers current}

/-- The query tells of a directory that it is one. -/
def Visible (answers : FileSystemAnswers) (tree : FileSystem Content) (folder : Path) : Prop :=
  answers.refusesStatus = false ∧ tree.isDirectory folder = true

/-- The creation of a missing folder would succeed. -/
def Creatable (answers : FileSystemAnswers) (tree : FileSystem Content) (folder : Path) : Prop :=
  folder ≠ [] ∧ tree.node folder = none ∧
    (FileSystemManager.createDirectories answers tree folder.inits.tail).1 = true

instance decidableCreatable (answers : FileSystemAnswers) (tree : FileSystem Content) (folder : Path)
    [DecidableEq Content] : Decidable (Creatable answers tree folder) :=
  inferInstanceAs (Decidable (_ ∧ _ ∧ _))

/-- Every folder that is missing can be created, and none is a file. -/
def Promised (answers : FileSystemAnswers) (tree : FileSystem Content) (folders : List Path) : Prop :=
  ∀ folder ∈ folders, tree.isDirectory folder = true ∨ Creatable answers tree folder

instance decidablePromised (answers : FileSystemAnswers) (tree : FileSystem Content) (folders : List Path)
    [DecidableEq Content] : Decidable (Promised answers tree folders) :=
  inferInstanceAs (Decidable (∀ folder ∈ folders, _ ∨ _))

/-- What is promised of folders is there in the end; what cannot be there is reported. -/
structure Ensures (answers : FileSystemAnswers) (tree : FileSystem Content) (folders : List Path)
    (outcome : Result Unit × FileSystem Content) : Prop where
  created : Promised answers tree folders →
    outcome.1 = .ok () ∧ ∀ folder ∈ folders, outcome.2.isDirectory folder = true
  reported : ¬Promised answers tree folders → ∃ error, outcome.1 = .error error

def Settled (answers : FileSystemAnswers) (tree : FileSystem Content) (folders : List Path) : Prop :=
  Promised answers tree folders → ∀ folder ∈ folders, Visible answers tree folder

theorem create_of_file (answers : FileSystemAnswers) {tree : FileSystem Content} {path : Path} {content : Content}
    (found : tree.node path = some (.file content)) :
    ∃ error, (DirectoryManager.create answers tree path).1 = .error error := by
  have failed : (FileSystemManager.createDirectories answers tree path.inits.tail).1 = false := by
    by_contra succeeded
    rw [Bool.not_eq_false] at succeeded
    have proper : path ≠ [] := by
      intro top
      rw [top, tree.top] at found
      cases found
    have listed : path ∈ path.inits.tail := FileSystemManager.mem_directories.mpr ⟨proper, List.prefix_rfl⟩
    have made := FileSystemManager.createDirectories_made succeeded path listed
    have kept := (FileSystemManager.createDirectories_grown answers tree path.inits.tail).preserved path content found
    rw [FileTree.isDirectory_eq_true, kept] at made
    cases made
  rw [DirectoryManager.create, failed]
  exact ⟨_, rfl⟩

theorem ensure_ok_iff (answers : FileSystemAnswers) (tree : FileSystem Content) (path : Path) :
    ((DirectoryManager.ensure answers tree path).1 = .ok () ↔ Visible answers tree path) ∧
      (Visible answers tree path → DirectoryManager.ensure answers tree path = (.ok (), tree)) := by
  have seen : Visible answers tree path → DirectoryManager.ensure answers tree path = (.ok (), tree) := by
    intro ⟨told, directory⟩
    rw [FileTree.isDirectory_eq_true] at directory
    simp [DirectoryManager.ensure, DirectoryManager.«exists», DirectoryManager.isDirectory, told, directory]
  refine ⟨⟨fun succeeded => ?_, fun visible => by rw [seen visible]⟩, seen⟩
  unfold DirectoryManager.ensure DirectoryManager.«exists» DirectoryManager.isDirectory at succeeded
  by_cases refused : answers.refusesStatus = true
  · simp [refused] at succeeded
  · rw [if_neg refused] at succeeded
    cases found : tree.node path with
    | none => simp [found] at succeeded
    | some node =>
      cases node with
      | file content =>
        obtain ⟨error, failed⟩ := create_of_file answers found
        simp [found, failed] at succeeded
      | directory => exact ⟨Bool.not_eq_true _ ▸ refused, FileTree.isDirectory_eq_true.mpr found⟩

theorem ensureFolders_ok_iff (answers : FileSystemAnswers) (current : Text → Path) (manager : FolderSystemManager)
    (tree : FileSystem Content) (entries : List (Text × FilePath)) :
    ((manager.ensureFolders answers current tree entries).1 = .ok () ↔
        ∀ entry ∈ entries, Visible answers tree (manager.place current entry.2)) ∧
      ((∀ entry ∈ entries, Visible answers tree (manager.place current entry.2)) →
        manager.ensureFolders answers current tree entries = (.ok (), tree)) := by
  induction entries with
  | nil => exact ⟨⟨fun _ => nofun, fun _ => rfl⟩, fun _ => rfl⟩
  | cons entry rest ih =>
    obtain ⟨name, relative⟩ := entry
    obtain ⟨succeeds, seen⟩ := ensure_ok_iff answers tree (manager.place current relative)
    rw [List.forall_mem_cons, FolderSystemManager.ensureFolders]
    by_cases visible : Visible answers tree (manager.place current relative)
    · rw [seen visible]
      simpa [visible] using ih
    · refine ⟨⟨fun succeeded => ?_, fun all => absurd all.1 visible⟩, fun all => absurd all.1 visible⟩
      rcases ensured : DirectoryManager.ensure answers tree (manager.place current relative) with ⟨verdict, after⟩
      rw [ensured] at succeeded succeeds
      cases verdict with
      | error error => cases succeeded
      | ok => exact absurd (succeeds.mp rfl) visible

/-- Where a call succeeds exactly on the folders that it sees, and then changes
nothing, it keeps the promise exactly to those that are settled. -/
theorem ensures_iff_settled {tree : FileSystem Content} {folders : List Path}
    {outcome : Result Unit × FileSystem Content}
    (succeeds : outcome.1 = .ok () ↔ ∀ folder ∈ folders, Visible answers tree folder)
    (kept : (∀ folder ∈ folders, Visible answers tree folder) → outcome = (.ok (), tree)) :
    Ensures answers tree folders outcome ↔ Settled answers tree folders := by
  constructor
  · intro ensures promised
    exact succeeds.mp (ensures.created promised).1
  · intro settled
    constructor
    · intro promised
      have visible := settled promised
      rw [kept visible]
      exact ⟨rfl, fun folder member => (visible folder member).2⟩
    · intro broken
      cases verdict : outcome.1 with
      | error error => exact ⟨error, rfl⟩
      | ok =>
        have visible := succeeds.mp verdict
        exact absurd (fun folder member => Or.inl (visible folder member).2) broken

def FolderSystemManager.places (manager : FolderSystemManager) (current : Text → Path) : List Path :=
  manager.folders.values.map (manager.place current)

theorem ensureRegisteredFolders_iff (iteration : Iteration Text FilePath) (manager : FolderSystemManager)
    (tree : FileSystem Content) :
    Ensures answers tree (manager.places current) (manager.ensureRegisteredFolders answers current iteration tree) ↔
      Settled answers tree (manager.places current) := by
  obtain ⟨succeeds, seen⟩ :=
    ensureFolders_ok_iff answers current manager tree (iteration.entries manager.folders)
  have all_iff : (∀ entry ∈ iteration.entries manager.folders,
      Visible answers tree (manager.place current entry.2)) ↔
      ∀ folder ∈ manager.places current, Visible answers tree folder := by
    rw [FolderSystemManager.places, List.forall_mem_map]
    -- an iteration shows the values of the table in some order
    have shown : ∀ relative, relative ∈ manager.folders.values ↔ relative ∈ iteration.values manager.folders :=
      fun relative => (iteration.enumerates_values manager.folders).mem_iff.symm
    simp only [shown, Iteration.values, List.forall_mem_map]
  rw [all_iff] at succeeds seen
  exact ensures_iff_settled succeeds seen

theorem registerFolder_iff (manager : FolderSystemManager) (tree : FileSystem Content) {name : Text}
    (named : name ≠ []) (relativePath : FilePath) :
    let outcome := manager.registerFolder answers current tree name relativePath true
    Ensures answers tree [manager.place current relativePath] (outcome.1, outcome.2.2) ↔
      Settled answers tree [manager.place current relativePath] := by
  intro outcome
  have registered : outcome = _ := if_neg named
  have found : (manager.insert name relativePath).folders.lookup name = some relativePath :=
    AList.lookup_insert manager.folders
  have ensured : (outcome.1, outcome.2.2) =
      DirectoryManager.ensure answers tree (manager.place current relativePath) := by
    rw [registered]
    simp only [found, Bool.not_true, Bool.false_eq_true, if_false]
    rfl
  obtain ⟨succeeds, seen⟩ := ensure_ok_iff answers tree (manager.place current relativePath)
  rw [ensured]
  apply ensures_iff_settled
  · rwa [List.forall_mem_singleton]
  · rwa [List.forall_mem_singleton]

def FolderSystemManager.withDefaults (manager : FolderSystemManager) : FolderSystemManager :=
  FolderSystemModule.defaults.foldl (fun manager name => manager.insert name { names := [name] }) manager

theorem registerDefaults_eq {names : List Text} (named : ∀ name ∈ names, name ≠ [])
    (manager : FolderSystemManager) (tree : FileSystem Content) :
    FolderSystemModule.registerDefaults answers current manager tree names =
      (.ok (), names.foldl (fun manager name => manager.insert name { names := [name] }) manager, tree) := by
  induction names generalizing manager with
  | nil => rfl
  | cons name rest ih =>
    rw [List.forall_mem_cons] at named
    rw [FolderSystemModule.registerDefaults, FolderSystemManager.registerFolder, if_neg named.1]
    exact ih named.2 _

theorem initializeFolders_iff (iteration : Iteration Text FilePath) (folderSystem : FolderSystemModule)
    (tree : FileSystem Content) :
    let outcome := folderSystem.initializeFolders answers current iteration tree
    Ensures answers tree (folderSystem.folders.withDefaults.places current) (outcome.1, outcome.2.2) ↔
      Settled answers tree (folderSystem.folders.withDefaults.places current) := by
  intro outcome
  have named : ∀ name ∈ FolderSystemModule.defaults, name ≠ [] := by decide
  have ensured : (outcome.1, outcome.2.2) =
      folderSystem.folders.withDefaults.ensureRegisteredFolders answers current iteration tree := by
    have unfolded : outcome = folderSystem.initializeFolders answers current iteration tree := rfl
    rw [unfolded, FolderSystemModule.initializeFolders, registerDefaults_eq named]
    dsimp only
    rw [← FolderSystemManager.withDefaults]
    rcases folderSystem.folders.withDefaults.ensureRegisteredFolders answers current iteration tree with
      ⟨verdict, after⟩
    cases verdict <;> rfl
  rw [ensured]
  exact ensureRegisteredFolders_iff iteration _ tree

/-- Folders that can be created are there in the end exactly when they are there,
and can be seen, in the beginning: whichever call is to ensure them. -/
theorem folders_ensured_iff (answers : FileSystemAnswers) (current : Text → Path)
    (iteration : Iteration Text FilePath) (folderSystem : FolderSystemModule) (tree : FileSystem Content)
    (name : Text) (relativePath : FilePath) (named : name ≠ []) :
    let manager := folderSystem.folders
    let registered := manager.registerFolder answers current tree name relativePath true
    let initialized := folderSystem.initializeFolders answers current iteration tree
    (Ensures answers tree (manager.places current)
        (manager.ensureRegisteredFolders answers current iteration tree) ↔
      Settled answers tree (manager.places current)) ∧
    (Ensures answers tree [manager.place current relativePath] (registered.1, registered.2.2) ↔
      Settled answers tree [manager.place current relativePath]) ∧
    (Ensures answers tree (manager.withDefaults.places current) (initialized.1, initialized.2.2) ↔
      Settled answers tree (manager.withDefaults.places current)) := by
  intro manager registered initialized
  exact ⟨ensureRegisteredFolders_iff iteration manager tree, registerFolder_iff manager tree named relativePath,
    initializeFolders_iff iteration folderSystem tree⟩

/-- A fresh installation: the root is there, and none of the folders. -/
def freshInstallation : FileSystem Nat := FileTree.empty.put [text "C:"] .directory (by decide)

theorem fresh_installation_iff :
    let outcome := ({} : FolderSystemModule).initializeFolders { code := 2 } (fun _ => [text "C:"])
      Iteration.listed freshInstallation
    Ensures { code := 2 } freshInstallation
        (({} : FolderSystemModule).folders.withDefaults.places fun _ => [text "C:"]) (outcome.1, outcome.2.2) ↔
      Settled { code := 2 } freshInstallation
        (({} : FolderSystemModule).folders.withDefaults.places fun _ => [text "C:"]) :=
  (folders_ensured_iff { code := 2 } (fun _ => [text "C:"]) Iteration.listed {} freshInstallation (text "Logs")
    { names := [text "Logs"] } (by decide)).2.2

theorem fresh_installation_fails :
    let outcome := ({} : FolderSystemModule).initializeFolders { code := 2 } (fun _ => [text "C:"])
      Iteration.listed freshInstallation
    Promised { code := 2 } freshInstallation
        (({} : FolderSystemModule).folders.withDefaults.places fun _ => [text "C:"]) ∧
      ¬Ensures { code := 2 } freshInstallation
        (({} : FolderSystemModule).folders.withDefaults.places fun _ => [text "C:"])
        (outcome.1, outcome.2.2) := by
  intro outcome
  have promised : Promised { code := 2 } freshInstallation
      (({} : FolderSystemModule).folders.withDefaults.places fun _ => [text "C:"]) := by
    decide
  refine ⟨promised, fun ensures => ?_⟩
  exact absurd (ensures.created promised).1 (by decide)

end Folders

end DevilzDen.Backend
