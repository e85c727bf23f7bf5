import DevilzDen.Backend.Process.ProcessPattern
import DevilzDen.Backend.Process.VirtualMemory

/-! The process that the library is loaded into, and what it learns of itself.

A `HostProcess` holds what the operating system would answer at one moment.
Nothing ties the answers together: pages, modules and bytes are arbitrary.
-/

set_option autoImplicit false

namespace DevilzDen.Backend

inductive ProcessArchitecture where
  | unknown
  | x86
  | x64
  | arm64
  deriving DecidableEq, Repr

structure ProcessInfo where
  pid : UInt32 := 0
  executableName : Text := []
  executablePath : Text := []
  architecture : ProcessArchitecture := .unknown
  running : Bool := false
  deriving DecidableEq, Repr

def ProcessInfo.valid (process : ProcessInfo) : Bool :=
  process.pid != 0 && process.running && !process.executableName.isEmpty

/-- `CreateToolhelp32Snapshot` and the entries it lists; `unlisted` is a failing `Module32First`. -/
inductive ModuleSnapshot where
  | refused
  | unlisted
  | listed (entries : List ProcessModuleInfo)

/-- `openProcess` gives the `ReadProcessMemory` of another process: whether it
succeeded, and the bytes it has read. `openFile` gives a file's contents. -/
structure HostProcess where
  processId : UInt32
  lastError : UInt32
  executablePath : Option Text
  executableName : Text
  architecture : ProcessArchitecture
  memory : Memory
  regions : VirtualQuery
  imageModule : Address
  moduleHandle : Text → Address
  moduleInformation : Address → Option (Address × UInt32)
  moduleSnapshot : UInt32 → ModuleSnapshot
  openProcess : UInt32 → Option (Address → Nat → Bool × List UInt8)
  openFile : Text → Option (List UInt8)

/-- `std::tolower` in the C locale. -/
def toLower (char : UInt8) : UInt8 := if 65 ≤ char ∧ char ≤ 90 then char + 32 else char

def equalInsensitive (left right : Text) : Bool := left.map toLower == right.map toLower

namespace ProcessManager

/-- `Current`; `executablePath` is none where the path cannot be had or does not fit. -/
def current (host : HostProcess) : Result ProcessInfo :=
  match host.executablePath with
  | none =>
      .error (Error.fromWin32 .runtimeFailure .runtime host.lastError
        "Unable to resolve current process executable path")
  | some path =>
      let info : ProcessInfo := {
        pid := host.processId
        executableName := host.executableName
        executablePath := path
        architecture := host.architecture
        running := true }
      if !info.valid then .error (Error.runtime "Current process information is incomplete")
      else .ok info

end ProcessManager

namespace ProcessModuleManager

def enumerate (host : HostProcess) (pid : UInt32) : Result (List ProcessModuleInfo) :=
  if pid = 0 then
    .error { code := .invalidArgument, category := .runtime, message := text "Process module enumeration requires a valid PID" }
  else match host.moduleSnapshot pid with
    | .refused =>
        .error ((Error.fromWin32 .runtimeFailure .runtime host.lastError
          "Unable to create target process module snapshot").withContext "PID" (decimal pid.toNat))
    | .unlisted =>
        .error ((Error.fromWin32 .runtimeFailure .runtime host.lastError
          "Unable to enumerate target process modules").withContext "PID" (decimal pid.toNat))
    | .listed entries => .ok (entries.filter (·.valid))

def find (host : HostProcess) (pid : UInt32) (moduleName : Text) : Result ProcessModuleInfo :=
  if pid = 0 ∨ moduleName = [] then
    .error { code := .invalidArgument, category := .runtime,
             message := text "Module lookup requires a valid PID and module name" }
  else if pid = host.processId then
    let module := host.moduleHandle moduleName
    if module = 0 then
      .error ((Error.fromWin32 .notFound .runtime host.lastError
        "Requested module is not loaded in the current process").withContext "Module" moduleName)
    else match host.moduleInformation module with
      | none =>
          .error ((Error.fromWin32 .runtimeFailure .runtime host.lastError
            "Unable to query current-process module information").withContext "Module" moduleName)
      | some (base, size) =>
          let info : ProcessModuleInfo := { name := moduleName, baseAddress := base, imageSize := size }
          if !info.valid then
            .error ((Error.runtime "Current-process module information is incomplete").withContext
              "Module" moduleName)
          else .ok info
  else match enumerate host pid with
    | .error error => .error error
    | .ok modules =>
        match modules.find? fun module => equalInsensitive module.name moduleName with
        | some module => .ok module
        | none =>
            .error (((Error.runtime "Requested module is not loaded in target process").withContext
              "PID" (decimal pid.toNat)).withContext "Module" moduleName)

theorem find_valid {host : HostProcess} {pid : UInt32} {moduleName : Text} {module : ProcessModuleInfo}
    (found : find host pid moduleName = .ok module) : module.valid = true := by
  unfold find at found
  split at found
  · cases found
  · split at found
    · dsimp only at found
      split at found
      · cases found
      · split at found
        · cases found
        · split at found
          · cases found
          next valid =>
            cases found
            simpa using valid
    · split at found
      · cases found
      next modules listed =>
        split at found
        next module hit =>
          cases found
          unfold enumerate at listed
          split at listed
          · cases listed
          · split at listed
            · cases listed
            · cases listed
            · cases listed
              exact (List.mem_filter.mp (List.mem_of_find?_eq_some hit)).2
        · cases found

end ProcessModuleManager

namespace ProcessMemoryReader

/-- The loop of `ReadLocalMemory`, with the bytes copied so far. Each turn
copies at least one byte, so the fuel of `readInto` is never used up. -/
def readLocalMemory (host : HostProcess) (address : Address) (size : Nat) :
    (fuel : Nat) → (copied : List UInt8) → Result (List UInt8)
  | 0, copied => .ok copied
  | fuel + 1, copied =>
      if copied.length ≥ size then .ok copied
      else
        let currentAddress := address + UInt64.ofNat copied.length
        match host.regions currentAddress with
        | none =>
            .error ((Error.fromWin32 .runtimeFailure .runtime host.lastError
              "Unable to query local memory range").withContext "Address" (decimal currentAddress.toNat))
        | some region =>
            if region.state ≠ Win32.memCommit ∨ Win32.hasAny region.protect Win32.pageGuard ∨
                Win32.hasAny region.protect Win32.pageNoAccess then
              .error ((Error.runtime "Requested local memory range is not readable").withContext
                "Address" (decimal currentAddress.toNat))
            else
              let regionEnd := region.baseAddress + region.regionSize
              if currentAddress < region.baseAddress ∨ currentAddress ≥ regionEnd then
                .error (Error.runtime "Local memory query returned an invalid region")
              else
                -- copy up to the end of the region, then query the next one
                let chunk := min (size - copied.length) (regionEnd - currentAddress).toNat
                readLocalMemory host address size fuel (copied ++ host.memory.read currentAddress chunk)

def readInto (host : HostProcess) (pid : UInt32) (address : Address) (size : Nat) : Result (List UInt8) :=
  if pid = 0 ∨ address = 0 ∨ size = 0 then
    .error { code := .invalidArgument, category := .runtime, message := text "Invalid process memory read request" }
  else if pid = host.processId then readLocalMemory host address size size []
  else match host.openProcess pid with
    | none =>
        .error ((Error.fromWin32 .runtimeFailure .runtime host.lastError
          "Unable to open target process for read-only memory access").withContext "PID" (decimal pid.toNat))
    | some readProcessMemory =>
        let (ok, bytes) := readProcessMemory address size
        if !ok ∨ bytes.length ≠ size then
          .error (((((Error.fromWin32 .runtimeFailure .runtime (if ok then 0 else host.lastError)
            "Unable to read requested target process memory range").withContext
            "PID" (decimal pid.toNat)).withContext
            "Address" (decimal address.toNat)).withContext
            "RequestedBytes" (decimal size)).withContext
            "ReadBytes" (decimal bytes.length))
        else .ok bytes

def read (host : HostProcess) (pid : UInt32) (address : Address) (size : Nat) : Result (List UInt8) :=
  if size = 0 then
    .error { code := .invalidArgument, category := .runtime, message := text "Process memory read size cannot be zero" }
  else readInto host pid address size

theorem readLocalMemory_ok {host : HostProcess} {address : Address} {size fuel : Nat}
    {copied bytes : List UInt8} (enough : size ≤ copied.length + fuel) (within : copied.length ≤ size)
    (right : copied = host.memory.read address copied.length)
    (ok : readLocalMemory host address size fuel copied = .ok bytes) : bytes = host.memory.read address size := by
  induction fuel generalizing copied with
  | zero =>
    cases ok
    rwa [Nat.le_antisymm within enough] at right
  | succ fuel ih =>
    rw [readLocalMemory] at ok
    split at ok
    next complete =>
      cases ok
      rwa [Nat.le_antisymm within complete] at right
    next short =>
      dsimp only at ok
      split at ok
      · cases ok
      next region found =>
        split at ok
        · cases ok
        · split at ok
          · cases ok
          next inside =>
            obtain ⟨_, below⟩ := not_or.mp inside
            -- the queried address lies inside its region, so the turn makes progress
            have positive : 0 < (region.baseAddress + region.regionSize -
                (address + UInt64.ofNat copied.length)).toNat := by
              rw [UInt64.not_le, UInt64.lt_iff_toNat_lt] at below
              rw [UInt64.toNat_sub_of_le _ _ (UInt64.le_iff_toNat_le.mpr (Nat.le_of_lt below))]
              omega
            refine ih ?_ ?_ ?_ ok
            all_goals rw [List.length_append, Memory.length_read]
            · omega
            · omega
            · rw [Memory.read_add, ← right]

theorem readLocalMemory_complete {host : HostProcess} {address : Address} {size fuel : Nat} {copied : List UInt8}
    (complete : size ≤ copied.length) : readLocalMemory host address size fuel copied = .ok copied := by
  cases fuel with
  | zero => rfl
  | succ fuel => rw [readLocalMemory, if_pos complete]

theorem readLocalMemory_of_region {host : HostProcess} {address : Address} {size : Nat}
    {region : MemoryBasicInformation} (found : host.regions address = some region)
    (committed : region.state = Win32.memCommit) (unguarded : Win32.hasAny region.protect Win32.pageGuard = false)
    (accessible : Win32.hasAny region.protect Win32.pageNoAccess = false) (positive : 0 < size)
    (after : region.baseAddress.toNat ≤ address.toNat)
    (before : address.toNat + size ≤ region.baseAddress.toNat + region.regionSize.toNat)
    (bounded : region.baseAddress.toNat + region.regionSize.toNat < 2 ^ 64) :
    readLocalMemory host address size size [] = .ok (host.memory.read address size) := by
  obtain ⟨fuel, rfl⟩ := Nat.exists_eq_succ_of_ne_zero (Nat.ne_of_gt positive)
  have upper : (region.baseAddress + region.regionSize).toNat =
      region.baseAddress.toNat + region.regionSize.toNat := by rw [UInt64.toNat_add, Nat.mod_eq_of_lt bounded]
  have below : address < region.baseAddress + region.regionSize := UInt64.lt_iff_toNat_lt.mpr (by rw [upper]; omega)
  have inside : ¬(address < region.baseAddress ∨ address ≥ region.baseAddress + region.regionSize) := by
    rw [not_or, UInt64.not_lt, ge_iff_le, UInt64.not_le, UInt64.le_iff_toNat_le]
    exact ⟨after, below⟩
  have whole : min (fuel + 1) (region.baseAddress + region.regionSize - address).toNat = fuel + 1 := by
    rw [UInt64.toNat_sub_of_le _ _ (UInt64.le_iff_toNat_le.mpr (Nat.le_of_lt (UInt64.lt_iff_toNat_lt.mp below))),
      upper]
    omega
  have opened : ¬(region.state ≠ Win32.memCommit ∨ Win32.hasAny region.protect Win32.pageGuard = true ∨
      Win32.hasAny region.protect Win32.pageNoAccess = true) := by simp [committed, unguarded, accessible]
  rw [Nat.succ_eq_add_one, readLocalMemory, if_neg (by simp)]
  have start : address + UInt64.ofNat 0 = address := UInt64.add_zero address
  simp only [List.length_nil, start, found, if_neg opened, if_neg inside, Nat.sub_zero, whole, List.nil_append]
  exact readLocalMemory_complete (by simp)

theorem read_own {host : HostProcess} {address : Address} {size : Nat} {bytes : List UInt8}
    (ok : read host host.processId address size = .ok bytes) : bytes = host.memory.read address size := by
  unfold read at ok
  split at ok
  · cases ok
  · unfold readInto at ok
    split at ok
    · cases ok
    · rw [if_pos rfl] at ok
      exact readLocalMemory_ok (by simp) (Nat.zero_le _) rfl ok

theorem length_of_read {host : HostProcess} {pid : UInt32} {address : Address} {size : Nat}
    {bytes : List UInt8} (ok : read host pid address size = .ok bytes) : bytes.length = size := by
  by_cases own : pid = host.processId
  · subst own
    rw [read_own ok, Memory.length_read]
  · unfold read at ok
    split at ok
    · cases ok
    · unfold readInto at ok
      split at ok
      · cases ok
      · split at ok
        · cases ok
        · dsimp only at ok
          split at ok
          · cases ok
          next complete =>
            cases ok
            exact not_not.mp (not_or.mp complete).2

end ProcessMemoryReader

end DevilzDen.Backend
