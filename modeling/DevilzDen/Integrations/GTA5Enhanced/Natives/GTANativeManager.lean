import DevilzDen.Backend.Error
import DevilzDen.Backend.Process.VirtualMemory
import DevilzDen.Foundation.Run
import DevilzDen.Foundation.Table
import Mathlib.Data.List.Basic

/-! The manager of Enhanced native handlers.

The bootstrap routine is foreign code: it may leave anything in the entry array
it is handed, and another region map. A null handler is address 0.
-/

set_option autoImplicit false

namespace DevilzDen.Integrations.GTA5Enhanced

open Backend Foundation

abbrev GTANativeHash := UInt64

/-- `other` stands for the values of the enumeration's type that name no native. -/
inductive GTANativeId where
  | getGameTimer
  | getHashKey
  | other (value : UInt8)
  deriving DecidableEq, Repr

structure GTANativeDefinition where
  id : GTANativeId
  name : Text
  originalHash : GTANativeHash
  enhancedHash : GTANativeHash
  deriving DecidableEq, Repr

namespace GTANativeRegistry

def supportedFingerprint : UInt64 := 0x6A4F97F605B81000

def find (fingerprint : UInt64) (id : GTANativeId) : Option GTANativeDefinition :=
  if fingerprint ≠ supportedFingerprint then none
  else match id with
    | .getGameTimer => some ⟨id, text "GET_GAME_TIMER", 0x9CD27B0045628463, 0x1DD05E817C89C737⟩
    | .getHashKey => some ⟨id, text "GET_HASH_KEY", 0xD24D37CC275948CC, 0x70E57E9927B6BA58⟩
    | .other _ => none

theorem find_getGameTimer : find supportedFingerprint .getGameTimer =
    some ⟨.getGameTimer, text "GET_GAME_TIMER", 0x9CD27B0045628463, 0x1DD05E817C89C737⟩ := rfl

theorem find_getHashKey : find supportedFingerprint .getHashKey =
    some ⟨.getHashKey, text "GET_HASH_KEY", 0xD24D37CC275948CC, 0x70E57E9927B6BA58⟩ := rfl

theorem find_unsupported {fingerprint : UInt64} (unsupported : fingerprint ≠ supportedFingerprint)
    (id : GTANativeId) : find fingerprint id = none := if_pos unsupported

end GTANativeRegistry

structure GTANativeManagerStatus where
  ready : Bool := false
  requestedHandlers : Nat := 0
  cachedHandlers : Nat := 0
  detail : Text := []
  deriving DecidableEq, Repr

structure GTANativeManager where
  ready : Bool := false
  fingerprint : UInt64 := 0
  handlers : Table GTANativeHash Address := ∅

namespace GTANativeManager

def bootstrapProbeHashes : List GTANativeHash :=
  [0x4EDE34FBADD967A6, 0xE81651AD79516E48, 0xB8BA7F44DF1575E1, 0xEB1C67C3A5333A92]

def requestedHandlerCount : Nat := bootstrapProbeHashes.length + 2

/-- What running the bootstrap routine does to the entry array, and the region map it leaves. -/
structure Bootstrap where
  fill : Vector Address requestedHandlerCount → Vector Address requestedHandlerCount
  regions : VirtualQuery

def isExecutableProtection (protection : UInt32) : Bool :=
  let base := protection &&& 0xFF
  base == Win32.pageExecute || base == Win32.pageExecuteRead || base == Win32.pageExecuteReadWrite ||
    base == Win32.pageExecuteWriteCopy

def isExecutableImageAddress (regions : VirtualQuery) (address moduleBase : Address) (moduleSize : UInt64) :
    Bool :=
  if address < moduleBase ∨ moduleBase > 0xFFFFFFFFFFFFFFFF - moduleSize ∨
      address ≥ moduleBase + moduleSize then false
  else match regions address with
    | none => false
    | some memory =>
        if memory.state ≠ Win32.memCommit ∨ memory.type ≠ Win32.memImage then false
        else if Win32.hasAny memory.protect Win32.pageGuard ||
            Win32.hasAny memory.protect Win32.pageNoAccess then false
        else isExecutableProtection memory.protect

def reset (_manager : GTANativeManager) : GTANativeManager := {}

/-- The validation loop: the handlers cached so far, on failure and on success. -/
def cacheHandlers (regions : VirtualQuery) (moduleBase : Address) (moduleSize : UInt64) :
    List (GTANativeHash × Address) → Table GTANativeHash Address →
      Except (Table GTANativeHash Address) (Table GTANativeHash Address)
  | [], handlers => .ok handlers
  | (hash, handler) :: later, handlers =>
      if handler = 0 ∨ !isExecutableImageAddress regions handler moduleBase moduleSize then .error handlers
      else cacheHandlers regions moduleBase moduleSize later (handlers.insert hash handler)

/-- The result of `Initialize`, with the addresses at which foreign code was called. -/
structure Initialized where
  status : GTANativeManagerStatus
  manager : GTANativeManager
  called : List Address := []

def requestedHashes (getGameTimer getHashKey : GTANativeDefinition) :
    Vector GTANativeHash requestedHandlerCount :=
  ⟨(bootstrapProbeHashes ++ [getGameTimer.enhancedHash, getHashKey.enhancedHash]).toArray, rfl⟩

def initializeNatives (manager : GTANativeManager) (regions : VirtualQuery) (bootstrap : Bootstrap)
    (initNativeTablesAddress moduleBase : Address) (moduleSize fingerprint : UInt64) : Initialized :=
  let cleared := manager.reset
  if initNativeTablesAddress = 0 ∨ moduleBase = 0 ∨ moduleSize = 0 ∨ fingerprint = 0 then
    { status := { detail := text "Native bootstrap prerequisites are incomplete" }, manager := cleared }
  else if !isExecutableImageAddress regions initNativeTablesAddress moduleBase moduleSize then
    { status := { detail := text "InitNativeTables is not an executable GTA image address" }
      manager := cleared }
  else match GTANativeRegistry.find fingerprint .getGameTimer, GTANativeRegistry.find fingerprint .getHashKey with
    | some getGameTimer, some getHashKey =>
        let requested := requestedHashes getGameTimer getHashKey
        let entries := bootstrap.fill requested
        match cacheHandlers bootstrap.regions moduleBase moduleSize (requested.toList.zip entries.toList)
            cleared.handlers with
        | .error handlers =>
            { status := {
                requestedHandlers := requestedHandlerCount
                cachedHandlers := handlers.size
                detail := text "Native bootstrap returned a handler outside executable GTA image memory" }
              manager := cleared
              called := [initNativeTablesAddress] }
        | .ok handlers =>
            let ready := handlers.size == requestedHandlerCount
            { status := {
                ready
                requestedHandlers := requestedHandlerCount
                cachedHandlers := handlers.size
                detail := if ready then
                    text "Enhanced native bootstrap resolved and validated probe and named native handlers"
                  else text "Enhanced native bootstrap did not populate the complete handler set" }
              manager := {
                ready
                fingerprint := if ready then fingerprint else cleared.fingerprint
                handlers }
              called := [initNativeTablesAddress] }
    | _, _ =>
        { status := { detail := text "No native registry is available for this GTA build fingerprint" }
          manager := cleared }

/-- `Find(hash)`; 0 is the null handler. -/
def find (manager : GTANativeManager) (hash : GTANativeHash) : Address :=
  (manager.handlers.lookup hash).getD 0

/-- `Find(id)` -/
def findNamed (manager : GTANativeManager) (id : GTANativeId) : Address :=
  match GTANativeRegistry.find manager.fingerprint id with
  | none => 0
  | some definition => manager.find definition.enhancedHash

/-! ## What a checked address is -/

/-- An address inside a module that does not wrap around, in committed image
pages that are executable and not guarded. -/
structure ExecutableImage (regions : VirtualQuery) (address moduleBase : Address) (moduleSize : UInt64) :
    Prop where
  noWrap : moduleBase.toNat + moduleSize.toNat < 2 ^ 64
  above : moduleBase.toNat ≤ address.toNat
  below : address.toNat < moduleBase.toNat + moduleSize.toNat
  pages : ∃ memory, regions address = some memory ∧ memory.state = Win32.memCommit ∧
    memory.type = Win32.memImage ∧ Win32.hasAny memory.protect Win32.pageGuard = false ∧
    Win32.hasAny memory.protect Win32.pageNoAccess = false ∧ isExecutableProtection memory.protect = true

theorem ExecutableImage.of_check {regions : VirtualQuery} {address moduleBase : Address}
    {moduleSize : UInt64} (checked : isExecutableImageAddress regions address moduleBase moduleSize = true) :
    ExecutableImage regions address moduleBase moduleSize := by
  unfold isExecutableImageAddress at checked
  split at checked
  · cases checked
  next within =>
    simp only [not_or, UInt64.not_lt, UInt64.not_le, GT.gt, GE.ge] at within
    obtain ⟨above, noWrap, below⟩ := within
    rw [UInt64.le_iff_toNat_le] at above noWrap
    rw [UInt64.lt_iff_toNat_lt, UInt64.toNat_add] at below
    have sizeBound := moduleSize.toNat_lt
    -- the guard against wrapping, read over the naturals
    have largest : (0xFFFFFFFFFFFFFFFF - moduleSize).toNat = 2 ^ 64 - 1 - moduleSize.toNat := by
      rw [UInt64.toNat_sub_of_le _ _ (by rw [UInt64.le_iff_toNat_le]; exact Nat.le_sub_one_of_lt sizeBound)]
      rfl
    have fits : moduleBase.toNat + moduleSize.toNat < 2 ^ 64 := by omega
    rw [Nat.mod_eq_of_lt fits] at below
    split at checked
    · cases checked
    next memory found =>
      split at checked
      · cases checked
      next image =>
        split at checked
        · cases checked
        next accessible =>
          simp only [not_or, not_not] at image
          rw [Bool.or_eq_true, not_or, Bool.not_eq_true, Bool.not_eq_true] at accessible
          exact ⟨fits, above, below, memory, found, image.1, image.2, accessible.1, accessible.2, checked⟩

theorem cacheHandlers_ok {regions : VirtualQuery} {moduleBase : Address} {moduleSize : UInt64}
    {entries : List (GTANativeHash × Address)} {handlers cached : Table GTANativeHash Address}
    (distinct : (entries.map (·.1)).Nodup) (free : ∀ entry ∈ entries, handlers.lookup entry.1 = none)
    (ok : cacheHandlers regions moduleBase moduleSize entries handlers = .ok cached) :
    cached.size = entries.length + handlers.size ∧
      (∀ hash handler, cached.lookup hash = some handler ↔
        (hash, handler) ∈ entries ∨ handlers.lookup hash = some handler) ∧
      ∀ entry ∈ entries, isExecutableImageAddress regions entry.2 moduleBase moduleSize = true := by
  induction entries generalizing handlers with
  | nil =>
    cases ok
    simp
  | cons entry later ih =>
    obtain ⟨hash, handler⟩ := entry
    rw [List.map_cons, List.nodup_cons] at distinct
    have absent := free _ List.mem_cons_self
    unfold cacheHandlers at ok
    split at ok
    · cases ok
    next valid =>
      -- the requested hashes are distinct, so no later entry overwrites this one
      have freeLater : ∀ entry ∈ later, (handlers.insert hash handler).lookup entry.1 = none := by
        intro entry member
        rw [Table.lookup_insert_eq, if_neg]
        · exact free entry (List.mem_cons_of_mem _ member)
        · exact fun same => distinct.1 (List.mem_map.mpr ⟨entry, member, same⟩)
      obtain ⟨size, lookup, checked⟩ := ih distinct.2 freeLater ok
      refine ⟨?_, fun other value => ?_, ?_⟩
      · rw [size, Table.size_insert_of_absent absent, List.length_cons]
        omega
      · rw [lookup, Table.lookup_insert_eq, List.mem_cons, Prod.mk.injEq]
        by_cases same : other = hash
        · subst same
          rw [if_pos rfl, absent]
          simp [or_comm, eq_comm]
        · simp [same]
      · intro entry member
        rcases List.mem_cons.mp member with rfl | member
        · simpa using (not_or.mp valid).2
        · exact checked entry member

/-! ## The manager after any sequence of calls -/

def supportedHashes : List GTANativeHash :=
  bootstrapProbeHashes ++ [0x1DD05E817C89C737, 0x70E57E9927B6BA58]

theorem cacheHandlers_supported {regions : VirtualQuery} {moduleBase : Address} {moduleSize : UInt64}
    {entries : Vector Address requestedHandlerCount} {cached : Table GTANativeHash Address}
    (ok : cacheHandlers regions moduleBase moduleSize (supportedHashes.zip entries.toList) ∅ = .ok cached) :
    cached.size = requestedHandlerCount ∧
      (∀ hash, (cached.lookup hash).isSome ↔ hash ∈ supportedHashes) ∧
      ∀ hash handler, cached.lookup hash = some handler →
        ExecutableImage regions handler moduleBase moduleSize := by
  have length : entries.toList.length = supportedHashes.length := entries.length_toList
  have hashes : (supportedHashes.zip entries.toList).map (·.1) = supportedHashes :=
    List.map_fst_zip (Nat.le_of_eq length.symm)
  have distinct : ((supportedHashes.zip entries.toList).map (·.1)).Nodup := by
    rw [hashes]
    decide
  obtain ⟨size, lookup, checked⟩ := cacheHandlers_ok distinct (fun _ _ => rfl) ok
  refine ⟨?_, fun hash => ?_, fun hash handler found => ?_⟩
  · rw [size, List.length_zip, length]
    rfl
  · rw [Option.isSome_iff_exists, ← hashes, List.mem_map]
    constructor
    · rintro ⟨handler, found⟩
      exact ⟨(hash, handler), ((lookup hash handler).mp found).resolve_right nofun, rfl⟩
    · rintro ⟨⟨_, handler⟩, member, rfl⟩
      exact ⟨handler, (lookup _ handler).mpr (Or.inl member)⟩
  · have listed := ((lookup hash handler).mp found).resolve_right nofun
    exact ExecutableImage.of_check (checked _ listed)

structure Arguments where
  regions : VirtualQuery
  bootstrap : Bootstrap
  initNativeTablesAddress : Address
  moduleBase : Address
  moduleSize : UInt64
  fingerprint : UInt64

def Arguments.initialized (arguments : Arguments) (manager : GTANativeManager) : Initialized :=
  manager.initializeNatives arguments.regions arguments.bootstrap arguments.initNativeTablesAddress
    arguments.moduleBase arguments.moduleSize arguments.fingerprint

/-- A manager that an initialization has made ready. -/
structure Serving (arguments : Arguments) (manager : GTANativeManager) : Prop where
  ready : manager.ready = true
  fingerprint : manager.fingerprint = GTANativeRegistry.supportedFingerprint
  supported : arguments.fingerprint = GTANativeRegistry.supportedFingerprint
  hashes : ∀ hash, (manager.handlers.lookup hash).isSome ↔ hash ∈ supportedHashes
  handlers : ∀ hash handler, manager.handlers.lookup hash = some handler →
    ExecutableImage arguments.bootstrap.regions handler arguments.moduleBase arguments.moduleSize

/-- Whatever the bootstrap routine leaves, initialization ends in a serving
manager or in the cleared one, and foreign code runs only at the address given
for it and only for the supported build. -/
theorem initializeNatives_cases {arguments : Arguments} {manager : GTANativeManager} {outcome : Initialized}
    (initialized : arguments.initialized manager = outcome) :
    (Serving arguments outcome.manager ∨ outcome.manager = {}) ∧
      ∀ address ∈ outcome.called, address = arguments.initNativeTablesAddress ∧
        arguments.fingerprint = GTANativeRegistry.supportedFingerprint := by
  obtain ⟨regions, bootstrap, initNativeTablesAddress, moduleBase, moduleSize, fingerprint⟩ := arguments
  simp only [Arguments.initialized, initializeNatives] at initialized
  split at initialized
  · subst initialized
    exact ⟨Or.inr rfl, nofun⟩
  · split at initialized
    · subst initialized
      exact ⟨Or.inr rfl, nofun⟩
    · by_cases supported : fingerprint = GTANativeRegistry.supportedFingerprint
      · subst supported
        simp only [GTANativeRegistry.find_getGameTimer, GTANativeRegistry.find_getHashKey] at initialized
        split at initialized
        next handlers failed =>
          subst initialized
          exact ⟨Or.inr rfl, fun address member => ⟨List.mem_singleton.mp member, rfl⟩⟩
        next handlers ok =>
          subst initialized
          refine ⟨Or.inl ?_, fun address member => ⟨List.mem_singleton.mp member, rfl⟩⟩
          obtain ⟨size, hashes, validated⟩ := cacheHandlers_supported ok
          have complete : (handlers.size == requestedHandlerCount) = true := beq_iff_eq.mpr size
          exact ⟨complete, if_pos complete, rfl, hashes, validated⟩
      · simp only [GTANativeRegistry.find_unsupported supported] at initialized
        subst initialized
        exact ⟨Or.inr rfl, nofun⟩

inductive Call where
  | initializeNatives (arguments : Arguments)
  | reset

def step (manager : GTANativeManager) : Call → GTANativeManager
  | .initializeNatives arguments => (arguments.initialized manager).manager
  | .reset => manager.reset

def after (calls : List Call) : GTANativeManager := run step {} calls

/-- The manager fails closed: a ready one serves what its last initialization
validated, and one that is not ready holds nothing. -/
theorem fails_closed (calls : List Call) :
    let manager := after calls
    (manager.ready = true → ∃ earlier arguments, calls = earlier ++ [.initializeNatives arguments] ∧
      manager.fingerprint = GTANativeRegistry.supportedFingerprint ∧
      (∀ hash, (manager.handlers.lookup hash).isSome ↔ hash ∈ supportedHashes) ∧
      ∀ hash handler, manager.handlers.lookup hash = some handler →
        ExecutableImage arguments.bootstrap.regions handler arguments.moduleBase arguments.moduleSize) ∧
      (manager.ready = false → manager.handlers = ∅ ∧ manager.fingerprint = 0 ∧
        (∀ hash, manager.find hash = 0) ∧ ∀ id, manager.findNamed id = 0) := by
  have cleared : ∀ manager : GTANativeManager, manager = {} → manager.handlers = ∅ ∧
      manager.fingerprint = 0 ∧ (∀ hash, manager.find hash = 0) ∧ ∀ id, manager.findNamed id = 0 := by
    rintro _ rfl
    exact ⟨rfl, rfl, fun _ => rfl, fun _ => rfl⟩
  rcases List.eq_nil_or_concat' calls with rfl | ⟨earlier, last, rfl⟩
  · exact ⟨nofun, fun _ => cleared _ rfl⟩
  · have stepped : after (earlier ++ [last]) = step (after earlier) last := run_append step {} earlier [last]
    rw [stepped]
    cases last with
    | reset => exact ⟨nofun, fun _ => cleared _ rfl⟩
    | initializeNatives arguments =>
      have outcome : Serving arguments (arguments.initialized (after earlier)).manager ∨
          (arguments.initialized (after earlier)).manager = {} := (initializeNatives_cases rfl).1
      rcases outcome with serving | empty
      · refine ⟨fun _ => ?_, fun unready => absurd (serving.ready.symm.trans unready) Bool.noConfusion⟩
        exact ⟨earlier, arguments, rfl, serving.fingerprint, serving.hashes, serving.handlers⟩
      · refine ⟨fun ready => ?_, fun _ => cleared _ empty⟩
        rw [step, empty] at ready
        cases ready

/-- A bootstrap routine that fills every entry leaves the manager ready. -/
example :
    let image : VirtualQuery := fun _ =>
      some ⟨0x1000, 0x1000, Win32.memCommit, Win32.pageExecuteRead, Win32.memImage⟩
    let bootstrap : Bootstrap := ⟨fun _ => Vector.replicate requestedHandlerCount 0x1234, image⟩
    (after [.initializeNatives ⟨image, bootstrap, 0x1100, 0x1000, 0x1000,
      GTANativeRegistry.supportedFingerprint⟩]).ready = true := by
  decide

end GTANativeManager

end DevilzDen.Integrations.GTA5Enhanced
