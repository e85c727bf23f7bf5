import DevilzDen.Backend.Memory.Pointer
import DevilzDen.Backend.Process.VirtualMemory
import DevilzDen.Foundation.Run

/-! The hook on `RunScriptThreads`.

The bridge patches the host's code and puts the original back. The trampoline
is a block of its own, as `VirtualAlloc` returns it, and `VirtualProtect` may
fail at every call. References are addresses, and null is 0.
-/

set_option autoImplicit false

namespace DevilzDen.Integrations.GTA5Enhanced

open Backend Foundation

/-- What `s_active` points at, seen from one bridge. -/
inductive ActiveBridge where
  | none
  | this
  | other
  deriving DecidableEq, Repr

def patchSize : Nat := 15

structure GTARunScriptThreadsBridge where
  installed : Bool := false
  smokeCompleted : Bool := false
  smokeAttempting : Bool := false
  activeCalls : UInt32 := 0
  targetAddress : Address := 0
  scriptThreadsStorageAddress : Address := 0
  expectedThreadDispatchAddress : Address := 0
  originalBytes : List UInt8 := List.replicate patchSize 0
  trampoline : Address := 0
  original : Address := 0
  natives : Address := 0
  logger : Address := 0
  deriving DecidableEq, Repr

namespace GTARunScriptThreadsBridge

def verifiedPrologue : List UInt8 :=
  [0x56, 0x57, 0x55, 0x53, 0x48, 0x83, 0xEC, 0x28, 0x85, 0xC9, 0xBE, 0x40, 0x5D, 0xC6, 0x00]

def isReadableProtection (protection : UInt32) : Bool :=
  let base := protection &&& 0xFF
  base == Win32.pageReadOnly || base == Win32.pageReadWrite || base == Win32.pageWriteCopy ||
    base == Win32.pageExecuteRead || base == Win32.pageExecuteReadWrite || base == Win32.pageExecuteWriteCopy

def isReadableAddress (regions : VirtualQuery) (address : Address) (size : UInt64) : Bool :=
  if address = 0 ∨ size = 0 then false
  else match regions address with
    | none => false
    | some memory =>
        if memory.state ≠ Win32.memCommit ∨
            Win32.hasAny memory.protect (Win32.pageGuard ||| Win32.pageNoAccess) then false
        else if !isReadableProtection memory.protect then false
        else if memory.baseAddress > 0xFFFFFFFFFFFFFFFF - memory.regionSize then false
        else
          let regionEnd := memory.baseAddress + memory.regionSize
          address ≥ memory.baseAddress && address ≤ regionEnd && size ≤ regionEnd - address

/-- `jmp [rip+0]`, followed by the destination. -/
def absoluteJump (destination : Address) : List UInt8 :=
  [0xFF, 0x25, 0x00, 0x00, 0x00, 0x00] ++ littleEndianBytes 8 destination.toNat

/-- The outcomes of the two `VirtualProtect` calls around a copy. -/
structure Protection where
  granted : Bool
  restored : Bool
  deriving DecidableEq, Repr

/-- The result of `WriteExecutableBytes`, with the addresses it has copied to. -/
structure ExecutableWrite where
  succeeded : Bool := false
  memory : Memory
  copied : List Address := []

def writeExecutableBytes (memory : Memory) (address : Address) (bytes : List UInt8)
    (protection : Protection) : ExecutableWrite :=
  if address = 0 ∨ bytes = [] then { memory }
  else if !protection.granted then { memory }
  -- from here on the bytes are written, whether or not the protection can be put back
  else { succeeded := protection.restored, memory := memory.write address bytes, copied := [address] }

/-- One bridge, `s_active`, the host's memory and the block of the trampoline. -/
structure Host where
  bridge : GTARunScriptThreadsBridge := {}
  active : ActiveBridge := .none
  memory : Memory
  trampoline : List UInt8 := []

/-- The arguments of `Install` and what its system calls answer. -/
structure Installation where
  runScriptThreadsAddress : Address
  scriptThreadsStorageAddress : Address
  expectedThreadDispatchAddress : Address
  natives : Address
  nativesReady : Bool
  logger : Address
  regions : VirtualQuery
  allocated : Address
  protection : Protection

def trampolineBytes (current : List UInt8) (runScriptThreadsAddress : Address) : List UInt8 :=
  current ++ absoluteJump (runScriptThreadsAddress + UInt64.ofNat patchSize)

def patch (hookThunk : Address) : List UInt8 := absoluteJump hookThunk ++ [0x90]

/-- The result of `Install`, with the addresses at which it has overwritten code. -/
structure Installed where
  succeeded : Bool
  host : Host
  copied : List Address := []

def install (hookThunk : Address) (host : Host) (call : Installation) : Installed :=
  if host.bridge.installed then { succeeded := true, host }
  else if call.runScriptThreadsAddress = 0 ∨ call.scriptThreadsStorageAddress = 0 ∨
      call.expectedThreadDispatchAddress = 0 ∨ !call.nativesReady ∨ host.active ≠ .none then
    { succeeded := false, host }
  else if !isReadableAddress call.regions call.runScriptThreadsAddress (UInt64.ofNat patchSize) then
    { succeeded := false, host }
  else
    let current := host.memory.read call.runScriptThreadsAddress patchSize
    if current ≠ verifiedPrologue then { succeeded := false, host }
    else if call.allocated = 0 then { succeeded := false, host }
    else
      let prepared : GTARunScriptThreadsBridge :=
        { host.bridge with
          targetAddress := call.runScriptThreadsAddress
          scriptThreadsStorageAddress := call.scriptThreadsStorageAddress
          expectedThreadDispatchAddress := call.expectedThreadDispatchAddress
          originalBytes := current
          trampoline := call.allocated
          original := call.allocated
          natives := call.natives
          logger := call.logger
          smokeCompleted := false
          smokeAttempting := false
          activeCalls := 0 }
      let written := writeExecutableBytes host.memory prepared.targetAddress (patch hookThunk) call.protection
      -- the fields are rolled back, the code at the target is not
      if !written.succeeded then
        { succeeded := false
          host := {
            memory := written.memory
            active := .none
            bridge := { prepared with
              original := 0
              natives := 0
              logger := 0
              targetAddress := 0
              scriptThreadsStorageAddress := 0
              expectedThreadDispatchAddress := 0
              trampoline := 0 } }
          copied := written.copied }
      else
        { succeeded := true
          host := {
            memory := written.memory
            active := .this
            bridge := { prepared with installed := true }
            trampoline := trampolineBytes current call.runScriptThreadsAddress }
          copied := written.copied }

/-- `Uninstall`, once the calls that run through the hook have left it. -/
def uninstall (host : Host) (protection : Protection) : Host :=
  if !host.bridge.installed then host
  else
    { memory :=
        if host.bridge.targetAddress = 0 then host.memory
        -- the result of the copy is ignored
        else (writeExecutableBytes host.memory host.bridge.targetAddress host.bridge.originalBytes
          protection).memory
      active := if host.active = .this then .none else host.active
      bridge := { host.bridge with
        installed := false
        activeCalls := 0
        original := 0
        natives := 0
        logger := 0
        targetAddress := 0
        scriptThreadsStorageAddress := 0
        expectedThreadDispatchAddress := 0
        trampoline := 0 }
      trampoline := if host.bridge.trampoline = 0 then host.trampoline else [] }

def slotCount : Nat := 8

def findValidatedScriptThread (regions : VirtualQuery) (memory : Memory) (bridge : GTARunScriptThreadsBridge) :
    Address :=
  if !isReadableAddress regions bridge.scriptThreadsStorageAddress 8 then 0
  else
    let slotsAddress := memory.qword bridge.scriptThreadsStorageAddress
    if !isReadableAddress regions slotsAddress (UInt64.ofNat (slotCount * 8)) then 0
    else
      let candidates := (List.range slotCount).map fun i => memory.qword (slotsAddress + UInt64.ofNat (i * 8))
      (candidates.find? fun candidate => isReadableAddress regions candidate 8 &&
        memory.qword candidate == bridge.expectedThreadDispatchAddress).getD 0

/-! ## What an installation can do -/

structure Attempts (host : Host) (call : Installation) : Prop where
  idle : host.bridge.installed = false
  target : call.runScriptThreadsAddress ≠ 0
  storage : call.scriptThreadsStorageAddress ≠ 0
  dispatch : call.expectedThreadDispatchAddress ≠ 0
  ready : call.nativesReady = true
  inactive : host.active = .none
  readable : isReadableAddress call.regions call.runScriptThreadsAddress (UInt64.ofNat patchSize) = true
  prologue : host.memory.read call.runScriptThreadsAddress patchSize = verifiedPrologue
  allocated : call.allocated ≠ 0

/-- A bridge whose patch is in place over the memory that was there before. -/
structure Hooked (hookThunk : Address) (before : Memory) (target : Address) (host : Host) : Prop where
  installed : host.bridge.installed = true
  address : host.bridge.targetAddress = target
  present : target ≠ 0
  allocated : host.bridge.trampoline ≠ 0
  active : host.active = .this
  prologue : before.read target patchSize = verifiedPrologue
  original : host.bridge.originalBytes = verifiedPrologue
  memory : host.memory = before.write target (patch hookThunk)
  trampoline : host.trampoline = trampolineBytes verifiedPrologue target

@[simp] theorem length_absoluteJump (destination : Address) : (absoluteJump destination).length = 14 := by
  simp [absoluteJump, littleEndianBytes]

@[simp] theorem length_patch (hookThunk : Address) : (patch hookThunk).length = patchSize := by
  simp [patch, patchSize]

theorem patch_ne_nil (hookThunk : Address) : patch hookThunk ≠ [] := by simp [patch]

/-- The patch begins with another instruction than the verified prologue. -/
theorem patch_ne_prologue (hookThunk : Address) : patch hookThunk ≠ verifiedPrologue := by
  simp [patch, absoluteJump, verifiedPrologue]

theorem read_write_patch (memory : Memory) (target hookThunk : Address) :
    (memory.write target (patch hookThunk)).read target patchSize = patch hookThunk := by
  have back : (memory.write target (patch hookThunk)).read target (patch hookThunk).length =
      patch hookThunk := Memory.read_write (by rw [length_patch]; decide)
  rwa [length_patch] at back

theorem write_prologue {memory : Memory} {target hookThunk : Address}
    (prologue : memory.read target patchSize = verifiedPrologue) :
    (memory.write target (patch hookThunk)).write target verifiedPrologue = memory := by
  rw [Memory.write_write (length_patch hookThunk), ← prologue, Memory.write_read]

theorem writeExecutableBytes_eq {memory : Memory} {address : Address} {bytes : List UInt8}
    {protection : Protection} (present : address ≠ 0) (nonempty : bytes ≠ []) :
    writeExecutableBytes memory address bytes protection =
      if protection.granted then ⟨protection.restored, memory.write address bytes, [address]⟩
      else ⟨false, memory, []⟩ := by
  rw [writeExecutableBytes, if_neg (not_or.mpr ⟨present, nonempty⟩)]
  cases protection.granted <;> rfl

/-- How an installation ends. It is `halfDone` when the bytes are copied and
the protection is not put back: the bridge gives up, and its patch stays. -/
inductive Ending (hookThunk : Address) (host : Host) (call : Installation) : Installed → Prop where
  | refused (short : ¬Attempts host call) : Ending hookThunk host call ⟨host.bridge.installed, host, []⟩
  | denied {after : Host} (attempts : Attempts host call) (denied : call.protection.granted = false)
      (idle : after.bridge.installed = false) (inactive : after.active = .none)
      (memory : after.memory = host.memory) : Ending hookThunk host call ⟨false, after, []⟩
  | halfDone {after : Host} (attempts : Attempts host call) (granted : call.protection.granted = true)
      (kept : call.protection.restored = false) (idle : after.bridge.installed = false)
      (inactive : after.active = .none)
      (memory : after.memory = host.memory.write call.runScriptThreadsAddress (patch hookThunk)) :
      Ending hookThunk host call ⟨false, after, [call.runScriptThreadsAddress]⟩
  | hooked {after : Host} (attempts : Attempts host call) (granted : call.protection.granted = true)
      (restored : call.protection.restored = true)
      (hooked : Hooked hookThunk host.memory call.runScriptThreadsAddress after) :
      Ending hookThunk host call ⟨true, after, [call.runScriptThreadsAddress]⟩

theorem install_ending (hookThunk : Address) (host : Host) (call : Installation) :
    Ending hookThunk host call (install hookThunk host call) := by
  unfold install
  split
  next installed =>
    have ending : Ending hookThunk host call ⟨host.bridge.installed, host, []⟩ :=
      .refused fun attempts => by simp [attempts.idle] at installed
    rwa [installed] at ending
  next idle =>
    have idle : host.bridge.installed = false := by simpa using idle
    have refused : ¬Attempts host call → Ending hookThunk host call ⟨false, host, []⟩ := fun short => by
      have ending : Ending hookThunk host call ⟨host.bridge.installed, host, []⟩ := .refused short
      rwa [idle] at ending
    split
    next missing =>
      apply refused
      intro attempts
      simp [attempts.target, attempts.storage, attempts.dispatch, attempts.ready, attempts.inactive] at missing
    next met =>
      simp only [not_or, not_not, Bool.not_eq_true', Bool.not_eq_false] at met
      split
      next unreadable => exact refused fun attempts => by simp [attempts.readable] at unreadable
      next readable =>
        dsimp only
        split
        next other => exact refused fun attempts => other attempts.prologue
        next prologue =>
          split
          next exhausted => exact refused fun attempts => attempts.allocated exhausted
          next allocated =>
            have attempts : Attempts host call :=
              ⟨idle, met.1, met.2.1, met.2.2.1, met.2.2.2.1, met.2.2.2.2, by simpa using readable,
                not_not.mp prologue, allocated⟩
            rw [writeExecutableBytes_eq met.1 (patch_ne_nil hookThunk)]
            -- the two system calls around the copy decide how the attempt ends
            cases granted : call.protection.granted with
            | false => exact .denied attempts granted idle rfl rfl
            | true =>
              cases restored : call.protection.restored with
              | false => exact .halfDone attempts granted restored idle rfl rfl
              | true =>
                refine .hooked attempts granted restored ?_
                exact ⟨rfl, rfl, met.1, allocated, rfl, attempts.prologue, attempts.prologue, rfl,
                  congrArg (trampolineBytes · _) attempts.prologue⟩

/-- An installation overwrites nothing, or the code at its target with the patch. -/
theorem install_copied (hookThunk : Address) (host : Host) (call : Installation) :
    ((install hookThunk host call).copied = [] ∧ (install hookThunk host call).host.memory = host.memory) ∨
      (install hookThunk host call).copied = [call.runScriptThreadsAddress] ∧
        (install hookThunk host call).host.memory =
          host.memory.write call.runScriptThreadsAddress (patch hookThunk) := by
  have ending := install_ending hookThunk host call
  generalize install hookThunk host call = outcome at ending
  cases ending with
  | refused => exact Or.inl ⟨rfl, rfl⟩
  | denied _ _ _ _ memory => exact Or.inl ⟨rfl, memory⟩
  | halfDone _ _ _ _ _ memory => exact Or.inr ⟨rfl, memory⟩
  | hooked _ _ _ hooked => exact Or.inr ⟨rfl, hooked.memory⟩

/-! ## Any sequence of calls -/

inductive Call where
  | install (installation : Installation)
  | uninstall (protection : Protection)

structure Session where
  host : Host
  passed : List Address := []

def Session.started (before : Memory) : Session where host := { memory := before }

def step (hookThunk : Address) (session : Session) : Call → Session
  | .install installation =>
      { host := (install hookThunk session.host installation).host
        passed := installation.runScriptThreadsAddress :: session.passed }
  | .uninstall protection => { session with host := uninstall session.host protection }

/-- An uninstalled bridge leaves the code as it was, and an installed one has
its whole patch and its whole trampoline in place. -/
structure AllOrNothing (hookThunk : Address) (before : Memory) (session : Session) : Prop where
  restored : session.host.bridge.installed = false → ∀ address ∈ session.passed,
    session.host.memory.read address patchSize = before.read address patchSize
  patched : session.host.bridge.installed = true →
    session.host.memory.read session.host.bridge.targetAddress patchSize = absoluteJump hookThunk ++ [0x90] ∧
      session.host.trampoline = before.read session.host.bridge.targetAddress patchSize ++
        absoluteJump (session.host.bridge.targetAddress + 15)

/-- A copy that is made must report success, and an uninstallation must be able to copy. -/
def Respects (session : Session) : Call → Prop
  | .install installation => Attempts session.host installation →
      installation.protection.granted = true → installation.protection.restored = true
  | .uninstall protection => session.host.bridge.installed = true → protection.granted = true

/-- The host is untouched, or hooked at an address handed to `Install`. -/
def Consistent (hookThunk : Address) (before : Memory) (session : Session) : Prop :=
  (session.host.bridge.installed = false ∧ session.host.memory = before) ∨
    ∃ target ∈ session.passed, Hooked hookThunk before target session.host

theorem Hooked.uninstall {hookThunk target : Address} {before : Memory} {host : Host}
    (hooked : Hooked hookThunk before target host) (protection : Protection) :
    (uninstall host protection).bridge.installed = false ∧ (uninstall host protection).memory =
      if protection.granted then before else before.write target (patch hookThunk) := by
  have nonempty : verifiedPrologue ≠ [] := List.cons_ne_nil _ _
  have installed : ¬(!host.bridge.installed) = true := by simp [hooked.installed]
  simp only [GTARunScriptThreadsBridge.uninstall, if_neg installed, hooked.address, if_neg hooked.present,
    hooked.original, hooked.memory, writeExecutableBytes_eq hooked.present nonempty]
  refine ⟨trivial, ?_⟩
  split
  · exact write_prologue hooked.prologue
  · rfl

theorem uninstall_idle {host : Host} (idle : host.bridge.installed = false) (protection : Protection) :
    uninstall host protection = host := by
  rw [uninstall, if_pos (by simp [idle])]

theorem Consistent.allOrNothing {hookThunk : Address} {before : Memory} {session : Session}
    (consistent : Consistent hookThunk before session) : AllOrNothing hookThunk before session := by
  rcases consistent with ⟨idle, memory⟩ | ⟨target, _, hooked⟩
  · exact ⟨fun _ address _ => by rw [memory], fun installed => by simp [idle] at installed⟩
  · refine ⟨fun idle => by simp [hooked.installed] at idle, fun _ => ?_⟩
    rw [hooked.address, hooked.memory, hooked.trampoline, hooked.prologue]
    exact ⟨read_write_patch before target hookThunk, rfl⟩

theorem Consistent.preserved {hookThunk : Address} {before : Memory} {session : Session}
    (consistent : Consistent hookThunk before session) {call : Call} (respects : Respects session call) :
    Consistent hookThunk before (step hookThunk session call) := by
  cases call with
  | install installation =>
    have ending := install_ending hookThunk session.host installation
    rw [step]
    generalize install hookThunk session.host installation = outcome at ending
    cases ending with
    | refused =>
      rcases consistent with idle | ⟨target, member, hooked⟩
      · exact Or.inl idle
      · exact Or.inr ⟨target, List.mem_cons_of_mem _ member, hooked⟩
    | denied attempts denied idle inactive memory =>
      rcases consistent with ⟨_, same⟩ | ⟨target, _, hooked⟩
      · exact Or.inl ⟨idle, memory.trans same⟩
      · exact absurd (attempts.idle.symm.trans hooked.installed) Bool.noConfusion
    | halfDone attempts granted kept =>
      exact absurd (kept.symm.trans (respects attempts granted)) Bool.noConfusion
    | hooked attempts granted restored hooked =>
      rcases consistent with ⟨_, same⟩ | ⟨target, _, earlier⟩
      · exact Or.inr ⟨_, List.mem_cons_self, same ▸ hooked⟩
      · exact absurd (attempts.idle.symm.trans earlier.installed) Bool.noConfusion
  | uninstall protection =>
    rcases consistent with ⟨idle, same⟩ | ⟨target, _, hooked⟩
    · rw [step, uninstall_idle idle]
      exact Or.inl ⟨idle, same⟩
    · obtain ⟨idle, memory⟩ := hooked.uninstall protection
      rw [if_pos (respects hooked.installed)] at memory
      exact Or.inl ⟨idle, memory⟩

theorem not_restored {hookThunk target : Address} {before : Memory} {session : Session}
    (prologue : before.read target patchSize = verifiedPrologue) (passed : target ∈ session.passed)
    (idle : session.host.bridge.installed = false)
    (memory : session.host.memory = before.write target (patch hookThunk)) :
    ¬AllOrNothing hookThunk before session := by
  intro holds
  have restored := holds.restored idle target passed
  rw [memory, read_write_patch, prologue] at restored
  exact patch_ne_prologue hookThunk restored

theorem Consistent.respects {hookThunk : Address} {before : Memory} {session : Session}
    (consistent : Consistent hookThunk before session) (call : Call)
    (holds : AllOrNothing hookThunk before (step hookThunk session call)) : Respects session call := by
  cases call with
  | install installation =>
    intro attempts granted
    -- an attempt starts from an idle bridge, which has left the host untouched
    have same : session.host.memory = before := by
      rcases consistent with ⟨_, same⟩ | ⟨_, _, hooked⟩
      · exact same
      · exact absurd (attempts.idle.symm.trans hooked.installed) Bool.noConfusion
    have ending := install_ending hookThunk session.host installation
    rw [step] at holds
    generalize install hookThunk session.host installation = outcome at ending holds
    cases ending with
    | refused short => exact absurd attempts short
    | denied _ denied => exact absurd (denied.symm.trans granted) Bool.noConfusion
    | halfDone _ _ _ idle _ memory =>
      exact absurd holds (not_restored (same ▸ attempts.prologue) List.mem_cons_self idle (same ▸ memory))
    | hooked _ _ restored => exact restored
  | uninstall protection =>
    intro installed
    rcases consistent with ⟨idle, _⟩ | ⟨target, member, hooked⟩
    · exact absurd (idle.symm.trans installed) Bool.noConfusion
    · by_contra denied
      obtain ⟨idle, memory⟩ := hooked.uninstall protection
      rw [if_neg denied] at memory
      have stays : ¬AllOrNothing hookThunk before (step hookThunk session (.uninstall protection)) :=
        not_restored hooked.prologue member idle memory
      exact stays holds

/-- Every state of a run is all or nothing, exactly when no installation fails
after its copy and no uninstallation fails before its own. -/
theorem hook_allOrNothing_iff (hookThunk : Address) (before : Memory) (calls : List Call) :
    Always (step hookThunk) (AllOrNothing hookThunk before) (Session.started before) calls ↔
      Guarded (step hookThunk) Respects (Session.started before) calls :=
  always_iff_guarded (Consistent hookThunk before) (fun _ _ consistent => consistent.preserved)
    (fun _ => Consistent.allOrNothing) (fun _ call consistent => consistent.respects call)
    (Or.inl ⟨rfl, rfl⟩) calls

def prologueAt2000 : Memory := Memory.write (fun _ => 0) 0x2000 verifiedPrologue

/-- An installation at 0x2000 whose second `VirtualProtect` fails. -/
def halfInstallation : Installation where
  runScriptThreadsAddress := 0x2000
  scriptThreadsStorageAddress := 0x3000
  expectedThreadDispatchAddress := 0x4000
  natives := 0x5000
  nativesReady := true
  logger := 0x6000
  regions := fun _ => some ⟨0x2000, 0x1000, Win32.memCommit, Win32.pageExecuteRead, Win32.memImage⟩
  allocated := 0x9000
  protection := ⟨true, false⟩

theorem failed_install_leaves_patch :
    let session := run (step 0x7000) (Session.started prologueAt2000) [.install halfInstallation]
    session.host.bridge.installed = false ∧ session.passed = [0x2000] ∧
      session.host.memory 0x2000 = 0xFF ∧ prologueAt2000 0x2000 = 0x56 ∧
      ¬AllOrNothing 0x7000 prologueAt2000 session := by
  intro session
  have idle : session.host.bridge.installed = false := by decide
  have patched : session.host.memory 0x2000 = 0xFF := by decide
  refine ⟨idle, rfl, patched, by decide, fun holds => ?_⟩
  have restored := congrArg List.head? (holds.restored idle 0x2000 List.mem_cons_self)
  revert restored
  decide

end GTARunScriptThreadsBridge

end DevilzDen.Integrations.GTA5Enhanced
