import DevilzDen.Runtime.RuntimeManager

/-! The game's code under the runtime: `Start` and `Stop` phase by phase, among the game's threads.

An exception comes before a phase has done anything or behind all that it does.
Both ways out of `Start`, and `Stop` itself, go through `Uninstall` first, which
waits for the threads inside the hook. A thread may enter for as long as it finds
the bridge, also when its call began before the code was put back.
-/

set_option autoImplicit false

namespace DevilzDen.RuntimeManager

open Backend Foundation Integrations.GTA5Enhanced
open GTARunScriptThreadsBridge (Protection Hooked patch verifiedPrologue)

inductive Fault where
  | before
  | behind
  deriving DecidableEq, Repr

/-- The next phase of the call under way. -/
inductive Point where
  | idle
  | refreshing (startup : Startup)
  | initializing (startup : Startup) (status : GTAModuleStatus)
  | bridging (startup : Startup) (status : GTAModuleStatus)
  | completing
  | uninstalling
  | awaiting
  | releasing
  | resetting

instance decidableIdle : ∀ point : Point, Decidable (point = .idle)
  | .idle => isTrue rfl
  | .refreshing _ | .initializing _ _ | .bridging _ _ | .completing | .uninstalling | .awaiting | .releasing
  | .resetting => isFalse Point.noConfusion

def Point.Starting : Point → Prop
  | .refreshing _ | .initializing _ _ | .bridging _ _ | .completing => True
  | .idle | .uninstalling | .awaiting | .releasing | .resetting => False

def Point.Unhooked : Point → Prop
  | .awaiting | .releasing | .resetting => True
  | .idle | .refreshing _ | .initializing _ _ | .bridging _ _ | .completing | .uninstalling => False

def Point.Unbridged : Point → Prop
  | .refreshing _ | .initializing _ _ | .bridging _ _ => True
  | .idle | .completing | .uninstalling | .awaiting | .releasing | .resetting => False

/-- What the smoke test sets, and puts back, in the context of its thread. -/
inductive ContextWrite where
  | currentScriptThread (tls scriptThread : Address)
  | scriptThreadActive (tls : Address) (active : Bool)
  deriving DecidableEq, Repr

def ContextWrite.address : ContextWrite → Address
  | .currentScriptThread tls _ => tls + 0x7A0
  | .scriptThreadActive tls _ => tls + 0x7A8

def ContextWrite.bytes : ContextWrite → List UInt8
  | .currentScriptThread _ scriptThread => littleEndianBytes 8 scriptThread.toNat
  | .scriptThreadActive _ active => [if active then 1 else 0]

/-- The manager in its process, whose memory is the game's. `entering` counts the
threads that `HookThunk` has let in and not counted yet, `inside` those that it has. -/
structure Session where
  manager : RuntimeManager := {}
  memory : Memory
  point : Point := .idle
  entering : Nat := 0
  inside : Nat := 0

/-- Which thread runs the smoke test, and when, is left open. -/
inductive Move where
  | start (startup : Startup)
  | stop
  | proceed (fault : Option Fault) (protection : Protection)
  | game (address : Address) (bytes : List UInt8)
  | enter
  | count
  | leave
  | smoke (write : ContextWrite)

def Move.Starts : Move → Prop
  | .start _ => True
  | .stop | .proceed _ _ | .game _ _ | .enter | .count | .leave | .smoke _ => False

namespace Session

def host (session : Session) : GTARunScriptThreadsBridge.Host where
  bridge := session.manager.gameThreadBridge
  active := session.manager.active
  memory := session.memory
  trampoline := session.manager.trampoline

/-- `Stop` up to its exchange of the flag. -/
def beginStop (session : Session) : Session :=
  if session.manager.running then { session with manager.running := false, point := .uninstalling }
  else { session with point := .idle }

/-- `Start` up to its exchange of the flag. -/
def beginStart (session : Session) (startup : Startup) : Session :=
  if session.manager.running then session
  else { session with manager.running := true, point := .refreshing startup }

def refresh (session : Session) (startup : Startup) : Session :=
  let refreshed := session.manager.gta.refresh startup.refresh
  { session with
    manager.gta := refreshed.2
    point := match refreshed.1 with
      | .error _ => .completing
      | .ok status => .initializing startup status }

def initialized (session : Session) (startup : Startup) (status : GTAModuleStatus) : Session :=
  let phase := session.manager.initializeNativeManager { startup with memory := session.memory } status
  { session with manager := phase.manager, memory := phase.memory, point := .bridging startup status }

def bridged (session : Session) (startup : Startup) (status : GTAModuleStatus) : Session :=
  let phase := session.manager.initializeGameThreadBridge { startup with memory := session.memory } status
  { session with manager := phase.manager, memory := phase.memory, point := .completing }

/-- `Uninstall` up to its wait for the threads inside the hook. -/
def unhooked (session : Session) (protection : Protection) : Session :=
  let bridge := session.manager.gameThreadBridge
  if !bridge.installed then { session with point := .resetting }
  else
    { session with
      manager.gameThreadBridge.installed := false
      memory :=
        if bridge.targetAddress = 0 then session.memory
        -- the result of the copy is ignored
        else (GTARunScriptThreadsBridge.writeExecutableBytes session.memory bridge.targetAddress
          bridge.originalBytes protection).memory
      point := .awaiting }

def released (session : Session) : Session :=
  let bridge := session.manager.gameThreadBridge
  { session with
    manager := { session.manager with
      active := if session.manager.active = .this then .none else session.manager.active
      gameThreadBridge := { bridge with
        original := 0
        natives := 0
        logger := 0
        targetAddress := 0
        scriptThreadsStorageAddress := 0
        expectedThreadDispatchAddress := 0
        trampoline := 0 }
      trampoline := if bridge.trampoline = 0 then session.manager.trampoline else [] }
    point := .resetting }

/-- What is done before and behind a phase of `Start` that may throw. -/
def attempt (session : Session) (phase : Session → Session) : Option Fault → Session
  | none => phase session
  | some .before => session.beginStop
  | some .behind => (phase session).beginStop

def proceed (session : Session) (fault : Option Fault) (protection : Protection) : Session :=
  match session.point with
  | .idle => session
  | .refreshing startup => session.attempt (·.refresh startup) fault
  | .initializing startup status => session.attempt (·.initialized startup status) fault
  | .bridging startup status => session.attempt (·.bridged startup status) fault
  | .completing => session.attempt ({ · with point := .idle }) fault
  | .uninstalling => session.unhooked protection
  | .awaiting =>
      if session.manager.gameThreadBridge.activeCalls ≠ 0 then session else { session with point := .releasing }
  | .releasing => session.released
  | .resetting => { session with manager.natives := session.manager.natives.reset, point := .idle }

/-- `HookThunk` up to its count. -/
def enter (session : Session) : Session :=
  if session.manager.active ≠ .this ∨ session.manager.gameThreadBridge.original = 0 then session
  else { session with entering := session.entering + 1 }

def count (session : Session) : Session :=
  if session.entering = 0 then session
  else
    { session with
      manager.gameThreadBridge.activeCalls := session.manager.gameThreadBridge.activeCalls + 1
      entering := session.entering - 1
      inside := session.inside + 1 }

def leave (session : Session) : Session :=
  if session.inside = 0 then session
  else
    { session with
      manager.gameThreadBridge.activeCalls := session.manager.gameThreadBridge.activeCalls - 1
      inside := session.inside - 1 }

/-- One thread calls `Start` and `Stop`, one after the other. -/
def step (session : Session) : Move → Session
  | .start startup =>
      match session.point with
      | .idle => session.beginStart startup
      | _ => session
  | .stop =>
      match session.point with
      | .idle => session.beginStop
      | _ => session
  | .proceed fault protection => session.proceed fault protection
  | .game address bytes => { session with memory := session.memory.write address bytes }
  | .enter => session.enter
  | .count => session.count
  | .leave => session.leave
  | .smoke write => { session with memory := session.memory.write write.address write.bytes }

theorem initializeNativeManager_frame (manager : RuntimeManager) (startup : Startup) (status : GTAModuleStatus) :
    let phase := manager.initializeNativeManager startup status
    phase.memory = startup.memory ∧ phase.manager = { manager with natives := phase.manager.natives } := by
  unfold initializeNativeManager
  dsimp only
  split
  · split
    · exact ⟨rfl, rfl⟩
    · split <;> exact ⟨rfl, rfl⟩
  · exact ⟨rfl, rfl⟩

theorem start_uninterrupted (manager : RuntimeManager) (memory : Memory) (startup : Startup)
    (protection : Protection) :
    let session := run step { manager, memory } (.start startup :: List.replicate 4 (.proceed none protection))
    let started := manager.start { startup with memory }
    session.manager = started.manager ∧ session.memory = started.memory := by
  intro session started
  by_cases running : manager.running
  · have same : session = { manager, memory } := by simp [session, step, beginStart, running, proceed]
    have idle : started = { manager, memory } := if_pos running
    rw [same, idle]
    exact ⟨rfl, rfl⟩
  · simp only [session, started, run_cons, run_nil, List.replicate, step, beginStart, proceed, attempt, refresh,
      initialized, bridged, RuntimeManager.start, running, if_false, Bool.false_eq_true]
    cases (manager.gta.refresh startup.refresh).1 with
    | error error => exact ⟨rfl, rfl⟩
    | ok status =>
      dsimp only
      rw [(initializeNativeManager_frame _ _ status).1]
      exact ⟨rfl, rfl⟩

/-- With nobody inside the hook, the steps of `Uninstall` make up the whole call. -/
theorem uninstall_uninterrupted (session : Session) (protection : Protection) (begun : session.point = .uninstalling)
    (nobody : session.manager.gameThreadBridge.activeCalls = 0) :
    (run step session (List.replicate 3 (.proceed none protection))).host =
      GTARunScriptThreadsBridge.uninstall session.host protection := by
  by_cases installed : session.manager.gameThreadBridge.installed = true
  · simp [List.replicate, step, Session.proceed, begun, unhooked, released, host, installed, nobody,
      GTARunScriptThreadsBridge.uninstall]
    exact ⟨rfl, rfl, rfl⟩
  · simp [List.replicate, step, Session.proceed, begun, unhooked, host, installed,
      GTARunScriptThreadsBridge.uninstall]

/-! ## What a phase does to the code -/

/-- The code is the game's own, or has one hook in it. -/
inductive Standing (pristine : Memory) (host : GTARunScriptThreadsBridge.Host) : Prop where
  | unhooked (idle : host.bridge.installed = false) (memory : host.memory = pristine)
  | hooked {hookThunk target : Address} (hooked : Hooked hookThunk pristine target host)

theorem Standing.install {pristine : Memory} {host : GTARunScriptThreadsBridge.Host}
    (standing : Standing pristine host) (hookThunk : Address) {call : GTARunScriptThreadsBridge.Installation}
    (restores : call.protection.granted = true → call.protection.restored = true) :
    Standing pristine (GTARunScriptThreadsBridge.install hookThunk host call).host := by
  have ending := GTARunScriptThreadsBridge.install_ending hookThunk host call
  generalize GTARunScriptThreadsBridge.install hookThunk host call = outcome at ending
  -- an attempt is made from an idle bridge, which has left the code alone
  have untouched : GTARunScriptThreadsBridge.Attempts host call → host.memory = pristine := by
    intro attempts
    cases standing with
    | unhooked _ memory => exact memory
    | hooked hooked => exact absurd (attempts.idle.symm.trans hooked.installed) Bool.false_ne_true
  cases ending with
  | refused => exact standing
  | denied attempts _ idle _ memory => exact .unhooked idle (memory.trans (untouched attempts))
  | halfDone _ granted kept => exact absurd (kept.symm.trans (restores granted)) Bool.false_ne_true
  | hooked attempts _ _ hooked => exact .hooked (untouched attempts ▸ hooked)

theorem Standing.uninstall {pristine : Memory} {host : GTARunScriptThreadsBridge.Host}
    (standing : Standing pristine host) {protection : Protection}
    (granted : host.bridge.installed = true → protection.granted = true) :
    (GTARunScriptThreadsBridge.uninstall host protection).bridge.installed = false ∧
      (GTARunScriptThreadsBridge.uninstall host protection).memory = pristine := by
  cases standing with
  | unhooked idle memory =>
    rw [GTARunScriptThreadsBridge.uninstall_idle idle]
    exact ⟨idle, memory⟩
  | hooked hooked =>
    obtain ⟨idle, memory⟩ := hooked.uninstall protection
    rw [if_pos (granted hooked.installed)] at memory
    exact ⟨idle, memory⟩

theorem unhooked_host (session : Session) (protection : Protection) :
    (session.unhooked protection).manager.gameThreadBridge.installed = false ∧
      (session.unhooked protection).memory =
        (GTARunScriptThreadsBridge.uninstall session.host protection).memory := by
  cases installed : session.manager.gameThreadBridge.installed with
  | false => simp [unhooked, GTARunScriptThreadsBridge.uninstall, host, installed]
  | true =>
    simp only [unhooked, GTARunScriptThreadsBridge.uninstall, host, installed]
    exact ⟨rfl, rfl⟩

theorem Standing.memory_of_idle {pristine : Memory} {host : GTARunScriptThreadsBridge.Host}
    (standing : Standing pristine host) (idle : host.bridge.installed = false) : host.memory = pristine := by
  cases standing with
  | unhooked _ memory => exact memory
  | hooked hooked => exact absurd (idle.symm.trans hooked.installed) Bool.noConfusion

theorem Standing.counted {pristine : Memory} {host : GTARunScriptThreadsBridge.Host}
    (standing : Standing pristine host) (activeCalls : UInt32) :
    Standing pristine { host with bridge.activeCalls := activeCalls } := by
  cases standing with
  | unhooked idle memory => exact .unhooked idle memory
  | hooked hooked =>
    exact .hooked ⟨hooked.installed, hooked.address, hooked.present, hooked.allocated, hooked.active,
      hooked.prologue, hooked.original, hooked.memory, hooked.trampoline⟩

theorem Standing.write {pristine : Memory} {host : GTARunScriptThreadsBridge.Host}
    (standing : Standing pristine host) {address : Address} {bytes : List UInt8}
    (apart : host.bridge.installed = true → Memory.Apart address bytes.length host.bridge.targetAddress patchSize) :
    Standing (pristine.write address bytes) { host with memory := host.memory.write address bytes } := by
  cases standing with
  | unhooked idle memory => exact .unhooked idle (congrArg (Memory.write · address bytes) memory)
  | @hooked hookThunk target hooked =>
    have beside := apart hooked.installed
    rw [hooked.address] at beside
    have prologue := (Memory.read_write_apart beside).trans hooked.prologue
    rw [← GTARunScriptThreadsBridge.length_patch hookThunk] at beside
    have memory : host.memory.write address bytes = (pristine.write address bytes).write target (patch hookThunk) :=
      (congrArg (Memory.write · address bytes) hooked.memory).trans (Memory.write_comm beside)
    exact .hooked { hooked with prologue, memory }

theorem bridged_host (session : Session) (startup : Startup) (status : GTAModuleStatus) :
    (session.bridged startup status).manager.running = session.manager.running ∧
      ((session.bridged startup status).host = session.host ∨
        ∃ call : GTARunScriptThreadsBridge.Installation, call.protection = startup.protection ∧
          (session.bridged startup status).host =
            (GTARunScriptThreadsBridge.install startup.hookThunk session.host call).host) := by
  unfold bridged initializeGameThreadBridge
  dsimp only
  split
  · exact ⟨rfl, Or.inl rfl⟩
  · split
    · exact ⟨rfl, Or.inl rfl⟩
    · split
      · exact ⟨rfl, Or.inl rfl⟩
      · exact ⟨rfl, Or.inr ⟨_, rfl, rfl⟩⟩

/-! ## Over a run -/

def Stopped (session : Session) : Prop := session.manager.running = false ∧ session.point = .idle

/-- The hook is gone before the natives are, and both are before `Stop` returns. -/
structure Kept (session : Session) (pristine : Memory) : Prop where
  code : Standing pristine session.host
  starting : session.point.Starting → session.manager.running = true
  unhooked : session.point.Unhooked ∨ Stopped session → session.manager.gameThreadBridge.installed = false
  quiet : Stopped session → session.manager.natives = {}

/-- What the system owes a phase: it puts back each protection that it lifts, and lifts that of the hook. -/
def Obliged (session : Session) (protection : Protection) : Point → Prop
  | .bridging startup _ => startup.protection.granted = true → startup.protection.restored = true
  | .uninstalling => session.manager.gameThreadBridge.installed = true → protection.granted = true
  | .idle | .refreshing _ | .initializing _ _ | .completing | .awaiting | .releasing | .resetting => True

def Beside (session : Session) (address : Address) (bytes : List UInt8) : Prop :=
  session.manager.gameThreadBridge.installed = true →
    Memory.Apart address bytes.length session.manager.gameThreadBridge.targetAddress patchSize

/-- The system meets its obligations, and neither the game nor the smoke test writes over the hook. -/
def Respects (session : Session) : Move → Prop
  | .proceed _ protection => session.Obliged protection session.point
  | .game address bytes => session.Beside address bytes
  | .smoke write => session.Beside write.address write.bytes
  | .start _ | .stop | .enter | .count | .leave => True

instance decidableObliged (session : Session) (protection : Protection) :
    DecidablePred (session.Obliged protection)
  | .bridging _ _ | .uninstalling => inferInstanceAs (Decidable (_ → _))
  | .idle | .refreshing _ | .initializing _ _ | .completing | .awaiting | .releasing | .resetting => isTrue trivial

instance decidableBeside (session : Session) (address : Address) (bytes : List UInt8) :
    Decidable (session.Beside address bytes) := inferInstanceAs (Decidable (_ → _))

instance decidableRespects (session : Session) : DecidablePred (Respects session)
  | .proceed _ protection => inferInstanceAs (Decidable (session.Obliged protection session.point))
  | .game address bytes => inferInstanceAs (Decidable (session.Beside address bytes))
  | .smoke write => inferInstanceAs (Decidable (session.Beside write.address write.bytes))
  | .start _ | .stop | .enter | .count | .leave => isTrue trivial

/-- What the writes of the game, and of the smoke test to the context of its thread, make of the memory. -/
def dataWrites (memory : Memory) : Move → Memory
  | .game address bytes => memory.write address bytes
  | .smoke write => memory.write write.address write.bytes
  | .start _ | .stop | .proceed _ _ | .enter | .count | .leave => memory

variable {session : Session} {pristine : Memory}

theorem Kept.of_running (code : Standing pristine session.host) (running : session.manager.running = true)
    (up : ¬session.point.Unhooked) : Kept session pristine := by
  have goes (stopped : Stopped session) : False := Bool.noConfusion (running.symm.trans stopped.1)
  exact ⟨code, fun _ => running, fun down => (down.elim up goes).elim, fun stopped => (goes stopped).elim⟩

theorem Kept.beginStop (code : Standing pristine session.host) (running : session.manager.running = true) :
    Kept session.beginStop pristine := by
  rw [Session.beginStop, if_pos running]
  have goes (stopped : Stopped { session with manager.running := false, point := .uninstalling }) : False :=
    Point.noConfusion stopped.2
  exact ⟨code, False.elim, fun down => (down.elim id goes).elim, fun stopped => (goes stopped).elim⟩

theorem Kept.attempt (code : Standing pristine session.host) (running : session.manager.running = true)
    {phase : Session → Session} (code' : Standing pristine (phase session).host)
    (running' : (phase session).manager.running = true) (up : ¬(phase session).point.Unhooked)
    (fault : Option Fault) : Kept (session.attempt phase fault) pristine := by
  rcases fault with _ | _ | _
  · exact .of_running code' running' up
  · exact .beginStop code running
  · exact .beginStop code' running'

theorem unhooked_point (session : Session) (protection : Protection) :
    (session.unhooked protection).point.Unhooked := by
  unfold Session.unhooked
  dsimp only
  split <;> trivial

theorem stops_of_unhooked {point : Point} (unhooked : point.Unhooked) : ¬point.Starting ∧ point ≠ .idle := by
  cases point with
  | awaiting | releasing | resetting => exact ⟨id, Point.noConfusion⟩
  | idle | refreshing | initializing | bridging | completing | uninstalling => exact unhooked.elim

theorem Kept.of_unhooked (unhooked : session.point.Unhooked)
    (idle : session.manager.gameThreadBridge.installed = false) (memory : session.memory = pristine) :
    Kept session pristine :=
  ⟨.unhooked idle memory, fun starting => absurd starting (stops_of_unhooked unhooked).1, fun _ => idle,
    fun stopped => absurd stopped.2 (stops_of_unhooked unhooked).2⟩

theorem Kept.proceed (kept : Kept session pristine) {fault : Option Fault} {protection : Protection}
    (respects : Respects session (.proceed fault protection)) : Kept (session.proceed fault protection) pristine := by
  have running := kept.starting
  rw [Respects] at respects
  unfold Session.proceed
  split
  next point => exact kept
  next startup point =>
    rw [point] at running
    refine .attempt kept.code (running trivial) kept.code (running trivial) ?_ fault
    unfold Session.refresh
    dsimp only
    split <;> exact id
  next startup status point =>
    rw [point] at running
    obtain ⟨memory, manager⟩ :=
      initializeNativeManager_frame session.manager { startup with memory := session.memory } status
    have host : (session.initialized startup status).host = session.host := by
      unfold initialized Session.host
      dsimp only
      rw [memory, manager]
    have stays : (session.initialized startup status).manager.running = true := by
      unfold initialized
      dsimp only
      rw [manager]
      exact running trivial
    exact .attempt kept.code (running trivial) (host ▸ kept.code) stays id fault
  next startup status point =>
    rw [point] at running respects
    obtain ⟨stays, same | ⟨call, given, host⟩⟩ := bridged_host session startup status
    · exact .attempt kept.code (running trivial) (same ▸ kept.code) (stays.trans (running trivial)) id fault
    · rw [Obliged, ← given] at respects
      exact .attempt kept.code (running trivial) (host ▸ kept.code.install startup.hookThunk respects)
        (stays.trans (running trivial)) id fault
  next point =>
    rw [point] at running
    exact .attempt kept.code (running trivial) kept.code (running trivial) id fault
  next point =>
    rw [point] at respects
    obtain ⟨idle, memory⟩ := unhooked_host session protection
    exact .of_unhooked (unhooked_point session protection) idle (memory.trans (kept.code.uninstall respects).2)
  next point =>
    have idle := kept.unhooked (Or.inl (by rw [point]; trivial))
    split
    · exact kept
    · exact .of_unhooked trivial idle (kept.code.memory_of_idle idle)
  next point =>
    have idle := kept.unhooked (Or.inl (by rw [point]; trivial))
    exact .of_unhooked trivial idle (kept.code.memory_of_idle idle)
  next point =>
    have idle := kept.unhooked (Or.inl (by rw [point]; trivial))
    exact ⟨kept.code, False.elim, fun _ => idle, fun _ => rfl⟩

theorem Kept.preserved (kept : Kept session pristine) {move : Move} (respects : Respects session move) :
    Kept (step session move) (dataWrites pristine move) := by
  cases move with
  | start startup =>
    rw [step, dataWrites]
    split
    · unfold beginStart
      split
      · exact kept
      · exact .of_running kept.code rfl id
    · exact kept
  | stop =>
    rw [step, dataWrites]
    split
    next point =>
      cases running : session.manager.running with
      | true => exact .beginStop kept.code running
      | false =>
        rw [Session.beginStop, running]
        exact ⟨kept.code, False.elim, fun _ => kept.unhooked (Or.inr ⟨running, point⟩),
          fun _ => kept.quiet ⟨running, point⟩⟩
    · exact kept
  | proceed fault protection => exact kept.proceed respects
  | game address bytes => exact ⟨kept.code.write respects, kept.starting, kept.unhooked, kept.quiet⟩
  | smoke write => exact ⟨kept.code.write respects, kept.starting, kept.unhooked, kept.quiet⟩
  | enter =>
    rw [step, enter, dataWrites]
    split
    · exact kept
    · exact ⟨kept.code, kept.starting, kept.unhooked, kept.quiet⟩
  | count =>
    rw [step, count, dataWrites]
    split
    · exact kept
    · exact ⟨kept.code.counted _, kept.starting, kept.unhooked, kept.quiet⟩
  | leave =>
    rw [step, leave, dataWrites]
    split
    · exact kept
    · exact ⟨kept.code.counted _, kept.starting, kept.unhooked, kept.quiet⟩

theorem kept_initial (before : Memory) : Kept { memory := before } before :=
  ⟨.unhooked rfl rfl, False.elim, fun _ => rfl, fun _ => rfl⟩

theorem Kept.clean (kept : Kept session pristine) (stopped : Stopped session) :
    session.memory = pristine ∧ session.manager.natives = {} := by
  have idle := kept.unhooked (Or.inr stopped)
  exact ⟨kept.code.memory_of_idle idle, kept.quiet stopped⟩

theorem Kept.memory_cases (kept : Kept session pristine) :
    session.memory = pristine ∨ ∃ target hookThunk, pristine.read target patchSize = verifiedPrologue ∧
      session.memory = pristine.write target (patch hookThunk) := by
  cases kept.code with
  | unhooked _ memory => exact Or.inl memory
  | @hooked hookThunk target hooked => exact Or.inr ⟨target, hookThunk, hooked.prologue, hooked.memory⟩

/-- The runtime leaves the game's code as it found it: in every run of `Start` and
`Stop`, among the game's threads, the memory is at any time what these write in it,
in the hook or outside, but for one patch over the verified prologue. When a stop,
or a start that has failed, is through, there is no patch, and the natives are reset. -/
theorem code_restored (before : Memory) (moves : List Move)
    (respects : Guarded step Respects { memory := before } moves) :
    let session := run step { memory := before } moves
    let pristine := run dataWrites before moves
    (Stopped session → session.memory = pristine ∧ session.manager.natives = {}) ∧
      (session.memory = pristine ∨ ∃ target hookThunk, pristine.read target patchSize = verifiedPrologue ∧
        session.memory = pristine.write target (patch hookThunk)) := by
  intro session pristine
  have kept : Kept session pristine :=
    respects.related (fun _ _ _ kept respects => kept.preserved respects) (kept_initial before)
  exact ⟨kept.clean, kept.memory_cases⟩

def strangeProcess : HostProcess where
  processId := 1
  lastError := 5
  executablePath := none
  executableName := []
  architecture := .x64
  memory := fun _ => 0
  regions := fun _ => none
  imageModule := 0
  moduleHandle := fun _ => 0
  moduleInformation := fun _ => none
  moduleSnapshot := fun _ => .unlisted
  openProcess := fun _ => none
  openFile := fun _ => none

def strangeStartup : Startup where
  refresh := ⟨strangeProcess, fun _ => strangeProcess⟩
  initialization := strangeProcess
  bootstrap := ⟨id, fun _ => none⟩
  memory := fun _ => 0
  regions := fun _ => none
  allocated := 0x9000
  protection := ⟨true, true⟩
  hookThunk := 0x7000
  nativesReference := 0x5000
  loggerReference := 0x6000

/-- A start that throws when the bridge's phase is over, among writes of the game and of the smoke test. -/
def thrownStart : List Move :=
  let granted : Protection := ⟨true, true⟩
  [.start strangeStartup, .proceed none granted, .game 0x2000 [1], .proceed none granted,
    .proceed (some .behind) granted, .smoke (.scriptThreadActive 0x3000 true), .proceed none granted,
    .proceed none granted]

theorem code_restored_thrown : (run step { memory := fun _ => 0 } thrownStart).memory =
    run dataWrites (fun _ => 0) thrownStart := by
  have stopped : Stopped (run step { memory := fun _ => 0 } thrownStart) := ⟨rfl, rfl⟩
  exact ((code_restored (fun _ => 0) thrownStart (by decide)).1 stopped).1

/-! ## The threads in the hook -/

structure Untouched (session : Session) : Prop where
  original : session.manager.gameThreadBridge.original = 0
  entering : session.entering = 0
  inside : session.inside = 0

/-- The bridge counts the threads inside the hook, where its `Install` has forgotten none. -/
structure Calls (session : Session) : Prop where
  counted : session.manager.gameThreadBridge.activeCalls = UInt32.ofNat session.inside
  untouched : session.point.Unbridged → Untouched session

theorem Untouched.frame {after : Session} (untouched : Untouched session)
    (original : after.manager.gameThreadBridge.original = session.manager.gameThreadBridge.original)
    (entering : after.entering = session.entering) (inside : after.inside = session.inside) : Untouched after :=
  ⟨original.trans untouched.original, entering.trans untouched.entering, inside.trans untouched.inside⟩

theorem Calls.beginStop (calls : Calls session) : Calls session.beginStop := by
  unfold Session.beginStop
  split <;> exact ⟨calls.counted, False.elim⟩

theorem Calls.attempt (calls : Calls session) {phase : Session → Session} (done : Calls (phase session))
    (fault : Option Fault) : Calls (session.attempt phase fault) := by
  rcases fault with _ | _ | _
  · exact done
  · exact calls.beginStop
  · exact done.beginStop

theorem install_activeCalls (hookThunk : Address) (host : GTARunScriptThreadsBridge.Host)
    (call : GTARunScriptThreadsBridge.Installation) :
    (GTARunScriptThreadsBridge.install hookThunk host call).host.bridge.activeCalls = host.bridge.activeCalls ∨
      (GTARunScriptThreadsBridge.install hookThunk host call).host.bridge.activeCalls = 0 := by
  unfold GTARunScriptThreadsBridge.install
  split
  · exact Or.inl rfl
  · split
    · exact Or.inl rfl
    · split
      · exact Or.inl rfl
      · dsimp only
        split
        · exact Or.inl rfl
        · split
          · exact Or.inl rfl
          · split <;> exact Or.inr rfl

theorem Calls.refresh (calls : Calls session) (untouched : Untouched session) (startup : Startup) :
    Calls (session.refresh startup) :=
  ⟨calls.counted, fun _ => untouched.frame rfl rfl rfl⟩

theorem Calls.initialized (calls : Calls session) (untouched : Untouched session) (startup : Startup)
    (status : GTAModuleStatus) : Calls (session.initialized startup status) := by
  have manager :=
    (initializeNativeManager_frame session.manager { startup with memory := session.memory } status).2
  unfold Session.initialized
  dsimp only
  rw [manager]
  exact ⟨calls.counted, fun _ => untouched.frame rfl rfl rfl⟩

theorem Calls.bridged (calls : Calls session) (untouched : Untouched session) (startup : Startup)
    (status : GTAModuleStatus) : Calls (session.bridged startup status) := by
  have counted : (session.bridged startup status).host.bridge.activeCalls = 0 := by
    have before : session.host.bridge.activeCalls = 0 := by
      have counted := calls.counted
      rwa [untouched.inside] at counted
    obtain ⟨_, same | ⟨call, _, host⟩⟩ := bridged_host session startup status
    · rw [same, before]
    · rw [host]
      rcases install_activeCalls startup.hookThunk session.host call with same | reset
      · rw [same, before]
      · exact reset
  have inside : (session.bridged startup status).inside = 0 := untouched.inside
  refine ⟨?_, False.elim⟩
  rw [inside]
  exact counted

theorem Calls.proceed (calls : Calls session) (fault : Option Fault) (protection : Protection) :
    Calls (session.proceed fault protection) := by
  have untouched := calls.untouched
  unfold Session.proceed
  split
  next => exact calls
  next startup point =>
    rw [point] at untouched
    exact calls.attempt (calls.refresh (untouched trivial) startup) fault
  next startup status point =>
    rw [point] at untouched
    exact calls.attempt (calls.initialized (untouched trivial) startup status) fault
  next startup status point =>
    rw [point] at untouched
    exact calls.attempt (calls.bridged (untouched trivial) startup status) fault
  next =>
    have done : Calls { session with point := .idle } := ⟨calls.counted, False.elim⟩
    exact calls.attempt done fault
  next =>
    unfold Session.unhooked
    dsimp only
    split <;> exact ⟨calls.counted, False.elim⟩
  next =>
    split
    · exact calls
    · exact ⟨calls.counted, False.elim⟩
  next => exact ⟨calls.counted, False.elim⟩
  next => exact ⟨calls.counted, False.elim⟩

/-- The threads in the hook leave the calls of `Start` and `Stop` where they are. -/
theorem hook_frame {move : Move} (hooked : move = .enter ∨ move = .count ∨ move = .leave) :
    (step session move).manager.running = session.manager.running ∧ (step session move).point = session.point := by
  rcases hooked with rfl | rfl | rfl
  · simp only [step, enter]
    split <;> exact ⟨rfl, rfl⟩
  · simp only [step, count]
    split <;> exact ⟨rfl, rfl⟩
  · simp only [step, leave]
    split <;> exact ⟨rfl, rfl⟩

theorem Untouched.enter (untouched : Untouched session) : session.enter = session := by
  rw [Session.enter, if_pos (Or.inr untouched.original)]

theorem Untouched.count (untouched : Untouched session) : session.count = session := by
  rw [Session.count, if_pos untouched.entering]

theorem Untouched.leave (untouched : Untouched session) : session.leave = session := by
  rw [Session.leave, if_pos untouched.inside]

/-- A start is a first one, where the bridge has let nobody in before. -/
theorem Calls.preserved (calls : Calls session) {move : Move} (first : move.Starts → Untouched session) :
    Calls (step session move) := by
  cases move with
  | start startup =>
    have untouched := first trivial
    rw [step]
    split
    · unfold Session.beginStart
      split
      · exact calls
      · exact ⟨calls.counted, fun _ => untouched.frame rfl rfl rfl⟩
    · exact calls
  | stop =>
    rw [step]
    split
    · exact calls.beginStop
    · exact calls
  | proceed fault protection => exact calls.proceed fault protection
  | game address bytes =>
    exact ⟨calls.counted, fun unbridged => (calls.untouched unbridged).frame rfl rfl rfl⟩
  | smoke write => exact ⟨calls.counted, fun unbridged => (calls.untouched unbridged).frame rfl rfl rfl⟩
  | enter =>
    rw [step]
    by_cases unbridged : session.point.Unbridged
    · rw [(calls.untouched unbridged).enter]
      exact calls
    · unfold Session.enter
      split
      · exact calls
      · exact ⟨calls.counted, fun elsewhere => absurd elsewhere unbridged⟩
  | count =>
    rw [step]
    by_cases unbridged : session.point.Unbridged
    · rw [(calls.untouched unbridged).count]
      exact calls
    · unfold Session.count
      split
      · exact calls
      · refine ⟨?_, fun elsewhere => absurd elsewhere unbridged⟩
        rw [UInt32.ofNat_add, ← calls.counted]
        rfl
  | leave =>
    rw [step]
    by_cases unbridged : session.point.Unbridged
    · rw [(calls.untouched unbridged).leave]
      exact calls
    · unfold Session.leave
      split
      · exact calls
      next some =>
        refine ⟨?_, fun elsewhere => absurd elsewhere unbridged⟩
        have counted := calls.counted
        obtain ⟨others, inside⟩ := Nat.exists_eq_add_one_of_ne_zero some
        dsimp only
        rw [inside, UInt32.ofNat_add] at counted
        rw [inside, counted]
        simp

theorem Calls.inside_ne_zero (calls : Calls session)
    (waits : session.manager.gameThreadBridge.activeCalls ≠ 0) : session.inside ≠ 0 := by
  intro nobody
  rw [calls.counted, nobody] at waits
  exact waits rfl

end Session

end DevilzDen.RuntimeManager
