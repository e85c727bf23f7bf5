import DevilzDen.Foundation.Registry
import DevilzDen.Foundation.Run
import DevilzDen.Integrations.GTA5Enhanced.Script.ScriptRuntimeManager

/-! The script threads and programs of the game, under the ids and hashes at which the runtime knows them.

Only pointers are kept. The game owns what they point at, and changes it or
destroys it whenever it likes; null points at nothing.
-/

set_option autoImplicit false

namespace DevilzDen.Integrations.GTA5Enhanced

open Backend Foundation

inductive ScrThreadState where
  | unknown
  | idle
  | running
  | killed
  | paused
  deriving DecidableEq, Repr

structure ScrThread where
  threadId : UInt32 := 0
  state : ScrThreadState := .unknown
  deriving DecidableEq, Repr

namespace ScrThread

def valid (thread : ScrThread) : Bool := thread.threadId != 0

def running (thread : ScrThread) : Bool := thread.state == .running

end ScrThread

structure ScrProgram where
  hash : UInt32 := 0
  codePages : Address := 0
  codeSize : UInt32 := 0
  deriving DecidableEq, Repr

def ScrProgram.valid (program : ScrProgram) : Bool :=
  program.hash != 0 && (program.codeSize == 0 || program.codePages != 0)

/-- The objects that pointers point at. -/
abbrev Heap (Object : Type) := Address → Option Object

namespace ScriptVM

/-- `RegisterThread` of a pointer at a thread, or of null. -/
def registerThread (threads : Table UInt32 Address) (pointer : Address) (thread : Option ScrThread) :
    Result Unit × Table UInt32 Address :=
  match thread with
  | none => (.error (Error.runtime "Cannot register an invalid scrThread"), threads)
  | some thread =>
      if !thread.valid then (.error (Error.runtime "Cannot register an invalid scrThread"), threads)
      else (.ok (), threads.insert thread.threadId pointer)

def unregisterThread (threads : Table UInt32 Address) (threadId : UInt32) : Table UInt32 Address :=
  threads.erase threadId

def findThread (threads : Table UInt32 Address) (threadId : UInt32) : Address := (threads.lookup threadId).getD 0

/-- `RunningThreads`, for an order in which the table shows its threads. -/
def runningThreads (heap : Heap ScrThread) (order : List Address) : List Address :=
  order.filter fun pointer => pointer != 0 && ((heap pointer).map ScrThread.running).getD false

end ScriptVM

namespace ScrProgramTable

/-- `Register` of a pointer at a program, or of null. -/
def registerProgram (programs : Table UInt32 Address) (pointer : Address) (program : Option ScrProgram) :
    Result Unit × Table UInt32 Address :=
  match program with
  | none => (.error (Error.runtime "Cannot register an invalid scrProgram"), programs)
  | some program =>
      if !program.valid then (.error (Error.runtime "Cannot register an invalid scrProgram"), programs)
      else (.ok (), programs.insert program.hash pointer)

def unregisterProgram (programs : Table UInt32 Address) (hash : UInt32) : Table UInt32 Address :=
  programs.erase hash

def find (programs : Table UInt32 Address) (hash : UInt32) : Address := (programs.lookup hash).getD 0

end ScrProgramTable

/-- The script runtime and what the game has of threads and programs. -/
structure ScriptSession where
  scripts : ScriptRuntimeManager := {}
  threads : Heap ScrThread
  programs : Heap ScrProgram
  /-- Whether a thread or program was looked at that is not there. -/
  strayed : Bool := false

namespace ScriptSession

inductive Move where
  | initializeBuild (build : BuildInfo)
  | shutdown
  | registerThread (pointer : Address)
  | unregisterThread (threadId : UInt32)
  | clearThreads
  | runningThreads
  | registerProgram (pointer : Address)
  | unregisterProgram (hash : UInt32)
  | clearPrograms
  | changeThread (pointer : Address) (thread : Option ScrThread)
  | changeProgram (pointer : Address) (program : Option ScrProgram)

/-- A pointer is told from null, and not from one at what is gone. -/
def looksAway {Object : Type} (heap : Heap Object) (pointer : Address) : Bool :=
  pointer != 0 && (heap pointer).isNone

def step (session : ScriptSession) : Move → ScriptSession
  | .initializeBuild build => { session with scripts := (session.scripts.initializeBuild build).2 }
  | .shutdown => { session with scripts := session.scripts.shutdown }
  | .registerThread pointer =>
      let thread := if pointer = 0 then none else session.threads pointer
      { session with
        scripts.threads := (ScriptVM.registerThread session.scripts.threads pointer thread).2
        strayed := session.strayed || looksAway session.threads pointer }
  | .unregisterThread threadId =>
      { session with scripts.threads := ScriptVM.unregisterThread session.scripts.threads threadId }
  | .clearThreads => { session with scripts.threads := ∅ }
  | .runningThreads =>
      { session with
        strayed := session.strayed || session.scripts.threads.values.any (looksAway session.threads) }
  | .registerProgram pointer =>
      let program := if pointer = 0 then none else session.programs pointer
      { session with
        scripts.programs := (ScrProgramTable.registerProgram session.scripts.programs pointer program).2
        strayed := session.strayed || looksAway session.programs pointer }
  | .unregisterProgram hash =>
      { session with scripts.programs := ScrProgramTable.unregisterProgram session.scripts.programs hash }
  | .clearPrograms => { session with scripts.programs := ∅ }
  | .changeThread pointer thread => { session with threads := Function.update session.threads pointer thread }
  | .changeProgram pointer program => { session with programs := Function.update session.programs pointer program }

/-! ## What is found -/

/-- Whatever is registered is there, valid, and found under its own id or hash, and nothing else was looked at. -/
structure Agrees (session : ScriptSession) : Prop where
  straight : session.strayed = false
  threads : Registry.Agrees ScrThread.threadId (·.valid = true) session.threads session.scripts.threads
  programs : Registry.Agrees ScrProgram.hash (·.valid = true) session.programs session.scripts.programs

/-- Only what is there is registered, and what is registered stays valid under its id or hash. -/
def Respects (session : ScriptSession) : Move → Prop
  | .registerThread pointer => looksAway session.threads pointer = false
  | .registerProgram pointer => looksAway session.programs pointer = false
  | .changeThread pointer thread => Registry.Registered session.scripts.threads pointer →
      Registry.Stays ScrThread.threadId (·.valid = true) (session.threads pointer) thread
  | .changeProgram pointer program => Registry.Registered session.scripts.programs pointer →
      Registry.Stays ScrProgram.hash (·.valid = true) (session.programs pointer) program
  | .initializeBuild _ | .shutdown | .unregisterThread _ | .clearThreads | .runningThreads
  | .unregisterProgram _ | .clearPrograms => True

theorem registerThread_agrees {heap : Heap ScrThread} {threads : Table UInt32 Address}
    (agrees : Registry.Agrees ScrThread.threadId (·.valid = true) heap threads) (pointer : Address) :
    Registry.Agrees ScrThread.threadId (·.valid = true) heap
      (ScriptVM.registerThread threads pointer (if pointer = 0 then none else heap pointer)).2 := by
  unfold ScriptVM.registerThread
  split
  · exact agrees
  next thread found =>
    split
    · exact agrees
    next sound =>
      split at found
      · cases found
      · exact agrees.insert found (by simpa using sound)

theorem registerProgram_agrees {heap : Heap ScrProgram} {programs : Table UInt32 Address}
    (agrees : Registry.Agrees ScrProgram.hash (·.valid = true) heap programs) (pointer : Address) :
    Registry.Agrees ScrProgram.hash (·.valid = true) heap
      (ScrProgramTable.registerProgram programs pointer (if pointer = 0 then none else heap pointer)).2 := by
  unfold ScrProgramTable.registerProgram
  split
  · exact agrees
  next program found =>
    split
    · exact agrees
    next sound =>
      split at found
      · cases found
      · exact agrees.insert found (by simpa using sound)

theorem Agrees.looks {session : ScriptSession} (agrees : Agrees session) :
    session.scripts.threads.values.any (looksAway session.threads) = false := by
  rw [List.any_eq_false]
  intro pointer member
  obtain ⟨thread, live, -⟩ := agrees.threads.live (Table.enumerates_values _) member
  simp [looksAway, live]

theorem Agrees.preserved {session : ScriptSession} (agrees : Agrees session) {move : Move}
    (respects : Respects session move) : Agrees (step session move) := by
  obtain ⟨straight, threads, programs⟩ := agrees
  cases move with
  | initializeBuild build =>
    rw [step, ScriptRuntimeManager.initializeBuild]
    split
    · exact ⟨straight, threads, programs⟩
    · exact ⟨straight, .empty _, .empty _⟩
  | shutdown => exact ⟨straight, .empty _, .empty _⟩
  | registerThread pointer =>
    refine ⟨?_, registerThread_agrees threads pointer, programs⟩
    rw [step, straight]
    exact respects
  | registerProgram pointer =>
    refine ⟨?_, threads, registerProgram_agrees programs pointer⟩
    rw [step, straight]
    exact respects
  | unregisterThread threadId => exact ⟨straight, threads.erase threadId, programs⟩
  | unregisterProgram hash => exact ⟨straight, threads, programs.erase hash⟩
  | clearThreads => exact ⟨straight, .empty _, programs⟩
  | clearPrograms => exact ⟨straight, threads, .empty _⟩
  | runningThreads =>
    refine ⟨?_, threads, programs⟩
    rw [step, straight]
    exact Agrees.looks ⟨straight, threads, programs⟩
  | changeThread pointer thread => exact ⟨straight, threads.change respects, programs⟩
  | changeProgram pointer program => exact ⟨straight, threads, programs.change respects⟩

theorem Agrees.respects {session : ScriptSession} (agrees : Agrees session) (move : Move)
    (next : Agrees (step session move)) : Respects session move := by
  cases move with
  | registerThread pointer =>
    have straight := next.straight
    rw [step, agrees.straight] at straight
    exact straight
  | registerProgram pointer =>
    have straight := next.straight
    rw [step, agrees.straight] at straight
    exact straight
  | changeThread pointer thread => exact agrees.threads.stays next.threads
  | changeProgram pointer program => exact agrees.programs.stays next.programs
  | initializeBuild | shutdown | unregisterThread | clearThreads | runningThreads | unregisterProgram
  | clearPrograms => exact trivial

/-- While the runtime's pointers agree with the game, what a registry finds under an id or a hash is
there, valid, and has it. -/
theorem Agrees.findThread {session : ScriptSession} (agrees : Agrees session) {threadId : UInt32}
    (found : ScriptVM.findThread session.scripts.threads threadId ≠ 0) :
    ∃ thread, session.threads (ScriptVM.findThread session.scripts.threads threadId) = some thread ∧
      thread.threadId = threadId ∧ thread.valid = true := by
  unfold ScriptVM.findThread at found ⊢
  cases known : session.scripts.threads.lookup threadId with
  | none =>
    rw [known] at found
    exact absurd rfl found
  | some pointer => exact agrees.threads threadId pointer known

theorem Agrees.findProgram {session : ScriptSession} (agrees : Agrees session) {hash : UInt32}
    (found : ScrProgramTable.find session.scripts.programs hash ≠ 0) :
    ∃ program, session.programs (ScrProgramTable.find session.scripts.programs hash) = some program ∧
      program.hash = hash ∧ program.valid = true := by
  unfold ScrProgramTable.find at found ⊢
  cases known : session.scripts.programs.lookup hash with
  | none =>
    rw [known] at found
    exact absurd rfl found
  | some pointer => exact agrees.programs hash pointer known

/-- While the runtime's pointers agree with the game, `RunningThreads` shows
exactly the registered threads that run, each of them once. -/
theorem Agrees.runningThreads {session : ScriptSession} (agrees : Agrees session) {order : List Address}
    (shown : session.scripts.threads.Enumerates order) :
    (ScriptVM.runningThreads session.threads order).Nodup ∧ ∀ pointer,
      pointer ∈ ScriptVM.runningThreads session.threads order ↔ pointer ≠ 0 ∧ ∃ thread,
        session.threads pointer = some thread ∧ thread.running = true ∧
          session.scripts.threads.lookup thread.threadId = some pointer := by
  refine ⟨(agrees.threads.nodup shown).filter _, fun pointer => ?_⟩
  rw [ScriptVM.runningThreads, List.mem_filter]
  constructor
  · rintro ⟨member, runs⟩
    obtain ⟨thread, live, found, -⟩ := agrees.threads.live shown member
    rw [live] at runs
    simp only [Bool.and_eq_true, bne_iff_ne, Option.map_some, Option.getD_some] at runs
    exact ⟨runs.1, thread, live, runs.2, found⟩
  · rintro ⟨present, thread, live, runs, found⟩
    refine ⟨shown.mem_iff.mpr (Table.mem_values_iff.mpr ⟨_, found⟩), ?_⟩
    simp [live, runs, present]

/-- The runtime's pointers agree with the game in every state of a run, exactly
when nothing that is gone is registered and the game leaves what is registered
valid and under its id or hash. -/
theorem pointers_agree_iff (threads : Heap ScrThread) (programs : Heap ScrProgram) (moves : List Move) :
    Always step Agrees { threads, programs } moves ↔ Guarded step Respects { threads, programs } moves :=
  always_iff_guarded Agrees (fun _ _ agrees => agrees.preserved) (fun _ => id)
    (fun _ move agrees => agrees.respects move) ⟨rfl, .empty _, .empty _⟩ moves

end ScriptSession

end DevilzDen.Integrations.GTA5Enhanced
