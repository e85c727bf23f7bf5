import DevilzDen.Foundation.Threads
import DevilzDen.Integrations.GTA5Enhanced.Runtime.GTARunScriptThreadsBridge

/-! `Uninstall` against the threads that call the hooked function.

A move is the next read or write of one thread: of a caller in `HookThunk` and
`OnRunScriptThreads`, or of the thread in `Uninstall`. The smoke test and the
code behind the trampoline's jump use none of the fields that the two sides
share, so they are one point each; whether the test completes is part of the move.
-/

set_option autoImplicit false

namespace DevilzDen.Integrations.GTA5Enhanced.GTARunScriptThreadsBridge.Unload

open Backend Foundation

/-- Where a caller stands. It calls, and is inside, the address it has read. -/
inductive ThunkPoint where
  | outside
  | readingActive
  | checkingOriginal
  | counting
  | testingOriginal
  | loadingOriginal
  | calling (original : Address)
  | inside (original : Address)
  | readingInstalled
  | smoking
  | leaving
  | faulted
  deriving DecidableEq, Repr

/-- The next step of a caller; `patched` tells whether the host's code still jumps
to the thunk, and `smoked` whether a smoke test completes. -/
def hookThunkStep (patched smoked : Bool) (host : Host) : ThunkPoint → Host × ThunkPoint
  | .outside => (host, if patched then .readingActive else .outside)
  | .readingActive => (host, if host.active = .this then .checkingOriginal else .outside)
  | .checkingOriginal => (host, if host.bridge.original = 0 then .outside else .counting)
  | .counting => ({ host with bridge.activeCalls := host.bridge.activeCalls + 1 }, .testingOriginal)
  -- the conditional expression reads the field twice
  | .testingOriginal => (host, if host.bridge.original = 0 then .readingInstalled else .loadingOriginal)
  | .loadingOriginal => (host, .calling host.bridge.original)
  | .calling original => (host, if original = 0 then .faulted else .inside original)
  | .inside _ => (host, .readingInstalled)
  | .readingInstalled =>
      (host, if host.bridge.installed && !host.bridge.smokeCompleted then .smoking else .leaving)
  | .smoking => ({ host with bridge.smokeCompleted := host.bridge.smokeCompleted || smoked }, .leaving)
  | .leaving => ({ host with bridge.activeCalls := host.bridge.activeCalls - 1 }, .outside)
  | .faulted => (host, .faulted)

inductive UninstallPoint where
  | notCalled
  | restoring
  | waiting
  | testingActive
  | clearingActive
  | clearingOriginal
  | clearingFields
  | releasing
  | returned
  deriving DecidableEq, Repr

/-- The host with everyone who is at work on it. `protection` is what the
system answers when `Uninstall` puts the code back. -/
structure Session where
  hookThunk : Address
  target : Address
  protection : Protection
  host : Host
  threads : List ThunkPoint
  uninstalling : UninstallPoint := .notCalled
  released : Bool := false

namespace Session

/-- A bridge after its first `Install`, with its callers still outside. -/
def started (hookThunk : Address) (before : Memory) (installation : Installation) (protection : Protection)
    (threadCount : Nat) : Session where
  hookThunk
  target := installation.runScriptThreadsAddress
  protection
  host := (install hookThunk { memory := before } installation).host
  threads := List.replicate threadCount .outside

def patched (session : Session) : Bool :=
  session.host.memory.read session.target patchSize == patch session.hookThunk

def call (session : Session) (index : Nat) (smoked : Bool := false) : Session :=
  match session.threads[index]? with
  | none => session
  | some point =>
      let (host, next) := hookThunkStep session.patched smoked session.host point
      { session with host, threads := session.threads.set index next }

def uninstall (session : Session) : Session :=
  let host := session.host
  match session.uninstalling with
  | .notCalled =>
      if !host.bridge.installed then { session with uninstalling := .returned }
      else { session with host.bridge.installed := false, uninstalling := .restoring }
  | .restoring =>
      if host.bridge.targetAddress = 0 then { session with uninstalling := .waiting }
      else
        let written := writeExecutableBytes host.memory host.bridge.targetAddress host.bridge.originalBytes
          session.protection
        { session with host.memory := written.memory, uninstalling := .waiting }
  | .waiting =>
      if host.bridge.activeCalls ≠ 0 then session else { session with uninstalling := .testingActive }
  | .testingActive =>
      let next := if host.active = .this then .clearingActive else .clearingOriginal
      { session with uninstalling := next }
  | .clearingActive => { session with host.active := .none, uninstalling := .clearingOriginal }
  | .clearingOriginal => { session with host.bridge.original := 0, uninstalling := .clearingFields }
  | .clearingFields =>
      { session with
        host.bridge := { host.bridge with
          natives := 0
          logger := 0
          targetAddress := 0
          scriptThreadsStorageAddress := 0
          expectedThreadDispatchAddress := 0 }
        uninstalling := .releasing }
  | .releasing =>
      if host.bridge.trampoline = 0 then { session with uninstalling := .returned }
      else
        { session with
          host := { host with bridge.trampoline := 0, trampoline := [] }
          released := true
          uninstalling := .returned }
  | .returned => session

end Session

inductive Move where
  | call (index : Nat) (smoked : Bool := false)
  | uninstall

def step (session : Session) : Move → Session
  | .call index smoked => session.call index smoked
  | .uninstall => session.uninstall

/-- With nobody inside the hook, the steps of `Uninstall` make up the whole call. -/
theorem run_uninstall (session : Session) (start : session.uninstalling = .notCalled)
    (idle : session.host.bridge.activeCalls = 0) :
    (run step session (List.replicate 8 .uninstall)).host =
      GTARunScriptThreadsBridge.uninstall session.host session.protection := by
  obtain ⟨hookThunk, target, protection, host, threads, uninstalling, released⟩ := session
  obtain rfl : uninstalling = .notCalled := start
  have idle : host.bridge.activeCalls = 0 := idle
  by_cases installed : host.bridge.installed = true
  · -- three tests decide what is written on the way
    by_cases active : host.active = .this <;> by_cases present : host.bridge.targetAddress = 0 <;>
      by_cases allocated : host.bridge.trampoline = 0 <;>
      simp [run, List.replicate, step, Session.uninstall, GTARunScriptThreadsBridge.uninstall, installed, idle,
        active, present, allocated]
  · simp [run, List.replicate, step, Session.uninstall, GTARunScriptThreadsBridge.uninstall, installed]

/-! ## The freed trampoline -/

def ThunkPoint.isInside (point : ThunkPoint) : Bool := point matches .inside _

def ThunkPoint.counted : ThunkPoint → Bool
  | .outside | .readingActive | .checkingOriginal | .counting => false
  | _ => true

/-- A caller that has seen the trampoline and goes on to it, or is inside. -/
def ThunkPoint.committed : ThunkPoint → Bool
  | .loadingOriginal | .calling _ | .inside _ => true
  | _ => false

/-- Once the trampoline is released, nobody is inside it, nor gets there. -/
def Safe (session : Session) : Prop :=
  session.released = true → ∀ point ∈ session.threads, point.isInside = false

/-- `Uninstall` has seen no active call, and the trampoline is still there to be read. -/
def UninstallPoint.window : UninstallPoint → Bool
  | .testingActive | .clearingActive | .clearingOriginal => true
  | _ => false

/-- No call is counted in the window, and none makes the counter wrap. -/
def Respects (session : Session) : Move → Prop
  | .call index _ => session.threads[index]? = some .counting →
      session.uninstalling.window = false ∧ session.host.bridge.activeCalls ≠ 0xFFFFFFFF
  | .uninstall => True

instance decidableRespects (session : Session) : ∀ move, Decidable (Respects session move)
  | .call index _ => inferInstanceAs (Decidable (session.threads[index]? = some .counting → _ ∧ _))
  | .uninstall => isTrue trivial

/-- The counter counts the callers; in the window there are none; and once the
trampoline cannot be read any more, nobody has read it. -/
structure Consistent (session : Session) : Prop where
  counted : session.host.bridge.activeCalls.toNat = session.threads.countP ThunkPoint.counted
  quiet : session.uninstalling.window = true → ∀ point ∈ session.threads, point.counted = false
  cleared : session.uninstalling = .clearingFields ∨ session.uninstalling = .releasing ∨
    session.released = true → session.host.bridge.original = 0 ∧
      ∀ point ∈ session.threads, point.committed = false

@[simp] theorem hookThunkStep_original (patched smoked : Bool) (host : Host) (point : ThunkPoint) :
    (hookThunkStep patched smoked host point).1.bridge.original = host.bridge.original := by
  cases point <;> rfl

theorem not_counted_hookThunkStep {patched smoked : Bool} {host : Host} {point : ThunkPoint}
    (other : point ≠ .counting) (outside : point.counted = false) :
    (hookThunkStep patched smoked host point).2.counted = false := by
  cases point with
  | outside => cases patched <;> rfl
  | readingActive | checkingOriginal =>
    rw [hookThunkStep]
    split <;> rfl
  | counting => exact absurd rfl other
  | _ => exact Bool.noConfusion outside

theorem not_committed_hookThunkStep {patched smoked : Bool} {host : Host} {point : ThunkPoint}
    (null : host.bridge.original = 0) (uncommitted : point.committed = false) :
    (hookThunkStep patched smoked host point).2.committed = false := by
  cases point with
  | outside => cases patched <;> rfl
  | readingActive | readingInstalled =>
    rw [hookThunkStep]
    split <;> rfl
  | checkingOriginal | testingOriginal =>
    rw [hookThunkStep, if_pos null]
    rfl
  | loadingOriginal | calling | inside => exact Bool.noConfusion uncommitted
  | counting | smoking | leaving | faulted => rfl

theorem activeCalls_hookThunkStep (patched smoked : Bool) {host : Host} {point : ThunkPoint}
    (room : point = .counting → host.bridge.activeCalls ≠ 0xFFFFFFFF)
    (positive : point.counted = true → host.bridge.activeCalls ≠ 0) :
    (hookThunkStep patched smoked host point).1.bridge.activeCalls.toNat + point.counted.toNat =
      host.bridge.activeCalls.toNat + (hookThunkStep patched smoked host point).2.counted.toNat := by
  cases point with
  | outside => cases patched <;> rfl
  | readingActive | checkingOriginal | testingOriginal | readingInstalled =>
    rw [hookThunkStep]
    split <;> rfl
  | calling original =>
    rw [hookThunkStep]
    split <;> rfl
  | counting =>
    have below : host.bridge.activeCalls.toNat ≠ 0xFFFFFFFF := fun full => room rfl (UInt32.toNat_inj.mp full)
    have range := host.bridge.activeCalls.toNat_lt
    have next : (host.bridge.activeCalls + 1).toNat = host.bridge.activeCalls.toNat + 1 := by
      rw [UInt32.toNat_add]
      exact Nat.mod_eq_of_lt (by simp; omega)
    simpa [hookThunkStep, ThunkPoint.counted] using next
  | leaving =>
    have one : 1 ≤ host.bridge.activeCalls := by
      rw [UInt32.le_iff_toNat_le]
      exact Nat.one_le_iff_ne_zero.mpr fun zero => positive rfl (UInt32.toNat_inj.mp zero)
    have next : (host.bridge.activeCalls - 1).toNat = host.bridge.activeCalls.toNat - 1 :=
      UInt32.toNat_sub_of_le _ _ one
    have := UInt32.le_iff_toNat_le.mp one
    simp only [hookThunkStep, ThunkPoint.counted, next, Bool.toNat_true, Bool.toNat_false]
    simp at this
    omega
  | loadingOriginal | inside | smoking | faulted => rfl

theorem Consistent.call {session : Session} (consistent : Consistent session) {index : Nat} {smoked : Bool}
    (respects : Respects session (.call index smoked)) : Consistent (session.call index smoked) := by
  unfold Session.call
  split
  · exact consistent
  next point found =>
    have member : point ∈ session.threads := List.mem_of_getElem? found
    have positive : point.counted = true → session.host.bridge.activeCalls ≠ 0 := by
      intro counted zero
      have none : session.threads.countP ThunkPoint.counted = 0 := by
        rw [← consistent.counted, zero]
        rfl
      exact List.countP_eq_zero.mp none point member counted
    have room : point = .counting → session.host.bridge.activeCalls ≠ 0xFFFFFFFF := by
      rintro rfl
      exact (respects found).2
    constructor
    · have moved := activeCalls_hookThunkStep session.patched smoked room positive
      have recount := Threads.countP_set_add ThunkPoint.counted found
        (hookThunkStep session.patched smoked session.host point).2
      have before := consistent.counted
      dsimp only
      omega
    · intro window
      have outside := consistent.quiet window
      apply Threads.forall_set outside
      apply not_counted_hookThunkStep _ (outside point member)
      rintro rfl
      exact Bool.noConfusion ((respects found).1.symm.trans window)
    · intro gone
      obtain ⟨null, none⟩ := consistent.cleared gone
      exact ⟨(hookThunkStep_original _ _ _ _).trans null,
        Threads.forall_set none (not_committed_hookThunkStep null (none point member))⟩

theorem ThunkPoint.not_committed_of_not_counted {point : ThunkPoint} (outside : point.counted = false) :
    point.committed = false := by
  cases point with
  | loadingOriginal | calling | inside => exact Bool.noConfusion outside
  | _ => rfl

theorem Consistent.uninstall {session : Session} (consistent : Consistent session) :
    Consistent session.uninstall := by
  obtain ⟨hookThunk, target, protection, host, threads, uninstalling, released⟩ := session
  obtain ⟨counted, quiet, cleared⟩ := consistent
  -- until the field is cleared, only an earlier release can have emptied it
  have earlier {next : UninstallPoint} (fields : next ≠ .clearingFields) (releasing : next ≠ .releasing)
      (gone : next = .clearingFields ∨ next = .releasing ∨ released = true) :
      host.bridge.original = 0 ∧ ∀ point ∈ threads, point.committed = false := by
    rcases gone with same | same | freed
    · exact absurd same fields
    · exact absurd same releasing
    · exact cleared (Or.inr (Or.inr freed))
  cases uninstalling with
  | notCalled =>
    dsimp only [Session.uninstall]
    split <;> exact ⟨counted, Bool.noConfusion, earlier nofun nofun⟩
  | restoring =>
    dsimp only [Session.uninstall]
    split <;> exact ⟨counted, Bool.noConfusion, earlier nofun nofun⟩
  | waiting =>
    dsimp only [Session.uninstall]
    split
    · exact ⟨counted, quiet, cleared⟩
    next zero =>
      -- the read of zero opens the window: nobody is counted at this moment
      have none : threads.countP ThunkPoint.counted = 0 := by
        rw [← counted, not_not.mp zero]
        rfl
      exact ⟨counted, fun _ point member => Bool.eq_false_iff.mpr (List.countP_eq_zero.mp none point member),
        earlier nofun nofun⟩
  | testingActive =>
    have outside := quiet rfl
    dsimp only [Session.uninstall]
    split <;> exact ⟨counted, fun _ => outside, earlier nofun nofun⟩
  | clearingActive => exact ⟨counted, fun _ => quiet rfl, earlier nofun nofun⟩
  | clearingOriginal =>
    exact ⟨counted, Bool.noConfusion,
      fun _ => ⟨rfl, fun point member => ThunkPoint.not_committed_of_not_counted (quiet rfl point member)⟩⟩
  | clearingFields => exact ⟨counted, Bool.noConfusion, fun _ => cleared (Or.inl rfl)⟩
  | releasing =>
    dsimp only [Session.uninstall]
    split
    · exact ⟨counted, Bool.noConfusion, fun _ => cleared (Or.inr (Or.inl rfl))⟩
    · exact ⟨counted, Bool.noConfusion, fun _ => cleared (Or.inr (Or.inl rfl))⟩
  | returned => exact ⟨counted, quiet, cleared⟩

theorem Consistent.preserved {session : Session} (consistent : Consistent session) {move : Move}
    (respects : Respects session move) : Consistent (step session move) := by
  cases move with
  | call index smoked => exact consistent.call respects
  | uninstall => exact consistent.uninstall

theorem Consistent.safe {session : Session} (consistent : Consistent session) : Safe session := by
  intro released point member
  have committed := (consistent.cleared (Or.inr (Or.inr released))).2 point member
  cases point with
  | inside => exact absurd committed.symm Bool.noConfusion
  | _ => rfl

theorem install_activeCalls (hookThunk : Address) (before : Memory) (installation : Installation) :
    (install hookThunk { memory := before } installation).host.bridge.activeCalls = 0 := by
  dsimp only [install]
  repeat' split
  all_goals rfl

theorem started_consistent (hookThunk : Address) (before : Memory) (installation : Installation)
    (protection : Protection) (threadCount : Nat) :
    Consistent (Session.started hookThunk before installation protection threadCount) := by
  have outside : ∀ point ∈ List.replicate threadCount ThunkPoint.outside, point = .outside :=
    fun point member => List.eq_of_mem_replicate member
  refine ⟨?_, Bool.noConfusion, ?_⟩
  · have none : (List.replicate threadCount ThunkPoint.outside).countP ThunkPoint.counted = 0 :=
      List.countP_eq_zero.mpr fun point member => by rw [outside point member]; exact Bool.noConfusion
    exact (congrArg UInt32.toNat (install_activeCalls hookThunk before installation)).trans none.symm
  · rintro (same | same | same)
    all_goals exact absurd same (by rw [Session.started]; exact nofun)

/-- No caller runs the freed trampoline in a run where no call is counted
between the last look of `Uninstall` at the counter and its write of `m_original`. -/
theorem guarded_never_runs_freed (hookThunk : Address) (before : Memory) (installation : Installation)
    (protection : Protection) (threadCount : Nat) (moves : List Move)
    (guarded : Guarded step Respects
      (Session.started hookThunk before installation protection threadCount) moves) :
    Always step Safe (Session.started hookThunk before installation protection threadCount) moves := by
  have preserved (session : Session) (move : Move) (consistent : Consistent session)
      (respects : Respects session move) : Consistent (step session move) := consistent.preserved respects
  exact Guarded.always preserved (fun _ => Consistent.safe)
    (started_consistent hookThunk before installation protection threadCount) guarded

def wholeInstallation : Installation := { halfInstallation with protection := ⟨true, true⟩ }

def awaitedCall : List Move :=
  List.replicate 4 (.call 0) ++ List.replicate 3 .uninstall ++ List.replicate 6 (.call 0) ++
    List.replicate 6 .uninstall

theorem awaited_call_never_runs_freed :
    Always step Safe (Session.started 0x7000 prologueAt2000 wholeInstallation ⟨true, true⟩ 1) awaitedCall ∧
      (run step (Session.started 0x7000 prologueAt2000 wholeInstallation ⟨true, true⟩ 1) awaitedCall).released =
        true :=
  ⟨guarded_never_runs_freed 0x7000 prologueAt2000 wholeInstallation ⟨true, true⟩ 1 awaitedCall (by decide),
    by decide⟩

/-- A caller between its check and its count, seen as none. -/
def lateCall : List Move :=
  [.call 0, .call 0, .call 0, .uninstall, .uninstall, .uninstall, .call 0, .call 0, .call 0,
    .uninstall, .uninstall, .uninstall, .uninstall, .uninstall, .call 0]

theorem freed_trampoline_runs :
    let start := Session.started 0x7000 prologueAt2000 wholeInstallation ⟨true, true⟩ 1
    (run step start lateCall).released = true ∧ (run step start lateCall).threads = [.inside 0x9000] ∧
      ¬Always step Safe start lateCall := by
  intro start
  have released : (run step start lateCall).released = true := by decide
  have inside : (run step start lateCall).threads = [.inside 0x9000] := by decide
  refine ⟨released, inside, fun always => ?_⟩
  have safe : Safe (run step start lateCall) := always lateCall [] rfl
  have outside := safe released (.inside 0x9000) (by rw [inside]; exact List.mem_cons_self)
  exact Bool.noConfusion outside

theorem call_call_call {session : Session} {index : Nat} (found : session.threads[index]? = some .counting)
    (present : session.host.bridge.original ≠ 0) :
    ((session.call index).call index).call index =
      { session with
        host.bridge.activeCalls := session.host.bridge.activeCalls + 1
        threads := session.threads.set index (.calling session.host.bridge.original) } := by
  obtain ⟨bound, _⟩ := List.getElem?_eq_some_iff.mp found
  have first : session.call index =
      { session with
        host.bridge.activeCalls := session.host.bridge.activeCalls + 1
        threads := session.threads.set index .testingOriginal } := by
    rw [Session.call, found]
    rfl
  have second : (session.call index).call index =
      { session with
        host.bridge.activeCalls := session.host.bridge.activeCalls + 1
        threads := session.threads.set index .loadingOriginal } := by
    rw [first]
    simp [Session.call, bound, hookThunkStep, present]
  rw [second]
  simp [Session.call, bound, hookThunkStep]

theorem window_releases {session : Session} (window : session.uninstalling.window = true)
    (allocated : session.host.bridge.trampoline ≠ 0) :
    ∃ count, (run step session (List.replicate count .uninstall)).released = true ∧
      (run step session (List.replicate count .uninstall)).threads = session.threads := by
  obtain ⟨hookThunk, target, protection, host, threads, uninstalling, released⟩ := session
  have allocated : host.bridge.trampoline ≠ 0 := allocated
  cases uninstalling with
  | testingActive =>
    by_cases active : host.active = .this
    · exact ⟨5, by simp [run, List.replicate, step, Session.uninstall, active, allocated]⟩
    · exact ⟨4, by simp [run, List.replicate, step, Session.uninstall, active, allocated]⟩
  | clearingActive => exact ⟨4, by simp [run, List.replicate, step, Session.uninstall, allocated]⟩
  | clearingOriginal => exact ⟨3, by simp [run, List.replicate, step, Session.uninstall, allocated]⟩
  | notCalled | restoring | waiting | clearingFields | releasing | returned => exact Bool.noConfusion window

theorem call_released_unsafe {session : Session} {index : Nat} {original : Address}
    (found : session.threads[index]? = some (.calling original)) (present : original ≠ 0)
    (released : session.released = true) : ¬Safe (session.call index) := by
  obtain ⟨bound, _⟩ := List.getElem?_eq_some_iff.mp found
  have called : session.call index = { session with threads := session.threads.set index (.inside original) } := by
    rw [Session.call, found]
    simp [hookThunkStep, present]
  intro safe
  rw [called] at safe
  exact Bool.noConfusion (safe released (.inside original) (List.mem_set bound _))

/-- The guard is no stricter than it must be: a call that is counted in the
window can go on to run the freed trampoline. -/
theorem late_call_can_run_freed {session : Session} {index : Nat}
    (found : session.threads[index]? = some .counting) (window : session.uninstalling.window = true)
    (present : session.host.bridge.original ≠ 0) (allocated : session.host.bridge.trampoline ≠ 0) :
    ∃ more, ¬Safe (run step session (.call index :: more)) := by
  obtain ⟨bound, _⟩ := List.getElem?_eq_some_iff.mp found
  have called : run step session [.call index, .call index, .call index] = _ := call_call_call found present
  have open_ : (run step session [.call index, .call index, .call index]).uninstalling.window = true := by
    rw [called]
    exact window
  obtain ⟨count, released, threads⟩ := window_releases open_ (by rw [called]; exact allocated)
  refine ⟨[.call index, .call index] ++ (List.replicate count .uninstall ++ [.call index]), ?_⟩
  rw [← List.cons_append, run_append, run_append]
  refine call_released_unsafe ?_ present released
  rw [threads, called]
  exact List.getElem?_set_self bound

end DevilzDen.Integrations.GTA5Enhanced.GTARunScriptThreadsBridge.Unload
