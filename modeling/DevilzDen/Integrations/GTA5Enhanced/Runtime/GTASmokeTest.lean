import DevilzDen.Foundation.Threads
import DevilzDen.Integrations.GTA5Enhanced.Runtime.GTARunScriptThreadsBridge

/-! The smoke test against the threads that run the hooked function.

A move is the next read or write of one thread in `OnRunScriptThreads` and
`TryNativeSmoke`, or the exchange with which `Uninstall` begins. What a thread
finds out about the natives, the script threads and its own TLS is the answer in
its move. Each thread sets and restores its own TLS context, which is left out.
-/

set_option autoImplicit false

namespace DevilzDen.Integrations.GTA5Enhanced.GTARunScriptThreadsBridge.Smoke

open Backend Foundation

/-- What the holder of the guard tests, in order; the last is the invocation. -/
inductive Check where
  | ready
  | scriptThread
  | tlsArray
  | tls
  | timer
  deriving DecidableEq, Repr

inductive SmokePoint where
  | outside
  | calling
  | testingInstalled
  | testingCompleted
  | attempting
  | checking (check : Check)
  | completing
  | logging
  | releasing
  deriving DecidableEq, Repr

def Check.passed : Check → SmokePoint
  | .ready => .checking .scriptThread
  | .scriptThread => .checking .tlsArray
  | .tlsArray => .checking .tls
  | .tls => .checking .timer
  | .timer => .completing

def Check.passes (bridge : GTARunScriptThreadsBridge) (answer : Bool) : Check → Bool
  | .ready => bridge.natives != 0 && bridge.logger != 0 && answer
  | .scriptThread | .tlsArray | .tls | .timer => answer

def smokeStep (bridge : GTARunScriptThreadsBridge) (answer : Bool) :
    SmokePoint → GTARunScriptThreadsBridge × SmokePoint
  | .outside => (bridge, .calling)
  | .calling => (bridge, .testingInstalled)
  | .testingInstalled => (bridge, if bridge.installed then .testingCompleted else .outside)
  | .testingCompleted => (bridge, if bridge.smokeCompleted then .outside else .attempting)
  | .attempting =>
      if bridge.smokeAttempting then (bridge, .outside)
      else ({ bridge with smokeAttempting := true }, .checking .ready)
  | .checking check => (bridge, if check.passes bridge answer then check.passed else .releasing)
  | .completing => ({ bridge with smokeCompleted := true }, .logging)
  | .logging => (bridge, .releasing)
  | .releasing => ({ bridge with smokeAttempting := false }, .outside)

def SmokePoint.obtained : SmokePoint → Bool
  | .completing => true
  | _ => false

/-- `successes` is the history: how many executions have obtained a timer. -/
structure Session where
  bridge : GTARunScriptThreadsBridge
  threads : List SmokePoint
  successes : Nat := 0
  deriving DecidableEq, Repr

namespace Session

/-- A bridge as `Install` leaves it, with the threads where they are at that moment. -/
def started (hookThunk : Address) (host : Host) (installation : Installation) (threads : List SmokePoint) :
    Session where
  bridge := (install hookThunk host installation).host.bridge
  threads

def call (session : Session) (index : Nat) (answer : Bool) : Session :=
  match session.threads[index]? with
  | none => session
  | some point =>
      let (bridge, next) := smokeStep session.bridge answer point
      { bridge
        threads := session.threads.set index next
        successes := session.successes + next.obtained.toNat }

end Session

inductive Move where
  | call (index : Nat) (answer : Bool := true)
  | uninstall
  deriving DecidableEq, Repr

def step (session : Session) : Move → Session
  | .call index answer => session.call index answer
  | .uninstall => { session with bridge.installed := false }

/-! ## One execution at a time -/

/-- An execution between winning `m_smokeAttempting` and releasing it. -/
def SmokePoint.holding : SmokePoint → Bool
  | .checking _ | .completing | .logging | .releasing => true
  | _ => false

def Exclusive (session : Session) : Prop := session.threads.countP SmokePoint.holding ≤ 1

def Guarding (session : Session) : Prop :=
  session.threads.countP SmokePoint.holding = session.bridge.smokeAttempting.toNat

theorem Guarding.exclusive {session : Session} (guarding : Guarding session) : Exclusive session := by
  have bound := Bool.toNat_le session.bridge.smokeAttempting
  unfold Guarding at guarding
  unfold Exclusive
  omega

theorem smokeStep_holding (answer : Bool) {bridge : GTARunScriptThreadsBridge} {point : SmokePoint}
    (held : point.holding = true → bridge.smokeAttempting = true) :
    (smokeStep bridge answer point).1.smokeAttempting.toNat + point.holding.toNat =
      bridge.smokeAttempting.toNat + (smokeStep bridge answer point).2.holding.toNat := by
  cases point with
  | outside | calling => rfl
  | testingInstalled | testingCompleted =>
    rw [smokeStep]
    split <;> rfl
  | attempting =>
    rw [smokeStep]
    split
    next taken => simp [SmokePoint.holding]
    next free => simp [SmokePoint.holding, free]
  | checking check =>
    rw [smokeStep]
    split
    · cases check <;> rfl
    · rfl
  | completing | logging => rfl
  | releasing =>
    rw [smokeStep, held rfl]
    rfl

theorem Guarding.preserved (session : Session) (move : Move) (guarding : Guarding session) :
    Guarding (step session move) := by
  cases move with
  | uninstall => exact guarding
  | call index answer =>
    rw [step, Session.call]
    split
    · exact guarding
    next point found =>
      have held : point.holding = true → session.bridge.smokeAttempting = true := by
        intro holds
        have some_ : 0 < session.threads.countP SmokePoint.holding :=
          List.countP_pos_iff.mpr ⟨point, List.mem_of_getElem? found, holds⟩
        rw [guarding] at some_
        cases attempting : session.bridge.smokeAttempting with
        | true => rfl
        | false => simp [attempting] at some_
      have moved := smokeStep_holding answer held
      have recount := Threads.countP_set_add SmokePoint.holding found (smokeStep session.bridge answer point).2
      unfold Guarding at guarding ⊢
      dsimp only
      omega

/-! ## One success -/

def OneShot (session : Session) : Prop := session.successes ≤ 1

/-- An execution that may still obtain a timer, or has one that is not recorded yet. -/
def SmokePoint.armed : SmokePoint → Bool
  | .checking _ | .completing => true
  | _ => false

/-- No execution wins the guard once the test is completed. -/
def Respects (session : Session) : Move → Prop
  | .call index _ => session.threads[index]? = some .attempting → session.bridge.smokeAttempting = false →
      session.bridge.smokeCompleted = false
  | .uninstall => True

instance decidableRespects (session : Session) : ∀ move, Decidable (Respects session move)
  | .call index _ => inferInstanceAs (Decidable (session.threads[index]? = some .attempting → _ → _))
  | .uninstall => isTrue trivial

theorem SmokePoint.holding_of_armed (point : SmokePoint) (armed : point.armed = true) : point.holding = true := by
  cases point with
  | checking | completing => rfl
  | _ => exact Bool.noConfusion armed

/-- Whoever has a timer that is not recorded is the only one, and once one is
recorded nobody can obtain another. -/
structure Recorded (session : Session) : Prop where
  guarding : Guarding session
  early : session.bridge.smokeCompleted = false →
    session.successes = session.threads.countP SmokePoint.obtained
  late : session.bridge.smokeCompleted = true →
    session.successes = 1 ∧ session.threads.countP SmokePoint.armed = 0

theorem countP_armed_le (threads : List SmokePoint) :
    threads.countP SmokePoint.armed ≤ threads.countP SmokePoint.holding :=
  List.countP_mono_left fun point _ => point.holding_of_armed

theorem countP_obtained_le (threads : List SmokePoint) :
    threads.countP SmokePoint.obtained ≤ threads.countP SmokePoint.armed := by
  apply List.countP_mono_left
  intro point _ obtained
  cases point with
  | completing => rfl
  | _ => exact Bool.noConfusion obtained

theorem Recorded.oneShot {session : Session} (recorded : Recorded session) : OneShot session := by
  unfold OneShot
  cases completed : session.bridge.smokeCompleted with
  | true => exact (recorded.late completed).1.le
  | false =>
    have armed := countP_armed_le session.threads
    have obtained := countP_obtained_le session.threads
    have exclusive := recorded.guarding.exclusive
    have early := recorded.early completed
    unfold Exclusive at exclusive
    omega

inductive Effect (bridge : GTARunScriptThreadsBridge) :
    SmokePoint → GTARunScriptThreadsBridge × SmokePoint → Prop where
  | obtains : Effect bridge (.checking .timer) (bridge, .completing)
  | records : Effect bridge .completing ({ bridge with smokeCompleted := true }, .logging)
  | wins (free : bridge.smokeAttempting = false) :
      Effect bridge .attempting ({ bridge with smokeAttempting := true }, .checking .ready)
  | other {point next : SmokePoint} {after : GTARunScriptThreadsBridge}
      (same : after.smokeCompleted = bridge.smokeCompleted) (unarmed : next.armed = true → point.armed = true)
      (before : point.obtained = false) (later : next.obtained = false) : Effect bridge point (after, next)

theorem smokeStep_effect (bridge : GTARunScriptThreadsBridge) (answer : Bool) (point : SmokePoint) :
    Effect bridge point (smokeStep bridge answer point) := by
  cases point with
  | outside | calling | logging | releasing => exact .other rfl Bool.noConfusion rfl rfl
  | testingInstalled | testingCompleted =>
    rw [smokeStep]
    split <;> exact .other rfl Bool.noConfusion rfl rfl
  | attempting =>
    rw [smokeStep]
    split
    · exact .other rfl Bool.noConfusion rfl rfl
    next free => exact .wins (by simpa using free)
  | checking check =>
    rw [smokeStep]
    split
    · cases check with
      | timer => exact .obtains
      | ready | scriptThread | tlsArray | tls => exact .other rfl (fun _ => rfl) rfl rfl
    · exact .other rfl (fun _ => rfl) rfl rfl
  | completing => exact .records

theorem Recorded.call {session : Session} (recorded : Recorded session) {index : Nat} {answer : Bool}
    (respects : Respects session (.call index answer)) : Recorded (session.call index answer) := by
  have guarding := Guarding.preserved session (.call index answer) recorded.guarding
  have exclusive := recorded.guarding.exclusive
  rw [step] at guarding
  unfold Session.call at guarding ⊢
  cases found : session.threads[index]? with
  | none => exact recorded
  | some point =>
    rw [found] at guarding
    dsimp only at guarding ⊢
    have effect := smokeStep_effect session.bridge answer point
    have recountArmed := Threads.countP_set_add SmokePoint.armed found (smokeStep session.bridge answer point).2
    have recountObtained :=
      Threads.countP_set_add SmokePoint.obtained found (smokeStep session.bridge answer point).2
    have someArmed : point.armed = true → 0 < session.threads.countP SmokePoint.armed := fun armed =>
      List.countP_pos_iff.mpr ⟨point, List.mem_of_getElem? found, armed⟩
    have atMostOne := countP_armed_le session.threads
    have obtainedArmed := countP_obtained_le session.threads
    unfold Exclusive at exclusive
    generalize smokeStep session.bridge answer point = outcome at *
    cases effect with
    | obtains =>
      have armed := someArmed rfl
      refine ⟨guarding, fun open_ => ?_, fun completed => ?_⟩
      · have early := recorded.early open_
        simp only [SmokePoint.obtained, Bool.toNat_true, Bool.toNat_false] at recountObtained ⊢
        omega
      · have late := recorded.late completed
        omega
    | records =>
      have armed := someArmed rfl
      have pending : session.bridge.smokeCompleted = false := by
        by_contra completed
        have late := recorded.late (by simpa using completed)
        omega
      have early := recorded.early pending
      refine ⟨guarding, fun open_ => Bool.noConfusion open_, fun _ => ?_⟩
      simp only [SmokePoint.obtained, SmokePoint.armed, Bool.toNat_true, Bool.toNat_false]
        at recountObtained recountArmed ⊢
      omega
    | wins free =>
      have open_ := respects found free
      refine ⟨guarding, fun _ => ?_, fun completed => Bool.noConfusion (open_.symm.trans completed)⟩
      have early := recorded.early open_
      simp only [SmokePoint.obtained, Bool.toNat_false] at recountObtained ⊢
      omega
    | @other _ next after same unarmed before later =>
      simp only [before, later, Bool.toNat_false] at recountObtained ⊢
      refine ⟨guarding, fun open_ => ?_, fun completed => ?_⟩
      · have early := recorded.early (same.symm.trans open_)
        dsimp only
        omega
      · obtain ⟨once, none⟩ := recorded.late (same.symm.trans completed)
        have unarmedPoint : point.armed = false := by
          by_contra armed
          have := someArmed (by simpa using armed)
          omega
        have unarmedNext : next.armed = false := by
          by_contra armed
          exact absurd (unarmed (by simpa using armed)) (by simp [unarmedPoint])
        simp only [unarmedPoint, unarmedNext, Bool.toNat_false] at recountArmed
        dsimp only
        omega

theorem Recorded.preserved (session : Session) (move : Move) (recorded : Recorded session)
    (respects : Respects session move) : Recorded (step session move) := by
  cases move with
  | call index answer => exact recorded.call respects
  | uninstall => exact ⟨recorded.guarding, recorded.early, recorded.late⟩

/-! ## From an installation on -/

/-- An installation that succeeds while nobody holds the guard. -/
structure Fresh (hookThunk : Address) (host : Host) (installation : Installation) (threads : List SmokePoint) :
    Prop where
  idle : host.bridge.installed = false
  succeeded : (install hookThunk host installation).succeeded = true
  unheld : threads.countP SmokePoint.holding = 0

theorem install_fresh {hookThunk : Address} {host : Host} {installation : Installation}
    (idle : host.bridge.installed = false) (succeeded : (install hookThunk host installation).succeeded = true) :
    (install hookThunk host installation).host.bridge.smokeCompleted = false ∧
      (install hookThunk host installation).host.bridge.smokeAttempting = false ∧
      (install hookThunk host installation).host.bridge.natives = installation.natives ∧
      (install hookThunk host installation).host.bridge.logger = installation.logger := by
  unfold install at succeeded ⊢
  rw [if_neg (by simp [idle])] at succeeded ⊢
  split at succeeded
  · cases succeeded
  next met =>
    rw [if_neg met]
    split at succeeded
    · cases succeeded
    next readable =>
      rw [if_neg readable]
      dsimp only at succeeded ⊢
      split at succeeded
      · cases succeeded
      next prologue =>
        rw [if_neg prologue]
        split at succeeded
        · cases succeeded
        next allocated =>
          rw [if_neg allocated]
          split at succeeded
          · cases succeeded
          next written =>
            rw [if_neg written]
            exact ⟨rfl, rfl, rfl, rfl⟩

theorem Fresh.recorded {hookThunk : Address} {host : Host} {installation : Installation} {threads : List SmokePoint}
    (fresh : Fresh hookThunk host installation threads) :
    Recorded (Session.started hookThunk host installation threads) := by
  obtain ⟨open_, free, _⟩ := install_fresh fresh.idle fresh.succeeded
  have armed := countP_armed_le threads
  have obtained := countP_obtained_le threads
  have unheld := fresh.unheld
  refine ⟨?_, fun _ => ?_, fun completed => Bool.noConfusion (open_.symm.trans completed)⟩
  · rw [Guarding, Session.started, free]
    exact unheld
  · rw [Session.started]
    dsimp only
    omega

theorem step_references (session : Session) (move : Move) :
    (step session move).bridge.natives = session.bridge.natives ∧
      (step session move).bridge.logger = session.bridge.logger := by
  cases move with
  | uninstall => exact ⟨rfl, rfl⟩
  | call index answer =>
    rw [step, Session.call]
    split
    · exact ⟨rfl, rfl⟩
    next point _ =>
      cases point with
      | attempting =>
        dsimp only [smokeStep]
        split <;> exact ⟨rfl, rfl⟩
      | _ => exact ⟨rfl, rfl⟩

theorem run_references (session : Session) (moves : List Move) :
    (run step session moves).bridge.natives = session.bridge.natives ∧
      (run step session moves).bridge.logger = session.bridge.logger := by
  have kept : ∀ before move, (before : Session).bridge.natives = session.bridge.natives ∧
      before.bridge.logger = session.bridge.logger →
      (step before move).bridge.natives = session.bridge.natives ∧
        (step before move).bridge.logger = session.bridge.logger := by
    intro before move same
    obtain ⟨natives, logger⟩ := step_references before move
    exact ⟨natives.trans same.1, logger.trans same.2⟩
  exact run_invariant kept ⟨rfl, rfl⟩ moves

/-- Everyone who wins the guard after the test is completed can complete it once more. -/
theorem late_win_succeeds {session : Session} (recorded : Recorded session) {index : Nat} {answer : Bool}
    (late : ¬Respects session (.call index answer)) (natives : session.bridge.natives ≠ 0)
    (logger : session.bridge.logger ≠ 0) :
    ¬OneShot (run step (step session (.call index answer)) (List.replicate 5 (.call index))) := by
  simp only [Respects, not_forall] at late
  obtain ⟨found, free, completed⟩ := late
  have once := (recorded.late (by simpa using completed)).1
  obtain ⟨bound, _⟩ := List.getElem?_eq_some_iff.mp found
  have won : step session (.call index answer) =
      { session with
        bridge.smokeAttempting := true
        threads := session.threads.set index (.checking .ready) } := by
    simp [step, Session.call, found, smokeStep, free, SmokePoint.obtained]
  rw [won]
  have again : (run step { session with
      bridge.smokeAttempting := true
      threads := session.threads.set index (.checking .ready) } (List.replicate 5 (.call index))).successes =
      session.successes + 1 := by
    simp [run, List.replicate, step, Session.call, smokeStep, bound, Check.passes, Check.passed,
      SmokePoint.obtained, natives, logger]
  rw [OneShot, again, once]
  omega

/-- One execution at a time holds the guard. At most one obtains a timer in a run
in which nobody wins the guard once the test is completed, and nothing less is
enough: whoever wins it then can obtain a second one. -/
theorem smoke_test_one_shot {hookThunk : Address} {host : Host} {installation : Installation}
    {threads : List SmokePoint} (fresh : Fresh hookThunk host installation threads) (moves : List Move) :
    let start := Session.started hookThunk host installation threads
    Always step Exclusive start moves ∧
      (Guarded step Respects start moves → Always step OneShot start moves) ∧
      (installation.natives ≠ 0 → installation.logger ≠ 0 → Guarded step Respects start moves →
        ∀ move, ¬Respects (run step start moves) move →
          ∃ more, ¬OneShot (run step start (moves ++ move :: more))) := by
  intro start
  refine ⟨?_, ?_, ?_⟩
  · intro done rest split
    exact (run_invariant Guarding.preserved fresh.recorded.guarding done).exclusive
  · exact Guarded.always Recorded.preserved (fun _ => Recorded.oneShot) fresh.recorded
  · intro natives logger guarded move late
    have recorded : Recorded (run step start moves) :=
      Guarded.invariant Recorded.preserved fresh.recorded guarded
    obtain ⟨_, _, given, givenLogger⟩ := install_fresh fresh.idle fresh.succeeded
    obtain ⟨keptNatives, keptLogger⟩ := run_references start moves
    cases move with
    | uninstall => exact absurd trivial late
    | call index answer =>
      refine ⟨List.replicate 5 (.call index), ?_⟩
      rw [run_append, run_cons]
      apply late_win_succeeds recorded late
      · rwa [keptNatives.trans given]
      · rwa [keptLogger.trans givenLogger]

/-- Two threads, of which the second tests the flag when the test is over. -/
def soberRun : List Move := List.replicate 13 (.call 0) ++ List.replicate 4 (.call 1)

theorem smoke_test_one_shot_sober :
    let start := Session.started 0x7000 { memory := prologueAt2000 }
      { halfInstallation with protection := ⟨true, true⟩ } [.outside, .outside]
    Always step OneShot start soberRun ∧ (run step start soberRun).successes = 1 :=
  ⟨(smoke_test_one_shot ⟨rfl, by decide, rfl⟩ soberRun).2.1 (by decide), by decide⟩

/-- Both threads have tested the flag before one of them completes the test. -/
def lateWin : List Move :=
  List.replicate 4 (.call 0) ++ List.replicate 4 (.call 1) ++ List.replicate 9 (.call 0) ++
    List.replicate 6 (.call 1)

theorem second_thread_succeeds :
    let start := Session.started 0x7000 { memory := prologueAt2000 }
      { halfInstallation with protection := ⟨true, true⟩ } [.outside, .outside]
    (run step start lateWin).successes = 2 ∧ ¬Always step OneShot start lateWin := by
  intro start
  have twice : (run step start lateWin).successes = 2 := by decide
  refine ⟨twice, fun always => ?_⟩
  have once := always lateWin [] (List.append_nil _).symm
  rw [OneShot, twice] at once
  omega

end DevilzDen.Integrations.GTA5Enhanced.GTARunScriptThreadsBridge.Smoke
