import DevilzDen.Backend.Memory.Pointer
import DevilzDen.Runtime.RuntimeLogging

/-! Attaching the library to the game, and unloading it.

A move is one thread's next atomic step. `Attach` is called under the loader's
lock, so its calls do not overlap; a request to unload may come at any time. The
bootstrap thread owns the runtime manager, which stands here as its logger sees
it. The path of the log file and what the detection reports are parameters of
the steps that need them.
-/

set_option autoImplicit false

namespace DevilzDen

open Backend Foundation

namespace DLLBootstrap

inductive AttachPoint where
  | entered (module : Address)
  | claimed
  | cleared
  deriving DecidableEq, Repr

inductive ThreadPoint where
  | created
  | starting
  | started
  | failed
  | polling
  | stopping
  | stopped
  | exited (code : UInt32)
  deriving DecidableEq, Repr

structure Thread where
  point : ThreadPoint := .created
  runtime : RuntimeManager.Logging := {}
  deriving DecidableEq, Repr

end DLLBootstrap

/-- The variables of the library, and the calls and threads under way in it.
`returned` holds what the calls of `Attach` have returned. -/
structure DLLBootstrap where
  stopRequested : Bool := false
  running : Bool := false
  module : Address := 0
  attaching : Option DLLBootstrap.AttachPoint := none
  returned : List Bool := []
  threads : List DLLBootstrap.Thread := []
  deriving DecidableEq, Repr

namespace DLLBootstrap

def proceed (session : DLLBootstrap) (created : Bool) : DLLBootstrap :=
  match session.attaching with
  | none => session
  | some (.entered module) =>
      if module = 0 ∨ session.module ≠ 0 then
        { session with attaching := none, returned := session.returned ++ [false] }
      else { session with module, attaching := some .claimed }
  | some .claimed => { session with stopRequested := false, attaching := some .cleared }
  | some .cleared =>
      if created then
        { session with
          attaching := none
          returned := session.returned ++ [true]
          threads := session.threads ++ [{}] }
      else { session with module := 0, attaching := none, returned := session.returned ++ [false] }

def requestUnload (session : DLLBootstrap) : DLLBootstrap := { session with stopRequested := true }

def Thread.advance (stopRequested : Bool) (logPath : Text) (report : List RuntimeManager.Logging.Line)
    (thread : Thread) : Thread :=
  match thread.point with
  | .created => { point := .starting, runtime := thread.runtime.step (.start logPath report) }
  | .starting =>
      if thread.runtime.todo ≠ [] then { thread with runtime := thread.runtime.step .next }
      else { thread with point := if thread.runtime.running then .started else .failed }
  | .started => { thread with point := .polling }
  | .failed => { thread with point := .exited 1 }
  | .polling =>
      if stopRequested then { point := .stopping, runtime := thread.runtime.step .stop } else thread
  | .stopping =>
      if thread.runtime.todo ≠ [] then { thread with runtime := thread.runtime.step .next }
      else { thread with point := .stopped }
  | .stopped => { thread with point := .exited 0 }
  | .exited _ => thread

/-- What the step from this point stores in `g_running`. -/
def ThreadPoint.stores (running : Bool) : ThreadPoint → Bool
  | .started => true
  | .failed | .stopped => false
  | _ => running

inductive Move where
  | attach (module : Address)
  | proceed (created : Bool)
  | requestUnload
  | advance (thread : Nat) (logPath : Text) (report : List RuntimeManager.Logging.Line)
  | throw (thread : Nat) (what : Option Text)
  | background (thread : Nat) (line : RuntimeManager.Logging.Line)
  | push (thread call : Nat)
  | work (thread : Nat)

/-- A step in the runtime of a thread that is not the thread's own. -/
def within (session : DLLBootstrap) (index : Nat) (move : RuntimeManager.Logging.Move) : DLLBootstrap :=
  match session.threads[index]? with
  | none => session
  | some thread =>
      { session with
        threads := session.threads.set index { thread with runtime := thread.runtime.step move } }

def step (session : DLLBootstrap) : Move → DLLBootstrap
  | .attach module =>
      if session.attaching.isSome then session else { session with attaching := some (.entered module) }
  | .proceed created => session.proceed created
  | .requestUnload => session.requestUnload
  | .advance index logPath report =>
      match session.threads[index]? with
      | none => session
      | some thread =>
          { session with
            running := thread.point.stores session.running
            threads := session.threads.set index (thread.advance session.stopRequested logPath report) }
  | .throw index what => session.within index (.throw what)
  | .background index line => session.within index (.background line)
  | .push index call => session.within index (.push call)
  | .work index => session.within index .work

/-! ## One thread, one runtime -/

/-- The points between which `g_running` is set. -/
def ThreadPoint.Announced : ThreadPoint → Prop
  | .polling | .stopping | .stopped => True
  | _ => False

instance decidableAnnounced : DecidablePred ThreadPoint.Announced
  | .polling | .stopping | .stopped => isTrue trivial
  | .created | .starting | .started | .failed | .exited _ => isFalse id

/-- The points behind the loop that waits for the request to unload. -/
def ThreadPoint.Unloading : ThreadPoint → Prop
  | .stopping | .stopped => True
  | .exited code => code = 0
  | _ => False

instance decidableUnloading : DecidablePred ThreadPoint.Unloading
  | .stopping | .stopped => isTrue trivial
  | .exited code => inferInstanceAs (Decidable (code = 0))
  | .created | .starting | .started | .failed | .polling => isFalse id

/-- What the runtime of a thread is like at its point. -/
def Placed (thread : Thread) : Prop :=
  match thread.point with
  | .created => thread.runtime = {}
  | .starting => thread.runtime.session = 1
  | .started | .polling =>
      thread.runtime.session = 1 ∧ thread.runtime.todo = [] ∧ thread.runtime.running = true
  | .stopping => thread.runtime.session = 1 ∧ thread.runtime.running = false
  | .failed | .stopped | .exited _ =>
      thread.runtime.session = 1 ∧ thread.runtime.todo = [] ∧ thread.runtime.running = false

def Claiming : Option AttachPoint → Prop
  | some .claimed | some .cleared => True
  | _ => False

/-- One call of `Attach` has made one thread, or none has, and the thread's
runtime is started once and announced until it is stopped. -/
structure Single (session : DLLBootstrap) : Prop where
  module : session.module ≠ 0 ↔ Claiming session.attaching ∨ session.threads ≠ []
  claiming : Claiming session.attaching → session.threads = []
  single : session.threads.length ≤ 1
  returned : session.returned.count true = session.threads.length
  running : session.running = true ↔ ∃ thread ∈ session.threads, thread.point.Announced
  placed : ∀ thread ∈ session.threads, Placed thread

/-- The steps in a runtime that are not those of its thread. -/
inductive Foreign : RuntimeManager.Logging.Move → Prop where
  | throw (what : Option Text) : Foreign (.throw what)
  | background (line : RuntimeManager.Logging.Line) : Foreign (.background line)
  | push (call : Nat) : Foreign (.push call)
  | work : Foreign .work

theorem Foreign.frame {move : RuntimeManager.Logging.Move} (foreign : Foreign move)
    (runtime : RuntimeManager.Logging) :
    (runtime.step move).session = runtime.session ∧ (runtime.step move).running = runtime.running ∧
      (runtime.todo = [] → (runtime.step move).todo = []) := by
  cases foreign with
  | throw what =>
    simp only [RuntimeManager.Logging.step, RuntimeManager.Logging.throw]
    split
    · exact ⟨rfl, rfl, id⟩
    · split
      · exact ⟨rfl, rfl, id⟩
      · exact ⟨rfl, rfl, id⟩
      next left => exact ⟨rfl, rfl, fun none => by rw [left] at none; cases none⟩
      next left => exact ⟨rfl, rfl, fun none => by rw [left] at none; cases none⟩
  | background line =>
    simp only [RuntimeManager.Logging.step]
    split
    · exact ⟨rfl, rfl, id⟩
    · exact ⟨rfl, rfl, id⟩
  | push call => exact ⟨rfl, rfl, id⟩
  | work => exact ⟨rfl, rfl, id⟩

theorem Foreign.fresh {move : RuntimeManager.Logging.Move} (foreign : Foreign move) :
    RuntimeManager.Logging.step {} move = {} := by
  cases foreign <;> rfl

theorem next_frame (runtime : RuntimeManager.Logging) :
    runtime.next.session = runtime.session ∧ (runtime.running = false → runtime.next.running = false) := by
  unfold RuntimeManager.Logging.next
  split
  all_goals try exact ⟨rfl, id⟩
  · exact ⟨rfl, fun _ => rfl⟩
  · split <;> exact ⟨rfl, id⟩

theorem Placed.within {thread : Thread} (placed : Placed thread) {move : RuntimeManager.Logging.Move}
    (foreign : Foreign move) : Placed { thread with runtime := thread.runtime.step move } := by
  obtain ⟨session, running, rest⟩ := foreign.frame thread.runtime
  unfold Placed at placed ⊢
  dsimp only
  cases point : thread.point <;> rw [point] at placed <;> dsimp only at placed ⊢
  case created => rw [placed, foreign.fresh]
  case starting => rw [session, placed]
  case stopping => rw [session, running]; exact placed
  all_goals rw [session, running]; exact ⟨placed.1, rest placed.2.1, placed.2.2⟩

theorem Placed.advance {thread : Thread} (placed : Placed thread) (stopRequested : Bool) (logPath : Text)
    (report : List RuntimeManager.Logging.Line) : Placed (thread.advance stopRequested logPath report) := by
  obtain ⟨session, stays⟩ := next_frame thread.runtime
  unfold Placed at placed
  unfold Thread.advance
  cases point : thread.point with
  | created =>
    rw [point] at placed
    dsimp only at placed ⊢
    rw [placed]
    exact rfl
  | starting =>
    rw [point] at placed
    dsimp only at placed ⊢
    split
    · exact session.trans placed
    next done =>
      rw [not_not] at done
      cases running : thread.runtime.running with
      | true => exact ⟨placed, done, running⟩
      | false => exact ⟨placed, done, running⟩
  | started =>
    rw [point] at placed
    exact placed
  | failed =>
    rw [point] at placed
    exact placed
  | polling =>
    rw [point] at placed
    dsimp only at placed ⊢
    split
    · simp only [Placed, RuntimeManager.Logging.step, placed.2.1, placed.2.2]
      exact ⟨placed.1, rfl⟩
    · simp only [Placed, point]
      exact placed
  | stopping =>
    rw [point] at placed
    dsimp only at placed ⊢
    split
    · exact ⟨session.trans placed.1, stays placed.2⟩
    next done =>
      rw [not_not] at done
      exact ⟨placed.1, done, placed.2⟩
  | stopped =>
    rw [point] at placed
    exact placed
  | exited code =>
    rw [point] at placed
    simp only [Placed, point]
    exact placed

theorem advance_announced (thread : Thread) {running : Bool} (same : running = true ↔ thread.point.Announced)
    (stopRequested : Bool) (logPath : Text) (report : List RuntimeManager.Logging.Line) :
    thread.point.stores running = true ↔ (thread.advance stopRequested logPath report).point.Announced := by
  unfold Thread.advance
  cases point : thread.point <;> rw [point] at same <;> dsimp only [ThreadPoint.stores]
  case starting =>
    rw [same]
    split
    · exact Iff.rfl
    · split <;> simp [ThreadPoint.Announced]
  case polling =>
    rw [same]
    split
    · simp [ThreadPoint.Announced]
    · simp only [point]
  case stopping =>
    rw [same]
    split
    · exact Iff.rfl
    · simp [ThreadPoint.Announced]
  case exited code => simp only [point, same]
  all_goals simp [same, ThreadPoint.Announced]

theorem Single.proceed {session : DLLBootstrap} (single : Single session) (created : Bool) :
    Single (session.proceed created) := by
  unfold DLLBootstrap.proceed
  cases attaching : session.attaching with
  | none => exact single
  | some point =>
    have claimed := single.module
    have claiming := single.claiming
    rw [attaching] at claimed claiming
    have refused : (session.returned ++ [false]).count true = session.threads.length := by
      rw [List.count_append, single.returned]
      rfl
    cases point with
    | entered module =>
      dsimp only
      split
      · exact ⟨claimed, claiming, single.single, refused, single.running, single.placed⟩
      next free =>
        rw [not_or, not_not] at free
        have none : session.threads = [] := by
          by_contra some
          exact claimed.mpr (Or.inr some) free.2
        exact ⟨iff_of_true free.1 (Or.inl trivial), fun _ => none, single.single, single.returned,
          single.running, single.placed⟩
    | claimed => exact ⟨claimed, claiming, single.single, single.returned, single.running, single.placed⟩
    | cleared =>
      have none := claiming trivial
      have silent := single.running
      rw [none] at silent
      dsimp only
      split
      · refine ⟨iff_of_true (claimed.mpr (Or.inl trivial)) (Or.inr (by simp)), nofun, ?_, ?_, ?_, ?_⟩
        · rw [none]
          exact Nat.le_refl 1
        · rw [List.count_append, single.returned, List.length_append]
          rfl
        · rw [none, silent]
          simp [ThreadPoint.Announced]
        · rw [none]
          intro thread member
          rw [List.mem_singleton.mp member]
          exact rfl
      · exact ⟨by simp [none, Claiming], nofun, single.single, refused, single.running, single.placed⟩

theorem Single.moved {session : DLLBootstrap} (single : Single session) {index : Nat} {thread after : Thread}
    {running : Bool} (found : session.threads[index]? = some thread) (placed : Placed after)
    (announced : running = true ↔ after.point.Announced) :
    Single { session with running, threads := session.threads.set index after } := by
  have alone := single.single
  have claimed := single.module
  have claiming := single.claiming
  have counted := single.returned
  cases threads : session.threads with
  | nil =>
    rw [threads] at found
    cases found
  | cons first rest =>
    rw [threads] at found alone claimed claiming counted
    obtain rfl : rest = [] := List.eq_nil_of_length_eq_zero (Nat.le_zero.mp (Nat.le_of_succ_le_succ alone))
    cases index with
    | succ index => cases found
    | zero =>
      refine ⟨?_, fun taken => absurd (claiming taken) (List.cons_ne_nil _ _), alone, counted, ?_, ?_⟩
      · rw [claimed]
        simp
      · rw [announced]
        simp
      · intro other member
        rw [List.mem_singleton.mp member]
        exact placed

theorem Single.announced {session : DLLBootstrap} (single : Single session) {index : Nat} {thread : Thread}
    (found : session.threads[index]? = some thread) :
    session.running = true ↔ thread.point.Announced := by
  have alone := single.single
  rw [single.running]
  cases threads : session.threads with
  | nil =>
    rw [threads] at found
    cases found
  | cons first rest =>
    rw [threads] at found alone
    obtain rfl : rest = [] := List.eq_nil_of_length_eq_zero (Nat.le_zero.mp (Nat.le_of_succ_le_succ alone))
    cases index with
    | succ index => cases found
    | zero =>
      cases found
      simp

theorem Single.within {session : DLLBootstrap} (single : Single session) (index : Nat)
    {move : RuntimeManager.Logging.Move} (foreign : Foreign move) : Single (session.within index move) := by
  unfold DLLBootstrap.within
  split
  · exact single
  next thread found =>
    have placed := single.placed thread (List.mem_of_getElem? found)
    have announced := single.announced found
    exact single.moved found (placed.within foreign) announced

theorem Single.preserved (session : DLLBootstrap) (move : Move) (single : Single session) :
    Single (step session move) := by
  cases move with
  | attach module =>
    rw [step]
    split
    · exact single
    next idle =>
      have none : session.attaching = none := by simpa using idle
      have claimed := single.module
      rw [none] at claimed
      exact ⟨claimed, nofun, single.single, single.returned, single.running, single.placed⟩
  | proceed created => exact single.proceed created
  | requestUnload =>
    exact ⟨single.module, single.claiming, single.single, single.returned, single.running, single.placed⟩
  | advance index logPath report =>
    rw [step]
    split
    · exact single
    next thread found =>
      have placed := single.placed thread (List.mem_of_getElem? found)
      exact single.moved found (placed.advance _ _ _) (advance_announced thread (single.announced found) _ _ _)
  | throw index what => exact single.within index (.throw what)
  | background index line => exact single.within index (.background line)
  | push index call => exact single.within index (.push call)
  | work index => exact single.within index .work

theorem single_initial : Single {} := by
  refine ⟨iff_of_false (fun some => some rfl) ?_, fun _ => rfl, Nat.zero_le 1, rfl, iff_of_false nofun ?_, ?_⟩
  · rintro (claiming | some)
    · exact claiming
    · exact some rfl
  · rintro ⟨thread, member, _⟩
    cases member
  · intro thread member
    cases member

/-- In every run, one call of `Attach` at most succeeds, with one thread, which
starts one session of the runtime; `g_running` is set while the thread is between
the end of its `Start` and the end of its `Stop`. -/
theorem bootstrapped_once (moves : List Move) : Single (run step {} moves) :=
  run_invariant Single.preserved single_initial moves

/-! ## The request to unload -/

/-- From here on the request to unload is not cleared, unless there is to be no thread. -/
def Armed (session : DLLBootstrap) : Prop := session.threads ≠ [] ∨ session.attaching = some .cleared

instance decidableArmed (session : DLLBootstrap) : Decidable (Armed session) :=
  inferInstanceAs (Decidable (_ ∨ _))

/-- A thread that leaves its loop, or will do so when it looks. -/
def Leaving (session : DLLBootstrap) : Prop :=
  (∃ thread ∈ session.threads, thread.point.Unloading) ∨ Armed session ∧ session.stopRequested = true

theorem advance_unloading {thread : Thread} {stopRequested : Bool} {logPath : Text}
    {report : List RuntimeManager.Logging.Line}
    (unloading : (thread.advance stopRequested logPath report).point.Unloading) :
    thread.point.Unloading ∨ stopRequested = true := by
  unfold Thread.advance at unloading
  cases point : thread.point <;> rw [point] at unloading <;> dsimp only at unloading
  case starting =>
    split at unloading
    · cases unloading
    · split at unloading <;> cases unloading
  case polling =>
    split at unloading
    next asked => exact Or.inr asked
    · rw [point] at unloading
      cases unloading
  case stopping => exact Or.inl trivial
  case stopped => exact Or.inl trivial
  case exited code =>
    rw [point] at unloading
    exact Or.inl unloading
  all_goals cases unloading

theorem leaving_step {session : DLLBootstrap} {move : Move} (leaving : Leaving (step session move)) :
    Leaving session ∨ move = .requestUnload ∧ Armed session := by
  have replaced {index : Nat} {thread after : Thread} (found : session.threads[index]? = some thread)
      (unloads : after.point.Unloading → thread.point.Unloading ∨ session.stopRequested = true) {running : Bool}
      (leaving : Leaving { session with running, threads := session.threads.set index after }) :
      Leaving session := by
    have present : session.threads ≠ [] := List.ne_nil_of_mem (List.mem_of_getElem? found)
    rcases leaving with ⟨other, member, unloading⟩ | ⟨_, asked⟩
    · rcases List.mem_or_eq_of_mem_set member with kept | rfl
      · exact Or.inl ⟨other, kept, unloading⟩
      · rcases unloads unloading with already | asked
        · exact Or.inl ⟨thread, List.mem_of_getElem? found, already⟩
        · exact Or.inr ⟨Or.inl present, asked⟩
    · exact Or.inr ⟨Or.inl present, asked⟩
  have foreign {index : Nat} {inner : RuntimeManager.Logging.Move}
      (leaving : Leaving (session.within index inner)) : Leaving session := by
    unfold within at leaving
    split at leaving
    · exact leaving
    next thread found =>
      have same : ({ thread with runtime := thread.runtime.step inner } : Thread).point.Unloading →
          thread.point.Unloading ∨ session.stopRequested = true := Or.inl
      exact replaced found same leaving
  cases move with
  | attach module =>
    rw [step] at leaving
    split at leaving
    · exact Or.inl leaving
    · rcases leaving with unloading | ⟨present | cleared, asked⟩
      · exact Or.inl (Or.inl unloading)
      · exact Or.inl (Or.inr ⟨Or.inl present, asked⟩)
      · cases cleared
  | proceed created =>
    rw [step, DLLBootstrap.proceed] at leaving
    cases attaching : session.attaching with
    | none =>
      rw [attaching] at leaving
      exact Or.inl leaving
    | some point =>
      rw [attaching] at leaving
      cases point with
      | entered module =>
        dsimp only at leaving
        split at leaving
        all_goals
          rcases leaving with unloading | ⟨present | cleared, asked⟩
          · exact Or.inl (Or.inl unloading)
          · exact Or.inl (Or.inr ⟨Or.inl present, asked⟩)
          · cases cleared
      | claimed =>
        -- the flag has just been cleared
        rcases leaving with unloading | ⟨_, asked⟩
        · exact Or.inl (Or.inl unloading)
        · cases asked
      | cleared =>
        dsimp only at leaving
        split at leaving
        · rcases leaving with ⟨thread, member, unloading⟩ | ⟨_, asked⟩
          · rcases List.mem_append.mp member with old | new
            · exact Or.inl (Or.inl ⟨thread, old, unloading⟩)
            · rw [List.mem_singleton.mp new] at unloading
              cases unloading
          · exact Or.inl (Or.inr ⟨Or.inr attaching, asked⟩)
        · rcases leaving with unloading | ⟨_, asked⟩
          · exact Or.inl (Or.inl unloading)
          · exact Or.inl (Or.inr ⟨Or.inr attaching, asked⟩)
  | requestUnload =>
    rcases leaving with unloading | ⟨armed, _⟩
    · exact Or.inl (Or.inl unloading)
    · exact Or.inr ⟨rfl, armed⟩
  | advance index logPath report =>
    rw [step] at leaving
    split at leaving
    · exact Or.inl leaving
    next thread found => exact Or.inl (replaced found advance_unloading leaving)
  | throw index what => exact Or.inl (foreign leaving)
  | background index line => exact Or.inl (foreign leaving)
  | push index call => exact Or.inl (foreign leaving)
  | work index => exact Or.inl (foreign leaving)

def Clears (session : DLLBootstrap) : Move → Prop
  | .proceed _ => session.attaching = some .claimed
  | _ => False

/-- A request that is heeded is not cleared: a call of `Attach` that is to clear it has found no thread. -/
theorem Leaving.not_clears {session : DLLBootstrap} (leaving : Leaving session) (single : Single session)
    (move : Move) : ¬Clears session move := by
  intro clears
  cases move with
  | proceed created =>
    have claimed : session.attaching = some .claimed := clears
    have none := single.claiming (by rw [claimed]; trivial)
    rcases leaving with ⟨thread, member, _⟩ | ⟨present | cleared, _⟩
    · rw [none] at member
      cases member
    · exact present none
    · rw [claimed] at cleared
      cases cleared
  | attach | requestUnload | advance | throw | background | push | work => exact clears

/-- A thread that has left its loop was asked to by a request that was posted when it was there, or was to
be made, and that no call of `Attach` has cleared since. -/
theorem unloaded_on_request (moves : List Move)
    (unloading : ∃ thread ∈ (run step {} moves).threads, thread.point.Unloading) :
    ∃ earlier later, moves = earlier ++ .requestUnload :: later ∧ Armed (run step {} earlier) ∧
      Guarded step (fun session move => ¬Clears session move) (run step {} (earlier ++ [.requestUnload])) later := by
  have requested : Leaving (run step {} moves) →
      ∃ earlier later, moves = earlier ++ Move.requestUnload :: later ∧ Armed (run step {} earlier) ∧
        Guarded step (fun session move => ¬Clears session move) (run step {} (earlier ++ [.requestUnload])) later := by
    clear unloading
    induction moves using List.reverseRecOn with
    | nil =>
      rintro (⟨thread, member, _⟩ | ⟨_, asked⟩)
      · cases member
      · cases asked
    | append_singleton before move ih =>
      intro leaving
      rw [run_append] at leaving
      rcases leaving_step leaving with already | ⟨rfl, armed⟩
      · obtain ⟨earlier, later, split, armed, kept⟩ := ih already
        have stays := already.not_clears (run_invariant Single.preserved single_initial before) move
        rw [split, ← List.singleton_append, ← List.append_assoc, run_append] at stays
        exact ⟨earlier, later ++ [move], by rw [split, List.append_assoc]; rfl, armed,
          guarded_append.mpr ⟨kept, stays, trivial⟩⟩
      · exact ⟨before, [], rfl, armed, trivial⟩
  exact requested (Or.inl unloading)

def attached : List Move :=
  Move.attach 1 :: List.replicate 3 (Move.proceed true) ++ List.replicate 12 (Move.advance 0 [] [])

theorem unloaded_on_request_attached :
    ∃ earlier later, attached ++ [.requestUnload, .advance 0 [] []] = earlier ++ .requestUnload :: later ∧
      Armed (run step {} earlier) ∧
      Guarded step (fun session move => ¬Clears session move) (run step {} (earlier ++ [.requestUnload])) later :=
  unloaded_on_request _ (by decide)

end DLLBootstrap

end DevilzDen
