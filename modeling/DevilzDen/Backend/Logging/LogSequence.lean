import DevilzDen.Backend.Logging.LoggerService
import Mathlib.Data.List.Pairwise

/-! The order of the sequence numbers in the sinks.

A number is drawn before the lock is taken, so a call can be overtaken between
the two: another call, with a later number, queues its record first. That is the
only way in which a sink is given a number behind a greater one. The counter has
64 bits; it wraps at the call after the last of them.
-/

set_option autoImplicit false

namespace DevilzDen.Backend.LoggerService

open Foundation

def Move.draws : Move → Bool
  | .log .. | .logError .. => true
  | .addSink | .start | .stop | .push _ | .work => false

/-- The calling thread has its record queued while the call of the later one,
which has the smaller number, waits for the lock. -/
def Session.Overtakes (session : Session) (call : Nat) (record later : LogRecord) : Prop :=
  session.service.accepting = true ∧ session.logging[call]? = some record ∧
    later ∈ session.logging ∧ later.sequence < record.sequence

/-- At some point of the run, the call of the second record was overtaken by that of the first. -/
def Overtaken (moves : List Move) (record later : LogRecord) : Prop :=
  ∃ earlier call rest, moves = earlier ++ .push call :: rest ∧
    (run Session.step {} earlier).Overtakes call record later

def Ordered (moves : List Move) (record later : LogRecord) : Prop :=
  record.sequence < later.sequence ∨ Overtaken moves record later

theorem Ordered.extend {moves : List Move} {record later : LogRecord} (ordered : Ordered moves record later)
    (move : Move) : Ordered (moves ++ [move]) record later := by
  rcases ordered with less | ⟨earlier, call, rest, rfl, overtakes⟩
  · exact Or.inl less
  · exact Or.inr ⟨earlier, call, rest ++ [move], by simp, overtakes⟩

/-- What a sink was given, with what it may be given next, in the order in which
the records would reach it if the waiting calls took the lock in turn. -/
def Session.trail (session : Session) (sink : List LogRecord) : List LogRecord :=
  sink ++ (inFlight session.service.worker ++ session.service.queue) ++ session.logging

def Session.outlets (session : Session) : List (List LogRecord) := [] :: session.service.sinks

/-- After the given moves, the counter has told the calls, those under way hold
their numbers in order, and every trail is ordered. -/
structure Numbered (moves : List Move) (session : Session) : Prop where
  counted : session.service.sequence.toNat = moves.countP Move.draws
  waiting : session.logging.Pairwise (·.sequence < ·.sequence)
  ordered : ∀ sink ∈ session.outlets, (session.trail sink).Pairwise (Ordered moves)
  drawn : ∀ sink ∈ session.outlets, ∀ record ∈ session.trail sink, record.sequence ≤ session.service.sequence

theorem Numbered.shrink {moves : List Move} {session after : Session} (numbered : Numbered moves session)
    {move : Move} (silent : move.draws = false) (same : after.service.sequence = session.service.sequence)
    (fewer : after.logging.Sublist session.logging)
    (trails : ∀ sink ∈ after.outlets, ∃ old ∈ session.outlets, (after.trail sink).Sublist (session.trail old)) :
    Numbered (moves ++ [move]) after := by
  refine ⟨?_, numbered.waiting.sublist fewer, fun sink member => ?_, fun sink member record given => ?_⟩
  · rw [same, numbered.counted, List.countP_append, List.countP_singleton, silent]
    rfl
  · obtain ⟨old, listed, shorter⟩ := trails sink member
    exact ((numbered.ordered old listed).sublist shorter).imp fun ordered => ordered.extend move
  · obtain ⟨old, listed, shorter⟩ := trails sink member
    rw [same]
    exact numbered.drawn old listed record (shorter.subset given)

theorem Numbered.shrinkPending {moves : List Move} {session after : Session} (numbered : Numbered moves session)
    {move : Move} (silent : move.draws = false) (same : after.service.sequence = session.service.sequence)
    (sinks : after.service.sinks = session.service.sinks) (fewer : after.logging.Sublist session.logging)
    (pending : (inFlight after.service.worker ++ after.service.queue).Sublist
      (inFlight session.service.worker ++ session.service.queue)) : Numbered (moves ++ [move]) after := by
  refine numbered.shrink silent same fewer fun sink member => ⟨sink, ?_, ?_⟩
  · rwa [Session.outlets, sinks] at member
  · exact (pending.append_left sink).append fewer

theorem Numbered.work {moves : List Move} {session : Session} (numbered : Numbered moves session)
    {service : LoggerService} (worked : Worked session.service service) :
    Numbered (moves ++ [.work]) { session with service } := by
  cases worked with
  | waited => exact numbered.shrinkPending rfl rfl rfl (List.Sublist.refl _) (List.Sublist.refl _)
  | took found queue =>
    refine numbered.shrinkPending rfl rfl rfl (List.Sublist.refl _) ?_
    simp [found, queue, inFlight]
  | left found empty ended =>
    refine numbered.shrinkPending rfl rfl rfl (List.Sublist.refl _) ?_
    simp [found, inFlight]
  | ended found empty =>
    refine numbered.shrinkPending rfl rfl rfl (List.Sublist.refl _) ?_
    simp [found, inFlight]
  | @dispatched stop loop record found =>
    refine numbered.shrink rfl rfl (List.Sublist.refl _) fun sink member => ?_
    rcases List.mem_cons.mp member with rfl | listed
    · -- a sink that comes now does not see the record
      refine ⟨[], List.mem_cons_self, ?_⟩
      simp [Session.trail, found, inFlight, dispatch]
    · obtain ⟨old, was, rfl⟩ := List.mem_map.mp listed
      refine ⟨old, List.mem_cons_of_mem _ was, ?_⟩
      simp [Session.trail, found, inFlight, dispatch]

theorem inFlight_stop (session : Session) :
    (inFlight session.stop.service.worker).Sublist (inFlight session.service.worker) := by
  unfold Session.stop
  split
  · split <;> exact List.Sublist.refl _
  · split
    · exact List.Sublist.refl _
    next worker found =>
      rw [found]
      exact List.Sublist.refl _
  · split
    · exact List.Sublist.refl _
    · split
      · exact List.nil_sublist _
      · exact List.Sublist.refl _
  · exact List.Sublist.refl _

theorem Numbered.stop {moves : List Move} {session : Session} (numbered : Numbered moves session) :
    Numbered (moves ++ [.stop]) session.stop := by
  obtain ⟨_, _, logging, sinks, queue, sequence⟩ := session.stop_frame
  apply numbered.shrinkPending rfl sequence sinks (logging ▸ List.Sublist.refl _)
  rw [queue]
  exact (inFlight_stop session).append_right _

theorem Numbered.submit {moves : List Move} {session : Session} (numbered : Numbered moves session) {move : Move}
    (draws : move.draws = true) (few : (moves ++ [move]).countP Move.draws < 2 ^ 64) (level : LogLevel)
    (message serviceName : Text) (error : Option Error) :
    Numbered (moves ++ [move]) (session.submit (session.service.makeRecord level message serviceName error)) := by
  rw [List.countP_append, List.countP_singleton, if_pos draws, ← numbered.counted] at few
  have next : (session.service.sequence + 1).toNat = session.service.sequence.toNat + 1 := by
    rw [UInt64.toNat_add, UInt64.toNat_one]
    exact Nat.mod_eq_of_lt few
  have greater {record : LogRecord} (bound : record.sequence ≤ session.service.sequence) :
      record.sequence < session.service.sequence + 1 := by
    rw [UInt64.lt_iff_toNat_lt, next]
    exact Nat.lt_succ_of_le (UInt64.le_iff_toNat_le.mp bound)
  have trail (sink : List LogRecord) :
      (session.submit (session.service.makeRecord level message serviceName error)).trail sink =
        session.trail sink ++ [⟨session.service.sequence + 1, level, message, serviceName, error⟩] := by
    simp [Session.trail, Session.submit, makeRecord]
  refine ⟨?_, ?_, fun sink member => ?_, fun sink member record given => ?_⟩
  · rw [List.countP_append, List.countP_singleton, if_pos draws, ← numbered.counted]
    exact next
  · refine List.pairwise_append.mpr
      ⟨numbered.waiting, List.pairwise_singleton _ _, fun record waits made new => ?_⟩
    rw [List.mem_singleton.mp new]
    exact greater (numbered.drawn [] List.mem_cons_self record (List.mem_append_right _ waits))
  · rw [trail]
    refine List.pairwise_append.mpr ⟨(numbered.ordered sink member).imp fun ordered => ordered.extend move,
      List.pairwise_singleton _ _, fun record given made new => ?_⟩
    rw [List.mem_singleton.mp new]
    exact Or.inl (greater (numbered.drawn sink member record given))
  · rw [trail] at given
    rcases List.mem_append.mp given with old | new
    · exact UInt64.le_of_lt (greater (numbered.drawn sink member record old))
    · rw [List.mem_singleton.mp new]
      exact UInt64.le_refl _

theorem splitAt {α : Type} {list : List α} {index : Nat} {item : α} (found : list[index]? = some item) :
    ∃ before behind, list = before ++ item :: behind ∧ list.eraseIdx index = before ++ behind := by
  obtain ⟨inside, rfl⟩ := List.getElem?_eq_some_iff.mp found
  exact ⟨list.take index, list.drop (index + 1), by rw [List.getElem_cons_drop, List.take_append_drop],
    List.eraseIdx_eq_take_drop_succ list index⟩

theorem pairwise_pull {α : Type} {R : α → α → Prop} {ahead before behind : List α} {item : α}
    (ordered : (ahead ++ (before ++ item :: behind)).Pairwise R) (passes : ∀ other ∈ before, R item other) :
    (ahead ++ item :: (before ++ behind)).Pairwise R := by
  simp only [List.pairwise_append, List.pairwise_cons, List.mem_append, List.mem_cons] at ordered ⊢
  grind

/-- The record that is queued goes before those that wait: where its number is
greater than one of theirs, it overtakes the call. -/
theorem Numbered.overtakes {moves : List Move} {session : Session} (numbered : Numbered moves session)
    (reached : run Session.step {} moves = session) {call : Nat} {record : LogRecord}
    {before behind : List LogRecord}
    (calling : session.logging[call]? = some record) (accepts : session.service.accepting = true)
    (logging : session.logging = before ++ record :: behind) :
    ∀ other ∈ before, Ordered (moves ++ [.push call]) record other := by
  intro other member
  have waiting := numbered.waiting
  rw [logging, List.pairwise_append] at waiting
  have less : other.sequence < record.sequence := waiting.2.2 other member record List.mem_cons_self
  have waits : other ∈ session.logging := by
    rw [logging]
    exact List.mem_append_left _ member
  exact Or.inr ⟨moves, call, [], rfl, by rw [reached]; exact ⟨accepts, calling, waits, less⟩⟩

theorem Numbered.queue {moves : List Move} {session : Session} (numbered : Numbered moves session)
    (reached : run Session.step {} moves = session) {call : Nat} {record : LogRecord}
    (calling : session.logging[call]? = some record) (accepts : session.service.accepting = true) :
    Numbered (moves ++ [.push call])
      { session with
        service.queue := session.service.queue ++ [record]
        logging := session.logging.eraseIdx call
        pushed := session.pushed ++ [record] } := by
  obtain ⟨before, behind, logging, erased⟩ := splitAt calling
  have overtakes := numbered.overtakes reached calling accepts logging
  have trail (sink : List LogRecord) : session.trail sink =
      sink ++ (inFlight session.service.worker ++ session.service.queue) ++ (before ++ record :: behind) := by
    rw [Session.trail, logging]
  have pulled (sink : List LogRecord) :
      ({ session with
          service.queue := session.service.queue ++ [record]
          logging := session.logging.eraseIdx call
          pushed := session.pushed ++ [record] } : Session).trail sink =
        sink ++ (inFlight session.service.worker ++ session.service.queue) ++ record :: (before ++ behind) := by
    simp [Session.trail, erased]
  refine ⟨?_, numbered.waiting.sublist (List.eraseIdx_sublist _ _), fun sink member => ?_,
    fun sink member other given => ?_⟩
  · rw [List.countP_append, List.countP_singleton, ← numbered.counted]
    rfl
  · rw [pulled]
    have ordered := (numbered.ordered sink member).imp fun ordered => ordered.extend (.push call)
    rw [trail] at ordered
    exact pairwise_pull ordered overtakes
  · rw [pulled] at given
    apply numbered.drawn sink member other
    rw [trail]
    exact (List.perm_middle.symm.append_left _).subset given

theorem Numbered.push {moves : List Move} {session : Session} (numbered : Numbered moves session)
    (reached : run Session.step {} moves = session) (call : Nat) :
    Numbered (moves ++ [.push call]) (session.push call) := by
  unfold Session.push
  split
  · exact numbered.shrinkPending rfl rfl rfl (List.Sublist.refl _) (List.Sublist.refl _)
  next record calling =>
    dsimp only
    split
    · exact numbered.shrinkPending rfl rfl rfl (List.eraseIdx_sublist _ _) (List.Sublist.refl _)
    next accepts =>
      rw [Bool.not_eq_true', Bool.not_eq_false] at accepts
      exact numbered.queue reached calling accepts

theorem Numbered.addSink {moves : List Move} {session : Session} (numbered : Numbered moves session) :
    Numbered (moves ++ [.addSink]) { session with service := session.service.addSink } := by
  refine numbered.shrink rfl rfl (List.Sublist.refl _) fun sink member => ⟨sink, ?_, List.Sublist.refl _⟩
  simp only [Session.outlets, LoggerService.addSink, List.mem_cons, List.mem_append, List.not_mem_nil,
    or_false] at member ⊢
  rcases member with rfl | old | rfl
  · exact Or.inl rfl
  · exact Or.inr old
  · exact Or.inl rfl

theorem Numbered.start {moves : List Move} {session : Session} (numbered : Numbered moves session) :
    Numbered (moves ++ [.start]) session.start := by
  unfold Session.start
  split
  · exact numbered.shrinkPending rfl rfl rfl (List.Sublist.refl _) (List.Sublist.refl _)
  next starts =>
    simp only [not_or, not_not, Bool.not_eq_true] at starts
    have started : session.service.start = { session.service with accepting := true, worker := some {} } := by
      rw [LoggerService.start, starts.2, if_neg (by decide)]
    rw [started]
    exact numbered.shrinkPending rfl rfl rfl (List.Sublist.refl _) ((List.nil_sublist _).append_right _)

theorem numbered_run (moves : List Move) (few : moves.countP Move.draws < 2 ^ 64) :
    Numbered moves (run Session.step {} moves) := by
  induction moves using List.reverseRecOn with
  | nil =>
    refine ⟨rfl, List.Pairwise.nil, fun sink member => ?_, fun sink member record given => ?_⟩
    · rw [List.mem_singleton.mp member]
      exact List.Pairwise.nil
    · rw [List.mem_singleton.mp member] at given
      cases given
  | append_singleton earlier move ih =>
    have fewer : earlier.countP Move.draws < 2 ^ 64 := by
      rw [List.countP_append] at few
      omega
    have numbered := ih fewer
    rw [run_append, run_cons, run_nil]
    cases move with
    | addSink => exact numbered.addSink
    | start => exact numbered.start
    | stop => exact numbered.stop
    | log level message serviceName => exact numbered.submit rfl few level message serviceName none
    | logError level error serviceName =>
      exact numbered.submit rfl few level error.message serviceName (some error)
    | push call => exact numbered.push rfl call
    | work => exact numbered.work (work_cases _)

theorem Numbered.given {moves : List Move} {session : Session} (numbered : Numbered moves session)
    {sink : List LogRecord} (member : sink ∈ session.service.sinks) : sink.Pairwise (Ordered moves) := by
  have ordered := numbered.ordered sink (List.mem_cons_of_mem _ member)
  rw [Session.trail, List.append_assoc] at ordered
  exact (List.pairwise_append.mp ordered).1

/-- As long as the counter has not wrapped, a sink is given the records in the
order of their numbers, but for the calls that were overtaken. -/
theorem sequences_increase_unless_overtaken (moves : List Move) (few : moves.countP Move.draws < 2 ^ 64) :
    ∀ sink ∈ (run Session.step {} moves).service.sinks, sink.Pairwise (Ordered moves) := by
  intro sink member
  exact (numbered_run moves few).given member

/-- The first call queues its record before the second, which has drawn its number by then. -/
theorem sequences_increase_unless_overtaken_in_turn :
    let moves := [.addSink, .start, .log .info [1] [], .log .info [2] [], .push 0, .push 0, .work, .work, .work,
      .work]
    (run Session.step {} moves).service.sinks.map (List.map (·.sequence)) = [[1, 2]] ∧
      ∀ sink ∈ (run Session.step {} moves).service.sinks, sink.Pairwise (Ordered moves) :=
  ⟨by decide, sequences_increase_unless_overtaken _ (by decide)⟩

/-- No call queues its record ahead of one with a smaller number that waits for the lock. -/
def InTurn (session : Session) : Move → Prop
  | .push call => ∀ record later, ¬session.Overtakes call record later
  | _ => True

theorem sequences_increase {moves : List Move} (few : moves.countP Move.draws < 2 ^ 64)
    (guarded : Guarded Session.step InTurn {} moves) :
    ∀ sink ∈ (run Session.step {} moves).service.sinks, sink.Pairwise (·.sequence < ·.sequence) := by
  intro sink member
  apply ((numbered_run moves few).given member).imp
  intro record later pair
  rcases pair with less | ⟨earlier, call, rest, rfl, overtakes⟩
  · exact less
  · exact absurd overtakes ((guarded_append.mp guarded).2.1 record later)

def oneByOne (calls : Nat) : List Move :=
  [.addSink, .start] ++ (List.replicate calls [.log .info [] [], .push 0, .work, .work]).flatten

def numberedRecords (calls : Nat) : List LogRecord :=
  (List.range calls).map fun call => ⟨UInt64.ofNat (call + 1), .info, [], [], none⟩

theorem run_oneByOne (calls : Nat) :
    run Session.step {} (oneByOne calls) =
      { service := ⟨UInt64.ofNat calls, [], [numberedRecords calls], some {}, true⟩
        opened := [[]]
        pushed := numberedRecords calls } := by
  induction calls with
  | zero => rfl
  | succ calls ih =>
    have more : oneByOne (calls + 1) = oneByOne calls ++ [.log .info [] [], .push 0, .work, .work] := by
      simp [oneByOne, List.replicate_succ']
    have next : numberedRecords (calls + 1) =
        numberedRecords calls ++ [⟨UInt64.ofNat (calls + 1), .info, [], [], none⟩] := by
      simp [numberedRecords, List.range_succ]
    rw [more, run_append, ih, next, UInt64.ofNat_add]
    rfl

/-- Of two calls, the second may queue its record first; and the call after the
last of the numbers draws zero, which no interleaving is needed for. -/
theorem sequences_out_of_order :
    (∃ sink ∈ (run Session.step {} [.addSink, .start, .log .info [1] [], .log .info [2] [], .push 1, .push 0,
      .work, .work, .work, .work]).service.sinks, ¬sink.Pairwise (·.sequence < ·.sequence)) ∧
    ∃ sink ∈ (run Session.step {} (oneByOne (2 ^ 64))).service.sinks,
      ¬sink.Pairwise (·.sequence < ·.sequence) := by
  refine ⟨?_, numberedRecords (2 ^ 64), ?_, ?_⟩
  · decide
  · rw [run_oneByOne]
    exact List.mem_singleton_self _
  · intro increasing
    rw [numberedRecords, List.pairwise_map, List.pairwise_iff_getElem] at increasing
    have wrapped := increasing 0 (2 ^ 64 - 1) (by simp) (by simp) (by omega)
    simp only [List.getElem_range] at wrapped
    exact absurd wrapped (by decide)

end DevilzDen.Backend.LoggerService
