import DevilzDen.Backend.ErrorDescription
import DevilzDen.Backend.Logging.LoggerService
import DevilzDen.Foundation.Columns

/-! The log file: how a record becomes a line, and what a run of the logger leaves in the file.

The sink's stream keeps its format from one record to the next. The first record
sets it to the left side for good, so from the second record on the zeros that
fill the milliseconds and the sequence number stand behind the digits.
-/

set_option autoImplicit false

namespace DevilzDen.Backend

open Foundation
open Foundation.Columns (Side Stream)

def LogLevel.name : LogLevel → String
  | .trace => "TRACE"
  | .debug => "DEBUG"
  | .info => "INFO"
  | .notice => "NOTICE"
  | .warning => "WARN"
  | .error => "ERROR"
  | .critical => "CRIT"
  | .fatal => "FATAL"

/-- A record with its time, in ticks of 100 ns since 1970, and with the origin of its error. -/
structure LogEntry where
  record : LogRecord
  ticks : Nat
  origin : ErrorOrigin := {}
  deriving DecidableEq, Repr

namespace LogEntry

def seconds (entry : LogEntry) : Nat := entry.ticks / 10000000

def milliseconds (entry : LogEntry) : Nat := entry.ticks / 10000 % 1000

def description (entry : LogEntry) : Option Text :=
  entry.record.error.map fun error => error.detailedDescription entry.origin

end LogEntry

structure FileSink where
  stream : Stream UInt8
  file : Text
  deriving DecidableEq, Repr

namespace FileSink

def openFile (opened : Bool) (held : Text) : FileSink :=
  { stream := { good := opened, side := .right, fill := 32, width := 0, buffer := [] }, file := held }

/-- The insertions of `Write`. `clock` writes a second as local date and time. -/
def insertRecord (clock : Nat → Text) (stream : Stream UInt8) (entry : LogEntry) : Stream UInt8 :=
  let stream := stream.insert (clock entry.seconds)
  let stream := ((stream.insert (text ".")).setfill 48).setw 3
  let stream := (stream.insert (decimal entry.milliseconds)).insert (text " | #")
  let stream := (stream.setw 6).insert (decimal entry.record.sequence.toNat)
  let stream := ((stream.insert (text " | ")).left.setfill 32).setw 6
  let stream := (stream.insert (text entry.record.level.name)).insert (text " | ")
  let stream := (stream.left.setw 24).insert entry.record.service
  let stream := (stream.insert (text " | ")).insert entry.record.message
  let stream :=
    match entry.description with
    | none => stream
    | some description => (stream.insert (text " | ")).insert description
  stream.insert [newline]

/-- `Write`. `accepted` is what the disk took of the line, where it did not take it whole. -/
def write (clock : Nat → Text) (sink : FileSink) (entry : LogEntry) (accepted : Option Nat) : FileSink :=
  if !sink.stream.good then sink
  else
    let flushed := (insertRecord clock sink.stream entry).flush accepted
    { stream := flushed.1, file := sink.file ++ flushed.2 }

/-! ## A record as a line -/

def line (clock : Nat → Text) (side : Side) (entry : LogEntry) : Text :=
  clock entry.seconds ++ text "." ++ Columns.column side 10 3 entry.milliseconds ++
    text " | #" ++ Columns.column side 10 6 entry.record.sequence.toNat ++
    text " | " ++ Columns.pad .left 6 32 (text entry.record.level.name) ++
    text " | " ++ Columns.pad .left 24 32 entry.record.service ++
    text " | " ++ entry.record.message ++
    entry.description.elim [] fun description => text " | " ++ description

theorem insertRecord_eq {stream : Stream UInt8} (good : stream.good = true) (width : stream.width = 0)
    (clock : Nat → Text) (entry : LogEntry) : insertRecord clock stream entry =
      { stream with
        side := .left
        fill := 32
        buffer := stream.buffer ++ (line clock stream.side entry ++ [newline]) } := by
  obtain ⟨good', side, fill, width', buffer⟩ := stream
  cases good
  cases width
  cases described : entry.description with
  | none => simp [insertRecord, line, described, Columns.column, decimal, Stream.insert, Stream.setw,
      Stream.setfill, Stream.left, Numeral.digitChar]
  | some description => simp [insertRecord, line, described, Columns.column, decimal, Stream.insert, Stream.setw,
      Stream.setfill, Stream.left, Numeral.digitChar]

/-! ## What a line tells of its record -/

def bar : UInt8 := 124

/-- The service and the message hold no bar, no blank ends the service, and no quote is in the error's texts. -/
structure Plain (entry : LogEntry) : Prop where
  service : bar ∉ entry.record.service
  serviceEnds : ∀ last ∈ entry.record.service.getLast?, last ≠ 32
  message : bar ∉ entry.record.message
  unquoted : ∀ error ∈ entry.record.error, error.Unquoted entry.origin

structure Agree (clock : Nat → Text) (side : Side) (entry other : LogEntry) : Prop where
  clock : clock entry.seconds = clock other.seconds
  milliseconds : Columns.Alike side 10 3 entry.milliseconds other.milliseconds
  sequence : Columns.Alike side 10 6 entry.record.sequence.toNat other.record.sequence.toNat
  level : entry.record.level = other.record.level
  service : entry.record.service = other.record.service
  message : entry.record.message = other.record.message
  error : entry.record.error = other.record.error
  origin : entry.record.error = none ∨ entry.origin.shown = other.origin.shown

theorem level_inj {level level' : LogLevel}
    (same : Columns.pad .left 6 32 (text level.name) = Columns.pad .left 6 32 (text level'.name)) :
    level = level' := by
  have all : ∀ level level' : LogLevel, text level.name = text level'.name → level = level' := by
    intro level level'
    cases level <;> cases level' <;> decide
  have ends : ∀ level : LogLevel, ∀ last ∈ (text level.name).getLast?, last ≠ 32 := by
    intro level last found
    cases level <;> cases found <;> decide
  exact all level level' ((Columns.pad_left_inj (ends level) (ends level')).mp same)

theorem description_eq_iff {entry other : LogEntry} (plain : Plain entry) (plain' : Plain other) :
    entry.description = other.description ↔
      entry.record.error = other.record.error ∧
        (entry.record.error = none ∨ entry.origin.shown = other.origin.shown) := by
  unfold LogEntry.description
  cases mine : entry.record.error with
  | none =>
    cases theirs : other.record.error with
    | none => exact ⟨fun _ => ⟨rfl, Or.inl rfl⟩, fun _ => rfl⟩
    | some error' =>
      constructor
      · intro same
        cases same
      · rintro ⟨same, -⟩
        cases same
  | some error =>
    cases theirs : other.record.error with
    | none =>
      constructor
      · intro same
        cases same
      · rintro ⟨same, -⟩
        cases same
    | some error' =>
      constructor
      · intro same
        have read := Error.detailedDescription_inj (plain.unquoted _ mine) (plain'.unquoted _ theirs)
          (Option.some.inj same)
        exact ⟨congrArg some read.1, Or.inr read.2⟩
      · rintro ⟨errors, none | origins⟩
        · cases none
        · cases errors
          exact congrArg some (Error.detailedDescription_congr error origins)

def ending (entry : LogEntry) : Text :=
  entry.record.message ++ entry.description.elim [] fun description => text " | " ++ description

theorem ending_inj {entry other : LogEntry} (plain : Plain entry) (plain' : Plain other)
    (same : ending entry = ending other) :
    entry.record.message = other.record.message ∧ entry.description = other.description := by
  -- only a description brings a bar
  have barred : ∀ {entry : LogEntry} {description : Text}, entry.description = some description →
      ending entry = (entry.record.message ++ [32]) ++ bar :: (32 :: description) := by
    intro entry description found
    rw [ending, found, List.append_assoc]
    rfl
  have unbarred : ∀ {entry : LogEntry}, entry.description = none → ending entry = entry.record.message := by
    intro entry found
    rw [ending, found]
    exact List.append_nil _
  have spaced : ∀ {entry : LogEntry}, Plain entry → bar ∉ entry.record.message ++ [32] := fun plain member =>
    (List.mem_append.mp member).elim plain.message (by decide)
  have shows : ∀ {entry : LogEntry} {description : Text}, entry.description = some description →
      bar ∈ ending entry := by
    intro entry description found
    rw [barred found]
    simp
  cases mine : entry.description with
  | none =>
    cases theirs : other.description with
    | none =>
      rw [unbarred mine, unbarred theirs] at same
      exact ⟨same, rfl⟩
    | some description' =>
      have shown := shows theirs
      rw [← same, unbarred mine] at shown
      exact absurd shown plain.message
  | some description =>
    cases theirs : other.description with
    | none =>
      have shown := shows mine
      rw [same, unbarred theirs] at shown
      exact absurd shown plain'.message
    | some description' =>
      rw [barred mine, barred theirs, Lines.append_cons_eq_iff (spaced plain) (spaced plain')] at same
      obtain ⟨messages, descriptions⟩ := same
      exact ⟨List.append_cancel_right messages, congrArg some (List.cons.inj descriptions).2⟩

theorem line_split (clock : Nat → Text) (side : Side) (entry : LogEntry) : line clock side entry =
    clock entry.seconds ++ 46 :: (Columns.column side 10 3 entry.milliseconds ++ 32 :: (text "| #" ++
      (Columns.column side 10 6 entry.record.sequence.toNat ++ 32 :: (text "| " ++
        ((Columns.pad .left 6 32 (text entry.record.level.name) ++ [32]) ++ bar :: (32 ::
          ((Columns.pad .left 24 32 entry.record.service ++ [32]) ++ bar :: (32 :: ending entry)))))))) := by
  simp only [line, ending, List.append_assoc]
  rfl

theorem notMem_column {char : UInt8} (other : Numeral.isDigit 10 char = false) (side : Side) (width value : Nat) :
    char ∉ Columns.column side 10 width value := fun member =>
  Bool.false_ne_true (other.symm.trans (Columns.isDigit_of_mem_column (by decide) (by decide) member))

theorem notMem_padded {field : Text} (whole : bar ∉ field) (width : Nat) :
    bar ∉ Columns.pad .left width 32 field ++ [32] := fun member =>
  (List.mem_append.mp member).elim (Columns.notMem_pad (by decide) whole) (by decide)

/-- Exactly what a line of the file tells of its record. On the left side, which is
the side from the second line on, a sequence number below a million and ten
times that number may look the same. -/
theorem line_tells (clock : Nat → Text) (pointless : ∀ second, 46 ∉ clock second) (side : Side)
    {entry other : LogEntry} (plain : Plain entry) (plain' : Plain other) :
    line clock side entry = line clock side other ↔ Agree clock side entry other := by
  have name : ∀ level : LogLevel, bar ∉ text level.name := by
    intro level
    cases level <;> decide
  rw [line_split, line_split, Lines.append_cons_eq_iff (pointless _) (pointless _),
    Lines.append_cons_eq_iff (notMem_column (by decide) _ _ _) (notMem_column (by decide) _ _ _),
    List.append_cancel_left_eq,
    Lines.append_cons_eq_iff (notMem_column (by decide) _ _ _) (notMem_column (by decide) _ _ _),
    List.append_cancel_left_eq,
    Lines.append_cons_eq_iff (notMem_padded (name _) _) (notMem_padded (name _) _), List.cons_eq_cons,
    Lines.append_cons_eq_iff (notMem_padded plain.service _) (notMem_padded plain'.service _), List.cons_eq_cons,
    Columns.column_eq_iff (by decide) (by decide), Columns.column_eq_iff (by decide) (by decide)]
  constructor
  · rintro ⟨clocks, milliseconds, sequences, levels, -, services, -, endings⟩
    obtain ⟨messages, descriptions⟩ := ending_inj plain plain' endings
    obtain ⟨errors, origins⟩ := (description_eq_iff plain plain').mp descriptions
    exact ⟨clocks, milliseconds, sequences, level_inj (List.append_cancel_right levels),
      (Columns.pad_left_inj plain.serviceEnds plain'.serviceEnds).mp (List.append_cancel_right services),
      messages, errors, origins⟩
  · intro agree
    have descriptions := (description_eq_iff plain plain').mpr ⟨agree.error, agree.origin⟩
    refine ⟨agree.clock, agree.milliseconds, agree.sequence, ?_, rfl, ?_, rfl, ?_⟩
    · rw [agree.level]
    · rw [agree.service]
    · rw [ending, ending, agree.message, descriptions]

theorem line_tells_tens : line (fun _ => text "12:00:00") .left ⟨⟨7, .info, [], [], none⟩, 0, {}⟩ =
    line (fun _ => text "12:00:00") .left ⟨⟨70, .info, [], [], none⟩, 0, {}⟩ := by
  refine (line_tells _ (fun _ => by decide) .left ?_ ?_).mpr ?_
  · exact ⟨by decide, (fun _ found => by cases found), by decide, fun _ found => by cases found⟩
  · exact ⟨by decide, (fun _ found => by cases found), by decide, fun _ found => by cases found⟩
  · exact ⟨rfl, Or.inl rfl, Or.inr ⟨by decide, by decide, 1, Or.inr rfl⟩, rfl, rfl, rfl, rfl, Or.inl rfl⟩

/-! ## What a run of the logger leaves in the file -/

abbrev Call := LogEntry × Option Nat

def writeAll (clock : Nat → Text) (sink : FileSink) (calls : List Call) : FileSink :=
  run (fun sink call => sink.write clock call.1 call.2) sink calls

/-- The lines of some records. The stream's side counts for the first of them. -/
def linesFrom (clock : Nat → Text) : Side → List LogEntry → List Text
  | _, [] => []
  | side, entry :: later => line clock side entry :: linesFrom clock .left later

/-- Between two records the sink holds nothing back, and no width is set. -/
structure Resting (sink : FileSink) : Prop where
  width : sink.stream.width = 0
  buffer : sink.stream.buffer = []

theorem write_bad {sink : FileSink} (bad : sink.stream.good = false) (clock : Nat → Text) (entry : LogEntry)
    (accepted : Option Nat) : sink.write clock entry accepted = sink := by
  rw [write, bad]
  rfl

theorem write_good {sink : FileSink} (resting : Resting sink) (good : sink.stream.good = true)
    (clock : Nat → Text) (entry : LogEntry) : sink.write clock entry none =
      { stream := { good := true, side := .left, fill := 32, width := 0, buffer := [] }
        file := sink.file ++ (line clock sink.stream.side entry ++ [newline]) } := by
  rw [write, insertRecord_eq good resting.width, resting.buffer, good]
  simp [Stream.flush, resting.width]

theorem write_torn {sink : FileSink} (resting : Resting sink) (good : sink.stream.good = true)
    (clock : Nat → Text) (entry : LogEntry) (count : Nat) : sink.write clock entry (some count) =
      { stream := { good := false, side := .left, fill := 32, width := 0, buffer := [] }
        file := sink.file ++ (line clock sink.stream.side entry ++ [newline]).take count } := by
  rw [write, insertRecord_eq good resting.width, resting.buffer, good]
  simp [Stream.flush, resting.width]

theorem Resting.write {sink : FileSink} (resting : Resting sink) (clock : Nat → Text) (call : Call) :
    Resting (sink.write clock call.1 call.2) := by
  obtain ⟨entry, accepted⟩ := call
  cases good : sink.stream.good with
  | false =>
    rw [write_bad good]
    exact resting
  | true =>
    cases accepted with
    | none =>
      rw [write_good resting good]
      exact ⟨rfl, rfl⟩
    | some count =>
      rw [write_torn resting good]
      exact ⟨rfl, rfl⟩

theorem Resting.writeAll {sink : FileSink} (resting : Resting sink) (clock : Nat → Text) (calls : List Call) :
    Resting (sink.writeAll clock calls) :=
  run_invariant (fun _ call resting => resting.write clock call) resting calls

def records (calls : List Call) : List LogRecord := calls.map fun call => call.1.record

/-- The file after a cycle of the logger, and the one that the cycle found.
`earlier` are the calls before the cycle, and `calls` those in it. -/
structure Recorded (clock : Nat → Text) (session : LoggerService.Session) (sink : FileSink)
    (earlier calls : List Call) : Prop where
  queued : records calls <+: session.pushed
  stopped : LoggerService.Stopped session → records calls = session.pushed
  ended : (sink.writeAll clock earlier).stream.good = false →
    (sink.writeAll clock (earlier ++ calls)).file = (sink.writeAll clock earlier).file
  whole : (sink.writeAll clock earlier).stream.good = true → (∀ call ∈ calls, call.2 = none) →
    ∃ lines, lines = linesFrom clock (sink.writeAll clock earlier).stream.side (calls.map Prod.fst) ∧
      lines.length = calls.length ∧
      (sink.writeAll clock (earlier ++ calls)).file =
        (sink.writeAll clock earlier).file ++ Lines.unlines newline lines
  torn : (sink.writeAll clock earlier).stream.good = true → ∀ before entry count later,
    calls = before ++ (entry, some count) :: later → (∀ call ∈ before, call.2 = none) →
    ∃ lines last, linesFrom clock (sink.writeAll clock earlier).stream.side (before.map Prod.fst ++ [entry]) =
        lines ++ [last] ∧
      (sink.writeAll clock (earlier ++ calls)).file =
        (sink.writeAll clock earlier).file ++ (Lines.unlines newline lines ++ (last ++ [newline]).take count)

/-- The second line of a file: its sequence number, two, reads as two hundred thousand. -/
example :
    let sink := openFile true []
    let entry : LogEntry := ⟨⟨2, .info, text "Loaded", text "GTA", none⟩, 70000, {}⟩
    (sink.writeAll (fun _ => text "12:00:00") [(entry, none), (entry, none)]).file =
      text "12:00:00.007 | #000002 | INFO   | GTA                      | Loaded\n" ++
      text "12:00:00.700 | #200000 | INFO   | GTA                      | Loaded\n" := by decide

end FileSink

end DevilzDen.Backend
