import DevilzDen.Backend.Logging.FileSink
import DevilzDen.Foundation.Splitting
import Mathlib.Data.List.Destutter

/-! The console sink: what a record looks like on the console, and a run of records.

A message is a text of fields that are joined with bars; the console shows each
field on a line of its own. Records of the same section stand under one heading.
What is written to the console is a list of colours and texts, in their order.
-/

set_option autoImplicit false

namespace DevilzDen.Backend

open Foundation

inductive ConsoleOutput where
  | attribute (value : UInt16)
  | shown (written : Text)
  deriving DecidableEq, Repr

structure ConsoleSink where
  /-- Whether the process has a console, its own or one that was made for it. -/
  usable : Bool
  defaultAttributes : UInt16 := 7
  bannerWritten : Bool := false
  lastSection : Text := []
  deriving DecidableEq, Repr

namespace ConsoleSink

/-! ## The parts of a record -/

def serviceName (service : Text) : Text :=
  if service = text "Runtime" then text "RUNTIME"
  else if service = text "Threading" then text "THREADING"
  else if service = text "GTA5_Enhanced" then text "GTA"
  else if service = text "GTA5_Enhanced.Targets" then text "TARGET"
  else if service = text "GTA5_Enhanced.Evidence" then text "EVIDENCE"
  else if service = text "GTA5_Enhanced.Natives" then text "NATIVES"
  else service

def sectionName (service : Text) : Text :=
  if service = text "GTA5_Enhanced" then text "GTA RUNTIME"
  else if service = text "GTA5_Enhanced.Targets" ∨ service = text "GTA5_Enhanced.Evidence" then text "TARGETS"
  else if service = text "GTA5_Enhanced.Natives" then text "NATIVES"
  else []

def separator : Text := text " | "

def splitFields (message : Text) : List Text := Splitting.splitOn separator message

def isNoisyEvidenceField (field : Text) : Bool :=
  ["PointeeQwords=", "Objects=", "DominantBytes=", "DominantQwords=", "Qwords="].any fun label =>
    (text label).isPrefixOf field

def friendlyKeys : List (String × String) :=
  [("CandidateCommitted", "Committed"), ("PointeeReadable", "Pointee Readable"),
    ("PointeeExecutable", "Pointee Executable"), ("ObjectSlots", "Object Slots"),
    ("ReadableObjects", "Readable Objects"), ("FirstQwordsDecoded", "First Qwords"),
    ("FirstQwordExecImagePtrs", "Executable First Qwords"), ("DominantFirstQword", "Dispatch Table"),
    ("DominantCount", "Dominant Objects"), ("DominantReadablePtrs", "Readable Dispatch Entries"),
    ("DominantExecImagePtrs", "Executable Dispatch Entries")]

def friendlyField (field : Text) : Text :=
  match Lines.cut 61 field with
  | none => field
  | some (key, value) =>
      let friendly := (friendlyKeys.find? fun names => text names.1 = key).elim key fun names => text names.2
      Columns.pad .left 27 32 friendly ++ value

def colorFor : LogLevel → UInt16
  | .trace | .debug => 7
  | .info => 11
  | .notice => 10
  | .warning => 14
  | .error => 12
  | .critical | .fatal => 79

def banner : List ConsoleOutput :=
  [.attribute 11, .shown (text "============================================================\n" ++
    text " DEVILZ_DEN  |  GTA V ENHANCED RUNTIME\n" ++
    text "============================================================\n\n")]

def heading (defaultAttributes : UInt16) (name : Text) : List ConsoleOutput :=
  [.attribute defaultAttributes, .shown (text "\n-------------------- " ++ name ++ text " " ++
    List.replicate (60 - (22 + name.length)) 45 ++ text "\n\n")]

def indentation : ConsoleOutput := .shown (List.replicate 20 32)

def lineEnd : ConsoleOutput := .shown [newline]

def fieldLine (field : Text) : List ConsoleOutput := [indentation, .shown (friendlyField field), lineEnd]

/-- The message of an evidence record: the noisy fields are left to the log file. -/
def evidence (message : Text) : List ConsoleOutput :=
  match Splitting.cutAt (text ": ") message with
  | none => [.shown message, lineEnd]
  | some (title, rest) =>
      let fields := splitFields rest
      [.shown title, lineEnd] ++ (fields.filter fun field => !isNoisyEvidenceField field).flatMap fieldLine ++
        if fields.any isNoisyEvidenceField then
          [.shown (List.replicate 20 32 ++ text "Full raw evidence          see Devilz_Den.log\n")]
        else []

def messageLines (message : Text) : List ConsoleOutput :=
  match splitFields message with
  | first :: second :: others => [.shown first, lineEnd] ++ (second :: others).flatMap fieldLine
  | _ => [.shown message, lineEnd]

/-- `time` writes a second as local time of day. -/
def body (time : Nat → Text) (defaultAttributes : UInt16) (entry : LogEntry) : List ConsoleOutput :=
  [.attribute (colorFor entry.record.level), .shown (time entry.seconds ++ text "  " ++
      Columns.pad .left 6 32 (text entry.record.level.name) ++ text " " ++
      Columns.pad .left 10 32 (serviceName entry.record.service) ++ text " ")] ++
    (if entry.record.service = text "GTA5_Enhanced.Evidence" then evidence entry.record.message
      else messageLines entry.record.message) ++
    entry.description.elim [] (fun description =>
      [.shown (List.replicate 20 32 ++ text "Error Details              "), .shown description, lineEnd]) ++
    [.attribute defaultAttributes]

def write (time : Nat → Text) (sink : ConsoleSink) (entry : LogEntry) : ConsoleSink × List ConsoleOutput :=
  if !sink.usable then (sink, [])
  else
    let opened := if sink.bannerWritten then [] else banner
    let name := sectionName entry.record.service
    if name ≠ [] ∧ name ≠ sink.lastSection then
      ({ sink with bannerWritten := true, lastSection := name },
        opened ++ heading sink.defaultAttributes name ++ body time sink.defaultAttributes entry)
    else ({ sink with bannerWritten := true }, opened ++ body time sink.defaultAttributes entry)

/-! ## The fields of a message -/

theorem join_splitFields (message : Text) : List.intercalate separator (splitFields message) = message :=
  Splitting.intercalate_splitOn (by decide) message

theorem clear_iff {field : Text} :
    Splitting.Clear separator field ↔ ¬separator <:+: field ∧ ¬text " |" <:+ field := by
  have joined : separator = [32, 124, 32] := by decide
  have barred : text " |" = [32, 124] := by decide
  rw [joined, barred]
  constructor
  · intro clear
    constructor
    · rintro ⟨earlier, later, rfl⟩
      have none := clear earlier (later ++ [32, 124, 32]) (by simp)
      simp at none
    · rintro ⟨earlier, rfl⟩
      have none := clear earlier [124, 32] (by simp)
      cases none
  · rintro ⟨without, unended⟩ earlier tail same
    -- the last three bytes on both sides are the joining separator
    cases tail using List.reverseRecOn with
    | nil => rfl
    | append_singleton tail last =>
      cases tail using List.reverseRecOn with
      | nil =>
        have ends := congrArg List.reverse same
        simp at ends
      | append_singleton tail second =>
        cases tail using List.reverseRecOn with
        | nil =>
          have ends := congrArg List.reverse same
          simp only [List.reverse_append, List.reverse_cons, List.reverse_nil, List.nil_append, List.cons_append,
            List.cons.injEq] at ends
          have whole := congrArg List.reverse ends.2.2.2
          simp only [List.reverse_reverse, List.reverse_cons, List.append_assoc] at whole
          exact absurd ⟨earlier, whole.symm⟩ unended
        | append_singleton tail third =>
          have ends := congrArg List.reverse same
          simp only [List.reverse_append, List.reverse_cons, List.reverse_nil, List.nil_append, List.cons_append,
            List.cons.injEq] at ends
          have whole := congrArg List.reverse ends.2.2.2
          simp only [List.reverse_reverse, List.reverse_append, List.reverse_cons, List.append_assoc] at whole
          exact absurd ⟨earlier, tail, by rw [whole]; simp⟩ without

/-- Exactly when a message gives back the fields it was joined from: no field
holds the separator, and none but the last ends with a bar behind a blank. -/
theorem splitFields_join_iff {fields : List Text} (present : fields ≠ []) :
    splitFields (List.intercalate separator fields) = fields ↔
      (∀ field ∈ fields, ¬separator <:+: field) ∧ ∀ field ∈ fields.dropLast, ¬text " |" <:+ field := by
  rw [splitFields, Splitting.splitOn_intercalate_iff (by decide)]
  induction fields with
  | nil => exact absurd rfl present
  | cons field later ih =>
    cases later with
    | nil => simp [Splitting.Separable]
    | cons next others =>
      have split : ∀ {holds : Text → Prop} {rest : List Text},
          (∀ other ∈ field :: rest, holds other) ↔ holds field ∧ ∀ other ∈ rest, holds other := List.forall_mem_cons
      rw [Splitting.Separable, clear_iff, ih (List.cons_ne_nil _ _), List.dropLast_cons_cons, split, split]
      exact and_and_and_comm

theorem splitFields_join_address : splitFields (List.intercalate separator [text "Located", text "Address: 0x10"]) =
    [text "Located", text "Address: 0x10"] :=
  (splitFields_join_iff (List.cons_ne_nil _ _)).mpr (by decide)

/-! ## Headings over a run -/

def writeAll (time : Nat → Text) (sink : ConsoleSink) (entries : List LogEntry) : List ConsoleOutput :=
  outputs (write time) sink entries

def block (time : Nat → Text) (defaultAttributes : UInt16) (headed : Bool) (entry : LogEntry) : List ConsoleOutput :=
  (if headed then heading defaultAttributes (sectionName entry.record.service) else []) ++
    body time defaultAttributes entry

def sections (entries : List LogEntry) : List Text :=
  (entries.map fun entry => sectionName entry.record.service).filter (· ≠ [])

def announced (headed : List Bool) (entries : List LogEntry) : List Text :=
  ((headed.zip entries).filter Prod.fst).map fun marked => sectionName marked.2.record.service

theorem write_of_usable (time : Nat → Text) {sink : ConsoleSink} (usable : sink.usable = true) (entry : LogEntry) :
    write time sink entry =
      let name := sectionName entry.record.service
      let headed : Bool := name ≠ [] ∧ name ≠ sink.lastSection
      ({ sink with bannerWritten := true, lastSection := if headed then name else sink.lastSection },
        (if sink.bannerWritten then [] else banner) ++ block time sink.defaultAttributes headed entry) := by
  rw [write, usable]
  by_cases headed : sectionName entry.record.service ≠ [] ∧ sectionName entry.record.service ≠ sink.lastSection
  · simp [headed, block]
  · simp [headed, block]

theorem writeAll_shown (time : Nat → Text) (sink : ConsoleSink) (usable : sink.usable = true)
    (opened : sink.bannerWritten = true) (entries : List LogEntry) : ∃ headed : List Bool,
      headed.length = entries.length ∧
      writeAll time sink entries = (List.zipWith (block time sink.defaultAttributes) headed entries).flatten ∧
      sink.lastSection :: announced headed entries =
        (sections entries).destutter' (· ≠ ·) sink.lastSection := by
  induction entries generalizing sink with
  | nil => exact ⟨[], rfl, rfl, rfl⟩
  | cons entry later ih =>
    have written := write_of_usable time usable entry
    rw [opened] at written
    obtain ⟨marks, lengths, shown, names⟩ := ih (write time sink entry).1
      (by rw [written]; exact usable) (by rw [written])
    by_cases headed : sectionName entry.record.service ≠ [] ∧ sectionName entry.record.service ≠ sink.lastSection
    · simp only [headed, decide_true, if_true, ne_eq, not_false_eq_true, and_self, List.nil_append] at written
      rw [written] at shown names
      refine ⟨true :: marks, congrArg (· + 1) lengths, ?_, ?_⟩
      · rw [writeAll, outputs, written, List.zipWith_cons_cons, List.flatten_cons]
        exact congrArg (_ ++ ·) shown
      · have first : sections (entry :: later) = sectionName entry.record.service :: sections later := by
          simp [sections, headed.1]
        rw [first, List.destutter'_cons_pos _ (Ne.symm headed.2), ← names]
        rfl
    · simp only [headed, decide_false, if_true, Bool.false_eq_true, if_false, List.nil_append] at written
      rw [written] at shown names
      refine ⟨false :: marks, congrArg (· + 1) lengths, ?_, ?_⟩
      · rw [writeAll, outputs, written, List.zipWith_cons_cons, List.flatten_cons]
        exact congrArg (_ ++ ·) shown
      · -- a record without a section, or of the section shown last, changes nothing
        have kept : (sections (entry :: later)).destutter' (· ≠ ·) sink.lastSection =
            (sections later).destutter' (· ≠ ·) sink.lastSection := by
          by_cases unnamed : sectionName entry.record.service = []
          · simp [sections, unnamed]
          · have same : sectionName entry.record.service = sink.lastSection := by
              by_contra other
              exact headed ⟨unnamed, other⟩
            have first : sections (entry :: later) = sink.lastSection :: sections later := by
              rw [← same]
              simp [sections, unnamed]
            rw [first, List.destutter'_cons_neg _ fun other => other rfl]
        rw [kept, ← names]
        rfl

/-- The records of a run on a fresh console come after one banner, each in its
own colours and followed by the default ones. The headings among them name the
sections of the records, where these have one, without repeating the last one. -/
theorem headings_follow_sections (time : Nat → Text) (defaultAttributes : UInt16) (first : LogEntry)
    (later : List LogEntry) : ∃ headed : List Bool, headed.length = later.length + 1 ∧
      writeAll time { usable := true, defaultAttributes } (first :: later) =
        banner ++ (List.zipWith (block time defaultAttributes) headed (first :: later)).flatten ∧
      announced headed (first :: later) = (sections (first :: later)).destutter (· ≠ ·) := by
  obtain ⟨headed, lengths, shown, names⟩ := writeAll_shown time
    { usable := true, defaultAttributes, bannerWritten := true } rfl rfl (first :: later)
  refine ⟨headed, lengths, ?_, ?_⟩
  · -- the first record writes the banner, and then as it does behind one
    rw [← shown, writeAll, writeAll, outputs, outputs, write_of_usable time rfl, write_of_usable time rfl,
      ← List.append_assoc]
    rfl
  · have named : ∀ name ∈ sections (first :: later), name ≠ [] := fun name member => by
      simpa using (List.mem_filter.mp member).2
    cases found : sections (first :: later) with
    | nil =>
      rw [found] at names
      exact (List.cons.inj names).2
    | cons name others =>
      have differs : ([] : Text) ≠ name := Ne.symm (named name (found ▸ List.mem_cons_self))
      rw [found, List.destutter'_cons_pos _ differs] at names
      exact (List.cons.inj names).2

end ConsoleSink

end DevilzDen.Backend
