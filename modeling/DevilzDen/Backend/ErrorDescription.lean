import DevilzDen.Backend.Error
import DevilzDen.Foundation.Lines

/-! The text that describes an error in the logs, and what it tells of the error.

The description puts an error's texts between quotes and escapes none of them.
An origin is what an error carries besides: where it was made, an HRESULT, and
the operating system's message. Of the place where it was made, the description
leaves out the column.
-/

set_option autoImplicit false

namespace DevilzDen.Backend

open Foundation

def ErrorCode.value : ErrorCode → Nat
  | .none => 0
  | .runtimeFailure => 1000
  | .invalidArgument => 1001
  | .notFound => 1002
  | .serviceInitializationFailed => 1100
  | .serviceDependencyMissing => 1101
  | .threadCreationFailed => 2000
  | .taskExecutionFailed => 2001
  | .executorStopped => 2002
  | .windowFailure => 3000
  | .directoryOpenFailed => 4000
  | .directoryCreateFailed => 4001
  | .fileOpenFailed => 4002
  | .fileReadFailed => 4003
  | .fileWriteFailed => 4004
  | .d3d12Failure => 5000
  | .d3d12DeviceCreationFailed => 5001
  | .d3d12DeviceRemoved => 5002
  | .networkFailure => 6000
  | .unknown => 0xFFFFFFFF

def ErrorCategory.value : ErrorCategory → Nat
  | .none => 0
  | .runtime => 1
  | .service => 2
  | .threading => 3
  | .platform => 4
  | .filesystem => 5
  | .graphics => 6
  | .network => 7
  | .configuration => 8
  | .scripting => 9
  | .unknown => 10

theorem ErrorCode.value_inj {code code' : ErrorCode} (same : code.value = code'.value) : code = code' := by
  cases code <;> cases code' <;> first | rfl | cases same

theorem ErrorCategory.value_inj {category category' : ErrorCategory} (same : category.value = category'.value) :
    category = category' := by
  cases category <;> cases category' <;> first | rfl | cases same

/-- What an error carries besides the fields of `Error`. -/
structure ErrorOrigin where
  hresult : Option UInt32 := none
  nativeMessage : Text := []
  file : Text := []
  line : Nat := 0
  column : Nat := 0
  function : Text := []
  deriving DecidableEq, Repr

def ErrorOrigin.shown (origin : ErrorOrigin) : ErrorOrigin := { origin with column := 0 }

namespace Error

def quote : UInt8 := 34

def quoted (label : String) (value : Text) : Text := text label ++ quote :: (value ++ [quote])

def nativeCodePart (code : UInt32) : Text :=
  text " Win32=" ++ decimal code.toNat ++ text " (0x" ++ Numeral.render 16 code.toNat ++ text ")"

def hresultPart (code : UInt32) : Text := text " HRESULT=0x" ++ Numeral.render 16 code.toNat

def contextPart (item : Text × Text) : Text :=
  text " " ++ item.1 ++ text "=" ++ quote :: (item.2 ++ [quote])

def shownMessage (origin : ErrorOrigin) : Option Text :=
  if origin.nativeMessage.isEmpty then none else some origin.nativeMessage

def located (error : Error) (origin : ErrorOrigin) : Text :=
  text " Source=" ++ origin.file ++ text ":" ++ decimal origin.line ++ quoted " Function=" origin.function ++
    error.context.flatMap contextPart

def detailedDescription (error : Error) (origin : ErrorOrigin) : Text :=
  text "ErrorCode=" ++ decimal error.code.value ++ text " Category=" ++ decimal error.category.value ++
    quoted " Message=" error.message ++
    error.nativeCode.elim [] nativeCodePart ++
    origin.hresult.elim [] hresultPart ++
    (shownMessage origin).elim [] (quoted " NativeMessage=") ++
    located error origin

structure Unquoted (error : Error) (origin : ErrorOrigin) : Prop where
  message : quote ∉ error.message
  nativeMessage : quote ∉ origin.nativeMessage
  file : quote ∉ origin.file
  function : quote ∉ origin.function
  keys : ∀ item ∈ error.context, quote ∉ item.1
  values : ∀ item ∈ error.context, quote ∉ item.2

/-! ## Numbers and the words around them -/

theorem notMem_decimal {char : UInt8} (other : Numeral.isDigit 10 char = false) (value : Nat) :
    char ∉ decimal value := Numeral.notMem_render (by decide) (by decide) other value

theorem decimal_inj {value value' : Nat} (same : decimal value = decimal value') : value = value' := by
  have read := congrArg (Numeral.fromDigits 10) same
  rwa [decimal, decimal, Numeral.fromDigits_render (by decide) (by decide),
    Numeral.fromDigits_render (by decide) (by decide)] at read

theorem hexadecimal_inj {value value' : UInt32}
    (same : Numeral.render 16 value.toNat = Numeral.render 16 value'.toNat) : value = value' := by
  have read := congrArg (Numeral.fromDigits 16) same
  rw [Numeral.fromDigits_render (by decide) (by decide), Numeral.fromDigits_render (by decide) (by decide)] at read
  exact UInt32.toNat_inj.mp read

theorem quoted_inj {label : String} {value value' rest rest' : Text} (plain : quote ∉ value)
    (plain' : quote ∉ value') (same : quoted label value ++ rest = quoted label value' ++ rest') :
    value = value' ∧ rest = rest' := by
  simp only [quoted, List.append_assoc, List.cons_append, List.nil_append, List.append_cancel_left_eq,
    List.cons.injEq, true_and] at same
  exact (Lines.append_cons_eq_iff plain plain').mp same

theorem contexts_inj {items items' : List (Text × Text)}
    (plain : ∀ item ∈ items, quote ∉ item.1 ∧ quote ∉ item.2)
    (plain' : ∀ item ∈ items', quote ∉ item.1 ∧ quote ∉ item.2)
    (same : items.flatMap contextPart = items'.flatMap contextPart) : items = items' := by
  induction items generalizing items' with
  | nil =>
    cases items' with
    | nil => rfl
    | cons item' later' => cases same
  | cons item later ih =>
    cases items' with
    | nil => cases same
    | cons item' later' =>
      obtain ⟨key, value⟩ := item
      obtain ⟨key', value'⟩ := item'
      have here := plain _ List.mem_cons_self
      have here' := plain' _ List.mem_cons_self
      -- the key and its sign end at the first quote, the value at the next one
      have unsigned : ∀ {key : Text}, quote ∉ key → quote ∉ key ++ text "=" := fun whole member =>
        (List.mem_append.mp member).elim whole (by decide)
      simp only [List.flatMap_cons, contextPart, List.append_assoc, List.cons_append, List.nil_append,
        List.append_cancel_left_eq] at same
      rw [← List.append_assoc key, ← List.append_assoc key',
        Lines.append_cons_eq_iff (unsigned here.1) (unsigned here'.1),
        Lines.append_cons_eq_iff here.2 here'.2] at same
      obtain ⟨keys, rfl, rests⟩ := same
      cases List.append_cancel_right keys
      rw [ih (fun item member => plain item (List.mem_cons_of_mem _ member))
        (fun item member => plain' item (List.mem_cons_of_mem _ member)) rests]

theorem located_eq (error : Error) (origin : ErrorOrigin) : located error origin =
    text " Source=" ++ ((origin.file ++ 58 :: decimal origin.line) ++ text " Function=") ++
      quote :: (origin.function ++ quote :: error.context.flatMap contextPart) := by
  simp only [located, quoted, List.append_assoc, List.cons_append, List.nil_append]
  rfl

theorem notMem_place {origin : ErrorOrigin} (plain : quote ∉ origin.file) :
    quote ∉ text " Source=" ++ ((origin.file ++ 58 :: decimal origin.line) ++ text " Function=") := by
  intro member
  simp only [List.mem_append, List.mem_cons] at member
  rcases member with label | (file | sign | number) | label
  · exact absurd label (by decide)
  · exact plain file
  · exact absurd sign (by decide)
  · exact notMem_decimal (by decide) _ number
  · exact absurd label (by decide)

theorem located_inj {error error' : Error} {origin origin' : ErrorOrigin} (plain : Unquoted error origin)
    (plain' : Unquoted error' origin') (same : located error origin = located error' origin') :
    origin.file = origin'.file ∧ origin.line = origin'.line ∧ origin.function = origin'.function ∧
      error.context = error'.context := by
  rw [located_eq, located_eq, Lines.append_cons_eq_iff (notMem_place plain.file) (notMem_place plain'.file),
    Lines.append_cons_eq_iff plain.function plain'.function] at same
  obtain ⟨places, functions, contexts⟩ := same
  -- the last colon of the place stands before the line
  have places := List.append_cancel_right (List.append_cancel_left places)
  rw [Lines.append_cons_eq_iff_last (notMem_decimal (by decide) _) (notMem_decimal (by decide) _)] at places
  exact ⟨places.1, decimal_inj places.2, functions,
    contexts_inj (fun item member => ⟨plain.keys item member, plain.values item member⟩)
      (fun item member => ⟨plain'.keys item member, plain'.values item member⟩) contexts⟩

/-! ## The parts that may be left out -/

def fromMessage (error : Error) (origin : ErrorOrigin) : Text :=
  (shownMessage origin).elim [] (quoted " NativeMessage=") ++ located error origin

def fromHresult (error : Error) (origin : ErrorOrigin) : Text :=
  origin.hresult.elim [] hresultPart ++ fromMessage error origin

/-- The parts start with a blank, and then with a letter that tells which one it is. -/
def Opens (letter : UInt8) (description : Text) : Prop := ∃ rest, description = 32 :: letter :: rest

theorem Opens.only {letter other : UInt8} {description : Text} (opens : Opens letter description)
    (differs : letter ≠ other) : ¬Opens other description := by
  obtain ⟨rest, rfl⟩ := opens
  rintro ⟨rest', same⟩
  exact differs (List.cons.inj (List.cons.inj same).2).1

theorem located_opens (error : Error) (origin : ErrorOrigin) : Opens 83 (located error origin) := ⟨_, rfl⟩

theorem fromMessage_opens (error : Error) (origin : ErrorOrigin) :
    Opens 78 (fromMessage error origin) ∨ Opens 83 (fromMessage error origin) := by
  unfold fromMessage
  cases shownMessage origin with
  | none => exact Or.inr (located_opens error origin)
  | some message => exact Or.inl ⟨_, rfl⟩

theorem fromHresult_opens (error : Error) (origin : ErrorOrigin) : Opens 72 (fromHresult error origin) ∨
    Opens 78 (fromHresult error origin) ∨ Opens 83 (fromHresult error origin) := by
  unfold fromHresult
  cases origin.hresult with
  | none => exact Or.inr (fromMessage_opens error origin)
  | some code => exact Or.inl ⟨_, rfl⟩

theorem not_opens_hresult (error : Error) (origin : ErrorOrigin) : ¬Opens 72 (fromMessage error origin) := by
  rcases fromMessage_opens error origin with opens | opens
  · exact opens.only (by decide)
  · exact opens.only (by decide)

theorem not_opens_nativeCode (error : Error) (origin : ErrorOrigin) : ¬Opens 87 (fromHresult error origin) := by
  rcases fromHresult_opens error origin with opens | opens | opens
  · exact opens.only (by decide)
  · exact opens.only (by decide)
  · exact opens.only (by decide)

theorem nativeCodePart_inj {code code' : UInt32} {rest rest' : Text}
    (same : nativeCodePart code ++ rest = nativeCodePart code' ++ rest') : code = code' ∧ rest = rest' := by
  have split : ∀ (code : UInt32) (rest : Text), nativeCodePart code ++ rest = text " Win32=" ++
      (decimal code.toNat ++ 32 :: (text "(0x" ++ (Numeral.render 16 code.toNat ++ (text ")" ++ rest)))) := by
    intro code rest
    simp only [nativeCodePart, List.append_assoc]
    rfl
  rw [split, split, List.append_cancel_left_eq,
    Lines.append_cons_eq_iff (notMem_decimal (by decide) _) (notMem_decimal (by decide) _)] at same
  obtain ⟨numbers, rests⟩ := same
  cases UInt32.toNat_inj.mp (decimal_inj numbers)
  exact ⟨rfl, by simpa using rests⟩

theorem hresultPart_inj {code code' : UInt32} {rest rest' : Text}
    (same : hresultPart code ++ 32 :: rest = hresultPart code' ++ 32 :: rest') : code = code' ∧ rest = rest' := by
  have digits : ∀ code : UInt32, 32 ∉ Numeral.render 16 code.toNat := fun code =>
    Numeral.notMem_render (by decide) (by decide) (by decide) _
  rw [hresultPart, hresultPart, List.append_assoc, List.append_assoc, List.append_cancel_left_eq,
    Lines.append_cons_eq_iff (digits _) (digits _)] at same
  exact ⟨hexadecimal_inj same.1, same.2⟩

theorem shownMessage_inj {origin origin' : ErrorOrigin} (same : shownMessage origin = shownMessage origin') :
    origin.nativeMessage = origin'.nativeMessage := by
  unfold shownMessage at same
  split at same
  next empty =>
    split at same
    next empty' => rw [List.isEmpty_iff.mp empty, List.isEmpty_iff.mp empty']
    next => cases same
  next =>
    split at same
    next => cases same
    next => exact Option.some.inj same

theorem mem_shownMessage {origin : ErrorOrigin} {message : Text} (found : message ∈ shownMessage origin) :
    message = origin.nativeMessage := by
  unfold shownMessage at found
  split at found
  · cases found
  · exact (Option.some.inj found).symm

theorem fromMessage_inj {error error' : Error} {origin origin' : ErrorOrigin} (plain : Unquoted error origin)
    (plain' : Unquoted error' origin') (same : fromMessage error origin = fromMessage error' origin') :
    origin.nativeMessage = origin'.nativeMessage ∧ located error origin = located error' origin' := by
  have other : ¬Opens 78 (located error origin) := (located_opens error origin).only (by decide)
  have other' : ¬Opens 78 (located error' origin') := (located_opens error' origin').only (by decide)
  obtain ⟨messages, rests⟩ := Lines.optional_append_inj (fun _ _ => ⟨_, rfl⟩) other other'
    (fun message found message' found' => quoted_inj (mem_shownMessage found ▸ plain.nativeMessage)
      (mem_shownMessage found' ▸ plain'.nativeMessage)) same
  exact ⟨shownMessage_inj messages, rests⟩

theorem fromHresult_inj {error error' : Error} {origin origin' : ErrorOrigin} (plain : Unquoted error origin)
    (plain' : Unquoted error' origin') (same : fromHresult error origin = fromHresult error' origin') :
    error.context = error'.context ∧ origin.shown = origin'.shown := by
  have blank : ∀ (error : Error) (origin : ErrorOrigin), ∃ rest, fromMessage error origin = 32 :: rest := by
    intro error origin
    rcases fromMessage_opens error origin with ⟨rest, opens⟩ | ⟨rest, opens⟩
    · exact ⟨_, opens⟩
    · exact ⟨_, opens⟩
  obtain ⟨codes, rests⟩ := Lines.optional_append_inj (fun _ _ => ⟨_, rfl⟩) (not_opens_hresult error origin)
    (not_opens_hresult error' origin') (fun code _ code' _ same => by
      obtain ⟨rest, opens⟩ := blank error origin
      obtain ⟨rest', opens'⟩ := blank error' origin'
      rw [opens, opens'] at same ⊢
      obtain ⟨codes, rests⟩ := hresultPart_inj same
      exact ⟨codes, congrArg _ rests⟩) same
  obtain ⟨messages, places⟩ := fromMessage_inj plain plain' rests
  obtain ⟨files, lines, functions, contexts⟩ := located_inj plain plain' places
  obtain ⟨hresult, nativeMessage, file, line, column, function⟩ := origin
  obtain ⟨hresult', nativeMessage', file', line', column', function'⟩ := origin'
  cases codes
  cases messages
  cases files
  cases lines
  cases functions
  exact ⟨contexts, rfl⟩

theorem detailedDescription_inj {error error' : Error} {origin origin' : ErrorOrigin}
    (plain : Unquoted error origin) (plain' : Unquoted error' origin')
    (same : detailedDescription error origin = detailedDescription error' origin') :
    error = error' ∧ origin.shown = origin'.shown := by
  have split : ∀ (error : Error) (origin : ErrorOrigin), detailedDescription error origin = text "ErrorCode=" ++
      (decimal error.code.value ++ 32 :: (text "Category=" ++ (decimal error.category.value ++
        32 :: (quoted "Message=" error.message ++ (error.nativeCode.elim [] nativeCodePart ++
          fromHresult error origin))))) := by
    intro error origin
    simp only [detailedDescription, fromHresult, fromMessage, quoted, List.append_assoc]
    rfl
  have digits : ∀ value : Nat, 32 ∉ decimal value := notMem_decimal (by decide)
  rw [split, split, List.append_cancel_left_eq, Lines.append_cons_eq_iff (digits _) (digits _),
    List.append_cancel_left_eq, Lines.append_cons_eq_iff (digits _) (digits _)] at same
  obtain ⟨codes, categories, rests⟩ := same
  obtain ⟨messages, rests⟩ := quoted_inj plain.message plain'.message rests
  obtain ⟨nativeCodes, rests⟩ := Lines.optional_append_inj (fun _ _ => ⟨_, rfl⟩)
    (not_opens_nativeCode error origin) (not_opens_nativeCode error' origin')
    (fun _ _ _ _ => nativeCodePart_inj) rests
  obtain ⟨contexts, origins⟩ := fromHresult_inj plain plain' rests
  refine ⟨?_, origins⟩
  obtain ⟨code, category, message, nativeCode, context⟩ := error
  obtain ⟨code', category', message', nativeCode', context'⟩ := error'
  cases ErrorCode.value_inj (decimal_inj codes)
  cases ErrorCategory.value_inj (decimal_inj categories)
  cases messages
  cases nativeCodes
  cases contexts
  rfl

theorem detailedDescription_congr (error : Error) {origin origin' : ErrorOrigin}
    (same : origin.shown = origin'.shown) :
    detailedDescription error origin = detailedDescription error origin' := by
  have shown : ∀ origin : ErrorOrigin, detailedDescription error origin = detailedDescription error origin.shown :=
    fun _ => rfl
  rw [shown origin, shown origin', same]

/-- Where no text holds a quote, a description tells everything about its error
but the column where it was made, which it does not tell. -/
theorem description_determines_error {error error' : Error} {origin origin' : ErrorOrigin}
    (plain : Unquoted error origin) (plain' : Unquoted error' origin') :
    detailedDescription error origin = detailedDescription error' origin' ↔
      error = error' ∧ origin.shown = origin'.shown := by
  refine ⟨detailedDescription_inj plain plain', ?_⟩
  rintro ⟨rfl, same⟩
  exact detailedDescription_congr error same

theorem description_determines_error_win32 :
    let error := Error.fromWin32 .fileOpenFailed .filesystem 5 "Open"
    let denied : ErrorOrigin := { nativeMessage := text "Access is denied.", file := text "A.cpp", line := 7 }
    let absent : ErrorOrigin := { nativeMessage := text "Not found.", file := text "A.cpp", line := 7 }
    detailedDescription error denied ≠ detailedDescription error absent := fun same =>
  have read := (description_determines_error ⟨by decide, by decide, by decide, by decide, by decide, by decide⟩
    ⟨by decide, by decide, by decide, by decide, by decide, by decide⟩).mp same
  absurd read.2 (by decide)

/-- Two errors made on one line have one description. -/
example : detailedDescription (Error.runtime "Open") { file := text "A.cpp", line := 7, column := 9 } =
    detailedDescription (Error.runtime "Open") { file := text "A.cpp", line := 7, column := 40 } := rfl

/-- A quote in a text can pass for the end of it. -/
example : detailedDescription (Error.runtime "Open") { function := text "Load\" Key=\"Name" } =
    detailedDescription ((Error.runtime "Open").withContext "Key" (text "Name")) { function := text "Load" } := by
  decide

end Error

end DevilzDen.Backend
