import DevilzDen.Backend.Memory.PatternGrammar
import DevilzDen.Integrations.GTA5Enhanced.Memory.GTATargetResolver
import DevilzDen.Integrations.GTA5Enhanced.Runtime.GTARunScriptThreadsBridge

/-! The two checks of the code at the entry of `RunScriptThreads`.

The resolver compares a formatted preview of sixteen bytes with a text, and the
bridge compares fifteen raw bytes with a table of its own.
-/

set_option autoImplicit false

namespace DevilzDen.Integrations.GTA5Enhanced

open Backend Foundation

/-- A text under construction. The field width counts for one insertion, the
other settings stay. -/
structure OutputStream where
  written : Text := []
  width : Nat := 0
  fill : UInt8 := 32
  uppercase : Bool := false
  base : Nat := 10
  deriving DecidableEq, Repr

namespace OutputStream

def insert (stream : OutputStream) (field : Text) : OutputStream :=
  { stream with
    written := stream.written ++ (List.replicate (stream.width - field.length) stream.fill ++ field)
    width := 0 }

def insertUnsigned (stream : OutputStream) (value : Nat) : OutputStream :=
  let digits := Numeral.render stream.base value
  stream.insert (if stream.uppercase then digits else digits.map toLower)

end OutputStream

namespace GTATargetEvidenceProbe

/-- The loop of `HexBytes` from an index on. -/
def writeHexBytes (stream : OutputStream) (index : Nat) : List UInt8 → OutputStream
  | [] => stream
  | byte :: later =>
      let separated := if index ≠ 0 then stream.insert (text " ") else stream
      writeHexBytes ({ separated with width := 2 }.insertUnsigned byte.toNat) (index + 1) later

def hexStream (written : Text) : OutputStream where
  written
  fill := 48
  uppercase := true
  base := 16

theorem padded_render (byte : UInt8) :
    List.replicate (2 - (Numeral.render 16 byte.toNat).length) 48 ++ Numeral.render 16 byte.toNat =
      hexByte byte := by
  have bounded := byte.toNat_lt
  by_cases small : byte.toNat < 16
  · have high : byte.toNat / 16 = 0 := Nat.div_eq_of_lt small
    have low : byte.toNat % 16 = byte.toNat := Nat.mod_eq_of_lt small
    have single : Numeral.render 16 byte.toNat = [Numeral.digitChar byte.toNat] := by
      unfold Numeral.render
      split
      next zero => rw [zero]
      next positive => simp [Nat.digits_of_lt 16 _ positive small]
    rw [single, hexByte, high, low]
    rfl
  · have pair : Numeral.render 16 byte.toNat = hexByte byte := by
      have upper : byte.toNat / 16 ≠ 0 := by omega
      rw [Numeral.render, if_neg (by omega), Nat.digits_def' (by omega) (by omega),
        Nat.digits_of_lt 16 _ upper (by omega)]
      rfl
    rw [pair]
    rfl

theorem insertUnsigned_byte (written : Text) (byte : UInt8) :
    { hexStream written with width := 2 }.insertUnsigned byte.toNat = hexStream (written ++ hexByte byte) := by
  have padded := padded_render byte
  simp [OutputStream.insertUnsigned, OutputStream.insert, hexStream, padded]

/-- Behind the first byte each one follows a blank, which no width applies to. -/
theorem writeHexBytes_later (written : Text) {index : Nat} (positive : index ≠ 0) (bytes : List UInt8) :
    writeHexBytes (hexStream written) index bytes =
      hexStream (written ++ bytes.flatMap fun byte => text " " ++ hexByte byte) := by
  induction bytes generalizing written index with
  | nil => simp [writeHexBytes]
  | cons byte later ih =>
    have separated : (hexStream written).insert (text " ") = hexStream (written ++ text " ") := by
      simp [OutputStream.insert, hexStream]
    simp only [writeHexBytes, if_pos positive, separated, insertUnsigned_byte]
    rw [ih _ (Nat.succ_ne_zero index), List.flatMap_cons, List.append_assoc, List.append_assoc, List.append_assoc]

theorem hexBytes_cons (byte : UInt8) (later : List UInt8) :
    hexBytes (byte :: later) = hexByte byte ++ later.flatMap fun other => text " " ++ hexByte other := by
  induction later generalizing byte with
  | nil => simp [hexBytes]
  | cons next others ih =>
    have rest := ih next
    rw [hexBytes, List.map_cons] at rest
    rw [hexBytes, List.map_cons, List.map_cons, List.intercalate_cons_cons, rest, List.flatMap_cons,
      List.append_assoc, List.append_assoc]

theorem writeHexBytes_eq (bytes : List UInt8) :
    (writeHexBytes (hexStream []) 0 bytes).written = hexBytes bytes := by
  cases bytes with
  | nil => rfl
  | cons byte later =>
    have first : writeHexBytes (hexStream []) 0 (byte :: later) =
        writeHexBytes (hexStream ([] ++ hexByte byte)) 1 later :=
      congrArg (writeHexBytes · 1 later) (insertUnsigned_byte [] byte)
    rw [first, writeHexBytes_later _ Nat.one_ne_zero, hexBytes_cons]
    rfl

/-! ## Reading a preview back -/

theorem hexDigit_digitChar {digit : Nat} (small : digit < 16) :
    Pattern.HexDigit (Numeral.digitChar digit) digit :=
  Pattern.hexDigit_iff.mpr ⟨Numeral.digitValue_digitChar (by omega), small⟩

theorem digits_hexByte (byte : UInt8) :
    ∀ char ∈ hexByte byte, Numeral.isDigit 16 char = true := by
  have bounded := byte.toNat_lt
  have high : Numeral.isDigit 16 (Numeral.digitChar (byte.toNat / 16)) = true :=
    Numeral.isDigit_digitChar (by omega) (by omega)
  have low : Numeral.isDigit 16 (Numeral.digitChar (byte.toNat % 16)) = true :=
    Numeral.isDigit_digitChar (by omega) (by omega)
  simp [hexByte, high, low]

theorem isSpace_of_isDigit {base : Nat} {char : UInt8} (digit : Numeral.isDigit base char = true) :
    isSpace char = false := by
  rw [Numeral.isDigit, Option.any_eq_true] at digit
  obtain ⟨value, read, _⟩ := digit
  unfold Numeral.digitValue at read
  have printable : 48 ≤ char := by
    by_contra small
    grind
  grind [isSpace]

theorem parseByte_hexByte (byte : UInt8) :
    ProcessPattern.parseByte (hexByte byte) = some { value := byte } := by
  have bounded := byte.toNat_lt
  have read := Pattern.fromChars_pair (hexDigit_digitChar (by omega : byte.toNat / 16 < 16))
    (hexDigit_digitChar (by omega : byte.toNat % 16 < 16))
  rw [Nat.div_add_mod] at read
  -- a question mark is no digit
  have exact_byte : ¬(hexByte byte = text "?" ∨ hexByte byte = text "??") := by
    intro wildcard
    have mark : (63 : UInt8) ∈ hexByte byte := by
      rcases wildcard with same | same
      all_goals rw [same]; decide
    exact absurd (digits_hexByte byte 63 mark) (by decide)
  have pair : (hexByte byte).length = 2 := rfl
  have small : ¬byte.toNat > 0xFF := by omega
  rw [ProcessPattern.parseByte, if_neg exact_byte, if_neg (by simp [pair])]
  simp only [hexByte]
  rw [read]
  simp [small]

theorem words_hexBytes (bytes : List UInt8) : Lines.words isSpace (hexBytes bytes) = bytes.map hexByte := by
  apply Lines.words_intercalate isSpace (by decide)
  · intro part member
    obtain ⟨byte, _, rfl⟩ := List.mem_map.mp member
    exact List.cons_ne_nil _ _
  · intro part member char inside
    obtain ⟨byte, _, rfl⟩ := List.mem_map.mp member
    exact isSpace_of_isDigit (digits_hexByte byte char inside)

theorem parse_hexBytes {bytes : List UInt8} (nonempty : bytes ≠ []) :
    ProcessPattern.parse (hexBytes bytes) = some { bytes := bytes.map fun value => { value } } := by
  have parsed : (bytes.map hexByte).mapM ProcessPattern.parseByte =
      some (bytes.map fun value => { value }) := by
    induction bytes with
    | nil => rfl
    | cons byte later ih =>
      cases later with
      | nil => simp [parseByte_hexByte]
      | cons next others =>
        rw [List.map_cons, List.mapM_cons, parseByte_hexByte, ih (List.cons_ne_nil _ _)]
        rfl
  rw [ProcessPattern.parse, ProcessPattern.parseFrom_eq (Nat.lt_succ_self _), words_hexBytes, parsed]
  simp [nonempty]

theorem hexBytes_injective : Function.Injective hexBytes := by
  intro first second same
  have words := congrArg (Lines.words isSpace) same
  rw [words_hexBytes, words_hexBytes] at words
  apply List.map_injective_iff.mpr _ words
  intro byte other same
  have parsed := congrArg ProcessPattern.parseByte same
  rw [parseByte_hexByte, parseByte_hexByte] at parsed
  simpa using parsed

theorem preview_of_sampleRead {host : HostProcess} {pid : UInt32} {address : Address}
    (sampled : (probe host pid .codeSite address).sampleRead = true) :
    ∃ bytes, ProcessMemoryReader.read host pid address 16 = .ok bytes ∧
      (probe host pid .codeSite address).samplePreview = hexBytes bytes := by
  unfold probe at sampled ⊢
  rw [if_neg (by simp)] at sampled ⊢
  split at sampled
  next reads =>
    rw [if_pos reads]
    unfold probeSample at sampled ⊢
    dsimp only at sampled ⊢
    split at sampled
    next => cases sampled
    next bytes found =>
      rw [found]
      exact ⟨bytes, rfl, rfl⟩
  next => cases sampled

end GTATargetEvidenceProbe

namespace GTARunScriptThreadsBridge

open GTATargetEvidenceProbe

/-- The preview that is compared with is that of the table, and one byte more. -/
theorem entryBytes_eq :
    hexBytes (verifiedPrologue ++ [0x0F]) = GTATargetSemanticValidator.runScriptThreadsEntryBytes := by
  decide

theorem preview_of_passed {definition : GTATargetDefinition} {evidence : GTATargetEvidence} {fingerprint : UInt64}
    {moduleBase address : Address} (identity : definition.id = .runScriptThreads)
    (passed :
      (GTATargetSemanticValidator.validate definition evidence fingerprint moduleBase address).passed = true) :
    definition.candidateKind = .codeSite ∧ evidence.sampleRead = true ∧
      evidence.samplePreview = GTATargetSemanticValidator.runScriptThreadsEntryBytes := by
  simp only [GTATargetSemanticValidator.validate, identity] at passed
  split at passed
  next kind =>
    cases kind.1
  next =>
    split at passed
    next kind =>
      simp only [GTATargetSemanticValidator.validateRunScriptThreads, GTATargetValidation.passed_check] at passed
      obtain ⟨_, _, _, _, same, _⟩ := passed
      rw [not_or, not_not] at same
      exact ⟨kind.2, by simpa using same.1, same.2⟩
    next =>
      split at passed
      next kind => cases kind.1
      next => cases passed

theorem prologue_of_validated {host : HostProcess} {pid : UInt32} {fingerprint : UInt64}
    {definition : GTATargetDefinition} {resolution : GTATargetResolution}
    (identity : definition.id = .runScriptThreads)
    (resolved : GTATargetResolver.resolve host pid fingerprint definition = .ok resolution)
    (validated : resolution.status.state = .validated) :
    ProcessMemoryReader.read host pid resolution.address 16 = .ok (verifiedPrologue ++ [0x0F]) := by
  obtain ⟨module, _, probed, passed⟩ := GTATargetResolver.resolve_passed resolved validated
  obtain ⟨codeSite, sampled, preview⟩ := preview_of_passed identity passed
  rw [probed, codeSite] at sampled preview
  obtain ⟨bytes, found, shown⟩ := preview_of_sampleRead sampled
  rw [shown, ← entryBytes_eq] at preview
  rw [found, hexBytes_injective preview]

/-- All that `Install` asks for besides the bytes at its target. -/
structure Presented (host : Host) (call : Installation) : Prop where
  idle : host.bridge.installed = false
  target : call.runScriptThreadsAddress ≠ 0
  storage : call.scriptThreadsStorageAddress ≠ 0
  dispatch : call.expectedThreadDispatchAddress ≠ 0
  ready : call.nativesReady = true
  inactive : host.active = .none
  readable : isReadableAddress call.regions call.runScriptThreadsAddress (UInt64.ofNat patchSize) = true
  allocated : call.allocated ≠ 0
  granted : call.protection.granted = true
  restored : call.protection.restored = true

theorem Presented.installs {host : Host} {call : Installation} (presented : Presented host call)
    (prologue : host.memory.read call.runScriptThreadsAddress patchSize = verifiedPrologue) (hookThunk : Address) :
    (install hookThunk host call).succeeded = true := by
  have attempts : Attempts host call := { presented with prologue }
  have ending := install_ending hookThunk host call
  generalize install hookThunk host call = outcome at ending
  cases ending with
  | refused short => exact absurd attempts short
  | denied _ denied => exact absurd (denied.symm.trans presented.granted) Bool.noConfusion
  | halfDone _ _ kept => exact absurd (kept.symm.trans presented.restored) Bool.noConfusion
  | hooked => rfl

/-- A preview reads back as its bytes, so no two byte strings share one. What the
resolver validates on a preview the bridge accepts on the raw bytes. -/
theorem prologue_checks_agree :
    (∀ bytes, (writeHexBytes (hexStream []) 0 bytes).written = hexBytes bytes) ∧
    (∀ bytes, bytes ≠ [] →
      ProcessPattern.parse (hexBytes bytes) = some { bytes := bytes.map fun value => ⟨value, false⟩ }) ∧
    Function.Injective hexBytes ∧
    ∀ (host : HostProcess) (pid : UInt32) (fingerprint : UInt64) (definition : GTATargetDefinition)
      (resolution : GTATargetResolution), definition.id = .runScriptThreads →
      GTATargetResolver.resolve host pid fingerprint definition = .ok resolution →
      resolution.status.state = .validated →
      (∃ bytes, ProcessMemoryReader.read host pid resolution.address 16 = .ok bytes ∧
        bytes.take patchSize = verifiedPrologue) ∧
      (pid = host.processId →
        host.memory.read resolution.address patchSize = verifiedPrologue ∧
        ∀ hookThunk bridged call, bridged.memory = host.memory →
          call.runScriptThreadsAddress = resolution.address → Presented bridged call →
          (install hookThunk bridged call).succeeded = true) := by
  refine ⟨writeHexBytes_eq, fun _ => parse_hexBytes, hexBytes_injective, ?_⟩
  intro host pid fingerprint definition resolution identity resolved validated
  have found := prologue_of_validated identity resolved validated
  refine ⟨⟨_, found, rfl⟩, ?_⟩
  intro own
  rw [own] at found
  have whole := ProcessMemoryReader.read_own found
  have prologue : host.memory.read resolution.address patchSize = verifiedPrologue := by
    -- the fifteen bytes are the first ones of the sixteen
    have split := Memory.read_add host.memory resolution.address patchSize 1
    exact (List.append_inj (split.symm.trans whole.symm) (Memory.length_read _ _ _)).1
  refine ⟨prologue, fun hookThunk bridged call unchanged passed presented => ?_⟩
  apply presented.installs
  rw [unchanged, passed, prologue]

/-- A game whose module is one byte at 0x1000, with the code of `RunScriptThreads` where it is in the supported build. -/
def entryGame : HostProcess where
  processId := 1
  lastError := 0
  executablePath := none
  executableName := []
  architecture := .x64
  memory := (Memory.write (fun _ => 0) 0x1000 [0xAA]).write 0x921A40 (verifiedPrologue ++ [0x0F])
  regions := fun _ => some ⟨0x1000, 0x1000000, Win32.memCommit, Win32.pageExecuteRead, Win32.memImage⟩
  imageModule := 0
  moduleHandle := fun _ => 0x1000
  moduleInformation := fun _ => some (0x1000, 1)
  moduleSnapshot := fun _ => .refused
  openProcess := fun _ => none
  openFile := fun _ => none

def entryTarget : GTATargetDefinition where
  id := .runScriptThreads
  name := text "RunScriptThreads"
  pattern := text "AA"
  resolve := [.add 0x920A40]
  candidateKind := .codeSite

def entryInstallation : Installation where
  runScriptThreadsAddress := 0x921A40
  scriptThreadsStorageAddress := 0x3000
  expectedThreadDispatchAddress := 0x4000
  natives := 0x5000
  nativesReady := true
  logger := 0x6000
  regions := entryGame.regions
  allocated := 0x9000
  protection := ⟨true, true⟩

theorem prologue_checks_agree_entry :
    ProcessPattern.parse (hexBytes verifiedPrologue) =
        some { bytes := verifiedPrologue.map fun value => ⟨value, false⟩ } ∧
      (install 0x7000 { memory := entryGame.memory } entryInstallation).succeeded = true := by
  have observed : (GTATargetResolver.resolve entryGame 1 GTATargetSemanticValidator.supportedFingerprint
      entryTarget).toOption.map (fun resolution => (resolution.status.state, resolution.address)) =
        some (.validated, 0x921A40) := by
    decide +kernel
  obtain ⟨_, parses, _, agrees⟩ := prologue_checks_agree
  refine ⟨parses verifiedPrologue (List.cons_ne_nil _ _), ?_⟩
  cases resolved : GTATargetResolver.resolve entryGame 1 GTATargetSemanticValidator.supportedFingerprint
      entryTarget with
  | error error =>
    rw [resolved] at observed
    cases observed
  | ok resolution =>
    rw [resolved] at observed
    obtain ⟨validated, address⟩ := Prod.mk.inj (Option.some.inj observed)
    have presented : Presented { memory := entryGame.memory } entryInstallation :=
      ⟨rfl, by decide, by decide, by decide, rfl, rfl, by decide, by decide, rfl, rfl⟩
    exact ((agrees entryGame 1 _ entryTarget resolution rfl resolved validated).2 rfl).2 0x7000
      { memory := entryGame.memory } entryInstallation rfl address.symm presented

end GTARunScriptThreadsBridge

end DevilzDen.Integrations.GTA5Enhanced
