import DevilzDen.Backend.Process.HostProcess
import DevilzDen.Foundation.Table

/-! The runtime targets of a build: how each is located and what is known of it. -/

set_option autoImplicit false

namespace DevilzDen.Integrations.GTA5Enhanced

open Backend Foundation

inductive GTARuntimeTargetId where
  | gameState
  | frameCount
  | scriptGlobals
  | programTable
  | scriptThreads
  | runScriptThreads
  | initNativeTables
  | nativeTable
  deriving DecidableEq, Repr

inductive GTARuntimeTargetState where
  | unknown
  | missing
  | located
  | structurallyValidated
  | validated
  | failed
  deriving DecidableEq, Repr

structure GTARuntimeTargetStatus where
  id : GTARuntimeTargetId := .gameState
  state : GTARuntimeTargetState := .unknown
  required : Bool := true
  name : Text := []
  detail : Text := []
  deriving DecidableEq, Repr

inductive GTAAddressResolveOp where
  | add (offset : Int64)
  | ripRelative32 (offset : Int64)
  deriving DecidableEq

abbrev GTAAddressResolveChain := List GTAAddressResolveOp

namespace GTAAddressResolver

def resolveRipRelative32 (host : HostProcess) (pid : UInt32) (address : Address) (displacementOffset : Int64) :
    Result Address :=
  let displacementAddress := address.toInt64 + displacementOffset
  if displacementAddress ≤ 0 then
    .error (Error.runtime "RIP-relative displacement address is outside the valid user address range")
  else match ProcessMemoryReader.read host pid displacementAddress.toUInt64 4 with
    | .error error => .error error
    | .ok bytes =>
        let displacement : Int32 := (UInt32.ofNat (littleEndian bytes)).toInt32
        let resolved := displacementAddress + 4 + displacement.toInt64
        if resolved ≤ 0 then
          .error (Error.runtime "RIP-relative address resolved outside the valid user address range")
        else .ok resolved.toUInt64

def resolveChain (host : HostProcess) (pid : UInt32) : Address → GTAAddressResolveChain → Result Address
  | address, [] => .ok address
  | address, .add offset :: chain =>
      let resolved := address.toInt64 + offset
      if resolved ≤ 0 then
        .error (Error.runtime "Address add operation resolved outside the valid user address range")
      else resolveChain host pid resolved.toUInt64 chain
  | address, .ripRelative32 offset :: chain =>
      match resolveRipRelative32 host pid address offset with
      | .error error => .error error
      | .ok resolved => resolveChain host pid resolved chain

def resolve (host : HostProcess) (pid : UInt32) (matchAddress : Address) (chain : GTAAddressResolveChain) :
    Result Address :=
  if matchAddress = 0 then
    .error { code := .invalidArgument, category := .runtime, message := text "Cannot resolve a null pattern match" }
  else resolveChain host pid matchAddress chain

end GTAAddressResolver

inductive GTATargetCandidateKind where
  | unknown
  | directData
  | pointerStorage
  | codeSite
  deriving DecidableEq, Repr

structure GTATargetDefinition where
  id : GTARuntimeTargetId := .gameState
  name : Text
  module : Text := text "GTA5_Enhanced.exe"
  pattern : Text
  resolve : GTAAddressResolveChain
  required : Bool := true
  candidateKind : GTATargetCandidateKind := .unknown

structure GTABuildTargetSet where
  fingerprint : UInt64 := 0
  targets : List GTATargetDefinition

structure GTABuildTargetRegistry where
  sets : Table UInt64 GTABuildTargetSet := ∅

namespace GTABuildTargetRegistry

def register (registry : GTABuildTargetRegistry) (set : GTABuildTargetSet) : GTABuildTargetRegistry :=
  if set.fingerprint = 0 then registry
  else { sets := registry.sets.insert set.fingerprint set }

def unpatterned (id : GTARuntimeTargetId) (name : String) (required : Bool) : GTATargetDefinition where
  id := id
  name := text name
  pattern := []
  resolve := []
  required := required

def targets : List GTATargetDefinition := [
  unpatterned .gameState "GameState" true,
  unpatterned .frameCount "FrameCount" true,
  { id := .scriptGlobals
    name := text "ScriptGlobals"
    pattern := text "48 8B 8E B8 00 00 00 48 8D 15 ? ? ? ? 49 89 D8"
    resolve := [.add 7, .ripRelative32 3]
    candidateKind := .directData },
  { id := .programTable
    name := text "ProgramTable"
    pattern := text "48 C7 84 C8 D8 00 00 00 00 00 00 00"
    resolve := []
    candidateKind := .codeSite },
  { id := .scriptThreads
    name := text "ScriptThreads"
    pattern := text "48 8B 05 ? ? ? ? 48 89 34 F8 48 FF C7 48 39 FB 75 97"
    resolve := [.ripRelative32 3]
    candidateKind := .pointerStorage },
  { id := .runScriptThreads
    name := text "RunScriptThreads"
    pattern := text "BE 40 5D C6 00"
    resolve := [.add (-0xA)]
    required := false
    candidateKind := .codeSite },
  { id := .initNativeTables
    name := text "InitNativeTables"
    pattern := text "EB 2A 0F 1F 40 00 48 8B 54 17 10"
    resolve := [.add (-0x2A)]
    candidateKind := .codeSite },
  unpatterned .nativeTable "NativeTable" false]

def initial : GTABuildTargetRegistry :=
  register {} { fingerprint := 0x6A4F97F605B81000, targets }

def find (registry : GTABuildTargetRegistry) (fingerprint : UInt64) : Option GTABuildTargetSet :=
  registry.sets.lookup fingerprint

theorem find_initial (fingerprint : UInt64) : initial.find fingerprint =
    if fingerprint = 0x6A4F97F605B81000 then some ⟨0x6A4F97F605B81000, targets⟩ else none :=
  Table.lookup_insert_eq _ _ _ _

theorem module_of_mem_targets {definition : GTATargetDefinition} (member : definition ∈ targets) :
    definition.module = text "GTA5_Enhanced.exe" := by
  simp only [targets, List.mem_cons, List.not_mem_nil, or_false] at member
  rcases member with rfl | rfl | rfl | rfl | rfl | rfl | rfl | rfl <;> rfl

end GTABuildTargetRegistry

end DevilzDen.Integrations.GTA5Enhanced
