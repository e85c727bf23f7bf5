import DevilzDen.Backend.Process.HostProcess
import DevilzDen.Integrations.GTA5Enhanced.Runtime.BuildInfo

/-! Identifying a build by the PE headers of its image, as it is mapped or as it is stored. -/

set_option autoImplicit false

namespace DevilzDen.Integrations.GTA5Enhanced.BuildInfoDetector

open Backend

def imageDosSignature : Nat := 0x5A4D
def imageNtSignature : Nat := 0x4550
def imageNtOptionalHdr64Magic : Nat := 0x20B
def imageNtOptionalHdr32Magic : Nat := 0x10B

def makeBuildInfo (process : ProcessInfo) (timestamp imageSize : UInt32) : BuildInfo where
  version := text "PE-" ++ decimal timestamp.toNat ++ text "-" ++ decimal imageSize.toNat
  peTimestamp := timestamp
  imageSize := imageSize
  fingerprint := (timestamp.toUInt64 <<< 32) ||| imageSize.toUInt64
  executablePath := process.executablePath

def field (memory : Memory) (address : Address) (width : Nat) : Nat := littleEndian (memory.read address width)

/-- `SizeOfImage` lies 56 bytes into both kinds of optional header. -/
def detectLoadedImage (host : HostProcess) (process : ProcessInfo) : Result BuildInfo :=
  let base := host.imageModule
  if base = 0 then
    .error (Error.fromWin32 .runtimeFailure .runtime host.lastError
      "Unable to resolve current process image module")
  else
    let lfanew : Int32 := (UInt32.ofNat (field host.memory (base + 60) 4)).toInt32
    if field host.memory base 2 ≠ imageDosSignature ∨ lfanew ≤ 0 then
      .error (Error.runtime "Loaded GTA image has an invalid DOS header")
    else
      let ntAddress := base + lfanew.toInt64.toUInt64
      if field host.memory ntAddress 4 ≠ imageNtSignature then
        .error (Error.runtime "Loaded GTA image has an invalid PE signature")
      else
        let optionalAddress := ntAddress + 4 + 20
        let magic := field host.memory optionalAddress 2
        if magic ≠ imageNtOptionalHdr64Magic ∧ magic ≠ imageNtOptionalHdr32Magic then
          .error (Error.runtime "Loaded GTA image uses an unsupported PE optional header")
        else
          let imageSize := UInt32.ofNat (field host.memory (optionalAddress + 56) 4)
          if imageSize = 0 then .error (Error.runtime "Loaded GTA image reported an invalid image size")
          else .ok (makeBuildInfo process (UInt32.ofNat (field host.memory (ntAddress + 4 + 4) 4)) imageSize)

/-- A block of a file, which a stream reads whole or not at all. -/
def block (file : List UInt8) (position width : Nat) : Option (List UInt8) :=
  if position + width ≤ file.length then some ((file.drop position).take width) else none

def fieldOf (bytes : List UInt8) (offset width : Nat) : Nat := littleEndian ((bytes.drop offset).take width)

def detectFile (file : List UInt8) (process : ProcessInfo) : Result BuildInfo :=
  let invalid : Result BuildInfo := .error (Error.runtime "GTA executable has an invalid DOS/PE header")
  match block file 0 64 with
  | none => invalid
  | some dos =>
      let lfanew : Int32 := (UInt32.ofNat (fieldOf dos 60 4)).toInt32
      if fieldOf dos 0 2 ≠ imageDosSignature ∨ lfanew ≤ 0 then invalid
      else
        let position := lfanew.toInt.toNat
        match (block file position 24).filter fun headers => fieldOf headers 0 4 == imageNtSignature with
        | none => .error (Error.runtime "GTA executable does not contain a valid PE signature")
        | some headers =>
            match block file (position + 24) 2 with
            | none => .error (Error.runtime "Unable to read GTA optional-header magic")
            | some magic =>
                if littleEndian magic ≠ imageNtOptionalHdr64Magic ∧
                    littleEndian magic ≠ imageNtOptionalHdr32Magic then
                  .error (Error.runtime "GTA executable uses an unsupported PE optional header")
                else
                  -- the stream must hold the whole optional header, not only the field
                  let width := if littleEndian magic = imageNtOptionalHdr64Magic then 240 else 224
                  match (block file (position + 24) width).filter fun optional => fieldOf optional 56 4 != 0 with
                  | none => .error (Error.runtime "Unable to determine GTA image size")
                  | some optional =>
                      .ok (makeBuildInfo process (UInt32.ofNat (fieldOf headers 8 4))
                        (UInt32.ofNat (fieldOf optional 56 4)))

def detect (host : HostProcess) (process : ProcessInfo) : Result BuildInfo :=
  if !process.valid ∨ process.executablePath = [] then
    .error (Error.runtime "Cannot detect GTA build from invalid process information")
  else if process.pid = host.processId then detectLoadedImage host process
  else match host.openFile process.executablePath with
    | none =>
        .error (({ code := .fileOpenFailed, category := .filesystem,
                   message := text "Unable to open GTA executable for build inspection" } : Error).withContext
          "Path" process.executablePath)
    | some file => detectFile file process

end DevilzDen.Integrations.GTA5Enhanced.BuildInfoDetector
