import DevilzDen.Backend.Memory.Pointer

/-! Loaded modules, their PE sections and the selection of scan ranges. -/

set_option autoImplicit false

namespace DevilzDen.Backend

inductive ModuleSectionAccess where
  | any
  | readable
  | writable
  | executable
  | executableReadable
  deriving DecidableEq, Repr

structure ModuleSection where
  name : Text
  range : MemoryRange
  characteristics : UInt32
  deriving DecidableEq, Repr

namespace ModuleSection

/-- `IMAGE_SCN_MEM_READ` -/
def readable (section_ : ModuleSection) : Bool := section_.characteristics &&& 0x40000000 != 0

/-- `IMAGE_SCN_MEM_WRITE` -/
def writable (section_ : ModuleSection) : Bool := section_.characteristics &&& 0x80000000 != 0

/-- `IMAGE_SCN_MEM_EXECUTE` -/
def executable (section_ : ModuleSection) : Bool := section_.characteristics &&& 0x20000000 != 0

end ModuleSection

structure ModuleFingerprint where
  timeDateStamp : UInt32
  sizeOfImage : UInt32
  imageHash : UInt64
  deriving DecidableEq, Repr

/-- The value that caches and cache files compare. -/
def ModuleFingerprint.value (fingerprint : ModuleFingerprint) : UInt64 :=
  fingerprint.imageHash ^^^ (fingerprint.timeDateStamp.toUInt64 <<< 32) ^^^
    fingerprint.sizeOfImage.toUInt64

structure ModuleInfo where
  name : Text
  base : Address
  size : UInt64
  fingerprint : ModuleFingerprint
  sections : List ModuleSection
  deriving DecidableEq, Repr

def ModuleInfo.imageRange (module : ModuleInfo) : MemoryRange := ⟨module.base, module.size⟩

namespace ModuleManager

def moduleError (message : String) (detail : Text := []) : Error :=
  let error : Error := { code := .runtimeFailure, category := .platform, message := text message }
  if detail.isEmpty then error else error.withContext "Module" detail

def imageDosSignature : Nat := 0x5A4D
def imageNtSignature : Nat := 0x4550
def imageNtOptionalHdr64Magic : Nat := 0x20B

def field (memory : Memory) (address : Address) (width : Nat) : Nat := littleEndian (memory.read address width)

def fnvPrime : UInt64 := 1099511628211

def mixByte (hash : UInt64) (byte : UInt8) : UInt64 := (hash ^^^ byte.toUInt64) * fnvPrime

/-- The eight bytes of a value, the lowest first. -/
def mix (hash value : UInt64) : UInt64 := (littleEndianBytes 8 value.toNat).foldl mixByte hash

def hashImageMetadata (module : ModuleInfo) : UInt64 :=
  module.sections.foldl
    (fun hash section_ =>
      mix (mix (section_.name.foldl mixByte hash) section_.range.size) section_.characteristics.toUInt64)
    (mix (mix 1469598103934665603 module.fingerprint.timeDateStamp.toUInt64)
      module.fingerprint.sizeOfImage.toUInt64)

/-- The section of one header; a header that begins outside the image has none. -/
def inspectSection (memory : Memory) (moduleBase : Address) (size : UInt64) (header : Address) :
    Option ModuleSection :=
  let virtualAddress := UInt64.ofNat (field memory (header + 12) 4)
  let virtualSize := max (UInt64.ofNat (field memory (header + 8) 4)) (UInt64.ofNat (field memory (header + 16) 4))
  if virtualAddress ≥ size then none
  else
    some {
      name := (memory.read header 8).takeWhile (· ≠ 0)
      range := ⟨moduleBase + virtualAddress, min virtualSize (size - virtualAddress)⟩
      characteristics := UInt32.ofNat (field memory (header + 36) 4) }

/-- `fileName` is what is left of the path that `GetModuleFileNameW` gives, if any. -/
def inspect (memory : Memory) (fileName : Text) (moduleBase : Address) : Result ModuleInfo :=
  if moduleBase = 0 then .error (moduleError "Module base is null")
  else if field memory moduleBase 2 ≠ imageDosSignature then .error (moduleError "Invalid DOS signature")
  else
    let lfanew : Int32 := (UInt32.ofNat (field memory (moduleBase + 60) 4)).toInt32
    let nt := moduleBase + lfanew.toInt64.toUInt64
    if field memory nt 4 ≠ imageNtSignature ∨ field memory (nt + 24) 2 ≠ imageNtOptionalHdr64Magic then
      .error (moduleError "Invalid or unsupported PE image")
    else
      let sizeOfImage := UInt32.ofNat (field memory (nt + 80) 4)
      let timeDateStamp := UInt32.ofNat (field memory (nt + 8) 4)
      -- the section headers follow the optional header
      let first := nt + 24 + UInt64.ofNat (field memory (nt + 20) 2)
      let info : ModuleInfo := {
        name := fileName
        base := moduleBase
        size := sizeOfImage.toUInt64
        fingerprint := { timeDateStamp, sizeOfImage, imageHash := 0 }
        sections := (List.range (field memory (nt + 6) 2)).filterMap fun i =>
          inspectSection memory moduleBase sizeOfImage.toUInt64 (first + UInt64.ofNat (40 * i)) }
      .ok { info with fingerprint := { timeDateStamp, sizeOfImage, imageHash := hashImageMetadata info } }

def findSection (module : ModuleInfo) (sectionName : Text) : Result MemoryRange :=
  match module.sections.find? fun section_ => section_.name == sectionName with
  | none =>
      .error ((moduleError "PE section not found" module.name).withContext "Section" sectionName)
  | some section_ => .ok section_.range

def selected (access : ModuleSectionAccess) (section_ : ModuleSection) : Bool :=
  match access with
  | .any => true
  | .readable => section_.readable
  | .writable => section_.writable
  | .executable => section_.executable
  | .executableReadable => section_.executable && section_.readable

def selectSections (module : ModuleInfo) (access : ModuleSectionAccess) : List MemoryRange :=
  (module.sections.filter fun section_ => selected access section_ && !section_.range.empty).map
    (·.range)

theorem inspectSection_bounded {memory : Memory} {moduleBase header : Address} {size : UInt64}
    {section_ : ModuleSection} (listed : inspectSection memory moduleBase size header = some section_) :
    ∃ virtualAddress : UInt64, section_.range.first = moduleBase + virtualAddress ∧
      virtualAddress.toNat + section_.range.size.toNat ≤ size.toNat := by
  unfold inspectSection at listed
  dsimp only at listed
  split at listed
  · cases listed
  next inside =>
    cases listed
    refine ⟨_, rfl, ?_⟩
    have below := UInt64.lt_iff_toNat_lt.mp (UInt64.not_le.mp inside)
    have rest := UInt64.toNat_sub_of_le size _ (UInt64.le_iff_toNat_le.mpr (Nat.le_of_lt below))
    simp only [min]
    split
    next fits =>
      have bounded := UInt64.le_iff_toNat_le.mp fits
      omega
    next => omega

theorem inspect_sections {memory : Memory} {fileName : Text} {moduleBase : Address} {module : ModuleInfo}
    (inspected : inspect memory fileName moduleBase = .ok module) {section_ : ModuleSection}
    (member : section_ ∈ module.sections) :
    ∃ virtualAddress : UInt64, section_.range.first = module.base + virtualAddress ∧
      virtualAddress.toNat + section_.range.size.toNat ≤ module.size.toNat := by
  unfold inspect at inspected
  split at inspected
  · cases inspected
  · split at inspected
    · cases inspected
    · dsimp only at inspected
      split at inspected
      · cases inspected
      · cases inspected
        obtain ⟨i, _, listed⟩ := List.mem_filterMap.mp member
        exact inspectSection_bounded listed

end ModuleManager

end DevilzDen.Backend
