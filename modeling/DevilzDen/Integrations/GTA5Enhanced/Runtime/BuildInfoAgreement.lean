import DevilzDen.Backend.Memory.Module
import DevilzDen.Integrations.GTA5Enhanced.Runtime.BuildInfoDetector

/-! The readers of PE headers: two of the detector, one of the module manager.

The detector reads a file through a stream, or the image of its own process at
its address; the module manager reads an image at its address. What the headers
of a file say is stated once here, and each reader is compared with it.
-/

set_option autoImplicit false

namespace DevilzDen.Integrations.GTA5Enhanced.BuildInfoDetector

open Backend

/-! ## What the headers of a file say -/

def lfanewOf (file : List UInt8) : Int32 := (UInt32.ofNat (fieldOf file 60 4)).toInt32

def ntPosition (file : List UInt8) : Nat := (lfanewOf file).toInt.toNat

def magicOf (file : List UInt8) : Nat := fieldOf file (ntPosition file + 24) 2

/-- Of an optional header of another kind only the magic is known. -/
def optionalHeaderSize (magic : Nat) : Nat :=
  if magic = imageNtOptionalHdr64Magic then 240 else if magic = imageNtOptionalHdr32Magic then 224 else 2

/-- The places in a file that its headers take: the DOS header and, where it
points forward, the signature, the file header and the optional header there. -/
def InHeaders (file : List UInt8) (index : Nat) : Prop :=
  index < 64 ∨ 0 < lfanewOf file ∧ ntPosition file ≤ index ∧
    index < ntPosition file + 24 + optionalHeaderSize (magicOf file)

def Complete (file : List UInt8) : Prop := ∀ index, InHeaders file index → index < file.length

/-- An image has the header bytes of a file. -/
def Mapped (memory : Memory) (base : Address) (file : List UInt8) : Prop :=
  ∀ index, InHeaders file index → file[index]? = some (memory (base + UInt64.ofNat index))

/-- The timestamp and the image size in the headers of a build. -/
def identify (file : List UInt8) : Option (UInt32 × UInt32) :=
  let imageSize := UInt32.ofNat (fieldOf file (ntPosition file + 80) 4)
  if fieldOf file 0 2 = imageDosSignature ∧ 0 < lfanewOf file ∧
      fieldOf file (ntPosition file) 4 = imageNtSignature ∧
      (magicOf file = imageNtOptionalHdr64Magic ∨ magicOf file = imageNtOptionalHdr32Magic) ∧ imageSize ≠ 0 then
    some (UInt32.ofNat (fieldOf file (ntPosition file + 8) 4), imageSize)
  else none

/-! ## The stream -/

theorem fieldOf_block {file bytes : List UInt8} {position width offset size : Nat}
    (read : block file position width = some bytes) (fits : offset + size ≤ width) :
    fieldOf bytes offset size = fieldOf file (position + offset) size := by
  unfold block at read
  split at read
  next =>
    cases read
    rw [fieldOf, List.drop_take, List.take_take, List.drop_drop, Nat.min_eq_left (by omega), fieldOf]
  next => cases read

theorem block_of_length_le {file : List UInt8} {position width : Nat} (fits : position + width ≤ file.length) :
    block file position width = some ((file.drop position).take width) := if_pos fits

theorem ofNat_fieldOf_eq_zero_iff (file : List UInt8) (offset : Nat) :
    UInt32.ofNat (fieldOf file offset 4) = 0 ↔ fieldOf file offset 4 = 0 := by
  have small := littleEndian_lt ((file.drop offset).take 4)
  have short : ((file.drop offset).take 4).length ≤ 4 := List.length_take_le _ _
  have bounded : fieldOf file offset 4 < 2 ^ 32 :=
    Nat.lt_of_lt_of_le small (Nat.pow_le_pow_right (by omega) short)
  rw [← UInt32.toNat_inj, UInt32.toNat_ofNat_of_lt' bounded]
  rfl

theorem two_le_optionalHeaderSize (magic : Nat) : 2 ≤ optionalHeaderSize magic := by
  unfold optionalHeaderSize
  split
  · omega
  · split <;> omega

theorem not_unsupported {magic : Nat}
    (supported : magic = imageNtOptionalHdr64Magic ∨ magic = imageNtOptionalHdr32Magic) :
    ¬(magic ≠ imageNtOptionalHdr64Magic ∧ magic ≠ imageNtOptionalHdr32Magic) :=
  not_and_or.mpr (supported.imp not_not.mpr not_not.mpr)

theorem Complete.dos {file : List UInt8} (complete : Complete file) : 64 ≤ file.length :=
  complete 63 (Or.inl (by omega))

theorem Complete.nt {file : List UInt8} (complete : Complete file) (forward : 0 < lfanewOf file) :
    ntPosition file + 24 + optionalHeaderSize (magicOf file) ≤ file.length := by
  have wide := two_le_optionalHeaderSize (magicOf file)
  have last := complete (ntPosition file + 24 + optionalHeaderSize (magicOf file) - 1)
    (Or.inr ⟨forward, by omega, by omega⟩)
  omega

/-- Where the headers are complete, no read of the stream falls short. -/
theorem detectFile_eq {file : List UInt8} (complete : Complete file) (process : ProcessInfo) :
    (detectFile file process).toOption =
      (identify file).map fun identity => makeBuildInfo process identity.1 identity.2 := by
  have dos := block_of_length_le (by simpa using complete.dos : 0 + 64 ≤ file.length)
  unfold detectFile identify
  simp only [dos, fieldOf_block dos (by omega : 60 + 4 ≤ 64), fieldOf_block dos (by omega : 0 + 2 ≤ 64),
    Nat.zero_add]
  rw [← lfanewOf, ← ntPosition]
  by_cases headed : fieldOf file 0 2 ≠ imageDosSignature ∨ lfanewOf file ≤ 0
  · rw [if_pos headed, if_neg]
    · rfl
    · grind
  · rw [if_neg headed]
    obtain ⟨signed, forward⟩ := not_or.mp headed
    have fits := complete.nt (by simpa using forward)
    have wide := two_le_optionalHeaderSize (magicOf file)
    have nt := block_of_length_le (by omega : ntPosition file + 24 ≤ file.length)
    have magic := block_of_length_le (by omega : ntPosition file + 24 + 2 ≤ file.length)
    have magicRead : littleEndian ((file.drop (ntPosition file + 24)).take 2) = magicOf file := rfl
    rw [nt, Option.filter_some, fieldOf_block nt (by omega), Nat.add_zero]
    by_cases signature : fieldOf file (ntPosition file) 4 = imageNtSignature
    · rw [if_pos (beq_iff_eq.mpr signature), magic]
      dsimp only
      rw [magicRead]
      by_cases supported : magicOf file = imageNtOptionalHdr64Magic ∨ magicOf file = imageNtOptionalHdr32Magic
      · rw [if_neg (not_unsupported supported)]
        have size : (if magicOf file = imageNtOptionalHdr64Magic then 240 else 224) =
            optionalHeaderSize (magicOf file) := by
          unfold optionalHeaderSize
          split
          · rfl
          next other => rw [if_pos (supported.resolve_left other)]
        have whole : 224 ≤ optionalHeaderSize (magicOf file) := by
          rw [← size]
          split <;> omega
        have optional := block_of_length_le fits
        rw [size, optional, Option.filter_some, fieldOf_block optional (by omega)]
        by_cases zero : fieldOf file (ntPosition file + 80) 4 = 0
        · have unsized := (ofNat_fieldOf_eq_zero_iff file _).mpr zero
          rw [if_neg (by simpa using zero), if_neg fun valid => valid.2.2.2.2 unsized]
          rfl
        · have sized := mt (ofNat_fieldOf_eq_zero_iff file _).mp zero
          rw [if_pos (by simpa using zero),
            if_pos ⟨not_not.mp signed, by simpa using forward, signature, supported, sized⟩]
          dsimp only
          rw [fieldOf_block optional (by omega), fieldOf_block nt (by omega)]
          rfl
      · rw [if_pos (not_or.mp supported), if_neg fun valid => supported valid.2.2.2.1]
        rfl
    · rw [if_neg (by simpa using signature), if_neg fun valid => signature valid.2.2.1]
      rfl

/-! ## The image -/

theorem Mapped.complete {memory : Memory} {base : Address} {file : List UInt8} (mapped : Mapped memory base file) :
    Complete file := by
  intro index inside
  exact (List.getElem?_eq_some_iff.mp (mapped index inside)).1

theorem Mapped.field_eq {memory : Memory} {base : Address} {file : List UInt8} (mapped : Mapped memory base file)
    {offset width : Nat} (inside : ∀ k < width, InHeaders file (offset + k)) :
    field memory (base + UInt64.ofNat offset) width = fieldOf file offset width := by
  unfold field fieldOf
  congr 1
  apply List.ext_getElem?
  intro k
  rw [Memory.read, List.getElem?_map, List.getElem?_take]
  split
  next below =>
    rw [List.getElem?_range below, List.getElem?_drop, mapped _ (inside k below), Option.map_some,
      UInt64.ofNat_add, UInt64.add_assoc]
  next beyond => rw [List.getElem?_eq_none (by simpa using beyond), Option.map_none]

theorem toUInt64_lfanew {lfanew : Int32} (forward : 0 < lfanew) :
    lfanew.toInt64.toUInt64 = UInt64.ofNat lfanew.toInt.toNat := by
  have positive : 0 < lfanew.toInt := Int32.lt_iff_toInt_lt.mp forward
  have bounded := lfanew.toInt_lt
  have same := toInt_eq lfanew.toInt64
  rw [Int32.toInt_toInt64] at same
  have word := lfanew.toInt64.toUInt64.toNat_lt
  have small : lfanew.toInt.toNat < 2 ^ 64 := by omega
  apply UInt64.toNat_inj.mp
  rw [UInt64.toNat_ofNat_of_lt' small]
  split at same <;> omega

section Image

variable {memory : Memory} {base : Address} {file : List UInt8}

theorem Mapped.dos_eq (mapped : Mapped memory base file) {offset width : Nat} (fits : offset + width ≤ 64) :
    field memory (base + UInt64.ofNat offset) width = fieldOf file offset width :=
  mapped.field_eq fun k below => Or.inl (by omega)

theorem Mapped.nt_eq (mapped : Mapped memory base file) (forward : 0 < lfanewOf file) {offset width : Nat}
    (fits : offset + width ≤ 24 + optionalHeaderSize (magicOf file)) :
    field memory (base + UInt64.ofNat (ntPosition file) + UInt64.ofNat offset) width =
      fieldOf file (ntPosition file + offset) width := by
  rw [UInt64.add_assoc, ← UInt64.ofNat_add]
  exact mapped.field_eq fun k below => Or.inr ⟨forward, by omega, by omega⟩

/-- What both readers of an image see of the headers. The image size is among
them where the optional header is of a known kind. -/
structure Headers (memory : Memory) (base : Address) (file : List UInt8) : Prop where
  dos : field memory base 2 = fieldOf file 0 2
  lfanew : (UInt32.ofNat (field memory (base + 60) 4)).toInt32 = lfanewOf file
  nt : 0 < lfanewOf file → ∃ nt, base + (lfanewOf file).toInt64.toUInt64 = nt ∧
    field memory nt 4 = fieldOf file (ntPosition file) 4 ∧
    field memory (nt + 8) 4 = fieldOf file (ntPosition file + 8) 4 ∧
    field memory (nt + 24) 2 = magicOf file ∧
    (magicOf file = imageNtOptionalHdr64Magic ∨ magicOf file = imageNtOptionalHdr32Magic →
      field memory (nt + 80) 4 = fieldOf file (ntPosition file + 80) 4)

theorem Mapped.headers (mapped : Mapped memory base file) : Headers memory base file where
  dos := by
    have first := mapped.dos_eq (by omega : 0 + 2 ≤ 64)
    rwa [show UInt64.ofNat 0 = 0 from rfl, UInt64.add_zero] at first
  lfanew := congrArg (fun value => (UInt32.ofNat value).toInt32) (mapped.dos_eq (by omega : 60 + 4 ≤ 64))
  nt forward := by
    have wide := two_le_optionalHeaderSize (magicOf file)
    refine ⟨_, rfl, ?_⟩
    rw [toUInt64_lfanew forward, ← ntPosition]
    refine ⟨?_, mapped.nt_eq forward (by omega : 8 + 4 ≤ _), mapped.nt_eq forward (by omega : 24 + 2 ≤ _),
      fun supported => ?_⟩
    · have first := mapped.nt_eq forward (by omega : 0 + 4 ≤ 24 + optionalHeaderSize (magicOf file))
      rwa [show UInt64.ofNat 0 = 0 from rfl, UInt64.add_zero] at first
    · apply mapped.nt_eq forward
      rcases supported with kind | kind
      all_goals rw [kind]; decide

end Image

theorem detectLoadedImage_eq {host : HostProcess} {file : List UInt8} (present : host.imageModule ≠ 0)
    (mapped : Mapped host.memory host.imageModule file) (process : ProcessInfo) :
    (detectLoadedImage host process).toOption =
      (identify file).map fun identity => makeBuildInfo process identity.1 identity.2 := by
  have headers := mapped.headers
  unfold detectLoadedImage identify
  simp only [if_neg present, headers.lfanew, headers.dos]
  by_cases headed : fieldOf file 0 2 ≠ imageDosSignature ∨ lfanewOf file ≤ 0
  · rw [if_pos headed, if_neg]
    · rfl
    · grind
  · rw [if_neg headed]
    obtain ⟨signed, forward⟩ := not_or.mp headed
    obtain ⟨nt, address, signature, timestamp, magic, imageSize⟩ := headers.nt (by simpa using forward)
    have stamped : nt + 4 + 4 = nt + 8 := UInt64.add_assoc _ _ _
    have optional : nt + 4 + 20 = nt + 24 := UInt64.add_assoc _ _ _
    have sized : nt + 24 + 56 = nt + 80 := UInt64.add_assoc _ _ _
    rw [address, signature, stamped, timestamp, optional, sized, magic]
    by_cases valid : fieldOf file (ntPosition file) 4 = imageNtSignature
    · rw [if_neg (not_not.mpr valid)]
      by_cases supported : magicOf file = imageNtOptionalHdr64Magic ∨ magicOf file = imageNtOptionalHdr32Magic
      · rw [if_neg (not_unsupported supported), imageSize supported]
        split
        next zero =>
          rw [if_neg fun valid => valid.2.2.2.2 zero]
          rfl
        next positive =>
          rw [if_pos ⟨not_not.mp signed, by simpa using forward, valid, supported, positive⟩]
          rfl
      · rw [if_pos (not_or.mp supported), if_neg fun valid => supported valid.2.2.2.1]
        rfl
    · rw [if_pos valid, if_neg fun all => valid all.2.2.1]
      rfl

theorem inspect_of_identify {memory : Memory} {base : Address} {file : List UInt8} (present : base ≠ 0)
    (mapped : Mapped memory base file) {timestamp imageSize : UInt32}
    (identified : identify file = some (timestamp, imageSize)) (wide : magicOf file = imageNtOptionalHdr64Magic)
    (fileName : Text) :
    ∃ module, ModuleManager.inspect memory fileName base = .ok module ∧
      module.fingerprint.timeDateStamp = timestamp ∧ module.fingerprint.sizeOfImage = imageSize := by
  unfold identify at identified
  dsimp only at identified
  split at identified
  next valid =>
    cases identified
    obtain ⟨signed, forward, signature, supported, _⟩ := valid
    have headers := mapped.headers
    obtain ⟨nt, address, ntSignature, stamped, magic, sized⟩ := headers.nt forward
    have dos : ModuleManager.field memory base 2 = ModuleManager.imageDosSignature := headers.dos.trans signed
    have accepted : ¬(ModuleManager.field memory nt 4 ≠ ModuleManager.imageNtSignature ∨
        ModuleManager.field memory (nt + 24) 2 ≠ ModuleManager.imageNtOptionalHdr64Magic) := by
      rintro (other | other)
      · exact other (ntSignature.trans signature)
      · exact other (magic.trans wide)
    unfold ModuleManager.inspect
    rw [if_neg present, if_neg (not_not.mpr dos)]
    have lfanew : (UInt32.ofNat (ModuleManager.field memory (base + 60) 4)).toInt32 = lfanewOf file :=
      headers.lfanew
    simp only [lfanew, address, if_neg accepted]
    refine ⟨_, rfl, ?_, ?_⟩
    · exact congrArg UInt32.ofNat stamped
    · exact congrArg UInt32.ofNat (sized supported)
  next => cases identified

/-! ## The three readers -/

/-- The detector looks at the executable of another process, which has these bytes. -/
structure ReadsFile (host : HostProcess) (process : ProcessInfo) (file : List UInt8) : Prop where
  valid : process.valid = true
  located : process.executablePath ≠ []
  foreign : process.pid ≠ host.processId
  opened : host.openFile process.executablePath = some file

/-- The detector looks at its own process, whose image has the header bytes of the file. -/
structure ReadsImage (host : HostProcess) (process : ProcessInfo) (file : List UInt8) : Prop where
  valid : process.valid = true
  located : process.executablePath ≠ []
  own : process.pid = host.processId
  present : host.imageModule ≠ 0
  mapped : Mapped host.memory host.imageModule file

theorem ReadsFile.detect_eq {host : HostProcess} {process : ProcessInfo} {file : List UInt8}
    (reads : ReadsFile host process file) (complete : Complete file) :
    (detect host process).toOption =
      (identify file).map fun identity => makeBuildInfo process identity.1 identity.2 := by
  rw [detect, if_neg (by simp [reads.valid, reads.located]), if_neg reads.foreign, reads.opened]
  exact detectFile_eq complete process

theorem ReadsImage.detect_eq {host : HostProcess} {process : ProcessInfo} {file : List UInt8}
    (reads : ReadsImage host process file) :
    (detect host process).toOption =
      (identify file).map fun identity => makeBuildInfo process identity.1 identity.2 := by
  rw [detect, if_neg (by simp [reads.valid, reads.located]), if_pos reads.own]
  exact detectLoadedImage_eq reads.present reads.mapped process

theorem exists_ok_iff {α : Type} {outcome : Result α} :
    (∃ value, outcome = .ok value) ↔ outcome.toOption.isSome := by
  cases outcome with
  | error error => simp [Except.toOption]
  | ok value => simp [Except.toOption]

theorem identify_of_detect {outcome : Result BuildInfo} {process : ProcessInfo} {file : List UInt8}
    {build : BuildInfo} (detected : outcome.toOption =
      (identify file).map fun identity => makeBuildInfo process identity.1 identity.2)
    (ok : outcome = .ok build) :
    ∃ timestamp imageSize, identify file = some (timestamp, imageSize) ∧
      build = makeBuildInfo process timestamp imageSize := by
  rw [ok, Except.toOption, eq_comm, Option.map_eq_some_iff] at detected
  obtain ⟨⟨timestamp, imageSize⟩, identified, same⟩ := detected
  exact ⟨timestamp, imageSize, identified, same.symm⟩

/-- The detector finds the same build in a file and in an image with its header
bytes, or in neither, and where it is of the 64-bit kind the module manager
finds it in the image as well. -/
theorem pe_readers_agree {file : List UInt8} {fileHost imageHost : HostProcess} {stored loaded : ProcessInfo}
    (readsFile : ReadsFile fileHost stored file) (readsImage : ReadsImage imageHost loaded file) :
    ((∃ build, detect fileHost stored = .ok build) ↔ ∃ build, detect imageHost loaded = .ok build) ∧
    ∀ fromFile fromImage, detect fileHost stored = .ok fromFile → detect imageHost loaded = .ok fromImage →
      fromFile.peTimestamp = fromImage.peTimestamp ∧ fromFile.imageSize = fromImage.imageSize ∧
      fromFile.fingerprint = fromImage.fingerprint ∧ fromFile.version = fromImage.version ∧
      (magicOf file = imageNtOptionalHdr64Magic → ∀ fileName, ∃ module,
        ModuleManager.inspect imageHost.memory fileName imageHost.imageModule = .ok module ∧
          module.fingerprint.timeDateStamp = fromFile.peTimestamp ∧
          module.fingerprint.sizeOfImage = fromFile.imageSize) := by
  have stored_eq := readsFile.detect_eq readsImage.mapped.complete
  have loaded_eq := readsImage.detect_eq
  constructor
  · rw [exists_ok_iff, exists_ok_iff, stored_eq, loaded_eq, Option.isSome_map, Option.isSome_map]
  · intro fromFile fromImage fileOk imageOk
    obtain ⟨timestamp, imageSize, identified, rfl⟩ := identify_of_detect stored_eq fileOk
    obtain ⟨timestamp', imageSize', identified', rfl⟩ := identify_of_detect loaded_eq imageOk
    cases identified.symm.trans identified'
    refine ⟨rfl, rfl, rfl, rfl, fun wide fileName => ?_⟩
    exact inspect_of_identify readsImage.present readsImage.mapped identified wide fileName

/-- A file with the headers of a 64-bit image and nothing else. -/
def headersOnly : List UInt8 :=
  [0x4D, 0x5A] ++ List.replicate 58 0 ++ [64, 0, 0, 0] ++
    ([0x50, 0x45, 0, 0, 0x64, 0x86, 0, 0, 1, 2, 3, 4] ++ List.replicate 12 0) ++
    ([0x0B, 0x02] ++ List.replicate 54 0 ++ [0, 0x10, 0, 0] ++ List.replicate 180 0)

def headersHost : HostProcess where
  processId := 1
  lastError := 0
  executablePath := none
  executableName := []
  architecture := .x64
  memory := fun address => headersOnly.getD (address - 0x10000).toNat 0
  regions := fun _ => none
  imageModule := 0x10000
  moduleHandle := fun _ => 0
  moduleInformation := fun _ => none
  moduleSnapshot := fun _ => .unlisted
  openProcess := fun _ => none
  openFile := fun _ => some headersOnly

def headersProcess (pid : UInt32) : ProcessInfo where
  pid
  executableName := text "GTA5_Enhanced.exe"
  executablePath := text "GTA5_Enhanced.exe"
  running := true

theorem mapped_getD {file : List UInt8} (complete : Complete file) (short : file.length < 2 ^ 64) (base : Address) :
    Mapped (fun address => file.getD (address - base).toNat 0) base file := by
  intro index inside
  have below := complete index inside
  have offset : (base + UInt64.ofNat index - base).toNat = index := by
    rw [UInt64.add_comm, UInt64.add_sub_cancel, UInt64.toNat_ofNat_of_lt' (Nat.lt_trans below short)]
  dsimp only
  rw [offset, List.getD_eq_getElem _ _ below, List.getElem?_eq_getElem below]

theorem length_headersOnly : headersOnly.length = 328 := by
  simp only [headersOnly, List.length_append, List.length_replicate, List.length_cons, List.length_nil]

theorem headersOnly_complete : Complete headersOnly := by
  have position : ntPosition headersOnly = 64 := by decide
  have size : optionalHeaderSize (magicOf headersOnly) = 240 := by decide
  have length := length_headersOnly
  intro index inside
  rw [InHeaders, position, size] at inside
  omega

theorem pe_readers_agree_headersOnly :
    ∃ build, detect headersHost (headersProcess 1) = .ok build ∧ build.imageSize = 0x1000 := by
  have readsFile : ReadsFile headersHost (headersProcess 2) headersOnly :=
    ⟨by decide, by decide, by decide, rfl⟩
  have readsImage : ReadsImage headersHost (headersProcess 1) headersOnly :=
    ⟨by decide, by decide, rfl, by decide, mapped_getD headersOnly_complete (by rw [length_headersOnly]; decide) _⟩
  have identified : identify headersOnly = some (0x04030201, 0x1000) := by decide
  have found := readsFile.detect_eq headersOnly_complete
  rw [identified, Option.map_some] at found
  obtain ⟨fromFile, fileOk⟩ := exists_ok_iff.mpr (Option.isSome_of_eq_some found)
  rw [fileOk, Except.toOption, Option.some_inj] at found
  -- what the file path found, the other path finds as well
  have agree := pe_readers_agree readsFile readsImage
  obtain ⟨fromImage, imageOk⟩ := agree.1.mp ⟨fromFile, fileOk⟩
  have same := agree.2 fromFile fromImage fileOk imageOk
  exact ⟨fromImage, imageOk, same.2.1.symm.trans (congrArg BuildInfo.imageSize found)⟩

end DevilzDen.Integrations.GTA5Enhanced.BuildInfoDetector
