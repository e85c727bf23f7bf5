import DevilzDen.Backend.Memory.Module
import DevilzDen.Foundation.Run

/-! What a module's fingerprint tells of its metadata.

The hash takes in the metadata byte by byte. Each step can be undone when its
byte is known, so a change of one byte is never lost. Where a section stands is
not part of what is hashed.
-/

set_option autoImplicit false

namespace DevilzDen.Backend

open Foundation

theorem littleEndianBytes_succ (width value : Nat) : littleEndianBytes (width + 1) value =
    UInt8.ofNat value :: littleEndianBytes width (value / 256) := by
  unfold littleEndianBytes
  rw [List.range_succ_eq_map, List.map_cons, List.map_map, Nat.pow_zero, Nat.div_one]
  refine congrArg _ (List.map_congr_left fun index _ => ?_)
  rw [Function.comp_apply, Nat.pow_succ', Nat.div_div_eq_div_mul]

theorem littleEndian_littleEndianBytes (width value : Nat) :
    littleEndian (littleEndianBytes width value) = value % 256 ^ width := by
  induction width generalizing value with
  | zero => rw [Nat.pow_zero, Nat.mod_one]; rfl
  | succ width ih =>
    have unfolded : ∀ (byte : UInt8) (later : List UInt8),
        littleEndian (byte :: later) = byte.toNat + 256 * littleEndian later := fun _ _ => rfl
    have wider : 256 ^ (width + 1) = 256 * 256 ^ width := Nat.pow_succ'
    rw [littleEndianBytes_succ, unfolded, ih, UInt8.toNat_ofNat', wider]
    exact Nat.mod_mul.symm

theorem length_littleEndianBytes (width value : Nat) : (littleEndianBytes width value).length = width := by
  rw [littleEndianBytes, List.length_map, List.length_range]

namespace ModuleManager

/-! ## The hash as a run over the metadata -/

def sectionBytes (section_ : ModuleSection) : List UInt8 :=
  section_.name ++ littleEndianBytes 8 section_.range.size.toNat ++
    littleEndianBytes 8 section_.characteristics.toUInt64.toNat

/-- The bytes that the hash takes in. -/
def metadata (module : ModuleInfo) : List UInt8 :=
  littleEndianBytes 8 module.fingerprint.timeDateStamp.toUInt64.toNat ++
    littleEndianBytes 8 module.fingerprint.sizeOfImage.toUInt64.toNat ++ module.sections.flatMap sectionBytes

theorem hashImageMetadata_eq_run (module : ModuleInfo) :
    hashImageMetadata module = run mixByte 1469598103934665603 (metadata module) := by
  have sections : ∀ (sections : List ModuleSection) (hash : UInt64), sections.foldl
      (fun hash section_ =>
        mix (mix (section_.name.foldl mixByte hash) section_.range.size) section_.characteristics.toUInt64) hash =
        run mixByte hash (sections.flatMap sectionBytes) := by
    intro sections
    induction sections with
    | nil => exact fun _ => rfl
    | cons section_ later ih =>
      intro hash
      rw [List.foldl_cons, ih, List.flatMap_cons, run_append, sectionBytes, run_append, run_append]
      rfl
  rw [hashImageMetadata, sections, metadata, run_append, run_append]
  rfl

/-- The prime is odd, so a multiplication by it can be undone. -/
theorem mul_fnvPrime_injective : Function.Injective fun hash : UInt64 => hash * fnvPrime := by
  have undone : ∀ hash : UInt64, hash * fnvPrime * 0xCE965057AFF6957B = hash := by
    intro hash
    rw [UInt64.mul_assoc]
    exact UInt64.mul_one hash
  intro hash other same
  rw [← undone hash, ← undone other]
  exact congrArg (· * 0xCE965057AFF6957B) same

theorem mixByte_keeps (byte : UInt8) : Function.Injective fun hash => mixByte hash byte := by
  intro hash other same
  exact (UInt64.xor_left_inj _).mp (mul_fnvPrime_injective same)

theorem mixByte_tells (hash : UInt64) : Function.Injective (mixByte hash) := by
  intro byte other same
  have widened : byte.toUInt64 = other.toUInt64 := (UInt64.xor_right_inj hash).mp (mul_fnvPrime_injective same)
  exact UInt8.toUInt64_inj.mp widened

/-! ## The fingerprint -/

def Fingerprinted (module : ModuleInfo) : Prop := module.fingerprint.imageHash = hashImageMetadata module

theorem inspect_fingerprinted {memory : Memory} {fileName : Text} {moduleBase : Address} {module : ModuleInfo}
    (inspected : inspect memory fileName moduleBase = .ok module) : Fingerprinted module := by
  unfold inspect at inspected
  split at inspected
  · cases inspected
  · split at inspected
    · cases inspected
    · dsimp only at inspected
      split at inspected
      · cases inspected
      · cases inspected
        rfl

theorem header_of_metadata {module : ModuleInfo} : module.fingerprint.timeDateStamp =
      UInt32.ofNat (littleEndian ((metadata module).take 8)) ∧
    module.fingerprint.sizeOfImage = UInt32.ofNat (littleEndian (((metadata module).drop 8).take 8)) := by
  have read : ∀ (value : UInt32) (rest : List UInt8),
      UInt32.ofNat (littleEndian ((littleEndianBytes 8 value.toUInt64.toNat ++ rest).take 8)) = value := by
    intro value rest
    have small : value.toUInt64.toNat < 256 ^ 8 := UInt64.toNat_lt _
    rw [List.take_left' (length_littleEndianBytes _ _), littleEndian_littleEndianBytes, Nat.mod_eq_of_lt small,
      UInt32.toNat_toUInt64]
    exact UInt32.ofNat_toNat
  constructor
  · rw [metadata, List.append_assoc, read]
  · rw [metadata, List.append_assoc, List.drop_left' (length_littleEndianBytes _ _), read]

theorem value_inj {fingerprint other : ModuleFingerprint} (stamp : fingerprint.timeDateStamp = other.timeDateStamp)
    (size : fingerprint.sizeOfImage = other.sizeOfImage) :
    fingerprint.value = other.value ↔ fingerprint.imageHash = other.imageHash := by
  rw [ModuleFingerprint.value, ModuleFingerprint.value, stamp, size, UInt64.xor_left_inj, UInt64.xor_left_inj]

/-- Two images whose metadata differ in at most one byte, and not in the header,
have the same fingerprint exactly when they do not differ at all. -/
theorem fingerprint_tells_one_byte {module other : ModuleInfo} (hashed : Fingerprinted module)
    (hashed' : Fingerprinted other) {before after : List UInt8} {byte byte' : UInt8} (behind : 16 ≤ before.length)
    (whole : metadata module = before ++ byte :: after) (whole' : metadata other = before ++ byte' :: after) :
    module.fingerprint.value = other.fingerprint.value ↔ byte = byte' := by
  have front : ∀ byte : UInt8, (before ++ byte :: after).take 16 = before.take 16 := fun byte =>
    List.take_append_of_le_length behind
  have same : (metadata module).take 16 = (metadata other).take 16 := by rw [whole, whole', front, front]
  have eight : ∀ bytes : List UInt8, bytes.take 8 = (bytes.take 16).take 8 := by
    intro bytes
    rw [List.take_take]
    rfl
  have next : ∀ bytes : List UInt8, (bytes.drop 8).take 8 = (bytes.take 16).drop 8 := by
    intro bytes
    rw [List.drop_take]
  have stamp : module.fingerprint.timeDateStamp = other.fingerprint.timeDateStamp := by
    rw [header_of_metadata.1, header_of_metadata.1, eight, eight (metadata other), same]
  have size : module.fingerprint.sizeOfImage = other.fingerprint.sizeOfImage := by
    rw [header_of_metadata.2, header_of_metadata.2, next, next (metadata other), same]
  rw [value_inj stamp size, hashed, hashed', hashImageMetadata_eq_run, hashImageMetadata_eq_run, whole, whole']
  exact run_eq_iff_of_changed _ mixByte_keeps mixByte_tells _ before byte byte' after

def fingerprinted (info : ModuleInfo) : ModuleInfo :=
  { info with fingerprint.imageHash := hashImageMetadata info }

theorem fingerprinted_fingerprinted (info : ModuleInfo) : Fingerprinted (fingerprinted info) := by
  obtain ⟨name, base, size, ⟨stamp, imageSize, hash⟩, sections⟩ := info
  rfl

theorem metadata_fingerprinted (info : ModuleInfo) : metadata (fingerprinted info) = metadata info := by
  obtain ⟨name, base, size, ⟨stamp, imageSize, hash⟩, sections⟩ := info
  rfl

def imageOf (characteristics : UInt32) : ModuleInfo where
  name := text "game.exe"
  base := 0x10000
  size := 0x2000
  fingerprint := { timeDateStamp := 7, sizeOfImage := 0x2000, imageHash := 0 }
  sections := [⟨text ".data", ⟨0x11000, 0x1000⟩, characteristics⟩]

theorem fingerprint_tells_one_byte_writable : (fingerprinted (imageOf 0x40000040)).fingerprint.value ≠
    (fingerprinted (imageOf 0xC0000040)).fingerprint.value := by
  let before := (metadata (imageOf 0x40000040)).take 32
  have readOnly : metadata (imageOf 0x40000040) = before ++ 0x40 :: [0, 0, 0, 0] := by decide
  have writable : metadata (imageOf 0xC0000040) = before ++ 0xC0 :: [0, 0, 0, 0] := by decide
  intro same
  refine absurd ((fingerprint_tells_one_byte (fingerprinted_fingerprinted _) (fingerprinted_fingerprinted _) ?_
    ((metadata_fingerprinted _).trans readOnly) ((metadata_fingerprinted _).trans writable)).mp same) ?_
  · decide
  · decide

end ModuleManager

end DevilzDen.Backend
