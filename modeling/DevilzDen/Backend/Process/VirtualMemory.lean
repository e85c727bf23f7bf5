import DevilzDen.Backend.Memory.Pointer

/-! What `VirtualQuery` tells about the pages at an address.

The operating system's answer is a function of the address; a caller's
hypotheses never restrict it.
-/

set_option autoImplicit false

namespace DevilzDen.Backend

/-- The fields of `MEMORY_BASIC_INFORMATION` that the sources read. -/
structure MemoryBasicInformation where
  baseAddress : Address
  regionSize : UInt64
  state : UInt32
  protect : UInt32
  type : UInt32
  deriving DecidableEq, Repr

/-- The answers of `VirtualQuery`; `none` is its failure. -/
abbrev VirtualQuery := Address → Option MemoryBasicInformation

/-- A map of regions: an answer covers the address it is for, and every address
that it covers has the same answer. -/
def VirtualQuery.Consistent (regions : VirtualQuery) : Prop :=
  ∀ address region, regions address = some region →
    (region.baseAddress.toNat ≤ address.toNat ∧
      address.toNat < region.baseAddress.toNat + region.regionSize.toNat) ∧
    ∀ other : Address, region.baseAddress.toNat ≤ other.toNat →
      other.toNat < region.baseAddress.toNat + region.regionSize.toNat → regions other = some region

namespace Win32

def memCommit : UInt32 := 0x1000
def memImage : UInt32 := 0x1000000
def pageNoAccess : UInt32 := 0x01
def pageReadOnly : UInt32 := 0x02
def pageReadWrite : UInt32 := 0x04
def pageWriteCopy : UInt32 := 0x08
def pageExecute : UInt32 := 0x10
def pageExecuteRead : UInt32 := 0x20
def pageExecuteReadWrite : UInt32 := 0x40
def pageExecuteWriteCopy : UInt32 := 0x80
def pageGuard : UInt32 := 0x100

def hasAny (value mask : UInt32) : Bool := value &&& mask != 0

end Win32

end DevilzDen.Backend
