/-! The 64-bit name of a native function. -/

set_option autoImplicit false

namespace DevilzDen.Integrations.GTA5Enhanced

structure NativeHash where
  value : UInt64 := 0
  deriving DecidableEq, Repr

end DevilzDen.Integrations.GTA5Enhanced
