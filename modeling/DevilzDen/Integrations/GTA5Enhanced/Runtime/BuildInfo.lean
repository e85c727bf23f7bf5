import DevilzDen.Backend.Error

/-! A game build as its PE headers identify it. Section hashes are left out: no code fills or reads them. -/

set_option autoImplicit false

namespace DevilzDen.Integrations.GTA5Enhanced

open Backend

structure BuildInfo where
  version : Text := []
  peTimestamp : UInt32 := 0
  imageSize : UInt32 := 0
  fingerprint : UInt64 := 0
  executablePath : Text := []
  deriving DecidableEq, Repr

end DevilzDen.Integrations.GTA5Enhanced
