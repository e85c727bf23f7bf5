import DevilzDen.Foundation.Table
import DevilzDen.Integrations.GTA5Enhanced.Runtime.BuildInfo
import DevilzDen.Integrations.GTA5Enhanced.Script.ScriptGlobalManager

/-! The script runtime of a build: its programs, threads and globals.

Programs and threads are known by address, under their hashes and ids.
-/

set_option autoImplicit false

namespace DevilzDen.Integrations.GTA5Enhanced

open Backend Foundation

inductive ScriptRuntimeState where
  | created
  | initializing
  | ready
  | failed
  | stopped
  deriving DecidableEq, Repr

structure ScriptRuntimeManager where
  build : BuildInfo := {}
  programs : Table UInt32 Address := ∅
  threads : Table UInt32 Address := ∅
  globals : ScriptGlobalManager := {}
  state : ScriptRuntimeState := .created

namespace ScriptRuntimeManager

def initializeBuild (manager : ScriptRuntimeManager) (build : BuildInfo) : Result Unit × ScriptRuntimeManager :=
  if build.fingerprint = 0 then
    (.error (Error.runtime "Script runtime requires a validated GTA build fingerprint"),
      { manager with state := .failed })
  else
    (.ok (), { build, programs := ∅, threads := ∅, globals := manager.globals.clear, state := .ready })

def shutdown (manager : ScriptRuntimeManager) : ScriptRuntimeManager where
  build := {}
  programs := ∅
  threads := ∅
  globals := manager.globals.clear
  state := .stopped

def ready (manager : ScriptRuntimeManager) : Bool := manager.state == .ready

end ScriptRuntimeManager

end DevilzDen.Integrations.GTA5Enhanced
