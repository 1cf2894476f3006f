import Tateru.Native.Error

/-!
# The mock handle

`MockVmControl` stands in for a handle in tests: a flag, a count of the calls of `stop`, and a
switch that makes `stop` fail.
-/

namespace Tateru

/-- Mock VM control handle for testing without real VMs. -/
structure MockVmControl where
  running : Bool := true
  stopCount : UInt32 := 0
  failStop : Bool := false
deriving DecidableEq, Repr

namespace MockVmControl

/-- A mock handle in the running state. -/
def new : MockVmControl := {}

/-- Check if the VM is still running. -/
def isRunning (m : MockVmControl) : Bool :=
  m.running

/-- Gracefully stop the VM. A call on a VM that is not running is not counted. -/
def stop (m : MockVmControl) : Except TateruError Unit × MockVmControl :=
  if !m.isRunning then (.error .notRunning, m)
  else
    let m := { m with stopCount := m.stopCount + 1 }
    if m.failStop then (.error (.bridgeIo ⟨.other, "mock stop failure"⟩), m)
    else (.ok (), { m with running := false })

end MockVmControl

end Tateru
