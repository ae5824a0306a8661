import JarLauncher.Machine.Procedure
import JarLauncher.JavaRuntime.Info

/-!
Asking a runtime for its version. The probe itself never fails: a runtime that cannot be started is one
that is not available.
-/

namespace JarLauncher.JavaRuntime

open Machine

/-- What an attempt to ask a runtime for its version says about it. -/
def Info.ofSelfReport (answer : Except IoFault SelfReport) (minimum : Nat) : Info :=
  match answer with
  | .ok report => .ofOutput report.exitedOk (Utf8.decodeLossy report.printed) minimum
  | .error fault => .unavailable fault.message

/-- Which runtime to ask, and the oldest major version that will do. -/
structure Probe where
  java : String := "java"
  minimum : Nat := minimumMajor
  deriving DecidableEq, Repr

namespace Probe

def examine (probe : Probe) : Procedure Info := do
  return .ofSelfReport (← .request (.askVersion probe.java)) probe.minimum

/-- Finds out about the runtime, and accepts it only if it is new enough. -/
def validate (probe : Probe) : Attempt Info := ExceptT.mk do
  return (← probe.examine).judge probe.minimum

end Probe
end JarLauncher.JavaRuntime
