import JarLauncher.Error
import JarLauncher.JavaRuntime.Version

/-!
What is known about the Java runtime of the machine, and the verdict on it.
-/

namespace JarLauncher.JavaRuntime

/-- The reason given when the runtime refused to say its version. -/
def notFoundInPath : String := "Java not found in PATH"

/-- The reason given when the runtime said something without a version in it. -/
def unparseableVersion : String := "Unable to parse Java version"

/-- What a probe learned about the runtime. -/
structure Info where
  available : Bool := false
  /-- The first number of the version as printed, which is `1` for the old form. -/
  version : Option String := none
  majorVersion : Option Nat := none
  isCompatible : Option Bool := none
  /-- The version with the word before it, as printed. -/
  fullVersion : Option String := none
  error : Option String := none
  deriving DecidableEq, Repr

namespace Info

/-- A runtime that cannot be used at all, for a reason. -/
def unavailable (reason : String) : Info :=
  { error := some reason }

def ofVersion (version : JavaVersion) (minimum : Nat) : Info where
  available := true
  version := some version.token
  majorVersion := some version.major
  isCompatible := some (minimum ≤ version.major)
  fullVersion := some version.raw

/-- What a runtime's exit and the text it printed say about it. -/
def ofOutput (exitedOk : Bool) (printed : String) (minimum : Nat) : Info :=
  if !exitedOk then unavailable notFoundInPath
  else match JavaVersion.parse? printed with
    | some version => ofVersion version minimum
    | none => unavailable unparseableVersion

/-- Accepts a runtime that is available and new enough. -/
def judge (info : Info) (minimum : Nat) : Except LauncherError Info :=
  if !info.available then .error (.runtimeMissing (info.error.getD notFoundInPath) minimum)
  else if info.isCompatible ≠ some true then
    .error (.incompatibleRuntime (info.majorVersion.getD 0) minimum)
  else .ok info

end Info
end JarLauncher.JavaRuntime
