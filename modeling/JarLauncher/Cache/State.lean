import JarLauncher.Cache.Descriptor
import JarLauncher.Machine.Procedure
import JarLauncher.Text.Blank

/-!
What is in the cache, and whether the engine there can be run as it is. The cache is only looked at here.
-/

namespace JarLauncher.Cache

open Machine

def archiveSignature : Bytes := [0x50, 0x4B, 0x03, 0x04]

def startsAsArchive (contents : Bytes) : Bool :=
  contents.take archiveSignature.length = archiveSignature

/-- What was found in the cache. -/
structure State where
  artifactPresent : Bool
  markerPresent : Bool
  markerVersion : Option String := none
  /-- Looked into only if the marker tells the wanted version. -/
  artifactStructurallyValid : Bool
  deriving DecidableEq, Repr

namespace State

/-- Whether the cache tells that it holds the wanted version. -/
def claims (state : State) (expected : String) : Bool :=
  state.artifactPresent && state.markerVersion = some expected

def isUsable (state : State) (expected : String) : Bool :=
  state.claims expected && state.artifactStructurallyValid

/-- Whether the cache tells that it holds the wanted version, but it is no archive. -/
def isCorrupted (state : State) (expected : String) : Bool :=
  state.claims expected && !state.artifactStructurallyValid

end State

/-- The version that the marker tells, without blanks around it; a marker that cannot be read tells none. -/
def markerVersion (descriptor : Descriptor) : Procedure (Option String) := do
  if ← .request (.isFile descriptor.markerPath) then
    match ← .request (.readText descriptor.markerPath) with
    | .ok contents => return some (Text.trim contents)
    | .error _ => return none
  else return none

/-- Whether the cached engine can be opened and starts like an archive. -/
def hasArchiveSignature (descriptor : Descriptor) : Procedure Bool := do
  match ← .request (.openFile descriptor.artifactPath) with
  | .ok contents => return startsAsArchive contents
  | .error _ => return false

def observe (descriptor : Descriptor) : Procedure State := do
  let artifactPresent ← .request (.isFile descriptor.artifactPath)
  let markerPresent ← .request (.isFile descriptor.markerPath)
  let markerVersion ← markerVersion descriptor
  let artifactStructurallyValid ←
    if artifactPresent && markerVersion = some descriptor.expectedVersion then
      hasArchiveSignature descriptor
    else pure false
  return { artifactPresent, markerPresent, markerVersion, artifactStructurallyValid }

def isUsable (descriptor : Descriptor) : Procedure Bool := do
  return (← observe descriptor).isUsable descriptor.expectedVersion

end JarLauncher.Cache
