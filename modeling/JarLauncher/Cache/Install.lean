import JarLauncher.Cache.State
import JarLauncher.Download.Fetch

/-!
Bringing the cache in line with a wanted version: look, download if need be, and only then write the marker.
-/

namespace JarLauncher.Cache

open Machine Download

/-- Why the engine has to be downloaded again. -/
inductive RefreshReason
  /-- There is no engine, or no marker for it. -/
  | missing
  /-- The marker tells another version. -/
  | versionMismatch (cached : String)
  /-- The marker tells the wanted version, but what it marks is no archive. -/
  | corrupted
  deriving DecidableEq, Repr

def RefreshReason.text : RefreshReason → String
  | missing => "not cached"
  | versionMismatch cached => s!"cached version is v{cached}"
  | corrupted => "cached JAR is corrupted"

inductive Plan
  | upToDate
  | refresh (reason : RefreshReason)
  deriving DecidableEq, Repr

def Plan.ofState (state : State) (expected : String) : Plan :=
  if state.isUsable expected then .upToDate
  else if state.isCorrupted expected then .refresh .corrupted
  else match state.markerVersion, state.artifactPresent with
    | some cached, true =>
      if cached ≠ expected then .refresh (.versionMismatch cached) else .refresh .missing
    | _, _ => .refresh .missing

inductive Outcome
  | alreadyCached (version : String)
  | installed (version : String) (reason : RefreshReason)
  deriving DecidableEq, Repr

def plan (descriptor : Descriptor) : Procedure Plan := do
  return .ofState (← observe descriptor) descriptor.expectedVersion

/-- Where the process `pid` prepares the marker. -/
def temporaryMarkerPath (descriptor : Descriptor) (pid : Nat) : Path :=
  descriptor.cacheDir.join (.ofString (hiddenName markerFileName pid))

/-- Writes the marker in one move, so that a reader sees the old one or the whole new one. -/
def writeMarker (pid : Nat) (descriptor : Descriptor) : Attempt Unit := ExceptT.mk do
  let marker := descriptor.markerPath
  let temporary := temporaryMarkerPath descriptor pid
  match ← .request (.writeFile temporary (Utf8.encode descriptor.expectedVersion)) with
  | .error report =>
    return .error (.other (report.within ("writing version marker " ++ temporary.quoted)))
  | .ok () =>
    match ← .request (.renameFile temporary marker) with
    | .error report =>
      let _ ← .request (.removeFile temporary)
      return .error (.other (report.within ("installing version marker " ++ marker.quoted)))
    | .ok () => return .ok ()

def apply (pid : Nat) (descriptor : Descriptor) : Plan → Attempt Outcome
  | .upToDate => return .alreadyCached descriptor.expectedVersion
  | .refresh reason => do
    let _ ← fetch pid descriptor.remoteLocation descriptor.artifactPath
    writeMarker pid descriptor
    return .installed descriptor.expectedVersion reason

/-- Brings the cache in line with the wanted version. -/
def install (pid : Nat) (descriptor : Descriptor) : Attempt Outcome := do
  apply pid descriptor (← ExceptT.lift (plan descriptor))

end JarLauncher.Cache
