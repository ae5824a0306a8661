import JarLauncher.Cache.State
import JarLauncher.Config.Load
import JarLauncher.JavaRuntime.Probe
import JarLauncher.Supervision.Watch

/-!
The launcher: it makes sure of the runtime and of the cache, in this order, and then runs the engine as its
supervised child.
-/

namespace JarLauncher.Launch

open Machine JavaRuntime

/-- The arguments with which the runtime runs the engine; those of the user follow unchanged. -/
def runtimeArgs (descriptor : Cache.Descriptor) (passthrough : List Bytes) : List Bytes :=
  Utf8.encode "-jar" :: descriptor.artifactPath.bytes :: passthrough

/-- Makes sure that the engine can be run. -/
def prepare (probe : Probe) (descriptor : Cache.Descriptor) : Attempt Unit := do
  let _ ← probe.validate
  if !(← ExceptT.lift (Cache.isUsable descriptor)) then
    throw (.cacheUnusable descriptor.expectedVersion)

/-- Makes sure of everything and runs the engine, to learn how to end. -/
def run (config : Config) (home : Option Path) (passthrough : List Bytes) :
    Attempt Supervision.Termination := do
  let descriptor ← ExceptT.mk (.done (config.descriptor home))
  prepare ⟨config.java, config.minJavaMajor⟩ descriptor
  let ended ← ExceptT.lift (.request (.supervise config.java (runtimeArgs descriptor passthrough)))
  ExceptT.mk (.done (ended.mapError (·.withRequired config.minJavaMajor)))

/-- Loads the configuration and runs the engine as it says. -/
def start (account : Account) (passthrough : List Bytes) (reader : Toml.Reader := Toml.document?) :
    Attempt Supervision.Termination := do
  run (← Config.load account none reader) account.home passthrough

/-- How the launcher ends after what came of its work, and what it writes to its error stream. -/
def ending : Except LauncherError Supervision.Termination → Supervision.Ending × String
  | .ok termination => (termination.ending, "")
  | .error error => (.ofCode failureCode, error.announcement "Error running apex-ls-mcp")

/-- Runs the engine in the given surroundings with a runtime that has been accepted. -/
def supervised {World : Type} (surroundings : Supervision.Surroundings World) (probe : Probe)
    (descriptor : Cache.Descriptor) (passthrough : List Bytes) (world : World) :
    Except LauncherError Supervision.Termination × World :=
  let (ended, after) :=
    Supervision.supervise surroundings (Utf8.encode probe.java) (runtimeArgs descriptor passthrough) world
  (ended.mapError (·.withRequired probe.minimum), after)

end JarLauncher.Launch
