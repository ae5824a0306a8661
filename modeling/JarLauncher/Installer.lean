import JarLauncher.Cache.Install
import JarLauncher.CommandLine
import JarLauncher.Config.Load

/-!
The installer: it reports on the cache, or brings it in line with the configuration and tells the user about
its progress. A client for downloads can always be had, so nothing is refused for want of one.
-/

namespace JarLauncher.Installer

open Cache Machine

def say (line : String) : Attempt Unit :=
  ExceptT.lift (.request (.say line))

/-- Tells whether the cache is usable. -/
def report (descriptor : Descriptor) : Plan → Attempt Int32
  | .upToDate => do
    say s!"apex-ls-mcp v{descriptor.expectedVersion} is cached at {descriptor.artifactPath.display}"
    return successCode
  | .refresh reason => do
    say s!"apex-ls-mcp v{descriptor.expectedVersion} is not usable: {reason.text}"
    return failureCode

def announce (descriptor : Descriptor) : Plan → Attempt Unit
  | .upToDate => return
  | .refresh reason => do
    if reason = .corrupted then say "Cached JAR is corrupted, re-downloading..."
    say s!"Downloading apex-ls-mcp v{descriptor.expectedVersion}..."

def conclude : Outcome → Attempt Unit
  | .alreadyCached version => say s!"apex-ls-mcp v{version} already cached"
  | .installed version _ => say s!"apex-ls-mcp v{version} installed successfully"

/-- Does what the command line asks for, and gives the exit code. -/
def run (account : Account) (pid : Nat) (arguments : CommandLine.Arguments)
    (reader : Toml.Reader := Toml.document?) : Attempt Int32 := do
  let config ← Config.load account arguments.config reader
  let descriptor ← ExceptT.mk (.done (config.descriptor account.home))
  let plan ← ExceptT.lift (plan descriptor)
  if arguments.check then report descriptor plan
  else
    say "Installing apex-ls-mcp..."
    announce descriptor plan
    conclude (← apply pid descriptor plan)
    return successCode

/-- The exit code after what came of the work, and what is written to the error stream. -/
def ending : Except LauncherError Int32 → Int32 × String
  | .ok code => (code, "")
  | .error error => (failureCode, error.announcement "Failed to install apex-ls-mcp")

end JarLauncher.Installer
