import JarLauncher.Path
import JarLauncher.Text.Search

/-!
Which version of the engine is wanted, where it comes from, and where in the cache it lives.
-/

namespace JarLauncher.Cache

/-- The place in a template where the version goes. -/
def placeholder : String := "\x7bjarVersion\x7d"

def artifactFileName : String := "apex-ls-mcp.jar"

/-- The name of the file in the cache directory that tells the version of the engine there. -/
def markerFileName : String := "version.txt"

structure Descriptor where
  expectedVersion : String
  /-- The location of the engine, with a placeholder for the version. -/
  remoteLocationTemplate : String
  cacheDir : Path
  deriving DecidableEq, Repr

namespace Descriptor

def artifactPath (descriptor : Descriptor) : Path :=
  descriptor.cacheDir.join (.ofString artifactFileName)

/-- Where the version of the cached engine is told. -/
def markerPath (descriptor : Descriptor) : Path :=
  descriptor.cacheDir.join (.ofString markerFileName)

/-- Where to download the engine: the template with the version at every placeholder. -/
def remoteLocation (descriptor : Descriptor) : String :=
  Text.replaceAll placeholder descriptor.expectedVersion descriptor.remoteLocationTemplate

end Descriptor
end JarLauncher.Cache
