import JarLauncher.Cache.Descriptor
import JarLauncher.Config.Raw
import JarLauncher.Text.Blank

/-!
Settings that make sense. The version is kept without the blanks around it, so that it is the very text
that a marker in the cache is read as.
-/

namespace JarLauncher

inductive ConfigFault
  | emptyVersion
  | unusableVersion (version : String)
  | notWeb (url : String)
  | noPlaceholder (url : String)
  | noJava
  | zeroMinimum
  | noHome
  deriving DecidableEq, Repr

def ConfigFault.message : ConfigFault → String
  | emptyVersion => "jar_version must not be empty"
  | unusableVersion version =>
    s!"jar_version '{version}' must not contain whitespace or path separators"
  | notWeb url => s!"download_url must be an http(s) URL (got '{url}')"
  | noPlaceholder url =>
    s!"download_url must contain the {Cache.placeholder} placeholder (got '{url}')"
  | noJava => "java must name an executable"
  | zeroMinimum => "min_java_major must be >= 1 (got 0)"
  | noHome => "cannot determine the home directory for the JAR cache"

structure Config where
  jarVersion : String
  downloadUrl : String
  java : String
  minJavaMajor : Nat
  /-- Where the cache is, if not in its usual place in the home directory. -/
  cacheDir : Option Path
  deriving DecidableEq, Repr

/-- The name of the cache directory in the home directory. -/
def cacheDirName : String := ".apex-ls-mcp"

namespace RawConfig

/-- Whether a character may not stand in a version, which becomes a part of a location. -/
def isUnusableInVersion (char : Char) : Bool :=
  Text.isBlank char || char = '/' || char = '\\'

/-- The first thing that is wrong with the settings. -/
def fault? (raw : RawConfig) : Option ConfigFault :=
  let version := Text.trim raw.jarVersion
  let url := Text.trim raw.downloadUrl
  if version = "" then some .emptyVersion
  else if version.toList.any isUnusableInVersion then some (.unusableVersion version)
  else if !(Text.startsWith "http://" url || Text.startsWith "https://" url) then some (.notWeb url)
  else if !Text.occursIn Cache.placeholder.toList url.toList then some (.noPlaceholder url)
  else if Text.trim raw.java = "" then some .noJava
  else if raw.minJavaMajor = 0 then some .zeroMinimum
  else none

/-- The settings with the version in its normal form. -/
def normalized (raw : RawConfig) : Config where
  jarVersion := Text.trim raw.jarVersion
  downloadUrl := raw.downloadUrl
  java := raw.java
  minJavaMajor := raw.minJavaMajor
  cacheDir := raw.cacheDir

/-- The settings, if nothing is wrong with them. -/
def accept (raw : RawConfig) : Except LauncherError Config :=
  match raw.fault? with
  | some fault => .error (.configuration fault.message)
  | none => .ok raw.normalized

end RawConfig

namespace Config

/-- The settings that an accepted configuration stands for. -/
def toRaw (config : Config) : RawConfig :=
  { config with }

/-- Accepted settings are accepted once more, and stay what they are. -/
theorem accept_toRaw {raw : RawConfig} {config : Config} (accepted : raw.accept = .ok config) :
    config.toRaw.accept = .ok config := by
  unfold RawConfig.accept at accepted
  split at accepted
  · cases accepted
  · rename_i sound
    cases accepted
    have same : raw.normalized.toRaw.fault? = raw.fault? := by
      unfold RawConfig.fault?
      rw [show Text.trim raw.normalized.toRaw.jarVersion = Text.trim raw.jarVersion from Text.trim_trim _]
      rfl
    have kept : raw.normalized.toRaw.normalized = raw.normalized := by
      simp only [RawConfig.normalized, toRaw, Text.trim_trim]
    rw [RawConfig.accept, same, sound, kept]

theorem trim_jarVersion {raw : RawConfig} {config : Config} (accepted : raw.accept = .ok config) :
    Text.trim config.jarVersion = config.jarVersion := by
  unfold RawConfig.accept at accepted
  split at accepted
  · cases accepted
  · cases accepted
    exact Text.trim_trim raw.jarVersion

/-- Where the cache is, given the user's home directory. -/
def cacheLocation (config : Config) (home : Option Path) : Except LauncherError Path :=
  match config.cacheDir, home with
  | some directory, _ => .ok directory
  | none, some home => .ok (home.join (.ofString cacheDirName))
  | none, none => .error (.configuration ConfigFault.noHome.message)

/-- What is wanted, with the cache in a given directory. -/
def descriptorIn (config : Config) (directory : Path) : Cache.Descriptor where
  expectedVersion := config.jarVersion
  remoteLocationTemplate := config.downloadUrl
  cacheDir := directory

def descriptor (config : Config) (home : Option Path) : Except LauncherError Cache.Descriptor :=
  (config.cacheLocation home).map config.descriptorIn

theorem exists_descriptorIn {config : Config} {home : Option Path} {descriptor : Cache.Descriptor}
    (described : config.descriptor home = .ok descriptor) :
    ∃ directory, descriptor = config.descriptorIn directory := by
  unfold Config.descriptor at described
  cases located : config.cacheLocation home with
  | error error =>
    rw [located] at described
    cases described
  | ok directory =>
    rw [located] at described
    exact ⟨directory, (Except.ok.inj described).symm⟩

end Config
end JarLauncher
