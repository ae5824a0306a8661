import JarLauncher.Machine.Fault
import JarLauncher.Path

/-!
What can go wrong for the launcher and the installer, how each failure is worded, and the remedy that is
shown with it.
-/

namespace JarLauncher

/-- A failure told as a story: what was being done, and what stood behind it, the immediate cause first. -/
structure Report where
  message : String
  causes : List String
  deriving DecidableEq, Repr

namespace Report

def ofMessage (message : String) : Report :=
  ⟨message, []⟩

/-- The same failure, seen from what was being done when it happened. -/
def within (report : Report) (activity : String) : Report :=
  ⟨activity, report.message :: report.causes⟩

def ofFault (activity : String) (fault : IoFault) : Report :=
  ⟨activity, [fault.message]⟩

/-- The whole story in one line, the outermost activity first. -/
def chain (report : Report) : String :=
  ": ".intercalate (report.message :: report.causes)

end Report

/-- Why a configuration file says nothing usable. -/
inductive DocumentFault
  | grammar
  | unknownField (key : String)
  /-- A value of another type than the setting has; both are described. -/
  | invalidType (found expected : String)
  /-- A value of the right type that the setting cannot hold. -/
  | invalidValue (found expected : String)
  /-- A number that no number type holds. -/
  | overflow
  deriving DecidableEq, Repr

/-- The settings of a configuration file, in the order in which they are listed to the user. -/
def settingNames : List String :=
  ["jar_version", "download_url", "java", "min_java_major", "cache_dir"]

def DocumentFault.message : DocumentFault → String
  | grammar => "invalid document"
  | unknownField key =>
    s!"unknown field `{key}`, expected one of " ++
      ", ".intercalate (settingNames.map fun name => s!"`{name}`")
  | invalidType found expected => s!"invalid type: {found}, expected {expected}"
  | invalidValue found expected => s!"invalid value: {found}, expected {expected}"
  | overflow => "number overflowed"

/-- The oldest major version of Java that can run the engine. -/
def minimumMajor : Nat := 17

def successCode : Int32 := 0

/-- The exit code of every failure that is not a child's own. -/
def failureCode : Int32 := 1

inductive LauncherError
  | runtimeMissing (reason : String) (required : Nat)
  | incompatibleRuntime (found required : Nat)
  | cacheUnusable (expected : String)
  | fetchNotFound (url : String)
  | fetchRemoteError (status : Nat) (statusText : String)
  | fetchEmptyPayload
  | fetchNetwork (url message : String)
  | fetchFilesystem (path : Path) (source : IoFault)
  /-- `required` is the oldest major version to name in the remedy, if it is known. -/
  | launchFailed (program : String) (required : Option Nat) (source : IoFault)
  | configuration (text : String)
  | io (source : IoFault)
  | document (fault : DocumentFault)
  | other (report : Report)
  deriving DecidableEq, Repr

namespace LauncherError

def message : LauncherError → String
  | runtimeMissing reason required =>
    s!"Java is required but not available: {reason}\nPlease install Java {required} or higher."
  | incompatibleRuntime found required =>
    s!"Java {found} is installed, but Java {required} or higher is required.\n" ++
      "Please upgrade your Java installation."
  | cacheUnusable expected => s!"apex-ls-mcp JAR not found or version mismatch (expected v{expected})"
  | fetchNotFound url => s!"JAR file not found at {url}. Please check if the version exists."
  | fetchRemoteError status statusText => s!"Failed to download: {status} {statusText}"
  | fetchEmptyPayload => "Downloaded file is empty"
  | fetchNetwork url message => s!"Network error while downloading {url}: {message}"
  | fetchFilesystem path source => s!"Filesystem error at {path.display}: {source.message}"
  | launchFailed program _ source => s!"Failed to start {program}: {source.message}"
  | configuration text => s!"Configuration error: {text}"
  | io source => s!"IO error: {source.message}"
  | document fault => s!"TOML parsing error: {fault.message}"
  | other report => report.message

def permissionHint : String :=
  "Permission denied. Please check file permissions for your home directory."

/-- The remedy for a missing runtime, naming the oldest version that will do. -/
def runtimeHint (required : Nat) : String :=
  s!"Java not found. Please ensure Java {required}+ is installed and in your PATH."

/-- The remedy to show after a failure, if there is one. -/
def hint : LauncherError → Option String
  | cacheUnusable _ => some "Please run: apex-ls-mcp-install"
  | fetchNetwork _ _ => some "Network error. Please check your internet connection and try again."
  | fetchFilesystem _ source | io source =>
    if source.kind = .permissionDenied then some permissionHint else none
  | launchFailed _ required source =>
    if source.kind = .notFound then some (runtimeHint (required.getD minimumMajor)) else none
  | _ => none

/-- The same failure, with the oldest major version to name in the remedy of a failed launch. -/
def withRequired (error : LauncherError) (required : Nat) : LauncherError :=
  match error with
  | launchFailed program _ source => launchFailed program (some required) source
  | _ => error

def isProgramMissing : LauncherError → Bool
  | launchFailed _ _ source => source.kind = .notFound
  | _ => false

/-- The wording of what stands behind a failure, if something does. -/
def source? : LauncherError → Option String
  | fetchFilesystem _ source | launchFailed _ _ source | io source => some source.message
  | document fault => some fault.message
  | other report => report.causes.head?
  | _ => none

/-- The lines that tell a user about a failure: what failed in what, then the remedy. -/
def announcement (error : LauncherError) (activity : String) : String :=
  s!"{activity}: {error.message}\n" ++
    match error.hint with
    | some hint => s!"{hint}\n"
    | none => ""

end LauncherError
end JarLauncher
