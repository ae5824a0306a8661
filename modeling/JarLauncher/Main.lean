import JarLauncher.Installer

/-!
The installer as a program. It works on the machine's own files; it knows no way to a server, so that every
download ends as it does without a network.
-/

namespace JarLauncher.Program

open Machine

/-- The number that comes with an error, if one does; it is the system's own number or the negative of it. -/
def errorNumber? : IO.Error → Option UInt32
  | .alreadyExists _ number _ | .otherError number _ | .resourceBusy number _
  | .resourceVanished number _ | .unsupportedOperation number _ | .hardwareFault number _
  | .unsatisfiedConstraints number _ | .illegalOperation number _ | .protocolError number _
  | .timeExpired number _ | .interrupted _ number _ | .noFileOrDirectory _ number _
  | .invalidArgument _ number _ | .permissionDenied _ number _ | .resourceExhausted _ number _
  | .inappropriateType _ number _ | .noSuchThing _ number _ => some number
  | .unexpectedEof | .userError _ => none

def faultOf (error : IO.Error) : IoFault :=
  match errorNumber? error with
  | some number => .system number.toInt32.toInt.natAbs
  | none => .worded .other (toString error)

def attempt {Value : Type} (action : IO Value) : IO (Except IoFault Value) := do
  match ← action.toBaseIO with
  | .ok value => return .ok value
  | .error error => return .error (faultOf error)

/-- Does something that may fail, and tells of a fault as a report on an activity. -/
def reported {Value : Type} (activity : String) (action : IO Value) : IO (Except Report Value) :=
  return (← attempt action).mapError (.ofFault activity)

def contents (path : Path) : IO Bytes :=
  return (← IO.FS.readBinFile path.display).toList

def createFile (path : Path) : IO Unit := do
  let _ ← IO.FS.Handle.mk path.display .write

def append (path : Path) (chunk : Bytes) : IO Unit := do
  (← IO.FS.Handle.mk path.display .append).write ⟨chunk.toArray⟩

/-- Makes a file with these contents, and the directories it needs. -/
def writeFile (path : Path) (chunk : Bytes) : IO (Except Report Unit) := do
  if let some parent := path.parent? then
    if let .error report ← reported ("creating dir " ++ parent.quoted) (IO.FS.createDirAll parent.display) then
      return .error report
  if let .error report ← reported ("creating file " ++ path.quoted) (createFile path) then
    return .error report
  reported ("writing to file " ++ path.quoted) (append path chunk)

def readText (path : Path) : IO (Except Report String) := do
  let activity := "reading file " ++ path.quoted
  match ← reported activity (contents path) with
  | .error report => return .error report
  | .ok bytes =>
    match Utf8.decode? bytes with
    | some text => return .ok text
    | none => return .error (.ofFault activity .notText)

def answer : (request : Request) → IO request.Answer
  | .isFile path => return (← attempt (contents path)).isOk
  | .readText path => readText path
  | .openFile path => reported ("opening file " ++ path.quoted) (contents path)
  | .writeFile path chunk => writeFile path chunk
  | .renameFile source target =>
    reported ("renaming " ++ source.quoted ++ " to " ++ target.quoted)
      (IO.FS.rename source.display target.display)
  | .removeFile path => reported ("removing file " ++ path.quoted) (IO.FS.removeFile path.display)
  | .createDirectories path => attempt (IO.FS.createDirAll path.display)
  | .createFile path => attempt (createFile path)
  | .append path chunk => attempt (append path chunk)
  | .flush _ | .sync _ => return .ok ()
  | .size path => return (← attempt (contents path)).map List.length
  | .replace source target => attempt (IO.FS.rename source.display target.display)
  | .discard path => attempt (IO.FS.removeFile path.display)
  | .get _ => return .failed "there is no network"
  | .readSettings path => attempt (contents path)
  | .askVersion _ => return .error (.bare .unsupported)
  | .supervise program _ => return .error (.launchFailed program none (.bare .unsupported))
  | .say line => IO.println line

def processNumber : IO Nat := do
  match ← attempt (IO.FS.readFile "/proc/self/stat") with
  | .ok text => return Nat.ofDigitChars 10 (text.toList.takeWhile Char.isDigit) 0
  | .error _ => return 0

def account : IO Account := do
  let bytesOf (name : String) : IO (Option Bytes) := return (← IO.getEnv name).map Utf8.encode
  return { homeVariable := ← bytesOf "HOME", configVariable := ← bytesOf JarLauncher.configVariable }

/-- What the user is told whose command line was not understood. -/
def usage : String :=
  "usage: apex-ls-mcp-install [--config <FILE>] [--check] [--log-level <LEVEL>]\n"

/-- Does what the command line asks for, and gives the exit code. -/
def run (arguments : List String) : IO Int32 := do
  match CommandLine.parse (arguments.map Utf8.encode) with
  | .error refusal =>
    match refusal with
    | .version => IO.print CommandLine.versionLine
    | .help => IO.print usage
    | _ => IO.eprint usage
    return refusal.exitCode
  | .ok arguments =>
    let attempt := Installer.run (← account) (← processNumber) arguments
    let (code, complaint) := Installer.ending (← attempt.run.perform answer)
    IO.eprint complaint
    return code

end JarLauncher.Program

/-- Runs the installer with the command line of this process. -/
def main (arguments : List String) : IO UInt32 :=
  return (← JarLauncher.Program.run arguments).toUInt32
