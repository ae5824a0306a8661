import JarLauncher.Files.Memory
import JarLauncher.Machine.Procedure
import JarLauncher.Rehearsal.Script
import JarLauncher.Rehearsal.Shell

/-!
A whole machine in memory: a tree of files, possibly other files in memory for the cache, a runtime that
plays a part, a few ordinary programs, and a network on which no server can be reached.
-/

namespace JarLauncher.Rehearsal

open Files Machine Supervision

/-- What becomes of a runtime after it has told its version. -/
inductive Afterwards
  | nothing
  | gone
  /-- It is there, but cannot be run. -/
  | locked
  deriving DecidableEq, Repr

/-- A runtime that plays a part. -/
structure StandIn where
  /-- What it writes to its error stream when it is asked for its version. -/
  banner : Bytes := []
  afterwards : Afterwards := .nothing
  /-- How it ends when it has told its version. -/
  ending : Ending := .exited 0
  /-- What it does otherwise. -/
  body : List Char := "exit 0".toList

/-- A machine in memory. -/
structure Host where
  tree : Tree := {}
  /-- The files that the cache sees, if not those of the tree. -/
  memory : Option MemoryFiles := none
  standIn : StandIn := {}
  /-- The path of the runtime that plays a part. -/
  standInPath : Path := .ofString "java"
  home : Bytes := []
  input : Bytes := []
  /-- The signals that come as soon as a child has been started. -/
  signals : List ForwardedSignal := []
  /-- Whether the source of signals is closed after these. -/
  closing : Bool := false
  /-- What the children have written, and what the user was told. -/
  printed : Bytes := []
  complained : Bytes := []
  /-- The signal that has killed the launcher, if one has. -/
  killed : Option Nat := none

namespace Host

/-- Where the tree's relative paths start. -/
def workplace : Names :=
  [Utf8.encode "tmp", Utf8.encode "work"]

/-- The directory of the system's terminals. -/
def terminals : Names :=
  [Utf8.encode "dev", Utf8.encode "pts"]

/-- A tree with an empty directory to work in. -/
def emptyTree : Tree where
  entries := [([Utf8.encode "tmp"], .directory), (workplace, .directory), ([Utf8.encode "dev"], .directory),
    (terminals, .directory)]
  current := workplace
  sealed := [terminals]

/-- The fault of a program or an argument that holds a zero byte. -/
def zeroByteInArguments : IoFault :=
  .worded .invalidInput "nul byte found in provided data"

/-- The programs that can be found by their names alone. -/
def commonPrograms : List String :=
  ["sh", "true", "false", "echo", "printf", "touch", "cat", "sleep"]

/-- The message about a server that cannot be reached. -/
def unreachable (url : String) : String :=
  s!"error sending request for url ({url}): client error (Connect): tcp connect error: " ++
    (IoFault.system 101).message

inductive Program
  | standIn
  | common (name : String)
  deriving DecidableEq, Repr

/-- Finds a program, or the fault of starting it. -/
def findProgram (host : Host) (program : Bytes) : Except IoFault Program := do
  if program.contains 0 then throw zeroByteInArguments
  if program.contains Path.separator then
    match ← host.tree.nodeAt ⟨program⟩ with
    | .file _ true => return .standIn
    | _ => throw Fault.noPermission
  else if program = [Path.dot] ∨ program = [Path.dot, Path.dot] then throw Fault.noPermission
  else
    let name := Utf8.decodeLossy program
    if commonPrograms.contains name then return .common name else throw Fault.noEntry

/-- Where a script runs on this machine. -/
def shell (host : Host) (zero : Bytes) (args : List Bytes) : Shell where
  tree := host.tree
  input := host.input
  bindings := [("HOME", host.home)]
  zero := zero
  args := args
  pending := host.signals.map fun signal => signal.number.toInt.toNat

def runProgram (host : Host) (program : Program) (zero : Bytes) (args : List Bytes) :
    Ending × Shell :=
  match program with
  | .standIn => (host.shell zero args).runScript host.standIn.body
  | .common "sh" =>
    match args with
    | option :: script :: rest =>
      if option = Utf8.encode "-c" then
        (host.shell (rest.headD zero) rest.tail).runScript (Utf8.decodeLossy script).toList
      else (.exited 2, host.shell zero args)
    | _ => (.exited 2, host.shell zero args)
  | .common name =>
    let shell := host.shell zero args
    match Shell.deliver Shell.stepLimit shell with
    | .error ended => ended
    | .ok shell =>
      let after := (shell.utility? .standard name args).getD shell
      (Shell.exitWith after.status, after)

def afterProgram (host : Host) (shell : Shell) : Host :=
  { host with
    tree := shell.tree
    input := shell.input
    signals := []
    printed := host.printed ++ shell.printed
    complained := host.complained ++ shell.complained
    killed := host.killed <|> shell.supervisorKilled }

/-- How the launcher ends on this machine if it means to end in this way: a signal may have been faster. -/
def ending (host : Host) (meant : Ending) : Ending :=
  (host.killed.map .killed).getD meant

def supervise (host : Host) (program : Bytes) (args : List Bytes) :
    Except LauncherError Termination × Host :=
  let found := if args.any (·.contains 0) then .error zeroByteInArguments else host.findProgram program
  match found with
  | .error fault =>
    let script : Script := { coming := [], launchFault := some fault }
    ((Supervision.supervise Script.surroundings program args script).1, host)
  | .ok found =>
    let (ending, shell) := host.runProgram found program args
    let closing := if host.closing then [.sourceClosed] else []
    let script : Script := {
      coming := (host.signals ++ shell.handedOn).map .received ++ closing ++ [.exited ending.status]
      pid := some Shell.selfNumber }
    ((Supervision.supervise Script.surroundings program args script).1, host.afterProgram shell)

/-- The machine after its runtime has told its version. -/
def afterVersion (host : Host) : Host :=
  match host.standIn.afterwards with
  | .nothing => host
  | .gone => { host with tree := ((host.tree.removeFile host.standInPath).toOption).getD host.tree }
  | .locked =>
    match host.tree.find false host.standInPath with
    | .ok (.entry names (.file contents _)) =>
      { host with tree := host.tree.put names (.file contents false) }
    | _ => host

def askVersion (host : Host) (java : String) : Except IoFault SelfReport × Host :=
  match host.findProgram (Utf8.encode java) with
  | .error fault => (.error fault, host)
  | .ok .standIn =>
    (.ok { exitedOk := host.standIn.ending = .exited 0, printed := host.standIn.banner },
      host.afterVersion)
  | .ok (.common name) =>
    (.ok { exitedOk := ["true", "echo", "printf"].contains name, printed := [] }, host)

def step (host : Host) (done : Except IoFault Tree) : Except IoFault Unit × Host :=
  match done with
  | .ok tree => (.ok (), { host with tree })
  | .error fault => (.error fault, host)

/-- Does a step on the tree, and tells of a fault as a report on an activity. -/
def reported (host : Host) (activity : String) (done : Except IoFault Tree) :
    Except Report Unit × Host :=
  let (result, after) := host.step done
  (result.mapError (.ofFault activity), after)

def createDirectories (host : Host) (path : Path) : Except IoFault Unit × Host :=
  let (tree, result) := host.tree.createDirectories path
  (result, { host with tree })

/-- Writes a whole file of the tree, with the directories that it needs. -/
def writeFile (host : Host) (path : Path) (contents : Bytes) : Except Report Unit × Host :=
  let (prepared, host) : Except Report Unit × Host := match path.parent? with
    | none => (.ok (), host)
    | some parent =>
      let (result, after) := host.createDirectories parent
      (result.mapError (.ofFault ("creating dir " ++ parent.quoted)), after)
  match prepared with
  | .error report => (.error report, host)
  | .ok () =>
    match host.reported ("creating file " ++ path.quoted) (host.tree.createFile path) with
    | (.error report, after) => (.error report, after)
    | (.ok (), after) =>
      after.reported ("writing to file " ++ path.quoted) (after.tree.append path contents)

def readText (host : Host) (path : Path) : Except Report String :=
  let activity := "reading file " ++ path.quoted
  match host.tree.read path with
  | .error fault => .error (.ofFault activity fault)
  | .ok contents =>
    match Utf8.decode? contents with
    | some text => .ok text
    | none => .error (.ofFault activity .notText)

/-- Answers what the cache asks about its files. -/
def changed (host : Host) (files : MemoryFiles) (done : Except Report MemoryFiles) :
    Except Report Unit × Host :=
  match done with
  | .ok files => (.ok (), { host with memory := some files })
  | .error report => (.error report, { host with memory := some files })

def answer : Answering Host
  | .isFile path, host =>
    ((match host.memory with
      | some files => files.isFile path
      | none => host.tree.isFile path), host)
  | .readText path, host =>
    ((match host.memory with
      | some files => files.readText path
      | none => host.readText path), host)
  | .openFile path, host =>
    ((match host.memory with
      | some files => files.read path
      | none => (host.tree.read path).mapError (.ofFault ("opening file " ++ path.quoted))), host)
  | .writeFile path contents, host =>
    match host.memory with
    | some files => host.changed files (.ok (files.addFile path contents))
    | none => host.writeFile path contents
  | .renameFile source target, host =>
    match host.memory with
    | some files => host.changed files (files.rename source target)
    | none =>
      host.reported ("renaming " ++ source.quoted ++ " to " ++ target.quoted) (host.tree.rename source target)
  | .removeFile path, host =>
    match host.memory with
    | some files => host.changed files (files.remove path)
    | none => host.reported ("removing file " ++ path.quoted) (host.tree.removeFile path)
  | .createDirectories path, host => host.createDirectories path
  | .createFile path, host => host.step (host.tree.createFile path)
  | .append path chunk, host => host.step (host.tree.append path chunk)
  | .flush _, host => (.ok (), host)
  | .sync _, host => (.ok (), host)
  | .size path, host => ((host.tree.read path).map List.length, host)
  | .replace source target, host => host.step (host.tree.rename source target)
  | .discard path, host => host.step (host.tree.removeFile path)
  | .get url, host => (.failed (unreachable url), host)
  | .readSettings path, host => (host.tree.read path, host)
  | .askVersion java, host => host.askVersion java
  | .supervise program args, host => host.supervise (Utf8.encode program) args
  | .say line, host => ((), { host with printed := host.printed ++ Utf8.encode (line ++ "\n") })

end Host
end JarLauncher.Rehearsal
