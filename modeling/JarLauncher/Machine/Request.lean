import JarLauncher.Download.Response
import JarLauncher.Error
import JarLauncher.Supervision.Status

/-!
What the launcher and the installer ask of the machine, and what kind of answer each request gets. The
cache asks for whole files and is told of faults as reports; the download asks step by step.
-/

namespace JarLauncher.Machine

/-- What came of asking a runtime for its version. -/
structure SelfReport where
  exitedOk : Bool
  /-- What it wrote to its error stream. -/
  printed : Bytes
  deriving DecidableEq, Repr

inductive Request
  | isFile (path : Path)
  | readText (path : Path)
  /-- The bytes in a file. -/
  | openFile (path : Path)
  /-- Makes a file with these contents, and the directories it needs. -/
  | writeFile (path : Path) (contents : Bytes)
  /-- Puts one file in the place of another. -/
  | renameFile (source target : Path)
  | removeFile (path : Path)
  /-- Makes a directory and those that it needs. -/
  | createDirectories (path : Path)
  /-- Makes an empty file, or empties the one that is there. -/
  | createFile (path : Path)
  /-- Writes at the end of a file that this procedure made. -/
  | append (path : Path) (chunk : Bytes)
  | flush (path : Path)
  | sync (path : Path)
  | size (path : Path)
  /-- Puts a finished download in its place. -/
  | replace (source target : Path)
  /-- Removes what is left of a download. -/
  | discard (path : Path)
  | get (url : String)
  /-- The bytes of a configuration file. -/
  | readSettings (path : Path)
  | askVersion (java : String)
  /-- Runs a program as a supervised child, to its end. -/
  | supervise (program : String) (args : List Bytes)
  | say (line : String)
  deriving DecidableEq, Repr

/-- The kind of answer that a request gets. -/
@[reducible] def Request.Answer : Request → Type
  | isFile _ => Bool
  | readText _ => Except Report String
  | openFile _ => Except Report Bytes
  | writeFile _ _ | renameFile _ _ | removeFile _ => Except Report Unit
  | createDirectories _ | createFile _ | append _ _ | flush _ | sync _ | replace _ _ | discard _ =>
    Except IoFault Unit
  | size _ => Except IoFault Nat
  | get _ => Download.Transfer
  | readSettings _ => Except IoFault Bytes
  | askVersion _ => Except IoFault SelfReport
  | supervise _ _ => Except LauncherError Supervision.Termination
  | say _ => Unit

end JarLauncher.Machine
