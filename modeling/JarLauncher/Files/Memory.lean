import JarLauncher.Error
import JarLauncher.Path

/-!
Files held in memory, some of which cannot be read, renamed or removed. Two paths with the same components
name the same entry.
-/

namespace JarLauncher.Files

inductive Entry
  | file (contents : Bytes)
  | directory
  deriving DecidableEq, Repr

/-- A set of files and directories, by the components of their paths. -/
structure MemoryFiles where
  entries : List Component → Option Entry := fun _ => none
  unreadable : List Component → Bool := fun _ => false
  /-- What cannot be renamed or removed, nor be taken the place of. -/
  frozen : List Component → Bool := fun _ => false

/-- A map with the value of one key replaced. -/
def replaced {Value : Type} (map : List Component → Value) (key : List Component) (value : Value) :
    List Component → Value :=
  fun other => if other = key then value else map other

namespace MemoryFiles

def find? (files : MemoryFiles) (path : Path) : Option Entry :=
  files.entries path.components

def contents? (files : MemoryFiles) (path : Path) : Option Bytes :=
  match files.find? path with
  | some (.file contents) => some contents
  | _ => none

/-- Makes a directory of every part of a path where there is nothing yet. -/
def addDirectories (files : MemoryFiles) (components : List Component) : MemoryFiles :=
  { files with
    entries := fun key =>
      (files.entries key).or (if key ≠ [] ∧ key.isPrefixOf components then some .directory else none) }

def addDirectory (files : MemoryFiles) (path : Path) : MemoryFiles :=
  files.addDirectories path.components

def put (files : MemoryFiles) (path : Path) (entry : Option Entry) : MemoryFiles :=
  { files with entries := replaced files.entries path.components entry }

/-- Puts a file in its place, whatever was there, with the directories that it needs. -/
def addFile (files : MemoryFiles) (path : Path) (contents : Bytes) : MemoryFiles :=
  (files.addDirectories path.components.dropLast).put path (some (.file contents))

/-- From now on a path cannot be read. -/
def denyReads (files : MemoryFiles) (path : Path) : MemoryFiles :=
  { files with unreadable := replaced files.unreadable path.components true }

/-- From now on a path cannot be renamed or removed. -/
def denyChanges (files : MemoryFiles) (path : Path) : MemoryFiles :=
  { files with frozen := replaced files.frozen path.components true }

def contains (files : MemoryFiles) (path : Path) : Bool :=
  (files.find? path).isSome

def isFile (files : MemoryFiles) (path : Path) : Bool :=
  (files.contents? path).isSome

/-- The contents of a file that must be there; the path is named in the fault. -/
def fileAt (files : MemoryFiles) (path : Path) : Except Report Bytes :=
  match files.find? path with
  | some (.file contents) => .ok contents
  | some .directory => .error (.ofMessage ("Is a directory: " ++ path.quoted))
  | none => .error (.ofMessage ("File not found: " ++ path.quoted))

/-- Refuses a path that cannot be changed. -/
def checkChangeable (files : MemoryFiles) (path : Path) : Except Report Unit :=
  if files.frozen path.components then
    .error (.ofMessage ("Operation not permitted: " ++ path.quoted))
  else .ok ()

def read (files : MemoryFiles) (path : Path) : Except Report Bytes :=
  if files.unreadable path.components then
    .error (.ofMessage ("Permission denied: " ++ path.quoted))
  else files.fileAt path

def readText (files : MemoryFiles) (path : Path) : Except Report String := do
  match Utf8.decode (← files.read path) with
  | .ok text => return text
  | .error fault => throw (.ofMessage ("Invalid UTF-8: " ++ fault.message))

/-- Moves a file, in the place of whatever is at its new path. -/
def rename (files : MemoryFiles) (source target : Path) : Except Report MemoryFiles := do
  files.checkChangeable source
  files.checkChangeable target
  let contents ← files.fileAt source
  return (files.put source none).put target (some (.file contents))

def remove (files : MemoryFiles) (path : Path) : Except Report MemoryFiles := do
  files.checkChangeable path
  let _ ← files.fileAt path
  return files.put path none

@[simp] theorem find?_put (files : MemoryFiles) (path other : Path) (entry : Option Entry) :
    (files.put path entry).find? other =
      if other.components = path.components then entry else files.find? other := rfl

@[simp] theorem find?_addDirectories (files : MemoryFiles) (components : List Component) (path : Path) :
    (files.addDirectories components).find? path =
      (files.find? path).or
        (if path.components ≠ [] ∧ path.components.isPrefixOf components then some .directory else none) := rfl

theorem find?_addFile (files : MemoryFiles) (path other : Path) (contents : Bytes) :
    (files.addFile path contents).find? other =
      if other.components = path.components then some (.file contents)
      else (files.addDirectories path.components.dropLast).find? other :=
  find?_put ..

@[simp] theorem contents?_addFile_self (files : MemoryFiles) (path : Path) (contents : Bytes) :
    (files.addFile path contents).contents? path = some contents := by
  rw [contents?, find?_addFile, if_pos rfl]

/-- A file that is added leaves every other file as it was. -/
theorem contents?_addFile_of_ne (files : MemoryFiles) {path other : Path} (contents : Bytes)
    (apart : other.components ≠ path.components) :
    (files.addFile path contents).contents? other = files.contents? other := by
  rw [contents?, find?_addFile, if_neg apart, find?_addDirectories, contents?]
  cases files.find? other with
  | some entry => rfl
  | none => split <;> simp_all

end MemoryFiles
end JarLauncher.Files
