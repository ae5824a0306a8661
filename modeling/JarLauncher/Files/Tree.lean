import JarLauncher.Machine.Fault
import JarLauncher.Path

/-!
A tree of files, directories and links, with the faults that a system reports when a path cannot be
followed or an entry cannot be changed. Everything in it may be read and written, but in a sealed directory
nothing can be made.
-/

namespace JarLauncher.Files

inductive Node
  | file (contents : Bytes) (executable : Bool)
  | directory
  | link (target : Bytes)
  deriving DecidableEq, Repr

/-- The names that lead from the root of the tree to an entry. -/
abbrev Names := List Bytes

/-- A tree, by the names of its entries, and the directory where relative paths start. -/
structure Tree where
  entries : List (Names × Node) := []
  current : Names := []
  /-- The directories that the system keeps for itself. -/
  sealed : List Names := []

inductive Place
  | entry (names : Names) (node : Node)
  /-- To no entry, but to a directory that could have it. -/
  | vacant (directory : Names) (name : Bytes)
  deriving DecidableEq, Repr

namespace Fault

/-- The system's numbers of the faults that a tree knows. -/
abbrev notPermitted : IoFault := .system 1
abbrev noEntry : IoFault := .system 2
abbrev noPermission : IoFault := .system 13
abbrev busy : IoFault := .system 16
abbrev entryExists : IoFault := .system 17
abbrev otherDevice : IoFault := .system 18
abbrev notDirectory : IoFault := .system 20
abbrev isDirectory : IoFault := .system 21
abbrev invalid : IoFault := .system 22
abbrev nameTooLong : IoFault := .system 36
abbrev notEmpty : IoFault := .system 39
abbrev tooManyLinks : IoFault := .system 40

/-- The fault of a path that holds a zero byte. -/
abbrev zeroByte : IoFault := .worded .invalidInput "file name contained an unexpected NUL byte"

end Fault

namespace Tree

def longestName : Nat := 255

/-- The length from which on a path is too long. -/
def pathBound : Nat := 4096

/-- How many links may be followed on one path. -/
def linkBudget : Nat := 40

def node? (tree : Tree) (names : Names) : Option Node :=
  if names = [] then some .directory else tree.entries.lookup names

def put (tree : Tree) (names : Names) (node : Node) : Tree :=
  { tree with entries := (names, node) :: tree.entries.filter (·.1 ≠ names) }

def erase (tree : Tree) (names : Names) : Tree :=
  { tree with entries := tree.entries.filter (·.1 ≠ names) }

/-- The steps of a path; after one that ends in a slash comes an empty step. -/
def steps (bytes : Bytes) : List Bytes :=
  (bytes.splitOn Path.separator).filter (· ≠ []) ++
    if bytes.getLast? = some Path.separator then [[]] else []

/-- Follows steps from a directory. An empty step, such as a slash at the end leaves, has to be taken in a
directory; if `creates`, the path is that of a file to be made, which no slash may follow. -/
def walk (tree : Tree) (creates : Bool) (budget : Nat) (start : Names) (path : List Bytes) :
    Except IoFault Place :=
  match path with
  | [] => match tree.node? start with
    | some node => .ok (.entry start node)
    | none => .error Fault.noEntry
  | step :: rest =>
    if tree.node? start ≠ some .directory then .error Fault.notDirectory
    else if step = [] ∨ step = [Path.dot] then walk tree creates budget start rest
    else if step = [Path.dot, Path.dot] then walk tree creates budget start.dropLast rest
    else if creates ∧ rest = [[]] then .error Fault.isDirectory
    else if longestName < step.length then .error Fault.nameTooLong
    else match tree.node? (start ++ [step]) with
      | none => if rest = [] then .ok (.vacant start step) else .error Fault.noEntry
      | some (.link target) => match budget with
        | 0 => .error Fault.tooManyLinks
        | budget + 1 =>
          walk tree creates budget (if target.head? = some Path.separator then [] else start)
            (steps target ++ rest)
      | some _ => walk tree creates budget (start ++ [step]) rest
  termination_by (budget, path.length)

/-- Refuses a path that cannot be told to the system. -/
def checkBytes (path : Path) : Except IoFault Unit :=
  if path.bytes.contains 0 then .error Fault.zeroByte else .ok ()

/-- Refuses a path that no system call takes. -/
def checkPath (path : Path) : Except IoFault Unit := do
  checkBytes path
  if pathBound ≤ path.bytes.length then throw Fault.nameTooLong
  if path.bytes = [] then throw Fault.noEntry

def startOf (tree : Tree) (path : Path) : Names :=
  if path.isAbsolute then [] else tree.current

/-- Where a path leads; `creates` as in `walk`. -/
def find (tree : Tree) (creates : Bool) (path : Path) : Except IoFault Place := do
  checkPath path
  tree.walk creates linkBudget (tree.startOf path) (steps path.bytes)

def nodeAt (tree : Tree) (path : Path) : Except IoFault Node := do
  match ← tree.find false path with
  | .entry _ node => return node
  | .vacant _ _ => throw Fault.noEntry

/-- The last step of a path and whether a slash follows it, and the steps before; `none` if the path ends in
no name. -/
def lastStep (path : Path) : List Bytes × Option (Bytes × Bool) :=
  let all := (path.bytes.splitOn Path.separator).filter (· ≠ [])
  match all.getLast? with
  | none => ([], none)
  | some step =>
    if step = [Path.dot] ∨ step = [Path.dot, Path.dot] then (all.dropLast, none)
    else (all.dropLast, some (step, path.bytes.getLast? = some Path.separator))

/-- The directory in which a path names an entry, with the name and whether a slash follows it. -/
def parentOf (tree : Tree) (path : Path) : Except IoFault (Names × Option (Bytes × Bool)) := do
  checkPath path
  let (steps, last) := lastStep path
  match ← tree.walk false linkBudget (tree.startOf path) steps with
  | .entry names .directory => return (names, last)
  | .entry _ _ => throw Fault.notDirectory
  | .vacant _ _ => throw Fault.noEntry

def child? (tree : Tree) (directory : Names) (name : Bytes) : Except IoFault (Option Node) :=
  if longestName < name.length then .error Fault.nameTooLong
  else .ok (tree.node? (directory ++ [name]))

def isFile (tree : Tree) (path : Path) : Bool :=
  match tree.nodeAt path with
  | .ok (.file _ _) => true
  | _ => false

def isDirectory (tree : Tree) (path : Path) : Bool :=
  match tree.nodeAt path with
  | .ok .directory => true
  | _ => false

def contains (tree : Tree) (path : Path) : Bool :=
  (tree.nodeAt path).isOk

def read (tree : Tree) (path : Path) : Except IoFault Bytes := do
  match ← tree.nodeAt path with
  | .file contents _ => return contents
  | _ => throw Fault.isDirectory

def createFile (tree : Tree) (path : Path) : Except IoFault Tree := do
  match ← tree.find true path with
  | .entry names (.file _ executable) => return tree.put names (.file [] executable)
  | .entry _ _ => throw Fault.isDirectory
  | .vacant directory name =>
    if directory ∈ tree.sealed then throw Fault.noPermission
    else return tree.put (directory ++ [name]) (.file [] false)

def append (tree : Tree) (path : Path) (chunk : Bytes) : Except IoFault Tree := do
  match ← tree.find false path with
  | .entry names (.file contents executable) =>
    return tree.put names (.file (contents ++ chunk) executable)
  | .entry _ _ => throw Fault.isDirectory
  | .vacant _ _ => throw Fault.noEntry

def makeDirectory (tree : Tree) (path : Path) : Except IoFault Tree := do
  let (directory, last) ← tree.parentOf path
  match last with
  | none => throw Fault.entryExists
  | some (name, _) =>
    match ← tree.child? directory name with
    | some _ => throw Fault.entryExists
    | none =>
      if directory ∈ tree.sealed then throw Fault.notPermitted
      else return tree.put (directory ++ [name]) .directory

/-- Makes one directory unless it is there. -/
def ensureDirectory (tree : Tree) (path : Path) : Tree × Except IoFault Unit :=
  match tree.makeDirectory path with
  | .ok made => (made, .ok ())
  | .error fault => (tree, if tree.isDirectory path then .ok () else .error fault)

/-- Makes a directory after those before it on its path, of which the nearest comes first. -/
def makeDirectories (tree : Tree) (path : Path) : List Path → Tree × Except IoFault Unit
  | [] => if path.bytes = [] then (tree, .ok ()) else tree.ensureDirectory path
  | parent :: others =>
    match tree.ensureDirectory path with
    | (tree, .error fault) =>
      if fault = Fault.noEntry then
        match tree.makeDirectories parent others with
        | (tree, .ok ()) => tree.ensureDirectory path
        | failed => failed
      else (tree, .error fault)
    | made => made

/-- The paths from the parent of a path up to its start. -/
def parentsOf : Nat → Path → List Path
  | 0, _ => []
  | fuel + 1, path =>
    match path.parent? with
    | some parent => parent :: parentsOf fuel parent
    | none => []

/-- Makes a directory, with those that it needs; those stay if it cannot be made. -/
def createDirectories (tree : Tree) (path : Path) : Tree × Except IoFault Unit :=
  tree.makeDirectories path (parentsOf path.bytes.length path)

def makeLink (tree : Tree) (target : Bytes) (path : Path) : Except IoFault Tree := do
  match ← tree.parentOf path with
  | (directory, some (name, false)) =>
    match ← tree.child? directory name with
    | some _ => throw Fault.entryExists
    | none =>
      if directory ∈ tree.sealed then throw Fault.notPermitted
      else return tree.put (directory ++ [name]) (.link target)
  | _ => throw Fault.entryExists

/-- Removes an entry that is no directory. -/
def removeFile (tree : Tree) (path : Path) : Except IoFault Tree := do
  match ← tree.parentOf path with
  | (_, none) => throw Fault.isDirectory
  | (directory, some (name, slash)) =>
    match ← tree.child? directory name with
    | none => throw Fault.noEntry
    | some .directory => throw Fault.isDirectory
    | some _ => if slash then throw Fault.notDirectory else return tree.erase (directory ++ [name])

def isEmpty (tree : Tree) (names : Names) : Bool :=
  !tree.entries.any fun entry => entry.1 ≠ [] && entry.1.dropLast = names

/-- The tree with an entry, and all below it, under other names. -/
def move (tree : Tree) (source target : Names) : Tree :=
  { tree with
    entries := (tree.entries.filter (·.1 ≠ target)).map fun (names, node) =>
      if source.isPrefixOf names then (target ++ names.drop source.length, node) else (names, node) }

/-- Moves an entry, in the place of a like one. -/
def rename (tree : Tree) (source target : Path) : Except IoFault Tree := do
  checkBytes source
  checkBytes target
  let (sourceParent, sourceLast) ← tree.parentOf source
  let (targetParent, targetLast) ← tree.parentOf target
  if decide (sourceParent ∈ tree.sealed) ≠ decide (targetParent ∈ tree.sealed) then throw Fault.otherDevice
  match sourceLast, targetLast with
  | some (sourceName, sourceSlash), some (targetName, targetSlash) =>
    let sourceNames := sourceParent ++ [sourceName]
    let targetNames := targetParent ++ [targetName]
    match ← tree.child? sourceParent sourceName with
    | none => throw Fault.noEntry
    | some node =>
      let existing ← tree.child? targetParent targetName
      if node ≠ .directory ∧ (sourceSlash ∨ targetSlash) then throw Fault.notDirectory
      else if sourceNames = targetNames then return tree
      else if sourceNames.isPrefixOf targetNames then throw Fault.invalid
      else if targetNames.isPrefixOf sourceNames then throw Fault.notEmpty
      else match existing with
        | none => return tree.move sourceNames targetNames
        | some .directory =>
          if node ≠ .directory then throw Fault.isDirectory
          else if tree.isEmpty targetNames then return tree.move sourceNames targetNames
          else throw Fault.notEmpty
        | some _ =>
          if node = .directory then throw Fault.notDirectory
          else return tree.move sourceNames targetNames
  | _, _ => throw Fault.busy

def bytesBefore : Bytes → Bytes → Bool
  | [], _ => true
  | _ :: _, [] => false
  | a :: as, b :: bs => a < b || (a = b && bytesBefore as bs)

/-- Whether an entry is listed before another: by their names, and a directory before what it holds. -/
def listedBefore : Names → Names → Bool
  | [], _ => true
  | _ :: _, [] => false
  | a :: as, b :: bs => if a = b then listedBefore as bs else bytesBefore a b

/-- All that is below a directory, each with the names from there. -/
def listing (tree : Tree) (directory : Names) : List (Names × Node) :=
  let below := tree.entries.filter fun entry =>
    directory.isPrefixOf entry.1 && directory.length < entry.1.length
  (below.map fun entry => (entry.1.drop directory.length, entry.2)).mergeSort
    fun left right => listedBefore left.1 right.1

end Tree
end JarLauncher.Files
