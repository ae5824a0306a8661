import JarLauncher.Text.Quoted

/-!
Paths of files. A path is kept as the bytes it was given as; two paths lead to the same place when they
have the same components, which leave out repeated slashes, slashes at the end, and `.` after the start.
-/

namespace JarLauncher

/-- A step of a path from one directory to the next. -/
inductive Component
  | root
  | here
  | up
  | named (name : Bytes)
  deriving DecidableEq, Repr

structure Path where
  bytes : Bytes
  deriving DecidableEq, Repr

namespace Path

/-- The byte between two components. -/
def separator : UInt8 := 0x2F

/-- The component `.`, and half of the component `..`. -/
def dot : UInt8 := 0x2E

def ofString (text : String) : Path :=
  ⟨Utf8.encode text⟩

def isAbsolute (path : Path) : Bool :=
  path.bytes.head? = some separator

/-- The component that a segment between two slashes stands for; `first` is the start of a relative path. -/
def componentOf (first : Bool) (segment : Bytes) : Option Component :=
  if segment = [] then none
  else if segment = [dot] then (if first then some .here else none)
  else if segment = [dot, dot] then some .up
  else some (.named segment)

/-- The components of segments that start at byte `start`, each with the byte where it ends. -/
def locate (start : Nat) (first : Bool) : List Bytes → List (Component × Nat)
  | [] => []
  | segment :: rest =>
    let stop := start + segment.length
    match componentOf first segment with
    | some component => (component, stop) :: locate (stop + 1) false rest
    | none => locate (stop + 1) false rest

/-- The components of a path, each with the byte where it ends. -/
def located (path : Path) : List (Component × Nat) :=
  let segments := path.bytes.splitOn separator
  if path.isAbsolute then (.root, 1) :: locate 0 false segments else locate 0 true segments

def components (path : Path) : List Component :=
  path.located.map Prod.fst

/-- The path without its last component; the root and the empty path have none. -/
def parent? (path : Path) : Option Path :=
  match path.located.reverse with
  | [] => none
  | (.root, _) :: _ => none
  | [_] => some ⟨[]⟩
  | _ :: (_, stop) :: _ => some ⟨path.bytes.take stop⟩

/-- The name that a path ends in, if it ends in one. -/
def fileName? (path : Path) : Option Bytes :=
  match path.components.getLast? with
  | some (.named name) => some name
  | _ => none

/-- The path that leads from `base` on along `rest`. -/
def join (base rest : Path) : Path :=
  if rest.isAbsolute then rest
  else if base.bytes = [] || base.bytes.getLast? = some separator then ⟨base.bytes ++ rest.bytes⟩
  else ⟨base.bytes ++ separator :: rest.bytes⟩

/-- The path with its file name replaced, or with a name added where it ends in none. -/
def withFileName (path : Path) (name : Bytes) : Path :=
  match path.fileName?, path.parent? with
  | some _, some parent => parent.join ⟨name⟩
  | _, _ => path.join ⟨name⟩

/-- A path as text, with a replacement character for each broken part. -/
def display (path : Path) : String :=
  Utf8.decodeLossy path.bytes

def quoted (path : Path) : String :=
  Text.quoteBytes path.bytes

end Path
end JarLauncher
