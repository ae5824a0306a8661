import JarLauncher.Toml.Value

/-!
Adding to the tables of a document. A key is given once; a header names a table that nothing but the
headers of tables inside it has named before; keys with dots extend only tables that such keys made; and a
table in braces is complete.
-/

namespace JarLauncher.Toml

/-- The keys of a table, each with its value. -/
abbrev Entries := List (String × Value)

/-- A way to read documents: the entries of a root table, unless the text is malformed. -/
abbrev Reader := String → Option Entries

namespace Entries

/-- The entries with a value put in the place of the one that its key has, or else at the end. -/
def put (entries : Entries) (key : String) (value : Value) : Entries :=
  if entries.any (·.1 = key) then entries.map fun entry => if entry.1 = key then (key, value) else entry
  else entries ++ [(key, value)]

/-- Whether a table that was found on the way may be entered; `byDots` says that a key with dots is. -/
def mayEnter (byDots : Bool) (style : TableStyle) : Bool :=
  match style with
  | .inline => false
  | .headed => !byDots
  | .implied | .dotted => true

/-- The entries after a change in the table that a path leads to; tables that are missing are made. The
change is told how the table came to be, and may refuse. -/
def change? (byDots : Bool) (change : TableStyle → Entries → Option Entries) :
    List String → TableStyle → Entries → Option Entries
  | [], style, entries => change style entries
  | key :: path, _, entries =>
    match entries.lookup key with
    | none =>
      let style := if byDots then .dotted else .implied
      (change? byDots change path style []).map fun inner => entries.put key (.table style inner)
    | some (.table style inner) =>
      if mayEnter byDots style then
        (change? byDots change path style inner).map fun inner => entries.put key (.table style inner)
      else none
    | some (.tables earlier last) =>
      (change? byDots change path .headed last).map fun last => entries.put key (.tables earlier last)
    | some _ => none

/-- Adds a value under a key with or without dots. -/
def assign? (path : List String) (key : String) (value : Value) (style : TableStyle)
    (entries : Entries) : Option Entries :=
  change? (!path.isEmpty)
    (fun style entries =>
      if path.isEmpty = (style = .dotted) ∨ (entries.lookup key).isSome then none
      else some (entries ++ [(key, value)]))
    path style entries

/-- Starts the table that a header names. -/
def open? (path : List String) (key : String) (entries : Entries) : Option Entries :=
  change? false
    (fun _ entries =>
      match entries.lookup key with
      | none => some (entries ++ [(key, .table .headed [])])
      | some (.table .implied inner) => some (entries.put key (.table .headed inner))
      | some _ => none)
    path .headed entries

/-- Starts one more of the tables that a header in double brackets names. -/
def append? (path : List String) (key : String) (entries : Entries) : Option Entries :=
  change? false
    (fun _ entries =>
      match entries.lookup key with
      | none => some (entries ++ [(key, .tables [] [])])
      | some (.tables earlier last) => some (entries.put key (.tables (earlier ++ [last]) []))
      | some _ => none)
    path .headed entries

end Entries
end JarLauncher.Toml
