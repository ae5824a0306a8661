import JarLauncher.Toml.Moment
import JarLauncher.Toml.Number
import JarLauncher.Toml.QuotedText
import JarLauncher.Toml.Table

/-!
Documents: lines that give keys their values or name the table that the next lines belong to.
-/

namespace JarLauncher.Toml

/-- How deep values may nest. -/
def depthLimit : Nat := 80

def isKeyChar (char : Char) : Bool :=
  char.isAlphanum || char = '_' || char = '-'

def endsValue (char : Char) : Bool :=
  " \t\r\n=,[]\x7b\x7d'\"#".contains char

def skipSpaces (chars : List Char) : List Char :=
  chars.dropWhile isSpace

/-- What follows a comment, up to the end of the line; `none` if the comment holds a control character. -/
def afterComment? : List Char → Option (List Char)
  | [] => some []
  | '\n' :: rest => some ('\n' :: rest)
  | '\r' :: '\n' :: rest => some ('\n' :: rest)
  | char :: rest => if isPlain char then afterComment? rest else none

/-- What follows blanks, comments and line ends; `inComment` says that a comment is going on. -/
def skipLines? : Bool → List Char → Option (List Char)
  | _, '\n' :: rest | _, '\r' :: '\n' :: rest => skipLines? false rest
  | true, char :: rest => if isPlain char then skipLines? true rest else none
  | false, '#' :: rest => skipLines? true rest
  | false, char :: rest => if isSpace char then skipLines? false rest else some (char :: rest)
  | _, [] => some []

/-- What follows the rest of a line, which may hold a comment. -/
def afterLine? (chars : List Char) : Option (List Char) := do
  let rest ← match skipSpaces chars with
    | '#' :: comment => afterComment? comment
    | rest => some rest
  match rest with
  | [] => some []
  | '\n' :: rest | '\r' :: '\n' :: rest => some rest
  | _ => none

/-- A key without dots, and what follows it. -/
def simpleKey? (chars : List Char) : Option (String × List Char) :=
  match chars with
  | '"' :: _ | '\'' :: _ => (quotedText? chars).map fun (key, rest) => (String.ofList key, rest)
  | _ =>
    let key := chars.takeWhile isKeyChar
    if key.isEmpty then none else some (String.ofList key, chars.dropWhile isKeyChar)

/-- A key with or without dots: the path before the last dot, the key after it, and what follows. -/
def keyPath? : Nat → List Char → Option (List String × String × List Char)
  | 0, _ => none
  | fuel + 1, chars => do
    let (key, rest) ← simpleKey? (skipSpaces chars)
    match skipSpaces rest with
    | '.' :: more =>
      let (path, last, rest) ← keyPath? fuel more
      return (key :: path, last, rest)
    | rest => return ([], key, rest)

/-- The value that a run of characters without quotes writes. -/
def plainValue? (chars : List Char) : Option Value :=
  if chars = "true".toList then some (.boolean true)
  else if chars = "false".toList then some (.boolean false)
  else if isMoment chars then some .moment
  else number? chars

/-- A value without quotes, and what follows it; a date may have a blank before its time. -/
def plain? (chars : List Char) : Option (Value × List Char) := do
  let first := chars.takeWhile (!endsValue ·)
  let rest := chars.dropWhile (!endsValue ·)
  match rest with
  | ' ' :: digit :: more =>
    if afterDate? first = some [] ∧ digit.isDigit then
      let second := (digit :: more).takeWhile (!endsValue ·)
      let value ← plainValue? (first ++ ' ' :: second)
      return (value, (digit :: more).dropWhile (!endsValue ·))
    else return (← plainValue? first, rest)
  | _ => return (← plainValue? first, rest)

mutual

def value? : Nat → Nat → List Char → Option (Value × List Char)
  | 0, _, _ => none
  | fuel + 1, depth, chars =>
    match chars with
    | '"' :: _ | '\'' :: _ => (anyText? chars).map fun (text, rest) => (.string (String.ofList text), rest)
    | '[' :: rest => if depthLimit ≤ depth then none else do
      let (items, rest) ← items? fuel (depth + 1) rest
      return (.array items, rest)
    | '\x7b' :: rest => if depthLimit ≤ depth then none else do
      let (entries, rest) ← pairs? fuel (depth + 1) [] rest
      return (.table .inline entries, rest)
    | _ => plain? chars

/-- The items up to a closing bracket. -/
def items? : Nat → Nat → List Char → Option (List Value × List Char)
  | 0, _, _ => none
  | fuel + 1, depth, chars => do
    match ← skipLines? false chars with
    | ']' :: rest => return ([], rest)
    | chars =>
      let (item, rest) ← value? fuel depth chars
      match ← skipLines? false rest with
      | ']' :: rest => return ([item], rest)
      | ',' :: rest =>
        let (items, rest) ← items? fuel depth rest
        return (item :: items, rest)
      | _ => none

/-- The entries up to a closing brace, after those that came before. -/
def pairs? : Nat → Nat → Entries → List Char → Option (Entries × List Char)
  | 0, _, _, _ => none
  | fuel + 1, depth, entries, chars => do
    match ← skipLines? false chars with
    | '\x7d' :: rest => return (entries, rest)
    | chars =>
      let (path, key, rest) ← keyPath? chars.length chars
      let (value, rest) ← value? fuel depth (skipSpaces (← after? '=' rest))
      let entries ← Entries.assign? path key value .headed entries
      match ← skipLines? false rest with
      | '\x7d' :: rest => return (entries, rest)
      | ',' :: rest => pairs? fuel depth entries rest
      | _ => none

end

/-- A document as far as it has been read: all its entries, and the table that the next keys belong to. -/
structure Reading where
  root : Entries
  path : List String

/-- Adds a value to the table that the next keys belong to. -/
def Reading.assign? (reading : Reading) (path : List String) (key : String) (value : Value) :
    Option Reading := do
  let root ← Entries.change? false (Entries.assign? path key value) reading.path .headed reading.root
  return { reading with root }

/-- Reads the line of a document that starts here, and gives what follows it. -/
def line? (reading : Reading) (chars : List Char) : Option (Reading × List Char) := do
  match chars with
  | '[' :: '[' :: rest =>
    let (path, key, rest) ← keyPath? rest.length rest
    let rest ← afterLine? (← after? ']' (← after? ']' rest))
    return (⟨← reading.root.append? path key, path ++ [key]⟩, rest)
  | '[' :: rest =>
    let (path, key, rest) ← keyPath? rest.length rest
    let rest ← afterLine? (← after? ']' rest)
    return (⟨← reading.root.open? path key, path ++ [key]⟩, rest)
  | _ =>
    let (path, key, rest) ← keyPath? chars.length chars
    let rest := skipSpaces (← after? '=' rest)
    let (value, rest) ← value? (2 * rest.length + 2) 0 rest
    let rest ← afterLine? rest
    return (← reading.assign? path key value, rest)

def lines? : Nat → Reading → List Char → Option Entries
  | 0, _, _ => none
  | fuel + 1, reading, chars => do
    match ← skipLines? false chars with
    | [] => return reading.root
    | chars =>
      let (reading, rest) ← line? reading chars
      lines? fuel reading rest

/-- The entries of a document; a mark of the byte order at its start is no part of it. -/
def document? (text : String) : Option Entries :=
  let chars := match text.toList with
    | '\uFEFF' :: rest => rest
    | chars => chars
  lines? (chars.length + 1) ⟨[], []⟩ chars

end JarLauncher.Toml
