/-!
Small shell scripts: commands with quoted words, parameters and redirected output, one after another or each
for the success or failure of the one before, and loops of them.
-/

namespace JarLauncher.Rehearsal

inductive Part
  | text (chars : List Char)
  | self
  /-- The number of the process that started the shell. -/
  | parent
  | count
  | status
  | argument (index : Nat)
  /-- All arguments, each a word of its own. -/
  | all
  /-- All arguments; between quotes they are one word. -/
  | joined
  | variable (name : List Char)
  deriving DecidableEq, Repr

/-- A word: its parts, each with whether it is quoted. -/
abbrev Word := List (Part × Bool)

inductive Output
  | standard
  | error
  | file (name : Word) (append : Bool)
  deriving DecidableEq, Repr

structure Simple where
  words : List Word := []
  output : Output := .standard
  /-- Whether its complaints are dropped. -/
  quiet : Bool := false
  deriving DecidableEq, Repr

inductive Token
  | word (word : Word)
  /-- The end of a command. -/
  | stop
  /-- The end of a command; the next one is for when this one succeeds, or for when it fails. -/
  | onlyIf (succeeded : Bool)
  /-- Sends the output to the file that the next word names. -/
  | toFile (append : Bool)
  | toError
  /-- Sends the complaints to the file that the next word names. -/
  | complaints
  deriving DecidableEq, Repr

inductive Statement
  | command (command : Simple)
  /-- The next statement is run only if the last command succeeded, or only if it failed. -/
  | onlyIf (succeeded : Bool)
  | loop (condition body : List Statement)
  deriving Repr

namespace ShellScript

def endsWord (char : Char) : Bool :=
  " \t\n;>&|".contains char

/-- Whether a character may stand in the name of a variable. -/
def isNameChar (char : Char) : Bool :=
  char.isAlphanum || char = '_'

/-- The parameter after a dollar sign, and what follows it. -/
def parameter : List Char → Part × List Char
  | '$' :: rest => (.self, rest)
  | '#' :: rest => (.count, rest)
  | '?' :: rest => (.status, rest)
  | '@' :: rest => (.all, rest)
  | '*' :: rest => (.joined, rest)
  | chars =>
    match chars with
    | digit :: rest =>
      if digit.isDigit then (.argument (digit.toNat - '0'.toNat), rest)
      else if chars.takeWhile isNameChar = [] then (.text ['$'], chars)
      else if chars.takeWhile isNameChar = "PPID".toList then (.parent, chars.dropWhile isNameChar)
      else (.variable (chars.takeWhile isNameChar), chars.dropWhile isNameChar)
    | [] => (.text ['$'], [])

/-- A word and what follows it; `inside` says that double quotes are open. -/
def readWord : Nat → (inside : Bool) → List Char → Word × List Char
  | 0, _, chars => ([], chars)
  | fuel + 1, inside, chars =>
    let more (part : Part) (quoted : Bool) (inside : Bool) (rest : List Char) : Word × List Char :=
      let (word, after) := readWord fuel inside rest
      ((part, quoted) :: word, after)
    match inside, chars with
    | _, [] => ([], [])
    | _, '"' :: rest => more (.text []) true (!inside) rest
    | true, '\\' :: char :: rest =>
      more (.text (if "$\"\\`".contains char then [char] else ['\\', char])) true true rest
    | false, '\\' :: char :: rest => more (.text [char]) true false rest
    | false, '\'' :: rest =>
      more (.text (rest.takeWhile (· ≠ '\''))) true false ((rest.dropWhile (· ≠ '\'')).drop 1)
    | _, '$' :: rest => more (parameter rest).1 inside inside (parameter rest).2
    | _, char :: rest =>
      if !inside && endsWord char then ([], chars) else more (.text [char]) inside inside rest

/-- The name and the value of an assignment to a variable. -/
def assignment? (word : Word) : Option (String × Word) :=
  let name := word.takeWhile fun
    | (.text [char], false) => isNameChar char
    | _ => false
  match name, word.drop name.length with
  | _ :: _, (.text ['='], false) :: value => some (String.ofList (name.flatMap fun
      | (.text chars, _) => chars
      | _ => []), value)
  | _, _ => none

def tokens : Nat → List Char → List Token
  | 0, _ => []
  | fuel + 1, chars =>
    match chars with
    | [] => []
    | ' ' :: rest | '\t' :: rest => tokens fuel rest
    | '#' :: rest => tokens fuel (rest.dropWhile (· ≠ '\n'))
    | ';' :: rest | '\n' :: rest => .stop :: tokens fuel rest
    | '&' :: '&' :: rest => .onlyIf true :: tokens fuel rest
    | '|' :: '|' :: rest => .onlyIf false :: tokens fuel rest
    | '&' :: rest | '|' :: rest => .stop :: tokens fuel rest
    | '>' :: '&' :: '2' :: rest | '1' :: '>' :: '&' :: '2' :: rest => .toError :: tokens fuel rest
    | '>' :: '&' :: '1' :: rest | '2' :: '>' :: '&' :: '1' :: rest => tokens fuel rest
    | '2' :: '>' :: '>' :: rest | '2' :: '>' :: rest => .complaints :: tokens fuel rest
    | '>' :: '>' :: rest => .toFile true :: tokens fuel rest
    | '>' :: rest => .toFile false :: tokens fuel rest
    | _ =>
      let (word, rest) := readWord (chars.length + 1) false chars
      .word word :: tokens fuel rest

/-- The word of a script that these characters without quotes write. -/
def keyword (text : String) : Word :=
  text.toList.map fun char => (.text [char], false)

/-- The command that pieces of a script say, up to its end, and what follows. -/
def command : List Token → Simple × List Token
  | [] => ({}, [])
  | .stop :: rest => ({}, rest)
  | .onlyIf succeeded :: rest => ({}, .onlyIf succeeded :: rest)
  | .toError :: rest =>
    let (simple, after) := command rest
    ({ simple with output := .error }, after)
  | .toFile append :: .word name :: rest =>
    let (simple, after) := command rest
    ({ simple with output := .file name append }, after)
  | .complaints :: .word _ :: rest =>
    let (simple, after) := command rest
    ({ simple with quiet := true }, after)
  | .toFile _ :: rest | .complaints :: rest => command rest
  | .word word :: rest =>
    let (simple, after) := command rest
    ({ simple with words := word :: simple.words }, after)

/-- The statements that pieces of a script say, up to one of the words `ends`, and what follows it. -/
def statements : Nat → List Word → List Token → List Statement × List Token
  | 0, _, _ => ([], [])
  | fuel + 1, ends, tokens =>
    match tokens with
    | [] => ([], [])
    | .stop :: rest => statements fuel ends rest
    | .onlyIf succeeded :: rest =>
      let (others, rest) := statements fuel ends rest
      (.onlyIf succeeded :: others, rest)
    | .word word :: rest =>
      if word ∈ ends then ([], rest)
      else if word = keyword "while" then
        let (condition, rest) := statements fuel [keyword "do"] rest
        let (body, rest) := statements fuel [keyword "done"] rest
        let (others, rest) := statements fuel ends rest
        (.loop condition body :: others, rest)
      else
        let (simple, rest) := command (.word word :: rest)
        let (others, rest) := statements fuel ends rest
        (.command simple :: others, rest)
    | tokens =>
      let (simple, rest) := command tokens
      let (others, rest) := statements fuel ends rest
      (.command simple :: others, rest)

def read (text : List Char) : List Statement :=
  let pieces := tokens (text.length + 1) text
  (statements (2 * pieces.length + 1) [] pieces).1

end ShellScript
end JarLauncher.Rehearsal
