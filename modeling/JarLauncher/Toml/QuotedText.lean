/-!
Texts between quotes in a document. Between double quotes a backslash starts an escape; between single
quotes every character stands for itself. Between three quotes a text may go over many lines.
-/

namespace JarLauncher.Toml

/-- Whether a character may stand in a document at all, line ends aside. -/
def isPlain (char : Char) : Bool :=
  char = '\t' || (0x20 ≤ char.toNat && char.toNat ≠ 0x7F)

def isSpace (char : Char) : Bool :=
  char = ' ' || char = '\t'

/-- The number that hexadecimal digits write, if they are all of that kind. -/
def hexadecimal? (digits : List Char) : Option Nat :=
  digits.foldlM (fun number digit =>
    if digit.isDigit then some (16 * number + (digit.toNat - '0'.toNat))
    else if 'a' ≤ digit.toLower ∧ digit.toLower ≤ 'f' then
      some (16 * number + (digit.toLower.toNat - 'a'.toNat + 10))
    else none) 0

/-- The character with the number that hexadecimal digits write. -/
def numbered? (digits : List Char) : Option Char := do
  let number ← hexadecimal? digits
  if number.isValidChar then some (Char.ofNat number) else none

/-- The character that an escape of one letter stands for. -/
def escaped? : Char → Option Char
  | 'b' => some '\x08'
  | 't' => some '\t'
  | 'n' => some '\n'
  | 'f' => some '\x0C'
  | 'r' => some '\r'
  | 'e' => some '\x1B'
  | '"' => some '"'
  | '\\' => some '\\'
  | _ => none

abbrev Read := Option (List Char × List Char)

def put (char : Char) (read : Read) : Read :=
  read.map fun (text, rest) => (char :: text, rest)

/-- The text up to a double quote on the same line. -/
def basicText? : List Char → Read
  | '"' :: rest => some ([], rest)
  | '\\' :: 'x' :: a :: b :: rest => do put (← numbered? [a, b]) (basicText? rest)
  | '\\' :: 'u' :: a :: b :: c :: d :: rest => do put (← numbered? [a, b, c, d]) (basicText? rest)
  | '\\' :: 'U' :: a :: b :: c :: d :: e :: f :: g :: h :: rest => do
    put (← numbered? [a, b, c, d, e, f, g, h]) (basicText? rest)
  | '\\' :: letter :: rest => do put (← escaped? letter) (basicText? rest)
  | char :: rest => if isPlain char ∧ char ≠ '\\' then put char (basicText? rest) else none
  | [] => none

/-- The text up to a single quote on the same line. -/
def literalText? : List Char → Read
  | '\'' :: rest => some ([], rest)
  | char :: rest => if isPlain char then put char (literalText? rest) else none
  | [] => none

/-- Whether a line ends here, blanks aside. -/
def endsLine (chars : List Char) : Bool :=
  match chars.dropWhile isSpace with
  | '\n' :: _ | '\r' :: '\n' :: _ => true
  | _ => false

/-- The text up to three double quotes, before which two more may stand. A backslash at the end of a line
takes away the blanks and line ends that follow; `skipping` says that this is going on. -/
def basicLines? : Bool → List Char → Read
  | true, ' ' :: rest | true, '\t' :: rest | true, '\n' :: rest | true, '\r' :: '\n' :: rest =>
    basicLines? true rest
  | _, '"' :: '"' :: '"' :: '"' :: '"' :: rest => some (['"', '"'], rest)
  | _, '"' :: '"' :: '"' :: '"' :: rest => some (['"'], rest)
  | _, '"' :: '"' :: '"' :: rest => some ([], rest)
  | _, '\\' :: 'x' :: a :: b :: rest => do put (← numbered? [a, b]) (basicLines? false rest)
  | _, '\\' :: 'u' :: a :: b :: c :: d :: rest => do
    put (← numbered? [a, b, c, d]) (basicLines? false rest)
  | _, '\\' :: 'U' :: a :: b :: c :: d :: e :: f :: g :: h :: rest => do
    put (← numbered? [a, b, c, d, e, f, g, h]) (basicLines? false rest)
  | _, '\\' :: letter :: rest =>
    if endsLine (letter :: rest) then basicLines? true (letter :: rest)
    else do put (← escaped? letter) (basicLines? false rest)
  | _, '\r' :: '\n' :: rest => put '\r' (put '\n' (basicLines? false rest))
  | _, char :: rest =>
    if (isPlain char ∧ char ≠ '\\') ∨ char = '\n' then put char (basicLines? false rest) else none
  | _, [] => none

/-- The text up to three single quotes, before which two more may stand. -/
def literalLines? : List Char → Read
  | '\'' :: '\'' :: '\'' :: '\'' :: '\'' :: rest => some (['\'', '\''], rest)
  | '\'' :: '\'' :: '\'' :: '\'' :: rest => some (['\''], rest)
  | '\'' :: '\'' :: '\'' :: rest => some ([], rest)
  | '\r' :: '\n' :: rest => put '\r' (put '\n' (literalLines? rest))
  | char :: rest => if isPlain char ∨ char = '\n' then put char (literalLines? rest) else none
  | [] => none

/-- Text without the line end that it starts with, if it does. -/
def dropLineEnd : List Char → List Char
  | '\n' :: rest | '\r' :: '\n' :: rest => rest
  | chars => chars

def quotedText? : List Char → Read
  | '"' :: rest => basicText? rest
  | '\'' :: rest => literalText? rest
  | _ => none

/-- The text on one or many lines that starts with a quote. -/
def anyText? : List Char → Read
  | '"' :: '"' :: '"' :: rest => basicLines? false (dropLineEnd rest)
  | '\'' :: '\'' :: '\'' :: rest => literalLines? (dropLineEnd rest)
  | chars => quotedText? chars

end JarLauncher.Toml
