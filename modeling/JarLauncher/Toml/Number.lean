import JarLauncher.Toml.Value

/-!
Numbers in a document. Underscores may stand between two digits; a decimal number does not start with a
needless zero.
-/

namespace JarLauncher.Toml

/-- The digits of a number without the underscores between them. -/
def joinedDigits? (isDigit : Char → Bool) (chars : List Char) : Option (List Char) :=
  let groups := chars.splitOn '_'
  if groups.all fun group => !group.isEmpty && group.all isDigit then some groups.flatten else none

def digitValue (char : Char) : Nat :=
  if char.isDigit then char.toNat - '0'.toNat else char.toLower.toNat - 'a'.toNat + 10

/-- Whether a character is a digit in a base up to sixteen. -/
def isDigitOf (base : Nat) (char : Char) : Bool :=
  (char.isDigit || ('a' ≤ char.toLower && char.toLower ≤ 'f')) && digitValue char < base

def valueOf (base : Nat) (digits : List Char) : Nat :=
  digits.foldl (fun number digit => number * base + digitValue digit) 0

/-- A number in a base other than ten, after the letter that tells the base. -/
def basedInteger? (base : Nat) (chars : List Char) : Option Value :=
  (joinedDigits? (isDigitOf base) chars).map fun digits => .integer (valueOf base digits)

/-- The digits of a whole decimal number. -/
def wholeDigits? (chars : List Char) : Option (List Char) := do
  let digits ← joinedDigits? Char.isDigit chars
  if digits.head? = some '0' ∧ 1 < digits.length then none else some digits

/-- The sign of a number, and what follows it. -/
def splitSign : List Char → Bool × List Char
  | '-' :: rest => (true, rest)
  | '+' :: rest => (false, rest)
  | chars => (false, chars)

/-- The power of ten after the letter `e`. -/
def power? (chars : List Char) : Option Int := do
  let (negative, rest) := splitSign chars
  let power := valueOf 10 (← joinedDigits? Char.isDigit rest)
  return if negative then -power else power

def decimal? (negative : Bool) (chars : List Char) : Option Value := do
  let isLetter (char : Char) : Bool := char = 'e' || char = 'E'
  let power ← match chars.dropWhile (!isLetter ·) with
    | [] => pure 0
    | _ :: written => power? written
  let mantissa := chars.takeWhile (!isLetter ·)
  let whole ← wholeDigits? (mantissa.takeWhile (· ≠ '.'))
  match mantissa.dropWhile (· ≠ '.') with
  | _ :: written =>
    let places ← joinedDigits? Char.isDigit written
    return .real (.finite negative (valueOf 10 (whole ++ places)) (power - places.length))
  | [] =>
    let value := valueOf 10 whole
    if chars.any isLetter then return .real (.finite negative value power)
    else return .integer (if negative then -value else value)

def number? (chars : List Char) : Option Value :=
  match chars with
  | '0' :: 'x' :: digits => basedInteger? 16 digits
  | '0' :: 'o' :: digits => basedInteger? 8 digits
  | '0' :: 'b' :: digits => basedInteger? 2 digits
  | _ =>
    match splitSign chars with
    | (negative, ['i', 'n', 'f']) => some (.real (.infinite negative))
    | (_, ['n', 'a', 'n']) => some (.real .notANumber)
    | (negative, digits) => decimal? negative digits

end JarLauncher.Toml
