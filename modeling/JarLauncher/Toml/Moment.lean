/-!
Dates and times in a document: `1979-05-27`, `07:32:00.5`, or both with `T` or a blank between them, and
then possibly an offset. Seconds may be left out.
-/

namespace JarLauncher.Toml

/-- The number that exactly these digits write. -/
def exactly? (count : Nat) (chars : List Char) : Option (Nat × List Char) :=
  let digits := chars.take count
  if digits.length = count ∧ digits.all Char.isDigit then
    some (Nat.ofDigitChars 10 digits 0, chars.drop count)
  else none

def after? (char : Char) : List Char → Option (List Char)
  | first :: rest => if first = char then some rest else none
  | [] => none

def daysIn (year month : Nat) : Nat :=
  if month = 2 then
    if year % 4 = 0 ∧ (year % 100 ≠ 0 ∨ year % 400 = 0) then 29 else 28
  else if month = 4 ∨ month = 6 ∨ month = 9 ∨ month = 11 then 30
  else 31

def afterDate? (chars : List Char) : Option (List Char) := do
  let (year, chars) ← exactly? 4 chars
  let (month, chars) ← exactly? 2 (← after? '-' chars)
  let (day, chars) ← exactly? 2 (← after? '-' chars)
  if 1 ≤ month ∧ month ≤ 12 ∧ 1 ≤ day ∧ day ≤ daysIn year month then some chars else none

def afterMinutes? (chars : List Char) : Option (List Char) := do
  let (hour, chars) ← exactly? 2 chars
  let (minute, chars) ← exactly? 2 (← after? ':' chars)
  if hour < 24 ∧ minute < 60 then some chars else none

/-- What follows a fraction of a second, if there is one. -/
def afterFraction? (chars : List Char) : Option (List Char) :=
  match chars with
  | '.' :: digits =>
    if (digits.head?.map Char.isDigit).getD false then some (digits.dropWhile Char.isDigit) else none
  | _ => some chars

def afterTime? (chars : List Char) : Option (List Char) := do
  let chars ← afterMinutes? chars
  match chars with
  | ':' :: seconds =>
    let (second, chars) ← exactly? 2 seconds
    if second ≤ 60 then afterFraction? chars else none
  | _ => some chars

/-- Whether characters write an offset from universal time. -/
def isOffset (chars : List Char) : Bool :=
  match chars with
  | ['Z'] | ['z'] => true
  | '+' :: rest | '-' :: rest => afterMinutes? rest = some []
  | _ => false

/-- Whether characters write a time with or without an offset. -/
def isTimeWithOffset (chars : List Char) : Bool :=
  match afterTime? chars with
  | some rest => rest.isEmpty || isOffset rest
  | none => false

/-- Whether characters write a date, a time or both. -/
def isMoment (chars : List Char) : Bool :=
  afterTime? chars = some [] ||
    match afterDate? chars with
    | some [] => true
    | some (separator :: time) =>
      (separator = 'T' || separator = 't' || separator = ' ') && isTimeWithOffset time
    | none => false

end JarLauncher.Toml
