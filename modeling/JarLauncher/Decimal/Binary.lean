/-!
Numbers of 53 binary digits: the one nearest to a decimal number, and the shortest decimal number that is
read as a given one. All arithmetic is exact.
-/

namespace JarLauncher.Decimal

/-- The positive number `mantissa * 2 ^ exponent`, or zero. -/
structure Binary where
  mantissa : Nat
  exponent : Int
  deriving DecidableEq, Repr

def leastExponent : Int := -1074

def precision : Nat := 53

/-- The fraction `numerator / (denominator * base ^ power)` as a numerator and a denominator. -/
def scaled (base numerator denominator : Nat) (power : Int) : Nat × Nat :=
  if 0 ≤ power then (numerator, denominator * Nat.pow base power.toNat)
  else (numerator * Nat.pow base (-power).toNat, denominator)

/-- The whole number nearest to a fraction, of two the even one. -/
def roundToEven (numerator denominator : Nat) : Nat :=
  let whole := numerator / denominator
  let twice := 2 * (numerator % denominator)
  if denominator < twice ∨ (denominator = twice ∧ whole % 2 = 1) then whole + 1 else whole

namespace Binary

/-- The exponent with which the fraction has 53 digits, or fewer at the lower end. -/
def exponentFor (numerator denominator : Nat) : Int :=
  let first : Int := max ((numerator.log2 : Int) - denominator.log2 - precision) leastExponent
  let (top, bottom) := scaled 2 numerator denominator first
  if Nat.pow 2 precision ≤ top / bottom then first + 1 else first

/-- Whether a number is below the least that is too large. -/
def isFinite (number : Binary) : Bool :=
  number.exponent ≤ 971 && number.mantissa * Nat.pow 2 number.exponent.toNat < Nat.pow 2 1024

/-- The number nearest to a fraction; `none` if it is too large. -/
def ofFraction? (numerator denominator : Nat) : Option Binary :=
  let exponent := exponentFor numerator denominator
  let (top, bottom) := scaled 2 numerator denominator exponent
  let number : Binary := ⟨roundToEven top bottom, exponent⟩
  if number.isFinite then some number else none

/-- The number nearest to `digits * 10 ^ power`; `none` if it is too large. -/
def ofDecimal? (digits : Nat) (power : Int) : Option Binary :=
  let size : Int := (Nat.toDigits 10 digits).length + power
  if digits = 0 ∨ size < -400 then some ⟨0, leastExponent⟩
  else if 400 < size then none
  else
    let (top, bottom) := scaled 10 digits 1 (-power)
    ofFraction? top bottom

/-- A multiple of `10 ^ power` that is read as the number: of the neighbours of the number, the nearer one
that is close enough. -/
def onGrid? (number : Binary) (power : Int) : Option Nat :=
  let quarter := number.exponent - 2
  let below := if number.mantissa = Nat.pow 2 (precision - 1) ∧ leastExponent < number.exponent then 1 else 2
  let (top, bottom) := scaled 2 1 1 (-quarter)
  let (unit, parts) := scaled 10 1 1 (-power)
  let exact := 4 * number.mantissa * top * parts
  let step := unit * bottom
  let low := (4 * number.mantissa - below) * top * parts
  let high := (4 * number.mantissa + 2) * top * parts
  let fits (multiple : Nat) : Bool :=
    let value := multiple * step
    if number.mantissa % 2 = 0 then low ≤ value && value ≤ high else low < value && value < high
  let under := exact / step
  let nearer := if 2 * (exact % step) ≤ step then [under, under + 1] else [under + 1, under]
  nearer.find? fits

/-- The first of the powers from `power` down whose multiples hold a decimal form of the number. -/
def shortestFrom (number : Binary) (power : Int) : Nat → Nat × Int
  | 0 => (0, power)
  | fuel + 1 =>
    match number.onGrid? power with
    | some (digits + 1) => (digits + 1, power)
    | _ => shortestFrom number (power - 1) fuel

/-- The decimal number with the fewest digits that is read as the number, as digits and a power of ten. -/
def shortest (number : Binary) : Nat × Int :=
  if number.mantissa = 0 then (0, 0)
  else
    let top : Int := if 0 ≤ number.exponent then 309 else 17
    shortestFrom number top 700

end Binary

/-- The number `digits * 10 ^ power` written out, with at least one digit after the point. -/
def positional (digits : Nat) (power : Int) : String :=
  let shown := Nat.toDigits 10 digits
  if 0 ≤ power then String.ofList (shown ++ List.replicate power.toNat '0' ++ ['.', '0'])
  else
    let places := (-power).toNat
    let padded := List.replicate (places + 1 - shown.length) '0' ++ shown
    String.ofList (padded.take (padded.length - places) ++ '.' :: padded.drop (padded.length - places))

end JarLauncher.Decimal
