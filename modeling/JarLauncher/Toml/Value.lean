import JarLauncher.Decimal.Binary
import JarLauncher.Text.Quoted

/-!
The values of a configuration document, and how each is described to a reader who expected another.
-/

namespace JarLauncher.Toml

/-- A number that is not written as an integer. -/
inductive Real
  /-- The number `digits * 10 ^ power`. -/
  | finite (negative : Bool) (digits : Nat) (power : Int)
  | infinite (negative : Bool)
  | notANumber
  deriving DecidableEq, Repr

/-- How a table came to be. -/
inductive TableStyle
  /-- By a header of its own, or as the document itself. -/
  | headed
  /-- By a header of a table inside it. -/
  | implied
  /-- By keys with dots. -/
  | dotted
  | inline
  deriving DecidableEq, Repr

inductive Value
  | string (text : String)
  | integer (number : Int)
  | real (number : Real)
  | boolean (value : Bool)
  /-- A date, a time, or both. -/
  | moment
  | array (items : List Value)
  | table (style : TableStyle) (entries : List (String × Value))
  /-- The tables of repeated headers in double brackets; `last` is the last of them. -/
  | tables (earlier : List (List (String × Value))) (last : List (String × Value))
  deriving Repr

/-- The description of a number that is not an integer, if it is not too large. -/
def Real.description? : Real → Option String
  | finite negative digits power => do
    let (shown, place) := (← Decimal.Binary.ofDecimal? digits power).shortest
    return (if negative then "-" else "") ++ Decimal.positional shown place
  | infinite negative => if negative then "-inf" else "inf"
  | notANumber => "NaN"

/-- The least number that takes more than `bits` binary digits. -/
def bound (bits : Nat) : Int :=
  Int.ofNat (Nat.pow 2 bits)

/-- The description of an integer, which tells how many bits it takes if 64 are too few. -/
def integerDescription? (number : Int) : Option String :=
  if -bound 63 ≤ number ∧ number < bound 64 then s!"integer `{number}`"
  else if -bound 127 ≤ number ∧ number < bound 127 then s!"integer `{number}` as i128"
  else if 0 ≤ number ∧ number < bound 128 then s!"integer `{number}` as u128"
  else none

/-- What a value is called where another was expected; a number that is too large has no name. -/
def Value.description? : Value → Option String
  | string text => some ("string " ++ Text.quote text)
  | integer number => integerDescription? number
  | real number => number.description?.map fun shown => s!"floating point `{shown}`"
  | boolean value => some s!"boolean `{value}`"
  | array _ | tables _ _ => some "sequence"
  | moment | table _ _ => some "map"

end JarLauncher.Toml
