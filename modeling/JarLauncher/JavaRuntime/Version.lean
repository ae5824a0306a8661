import JarLauncher.Text.Digit

/-!
The version in what a Java runtime says about itself: the quoted text after the word `version`. The
number before the first dot is the major version, except that `1.N` is an old way to write `N`.
-/

namespace JarLauncher.JavaRuntime

structure JavaVersion where
  /-- The word `version` and the quoted text after it. -/
  raw : String
  /-- The digits that the quoted text starts with. -/
  token : String
  major : Nat
  deriving DecidableEq, Repr

namespace JavaVersion

/-- The major version of which `1.N` is the full form of `N`. -/
def legacyEpoch : Nat := 1

/-- What introduces a version. -/
def opening : List Char :=
  "version \"".toList

/-- What introduces a version in the old form. -/
def legacyOpening : List Char :=
  "version \"1.".toList

/-- The text after the first place where `intro` is directly followed by a digit. -/
def afterFirst (intro : List Char) : List Char → Option (List Char)
  | [] => none
  | text@(_ :: rest) =>
    match intro.isPrefixOf? text with
    | some (digit :: after) =>
      if Text.isDecimalDigit digit then some (digit :: after) else afterFirst intro rest
    | _ => afterFirst intro rest

def leadingDigits (text : List Char) : List Char :=
  text.takeWhile Text.isDecimalDigit

/-- The number after the first version in the old form, if it can be read. -/
def legacyMajor? (text : List Char) : Option Nat := do
  let numbered ← afterFirst legacyOpening text
  Text.readWord? (leadingDigits numbered)

/-- The version in `text`; `none` if there is no quoted version or its first number cannot be read. -/
def ofChars? (text : List Char) : Option JavaVersion := do
  let quoted ← afterFirst opening text
  if '"' ∉ quoted then none
  else
    let token := leadingDigits quoted
    let leading ← Text.readWord? token
    return {
      raw := String.ofList (opening ++ quoted.takeWhile (· ≠ '"') ++ ['"'])
      token := String.ofList token
      major := if leading = legacyEpoch then (legacyMajor? text).getD leading else leading }

def parse? (text : String) : Option JavaVersion :=
  ofChars? text.toList

end JavaVersion
end JarLauncher.JavaRuntime
