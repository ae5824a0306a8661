/-!
Decimal digits: the digits of every script, and the numbers that ASCII digits write.
-/

namespace JarLauncher.Text

/-- The zeros of the scripts that have decimal digits; each is followed by its digits one to nine. -/
def digitZeros : List Nat :=
  [0x30, 0x660, 0x6F0, 0x7C0, 0x966, 0x9E6, 0xA66, 0xAE6, 0xB66, 0xBE6, 0xC66, 0xCE6, 0xD66, 0xDE6,
   0xE50, 0xED0, 0xF20, 0x1040, 0x1090, 0x17E0, 0x1810, 0x1946, 0x19D0, 0x1A80, 0x1A90, 0x1B50,
   0x1BB0, 0x1C40, 0x1C50, 0xA620, 0xA8D0, 0xA900, 0xA9D0, 0xA9F0, 0xAA50, 0xABF0, 0xFF10, 0x104A0,
   0x10D30, 0x10D40, 0x11066, 0x110F0, 0x11136, 0x111D0, 0x112F0, 0x11450, 0x114D0, 0x11650,
   0x116C0, 0x116D0, 0x116DA, 0x11730, 0x118E0, 0x11950, 0x11BF0, 0x11C50, 0x11D50, 0x11DA0,
   0x11DE0, 0x11F50, 0x16130, 0x16A60, 0x16AC0, 0x16B50, 0x16D70, 0x1CCF0, 0x1D7CE, 0x1D7D8,
   0x1D7E2, 0x1D7EC, 0x1D7F6, 0x1E140, 0x1E2F0, 0x1E4F0, 0x1E5F1, 0x1E950, 0x1FBF0]

def isDecimalDigit (char : Char) : Bool :=
  let code := char.toNat
  if code < 0x80 then 0x30 ≤ code && code ≤ 0x39
  else digitZeros.any fun first => first ≤ code && code < first + 10

/-- The least number that takes more than 32 bits. -/
def wordBound : Nat := 0x100000000

/-- The 32-bit number that characters write, if they are ASCII digits and nothing else. -/
def readWord? (chars : List Char) : Option Nat :=
  if chars.isEmpty || !chars.all Char.isDigit then none
  else
    let value := Nat.ofDigitChars 10 chars 0
    if value < wordBound then some value else none

theorem isDecimalDigit_of_isDigit {char : Char} (digit : char.isDigit = true) : isDecimalDigit char = true := by
  simp only [Char.isDigit, Bool.and_eq_true, decide_eq_true_eq, ge_iff_le, UInt32.le_iff_toNat_le] at digit
  change 48 ≤ char.toNat ∧ char.toNat ≤ 57 at digit
  have small : char.toNat < 0x80 := by omega
  simp [isDecimalDigit, small, digit]

/-- What writes a 32-bit number is read as that number. -/
theorem readWord?_toDigits {number : Nat} (small : number < wordBound) :
    readWord? (Nat.toDigits 10 number) = some number := by
  have some : (Nat.toDigits 10 number).isEmpty = false := by simp
  have digits : (Nat.toDigits 10 number).all Char.isDigit = true :=
    List.all_eq_true.mpr fun _ member => Nat.isDigit_of_mem_toDigits (by decide) (by decide) member
  simp [readWord?, some, digits, Nat.ofDigitChars_ten_toDigits, small]

end JarLauncher.Text
