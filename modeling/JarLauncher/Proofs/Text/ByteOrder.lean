import JarLauncher.Text.Utf8.Exact
import Mathlib.Data.List.Lex
import Mathlib.Tactic.SplitIfs

/-!
Texts stand in the order of their bytes just as they stand in the order of their characters: a greater character has a
greater lead byte, or the same lead byte and a greater tail.
-/

namespace JarLauncher.Utf8

variable {char other : Char} {number greater : Nat} {before behind : String}

/-- Whether a text stands before another in the order of their bytes. -/
def Precedes (before behind : String) : Prop :=
  List.Lex (· < ·) (encode before) (encode behind)

theorem lex_ofNat_cons (small : number < 256) (bounded : greater < 256) {rest others : Bytes} :
    List.Lex (· < ·) (UInt8.ofNat number :: rest) (UInt8.ofNat greater :: others) ↔
      number < greater ∨ number = greater ∧ List.Lex (· < ·) rest others := by
  rw [List.cons_lex_cons_iff, UInt8.lt_iff_toNat_lt, ← UInt8.toNat_inj, UInt8.toNat_ofNat_of_lt' small,
    UInt8.toNat_ofNat_of_lt' bounded]

theorem lex_encodeChar (less : char < other) (rest others : Bytes) :
    List.Lex (· < ·) (String.utf8EncodeChar char ++ rest) (String.utf8EncodeChar other ++ others) := by
  have fewer : char.val.toNat < other.val.toNat := less
  have valid : other.val.toNat < 0xD800 ∨ 0xDFFF < other.val.toNat ∧ other.val.toNat < 0x110000 := other.valid
  unfold String.utf8EncodeChar
  generalize char.val.toNat = number at fewer
  generalize other.val.toNat = greater at fewer valid
  dsimp only
  -- each place is a digit to the base 64, so that the places down to it are a quotient of the number
  have places (number : Nat) (small : number < 0x110000) :
      number / 64 / 64 = number / 4096 ∧ number / 4096 / 64 = number / 262144 % 8 := by
    omega
  have numberPlaces := places number (by omega)
  have greaterPlaces := places greater (by omega)
  split_ifs <;> simp (disch := omega) only [List.cons_append, List.nil_append, lex_ofNat_cons]
  all_goals omega

theorem encodeChar_ne_nil (char : Char) : String.utf8EncodeChar char ≠ [] := by
  unfold String.utf8EncodeChar
  dsimp only
  split_ifs <;> exact List.cons_ne_nil _ _

theorem lex_flatMap_encodeChar {chars others : List Char} (less : chars < others) :
    List.Lex (· < ·) (chars.flatMap String.utf8EncodeChar) (others.flatMap String.utf8EncodeChar) := by
  induction less with
  | @nil char rest =>
      obtain ⟨byte, tail, whole⟩ := List.exists_cons_of_ne_nil (encodeChar_ne_nil char)
      rw [List.flatMap_nil, List.flatMap_cons, whole, List.cons_append]
      exact .nil
  | rel less => exact lex_encodeChar less _ _
  | cons _ ih => exact .append_left _ ih _

/-- The order of the bytes is the order of the characters. -/
theorem precedes_iff : Precedes before behind ↔ before < behind := by
  constructor
  · intro precedes
    have asymmetric := List.lex_asymm (r := (· < · : UInt8 → UInt8 → Prop)) UInt8.lt_asymm precedes
    rw [← String.not_le]
    intro notLess
    by_cases greater : behind < before
    · exact asymmetric (lex_flatMap_encodeChar (String.lt_iff.mp greater))
    · cases String.le_antisymm notLess (String.not_lt.mp greater)
      exact asymmetric precedes
  · intro less
    exact lex_flatMap_encodeChar (String.lt_iff.mp less)

end JarLauncher.Utf8
