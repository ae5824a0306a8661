import JarLauncher.Proofs.JavaRuntime.Version
import JarLauncher.Proofs.Text.Pattern
import Mathlib.Data.Nat.Find

/-!
Which texts tell a version, and which version that is. What is read is what two patterns find, with all the ways in
which they may fit; and it can be told directly, by the first places of words and quotes and the digits behind them.
-/

namespace JarLauncher.JavaRuntime.JavaVersion

open Text

def number : Item :=
  ⟨isDecimalDigit, .atLeastOnce⟩

/-- What a version may have behind its first number: `\.?\d*\.?\d*[^"]*"`. -/
def afterNumber : Pattern :=
  [⟨(· = '.'), .atMostOnce⟩, ⟨isDecimalDigit, .anyTimes⟩, ⟨(· = '.'), .atMostOnce⟩, ⟨isDecimalDigit, .anyTimes⟩,
    ⟨(· ≠ '"'), .anyTimes⟩, .letter '"']

/-- The pattern `version "(\d+)\.?\d*\.?\d*[^"]*"`. -/
def versionPattern : Pattern :=
  Pattern.literal opening ++ number :: afterNumber

/-- The pattern `version "1\.(\d+)`. -/
def legacyPattern : Pattern :=
  Pattern.literal legacyOpening ++ [number]

def matchedMajor? (text : List Char) : Option Nat := do
  let parts ← legacyPattern.search? text
  readWord? (← parts[legacyOpening.length]?)

/-- The version that the two patterns find in a text. -/
def matched? (text : List Char) : Option JavaVersion := do
  let parts ← versionPattern.search? text
  let token ← parts[opening.length]?
  let leading ← readWord? token
  return {
    raw := String.ofList parts.flatten
    token := String.ofList token
    major := if leading = legacyEpoch then (matchedMajor? text).getD leading else leading }

section Search

variable {intro text quoted inner rest : List Char} {items : Pattern} {parts : List (List Char)}

theorem ways_of_not_startsWith (other : ¬StartsWith intro text) :
    (Pattern.literal intro ++ number :: items).ways text = [] := by
  by_cases leading : intro <+: text
  · obtain ⟨rest, rfl⟩ := leading
    have none : number.lengths rest = [] := by
      apply Item.lengths_atLeastOnce_eq_nil
      cases rest with
      | nil => rfl
      | cons char rest =>
          apply Bool.eq_false_iff.mpr
          intro decimal
          exact other (startsWith_intro decimal)
    rw [Pattern.ways_literal_append, Pattern.ways, none]
    rfl
  · exact Pattern.ways_literal_of_not_prefix leading

theorem search?_of_silent (silent : ¬Announces intro text) :
    (Pattern.literal intro ++ number :: items).search? text = none := by
  induction text with
  | nil =>
      have other : ¬StartsWith intro [] := by
        rintro ⟨digit, -, leading⟩
        simp at leading
      rw [Pattern.search?, ways_of_not_startsWith other]
      rfl
  | cons char text ih =>
      rw [announces_cons, not_or] at silent
      rw [Pattern.search?, ways_of_not_startsWith silent.1, ih silent.2]
      rfl

/-- A pattern fits at the first place of its word, if what is behind the word fits there. -/
theorem search?_of_fits (found : afterFirst intro text = some quoted)
    (fits : (Pattern.ways (number :: items) quoted).head? = some parts) :
    (Pattern.literal intro ++ number :: items).search? text = some (intro.map ([·]) ++ parts) := by
  induction text with
  | nil => cases found
  | cons char text ih =>
      by_cases starts : StartsWith intro (char :: text)
      · obtain ⟨digit, decimal, after, whole⟩ := starts
        rw [List.append_assoc, List.singleton_append] at whole
        rw [← whole, afterFirst_of_startsWith decimal, Option.some.injEq] at found
        rw [Pattern.search?, ← whole, found, Pattern.ways_literal_append, List.head?_map, fits]
        rfl
      · rw [afterFirst_of_not_startsWith starts] at found
        rw [Pattern.search?, ways_of_not_startsWith starts, ih found]
        rfl

/-- A version has two quotes. -/
theorem search?_of_count_le (few : text.count '"' ≤ 1) : versionPattern.search? text = none := by
  have nowhere {text : List Char} (few : text.count '"' ≤ 1) : versionPattern.ways text = [] := by
    by_cases leading : opening <+: text
    · obtain ⟨rest, rfl⟩ := leading
      have one : opening.count '"' = 1 := by decide
      have absent : '"' ∉ rest := by
        rw [List.count_append, one] at few
        exact List.count_eq_zero.mp (by omega)
      have closing : number :: afterNumber = (number :: afterNumber.dropLast) ++ [Item.letter '"'] := rfl
      rw [versionPattern, Pattern.ways_literal_append, closing, Pattern.ways_concat_letter_eq_nil absent,
        List.map_nil]
    · exact Pattern.ways_literal_of_not_prefix leading
  -- the opening quote takes the only one there may be, so that no place is left with a closing one
  induction text with
  | nil => rw [Pattern.search?, nowhere few, List.head?_nil]
  | cons char text ih =>
      have fewer : text.count '"' ≤ 1 := Nat.le_trans List.count_le_count_cons few
      rw [Pattern.search?, nowhere few, ih fewer]
      rfl

theorem search?_of_unquoted (found : afterFirst opening text = some quoted) (free : '"' ∉ quoted) :
    versionPattern.search? text = none := by
  induction text with
  | nil => cases found
  | cons char text ih =>
      by_cases starts : StartsWith opening (char :: text)
      · obtain ⟨digit, decimal, after, whole⟩ := starts
        rw [List.append_assoc, List.singleton_append] at whole
        rw [← whole, afterFirst_of_startsWith decimal, Option.some.injEq] at found
        have one : opening.count '"' = 1 := by decide
        apply search?_of_count_le
        rw [← whole, found, List.count_append, one, List.count_eq_zero.mpr free]
      · rw [afterFirst_of_not_startsWith starts] at found
        rw [versionPattern, Pattern.search?, ways_of_not_startsWith starts]
        exact ih found

theorem fitsUpTo_afterNumber : Pattern.FitsUpTo '"' afterNumber := by
  apply Pattern.FitsUpTo.cons rfl (by decide)
  apply Pattern.FitsUpTo.cons rfl (by decide)
  apply Pattern.FitsUpTo.cons rfl (by decide)
  apply Pattern.FitsUpTo.cons rfl (by decide)
  exact Pattern.fitsUpTo_until

theorem search?_of_quoted (found : afterFirst opening text = some (inner ++ '"' :: rest)) (free : '"' ∉ inner) :
    ∃ parts, versionPattern.search? text = some parts ∧ parts[opening.length]? = some (leadingDigits inner) ∧
      parts.flatten = opening ++ inner ++ ['"'] := by
  have starts : inner.head?.any isDecimalDigit = true := by
    obtain ⟨-, digit, after, whole, decimal⟩ := afterFirst_eq_some found
    cases inner with
    | nil =>
        rw [← (List.cons.inj whole).1] at decimal
        cases decimal
    | cons char inner =>
        rw [← (List.cons.inj whole).1] at decimal
        exact decimal
  obtain ⟨parts, fits, whole⟩ := fitsUpTo_afterNumber.head?_atLeastOnce rest free (by decide) starts
  refine ⟨_, search?_of_fits found fits, ?_, ?_⟩
  · rw [List.getElem?_append_right (by simp)]
    simp [leadingDigits]
  · have letters : (opening.map ([·])).flatten = opening := by decide
    rw [List.flatten_append, letters, whole, List.append_assoc]

theorem search?_legacyPattern (found : afterFirst legacyOpening text = some quoted) :
    legacyPattern.search? text = some (legacyOpening.map ([·]) ++ [leadingDigits quoted]) := by
  obtain ⟨-, digit, after, rfl, decimal⟩ := afterFirst_eq_some found
  have enough : number.count.admits ((digit :: after).takeWhile number.allowed).length = true := by
    simp [number, Count.admits, decimal]
  have fits : (Pattern.ways [number] (digit :: after)).head? = some [leadingDigits (digit :: after)] := by
    have taken := List.prefix_iff_eq_take.mp (List.takeWhile_prefix number.allowed (l := digit :: after))
    rw [Pattern.head?_ways_cons (Item.head?_lengths number _ enough) rfl, ← taken]
    rfl
  exact search?_of_fits found fits

end Search

theorem matchedMajor?_eq (text : List Char) : matchedMajor? text = legacyMajor? text := by
  unfold matchedMajor? legacyMajor?
  cases found : afterFirst legacyOpening text with
  | none =>
      have silent : ¬Announces legacyOpening text := by simp [announces_iff, found]
      rw [legacyPattern, search?_of_silent silent]
      rfl
  | some quoted =>
      rw [search?_legacyPattern found]
      simp

/-- What is read from a text is what the patterns find in it. -/
theorem matched?_eq (text : List Char) : matched? text = ofChars? text := by
  cases found : afterFirst opening text with
  | none =>
      have silent : ¬Announces opening text := by simp [announces_iff, found]
      rw [matched?, versionPattern, search?_of_silent silent, ofChars?, found]
      rfl
  | some quoted =>
      by_cases quote : '"' ∈ quoted
      · obtain ⟨inner, rest, rfl, free⟩ := List.eq_append_cons_of_mem quote
        obtain ⟨parts, searched, token, raw⟩ := search?_of_quoted found free
        rw [matched?, searched, ofChars?_of_quoted found free]
        simp only [Option.bind_eq_bind, Option.bind_some, token, raw, matchedMajor?_eq]
        cases readWord? (leadingDigits inner) <;> rfl
      · rw [matched?, search?_of_unquoted found quote, ofChars?_of_unquoted found quote]
        rfl

/-- Where `intro`, directly followed by a digit, stands for the first time in a text. -/
def FirstAt (intro text : List Char) (place : Nat) : Prop :=
  StartsWith intro (text.drop place) ∧ ∀ earlier < place, ¬StartsWith intro (text.drop earlier)

/-- Whether digits write a number: they are ASCII digits, and 32 bits are enough for it. -/
def Writes (digits : List Char) (number : Nat) : Prop :=
  (∀ digit ∈ digits, digit.isDigit = true) ∧ Nat.ofDigitChars 10 digits 0 = number ∧ number < UInt32.size

/-- Whether the first version in the old form has this number, wherever in a text it stands. -/
def WritesOld (text : List Char) (number : Nat) : Prop :=
  ∃ place, FirstAt legacyOpening text place ∧ Writes (leadingDigits (text.drop (place + legacyOpening.length))) number

/-- The major version that a version stands for which starts with the number `leading`. -/
def IsMajor (text : List Char) (leading major : Nat) : Prop :=
  if leading = 1 then WritesOld text major ∨ major = 1 ∧ ¬∃ number, WritesOld text number else major = leading

section Places

variable {intro text quoted digits : List Char} {place leading major : Nat}

theorem afterFirst_eq_none (nowhere : ∀ place, ¬StartsWith intro (text.drop place)) : afterFirst intro text = none := by
  induction text with
  | nil => rfl
  | cons char text ih =>
      rw [afterFirst_of_not_startsWith (nowhere 0)]
      exact ih fun place => nowhere (place + 1)

theorem afterFirst_of_firstAt (first : FirstAt intro text place) :
    afterFirst intro text = some (text.drop (place + intro.length)) := by
  obtain ⟨starts, earlier⟩ := first
  induction place generalizing text with
  | zero =>
      obtain ⟨digit, decimal, after, whole⟩ := starts
      rw [List.drop_zero, List.append_assoc, List.singleton_append] at whole
      rw [← whole, afterFirst_of_startsWith decimal, Nat.zero_add, List.drop_left]
  | succ place ih =>
      cases text with
      | nil =>
          obtain ⟨digit, -, leading⟩ := starts
          simp at leading
      | cons char text =>
          have later := ih starts fun before near => earlier (before + 1) (by omega)
          rw [afterFirst_of_not_startsWith (earlier 0 (by omega)), later, Nat.succ_add_eq_add_succ]
          rfl

theorem exists_firstAt (found : afterFirst intro text = some quoted) :
    ∃ place, FirstAt intro text place ∧ text.drop (place + intro.length) = quoted := by
  have somewhere : ∃ place, StartsWith intro (text.drop place) := by
    by_contra nowhere
    rw [afterFirst_eq_none (not_exists.mp nowhere)] at found
    cases found
  classical
  have first : FirstAt intro text (Nat.find somewhere) := ⟨Nat.find_spec somewhere, fun _ => Nat.find_min somewhere⟩
  rw [afterFirst_of_firstAt first] at found
  exact ⟨_, first, Option.some.inj found⟩

theorem readWord?_eq_some (some : digits ≠ []) : readWord? digits = Option.some major ↔ Writes digits major := by
  have bound : wordBound = UInt32.size := rfl
  by_cases ascii : ∀ digit ∈ digits, digit.isDigit = true
  · simp only [readWord?, Writes, bound, List.isEmpty_eq_false_iff.mpr some, List.all_eq_true.mpr ascii]
    constructor
    · intro read
      split at read
      · cases read
      split at read
      · cases read
        exact ⟨ascii, rfl, ‹_›⟩
      · cases read
    · rintro ⟨-, rfl, small⟩
      simp only [if_pos small]
      rfl
  · have other : digits.all Char.isDigit = false := by
      rw [Bool.eq_false_iff]
      exact fun all => ascii (List.all_eq_true.mp all)
    simp [readWord?, other, Writes, ascii]

theorem leadingDigits_ne_nil (found : afterFirst intro text = some quoted) : leadingDigits quoted ≠ [] := by
  obtain ⟨-, digit, after, rfl, decimal⟩ := afterFirst_eq_some found
  simp [leadingDigits, decimal]

theorem legacyMajor?_eq_some : legacyMajor? text = some major ↔ WritesOld text major := by
  unfold legacyMajor? WritesOld
  constructor
  · intro read
    obtain ⟨quoted, found, number⟩ := Option.bind_eq_some_iff.mp read
    obtain ⟨place, first, rfl⟩ := exists_firstAt found
    exact ⟨place, first, (readWord?_eq_some (leadingDigits_ne_nil found)).mp number⟩
  · rintro ⟨place, first, writes⟩
    have found := afterFirst_of_firstAt first
    rw [found]
    exact (readWord?_eq_some (leadingDigits_ne_nil found)).mpr writes

theorem isMajor_iff :
    IsMajor text leading major ↔
      (if leading = legacyEpoch then (legacyMajor? text).getD leading else leading) = major := by
  unfold IsMajor
  change (if leading = 1 then _ else _) ↔ (if leading = 1 then _ else _) = major
  by_cases epoch : leading = 1
  · simp only [epoch, if_true, ← legacyMajor?_eq_some]
    cases legacyMajor? text <;> simp [eq_comm]
  · simp only [epoch, if_false, eq_comm]

end Places

/-- A version is read exactly where both patterns find it, and that is told by places: it is the first quoted one that
starts with a digit, up to the next quote. There is none without that quote, nor if its first number is no 32-bit
number in ASCII digits; later ones are not tried. -/
theorem parse?_language (text : String) :
    let chars := text.toList
    parse? text = matched? chars ∧
    ((∀ place, ¬StartsWith opening (chars.drop place)) → parse? text = none) ∧
    ∀ place, FirstAt opening chars place →
      let quoted := chars.drop (place + opening.length)
      ('"' ∉ quoted → parse? text = none) ∧
      ∀ inner rest, quoted = inner ++ '"' :: rest → '"' ∉ inner →
        ((¬∃ leading, Writes (leadingDigits quoted) leading) → parse? text = none) ∧
        ∀ version, parse? text = some version ↔
          version.raw.toList = opening ++ inner ++ ['"'] ∧
          version.token.toList = leadingDigits quoted ∧
          ∃ leading, Writes (leadingDigits quoted) leading ∧ IsMajor chars leading version.major := by
  intro chars
  refine ⟨(matched?_eq chars).symm, ?_, ?_⟩
  · intro nowhere
    rw [parse?, ofChars?, afterFirst_eq_none nowhere]
    rfl
  intro place first quoted
  have found : afterFirst opening chars = some quoted := afterFirst_of_firstAt first
  refine ⟨ofChars?_of_unquoted found, ?_⟩
  intro inner rest split free
  have token : leadingDigits quoted = leadingDigits inner := by
    rw [split, leadingDigits_append (by decide)]
  have number (leading : Nat) : readWord? (leadingDigits inner) = some leading ↔
      Writes (leadingDigits inner) leading := readWord?_eq_some (token ▸ leadingDigits_ne_nil found)
  have read : parse? text = (readWord? (leadingDigits inner)).map (ofQuoted chars inner) :=
    ofChars?_of_quoted (found.trans (congrArg some split)) free
  rw [token]
  constructor
  · intro unwritten
    rw [read, Option.map_eq_none_iff, Option.eq_none_iff_forall_ne_some]
    exact fun leading same => unwritten ⟨leading, (number leading).mp same⟩
  · intro version
    rw [read, Option.map_eq_some_iff]
    simp only [number]
    constructor
    · rintro ⟨leading, writes, rfl⟩
      exact ⟨String.toList_ofList, String.toList_ofList, leading, writes, isMajor_iff.mpr rfl⟩
    · rintro ⟨raw, digits, leading, writes, major⟩
      refine ⟨leading, writes, ?_⟩
      rw [ofQuoted, isMajor_iff.mp major, ← raw, ← digits, String.ofList_toList, String.ofList_toList]

end JarLauncher.JavaRuntime.JavaVersion
