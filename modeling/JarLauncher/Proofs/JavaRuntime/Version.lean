import JarLauncher.JavaRuntime.Version
import Mathlib.Data.List.Basic

/-!
The version in what a runtime says about itself, and how it is read from its own words alone. The two searches for
a version start with the same words, so that the old form is found where the first version is, if that is written
in the old form at all.
-/

namespace JarLauncher.JavaRuntime.JavaVersion

open Text

/-- Whether `intro`, directly followed by a digit, stands at the start of a text. -/
def StartsWith (intro text : List Char) : Prop :=
  ∃ digit, isDecimalDigit digit = true ∧ intro ++ [digit] <+: text

/-- Whether `intro`, directly followed by a digit, stands anywhere in a text. -/
def Announces (intro text : List Char) : Prop :=
  ∃ digit, isDecimalDigit digit = true ∧ intro ++ [digit] <:+: text

section Search

variable {intro text before rest : List Char} {first digit char : Char}

theorem announces_cons :
    Announces intro (char :: text) ↔ StartsWith intro (char :: text) ∨ Announces intro text := by
  simp only [Announces, StartsWith, List.infix_cons_iff, and_or_left, exists_or]

theorem startsWith_intro (decimal : isDecimalDigit digit = true) :
    StartsWith intro (intro ++ digit :: rest) :=
  ⟨digit, decimal, rest, by simp⟩

theorem afterFirst_of_startsWith (decimal : isDecimalDigit digit = true) :
    afterFirst intro (intro ++ digit :: rest) = some (digit :: rest) := by
  have found : intro.isPrefixOf? (intro ++ digit :: rest) = some (digit :: rest) :=
    List.isPrefixOf?_eq_some_iff_append_eq.mpr rfl
  rcases whole : intro ++ digit :: rest with _ | ⟨char, text⟩
  · simp at whole
  · rw [whole] at found
    simp [afterFirst, found, decimal]

theorem afterFirst_of_not_startsWith (other : ¬StartsWith intro (char :: text)) :
    afterFirst intro (char :: text) = afterFirst intro text := by
  rw [afterFirst]
  split
  · rename_i digit after found
    have here : ¬isDecimalDigit digit = true := by
      intro decimal
      rw [← List.isPrefixOf?_eq_some_iff_append_eq.mp found] at other
      exact other (startsWith_intro decimal)
    rw [if_neg here]
  · rfl

/-- The word that introduces a version starts with a letter that is nowhere else in it, so that no version can start
before its word and reach into it. -/
theorem startsWith_of_append (unlike : first ∉ rest) (letter : isDecimalDigit first = false) {after : List Char}
    (some : before ≠ []) (starts : StartsWith (first :: rest) (before ++ first :: after)) :
    StartsWith (first :: rest) before := by
  obtain ⟨digit, decimal, leading⟩ := starts
  refine ⟨digit, decimal, ?_⟩
  rcases List.prefix_or_prefix_of_prefix leading (List.prefix_append _ _) with inside | ⟨more, whole⟩
  · exact inside
  obtain ⟨start, before, rfl⟩ := List.exists_cons_of_ne_nil some
  cases more with
  | nil => exact ⟨[], by simpa using whole.symm⟩
  | cons next more =>
      rw [← whole, List.prefix_append_right_inj, List.cons_prefix_cons] at leading
      have tails : before ++ next :: more = rest ++ [digit] := (List.cons.inj whole).2
      have member : first ∈ rest ++ [digit] := by simp [← tails, leading.1]
      rcases List.mem_append.mp member with within | last
      · exact absurd within unlike
      · rw [← List.mem_singleton.mp last, letter] at decimal
        cases decimal

theorem announces_iff : Announces intro text ↔ (afterFirst intro text).isSome = true := by
  induction text with
  | nil => simp [Announces, afterFirst]
  | cons char text ih =>
      rw [announces_cons]
      by_cases starts : StartsWith intro (char :: text)
      · obtain ⟨digit, decimal, after, whole⟩ := starts
        rw [List.append_assoc, List.singleton_append] at whole
        rw [← whole, afterFirst_of_startsWith decimal]
        exact iff_of_true (.inl (startsWith_intro decimal)) rfl
      · rw [afterFirst_of_not_startsWith starts, ← ih, or_iff_right starts]

instance : Decidable (Announces intro text) :=
  decidable_of_iff _ announces_iff.symm

/-- The first version in a text is the one behind a part that announces none. -/
theorem afterFirst_append (unlike : first ∉ rest) (letter : isDecimalDigit first = false)
    (silent : ¬Announces (first :: rest) before) (decimal : isDecimalDigit digit = true) {after : List Char} :
    afterFirst (first :: rest) (before ++ (first :: rest ++ digit :: after)) = some (digit :: after) := by
  induction before with
  | nil => exact afterFirst_of_startsWith decimal
  | cons char before ih =>
      rw [announces_cons, not_or] at silent
      have other : ¬StartsWith (first :: rest) (char :: (before ++ (first :: rest ++ digit :: after))) :=
        fun starts => silent.1 (startsWith_of_append unlike letter (List.cons_ne_nil char before) starts)
      rw [List.cons_append, afterFirst_of_not_startsWith other, ih silent.2]

/-- No version starts where its first letter is not. -/
theorem afterFirst_append_of_notMem (absent : first ∉ before) :
    afterFirst (first :: rest) (before ++ text) = afterFirst (first :: rest) text := by
  induction before with
  | nil => rfl
  | cons char before ih =>
      rw [List.mem_cons, not_or] at absent
      have other : ¬StartsWith (first :: rest) (char :: (before ++ text)) := by
        rintro ⟨digit, -, leading⟩
        exact absent.1 (List.cons_prefix_cons.mp leading).1
      rw [List.cons_append, afterFirst_of_not_startsWith other, ih absent.2]

/-- What is found starts with a digit, behind its introduction. -/
theorem afterFirst_eq_some {quoted : List Char} (found : afterFirst intro text = some quoted) :
    intro ++ quoted <:+ text ∧ ∃ digit after, quoted = digit :: after ∧ isDecimalDigit digit = true := by
  induction text with
  | nil => cases found
  | cons char text ih =>
      by_cases starts : StartsWith intro (char :: text)
      · obtain ⟨digit, decimal, after, whole⟩ := starts
        rw [List.append_assoc] at whole
        rw [← whole, List.singleton_append, afterFirst_of_startsWith decimal] at found
        cases found
        rw [← whole]
        exact ⟨List.suffix_rfl, digit, after, rfl, decimal⟩
      · rw [afterFirst_of_not_startsWith starts] at found
        obtain ⟨ending, digits⟩ := ih found
        exact ⟨ending.trans (List.suffix_cons char text), digits⟩

end Search

theorem leadingDigits_append {stop : Char} (other : isDecimalDigit stop = false) (digits rest : List Char) :
    leadingDigits (digits ++ stop :: rest) = leadingDigits digits := by
  induction digits with
  | nil => simp [leadingDigits, other]
  | cons digit digits ih =>
      simp only [leadingDigits, List.cons_append, List.takeWhile_cons] at ih ⊢
      rw [ih]

theorem takeWhile_ne_quote {inner : List Char} (free : '"' ∉ inner) (rest : List Char) :
    (inner ++ '"' :: rest).takeWhile (· ≠ '"') = inner := by
  induction inner with
  | nil => simp
  | cons char inner ih =>
      rw [List.mem_cons, not_or] at free
      rw [List.cons_append, List.takeWhile_cons, if_pos (decide_eq_true (Ne.symm free.1)), ih free.2]

/-- The version in a text, from the part in front of the closing quote of the first one. -/
def ofQuoted (text inner : List Char) (leading : Nat) : JavaVersion where
  raw := String.ofList (opening ++ inner ++ ['"'])
  token := String.ofList (leadingDigits inner)
  major := if leading = legacyEpoch then (legacyMajor? text).getD leading else leading

theorem ofChars?_of_quoted {text inner rest : List Char}
    (found : afterFirst opening text = some (inner ++ '"' :: rest)) (free : '"' ∉ inner) :
    ofChars? text = (readWord? (leadingDigits inner)).map (ofQuoted text inner) := by
  have quote : ¬ '"' ∉ inner ++ '"' :: rest := by simp
  unfold ofChars?
  rw [found]
  simp only [Option.bind_eq_bind, Option.bind_some, if_neg quote, takeWhile_ne_quote free,
    leadingDigits_append (show isDecimalDigit '"' = false by decide)]
  cases readWord? (leadingDigits inner) <;> rfl

theorem ofChars?_of_unquoted {text quoted : List Char} (found : afterFirst opening text = some quoted)
    (open' : '"' ∉ quoted) : ofChars? text = none := by
  unfold ofChars?
  rw [found]
  simp only [Option.bind_eq_bind, Option.bind_some, if_pos open']

/-- What is read is the first version in a text, up to its closing quote. -/
theorem ofChars?_eq_some {text : List Char} {version : JavaVersion} (read : ofChars? text = some version) :
    ∃ inner rest leading, afterFirst opening text = some (inner ++ '"' :: rest) ∧ '"' ∉ inner ∧
      readWord? (leadingDigits inner) = some leading ∧ version = ofQuoted text inner leading := by
  cases found : afterFirst opening text with
  | none => simp [ofChars?, found] at read
  | some quoted =>
      by_cases quote : '"' ∈ quoted
      · obtain ⟨inner, rest, rfl, free⟩ := List.eq_append_cons_of_mem quote
        rw [ofChars?_of_quoted found free, Option.map_eq_some_iff] at read
        obtain ⟨leading, number, same⟩ := read
        exact ⟨inner, rest, leading, rfl, free, number, same.symm⟩
      · rw [ofChars?_of_unquoted found quote] at read
        cases read

section OldForm

variable {text inner rest : List Char}

/-- The old form is found where the first version is, if that is written in it. -/
theorem afterFirst_legacyOpening {digit : Char} {after : List Char} (decimal : isDecimalDigit digit = true)
    (found : afterFirst opening text = some ('1' :: '.' :: digit :: after)) :
    afterFirst legacyOpening text = some (digit :: after) := by
  have longer : legacyOpening = opening ++ ['1', '.'] := by decide
  induction text with
  | nil => cases found
  | cons char text ih =>
      by_cases starts : StartsWith opening (char :: text)
      · obtain ⟨first, firstDecimal, others, whole⟩ := starts
        rw [List.append_assoc, List.singleton_append] at whole
        rw [← whole, afterFirst_of_startsWith firstDecimal] at found
        have same : opening ++ '1' :: '.' :: digit :: after = legacyOpening ++ digit :: after := by simp [longer]
        rw [← whole, Option.some.inj found, same, afterFirst_of_startsWith decimal]
      · have other : ¬StartsWith legacyOpening (char :: text) := by
          rintro ⟨next, -, leading⟩
          refine starts ⟨'1', by decide, (List.IsPrefix.trans ?_ leading)⟩
          exact ⟨['.', next], by simp [longer]⟩
        rw [afterFirst_of_not_startsWith starts] at found
        rw [afterFirst_of_not_startsWith other, ih found]

/-- The old form has a quote in it that is not its last letter. -/
theorem not_startsWith_legacyOpening (free : '"' ∉ text) : ¬StartsWith legacyOpening (text ++ ['"']) := by
  rintro ⟨digit, -, after, whole⟩
  have parts : legacyOpening = "version ".toList ++ ['"', '1', '.'] := by decide
  have shorter := congrArg List.dropLast whole
  rw [parts, List.dropLast_concat, List.append_assoc, List.append_assoc,
    List.dropLast_append_of_ne_nil (by simp)] at shorter
  apply free
  rw [← shorter]
  simp

theorem afterFirst_legacyOpening_unquoted (free : '"' ∉ text) :
    afterFirst legacyOpening (text ++ ['"']) = none := by
  induction text with
  | nil => decide
  | cons char text ih =>
      have other : ¬StartsWith legacyOpening (char :: (text ++ ['"'])) := not_startsWith_legacyOpening free
      rw [List.cons_append, afterFirst_of_not_startsWith other, ih]
      exact fun member => free (List.mem_cons_of_mem char member)

/-- The words of a version have the old form at their start or nowhere. -/
theorem afterFirst_legacyOpening_raw (free : '"' ∉ inner)
    (plain : ¬StartsWith legacyOpening (opening ++ inner ++ ['"'])) :
    afterFirst legacyOpening (opening ++ inner ++ ['"']) = none := by
  have word : opening = 'v' :: "ersion \"".toList := by decide
  have letter : legacyOpening = 'v' :: "ersion \"1.".toList := by decide
  rw [word, List.cons_append, List.cons_append] at plain ⊢
  rw [afterFirst_of_not_startsWith plain, List.append_assoc, letter,
    afterFirst_append_of_notMem (by decide), ← letter, afterFirst_legacyOpening_unquoted free]

/-- A first version in the old form is also the first one in that form. -/
theorem legacyMajor?_of_startsWith (first : afterFirst opening text = some (inner ++ '"' :: rest))
    (old : StartsWith legacyOpening (opening ++ inner ++ ['"'])) :
    legacyMajor? text = readWord? (leadingDigits (inner.drop 2)) := by
  obtain ⟨digit, decimal, leading⟩ := old
  have longer : legacyOpening = opening ++ ['1', '.'] := by decide
  rw [longer, List.append_assoc, List.append_assoc, List.prefix_append_right_inj] at leading
  obtain ⟨more, whole⟩ := leading
  rcases inner with _ | ⟨one, _ | ⟨point, _ | ⟨start, after⟩⟩⟩
  · simp at whole
  · simp at whole
  · simp only [List.cons_append, List.nil_append, List.cons.injEq] at whole
    rw [whole.2.2.1] at decimal
    cases decimal
  · simp only [List.cons_append, List.nil_append, List.cons.injEq] at whole
    obtain ⟨rfl, rfl, rfl, -⟩ := whole
    have found : afterFirst legacyOpening text = some (digit :: after ++ '"' :: rest) :=
      afterFirst_legacyOpening decimal first
    rw [legacyMajor?, found]
    exact congrArg readWord? (leadingDigits_append (by decide) (digit :: after) rest)

end OldForm

/-- The words of a version alone are read as that version, but for the major version: that is the number they start
with, unless they are written in the old form. -/
theorem parse?_raw {text : String} {version : JavaVersion} (found : parse? text = some version) :
    (∃ major, parse? version.raw = some { version with major }) ∧
      (parse? version.raw = some version ↔
        StartsWith legacyOpening version.raw.toList ∨
          readWord? version.token.toList = some version.major) := by
  obtain ⟨inner, rest, leading, first, free, number, rfl⟩ := ofChars?_eq_some found
  have raw : (ofQuoted text.toList inner leading).raw.toList = opening ++ inner ++ ['"'] := String.toList_ofList
  have token : (ofQuoted text.toList inner leading).token.toList = leadingDigits inner := String.toList_ofList
  have again : afterFirst opening (opening ++ inner ++ ['"']) = some (inner ++ ['"']) := by
    obtain ⟨-, digit, after, starting, decimal⟩ := afterFirst_eq_some first
    cases inner with
    | nil =>
        rw [← (List.cons.inj starting).1] at decimal
        cases decimal
    | cons char inner =>
        rw [← (List.cons.inj starting).1] at decimal
        rw [List.append_assoc]
        exact afterFirst_of_startsWith decimal
  have alone : parse? (ofQuoted text.toList inner leading).raw =
      some (ofQuoted (opening ++ inner ++ ['"']) inner leading) := by
    rw [parse?, raw, ofChars?_of_quoted again free, number]
    rfl
  rw [alone, raw, token, number]
  refine ⟨⟨_, rfl⟩, ?_⟩
  simp only [Option.some.injEq, ofQuoted, mk.injEq, true_and]
  by_cases epoch : leading = legacyEpoch
  · rw [if_pos epoch, if_pos epoch]
    by_cases old : StartsWith legacyOpening (opening ++ inner ++ ['"'])
    · simp only [legacyMajor?_of_startsWith again old, legacyMajor?_of_startsWith first old, old, true_or]
    · have none : legacyMajor? (opening ++ inner ++ ['"']) = none := by
        rw [legacyMajor?, afterFirst_legacyOpening_raw free old]
        rfl
      simp only [none, old, Option.getD_none, false_or]
  · simp [epoch]

/-- What a runtime says that has three lines to say. -/
def threeLines : String :=
  "openjdk version \"11.0.2\" 2019-01-15\n" ++
    "OpenJDK Runtime Environment 18.9 (build 11.0.2+9)\n" ++
    "OpenJDK 64-Bit Server VM 18.9 (build 11.0.2+9, mixed mode)\n"

theorem parse?_raw_threeLines :
    parse? threeLines = some ⟨"version \"11.0.2\"", "11", 11⟩ ∧
      parse? "version \"11.0.2\"" = some ⟨"version \"11.0.2\"", "11", 11⟩ := by
  have found : parse? threeLines = some ⟨"version \"11.0.2\"", "11", 11⟩ := by decide +kernel
  exact ⟨found, (parse?_raw found).2.mpr (.inr (by decide))⟩

/-- A bare `1` takes its major version from a later version in the old form. -/
theorem parse?_raw_of_later_version :
    parse? "openjdk version \"1\"\njava version \"1.8.0_301\"\n" = some ⟨"version \"1\"", "1", 8⟩ ∧
      parse? "version \"1\"" ≠ some ⟨"version \"1\"", "1", 8⟩ := by
  decide +kernel

end JarLauncher.JavaRuntime.JavaVersion
