/-!
Blank characters, and text without the blanks around it. Taking them away leaves a text that starts and ends
in no blank, so that doing it once more changes nothing.
-/

namespace JarLauncher.Text

/-- The characters that Unicode calls white space. -/
def isBlank (char : Char) : Bool :=
  let code := char.toNat
  (0x09 ≤ code && code ≤ 0x0D) || code = 0x20 || code = 0x85 || code = 0xA0 || code = 0x1680
    || (0x2000 ≤ code && code ≤ 0x200A) || code = 0x2028 || code = 0x2029 || code = 0x202F
    || code = 0x205F || code = 0x3000

def trimBlanks (chars : List Char) : List Char :=
  ((chars.dropWhile isBlank).reverse.dropWhile isBlank).reverse

def trim (text : String) : String :=
  String.ofList (trimBlanks text.toList)

theorem isBlank_head?_dropWhile {chars : List Char} {char : Char}
    (first : (chars.dropWhile isBlank).head? = some char) : isBlank char = false := by
  have kept := List.head?_dropWhile_not isBlank chars
  rwa [first] at kept

/-- A text without blanks around it starts with no blank. -/
theorem isBlank_head?_trimBlanks {chars : List Char} {char : Char}
    (first : (trimBlanks chars).head? = some char) : isBlank char = false := by
  have ending : (chars.dropWhile isBlank).reverse.dropWhile isBlank <:+ (chars.dropWhile isBlank).reverse :=
    List.dropWhile_suffix isBlank
  have start : trimBlanks chars <+: chars.dropWhile isBlank := by
    simpa [trimBlanks] using List.reverse_prefix.mpr ending
  obtain ⟨rest, same⟩ := start
  have kept : (chars.dropWhile isBlank).head? = some char := by
    rw [← same, List.head?_append, first]
    rfl
  exact isBlank_head?_dropWhile kept

/-- A text without blanks around it ends in no blank. -/
theorem isBlank_getLast?_trimBlanks {chars : List Char} {char : Char}
    (last : (trimBlanks chars).getLast? = some char) : isBlank char = false := by
  rw [trimBlanks, List.getLast?_reverse] at last
  exact isBlank_head?_dropWhile last

theorem dropWhile_isBlank_eq_self {chars : List Char}
    (kept : ∀ char, chars.head? = some char → isBlank char = false) : chars.dropWhile isBlank = chars := by
  cases chars with
  | nil => rfl
  | cons char rest => simp [kept char rfl]

theorem dropWhile_isBlank_append {before rest : List Char} (blank : ∀ char ∈ before, isBlank char = true)
    (kept : ∀ char, rest.head? = some char → isBlank char = false) :
    (before ++ rest).dropWhile isBlank = rest := by
  rw [List.dropWhile_append_of_pos blank, dropWhile_isBlank_eq_self kept]

/-- Only the blanks around a text are taken away. -/
theorem trimBlanks_eq_self {chars : List Char}
    (atStart : ∀ char, chars.head? = some char → isBlank char = false)
    (atEnd : ∀ char, chars.getLast? = some char → isBlank char = false) : trimBlanks chars = chars := by
  rw [trimBlanks, dropWhile_isBlank_eq_self atStart, dropWhile_isBlank_eq_self (by simpa using atEnd),
    List.reverse_reverse]

@[simp] theorem trimBlanks_trimBlanks (chars : List Char) : trimBlanks (trimBlanks chars) = trimBlanks chars :=
  trimBlanks_eq_self (fun _ => isBlank_head?_trimBlanks) (fun _ => isBlank_getLast?_trimBlanks)

@[simp] theorem trim_trim (text : String) : trim (trim text) = trim text := by
  simp [trim]

/-- Blanks that are put around a text are taken away again. -/
theorem trimBlanks_append {before text behind : List Char} (front : ∀ char ∈ before, isBlank char = true)
    (back : ∀ char ∈ behind, isBlank char = true) (trimmed : trimBlanks text = text) :
    trimBlanks (before ++ (text ++ behind)) = text := by
  have first : ∀ char, text.head? = some char → isBlank char = false := by
    intro char found
    rw [← trimmed] at found
    exact isBlank_head?_trimBlanks found
  have last : ∀ char, text.reverse.head? = some char → isBlank char = false := by
    intro char found
    rw [List.head?_reverse, ← trimmed] at found
    exact isBlank_getLast?_trimBlanks found
  have reversed : ∀ char ∈ behind.reverse, isBlank char = true := by
    intro char member
    exact back char (List.mem_reverse.mp member)
  cases text with
  | nil =>
      have nothing : (before ++ behind ++ []).dropWhile isBlank = [] :=
        dropWhile_isBlank_append (List.forall_mem_append.mpr ⟨front, back⟩) (by simp)
      rw [List.append_nil] at nothing
      rw [trimBlanks, List.nil_append, nothing]
      rfl
  | cons char rest =>
      have started : (before ++ (char :: rest ++ behind)).dropWhile isBlank = char :: rest ++ behind :=
        dropWhile_isBlank_append front first
      rw [trimBlanks, started, List.reverse_append, dropWhile_isBlank_append reversed last, List.reverse_reverse]

end JarLauncher.Text
