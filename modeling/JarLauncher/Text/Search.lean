/-!
Finding one text inside another. The parts of a text between the places of a pattern, with the pattern put
back between them, are the text.
-/

namespace JarLauncher.Text

def startsWith (start text : String) : Bool :=
  start.toList.isPrefixOf text.toList

/-- Whether `pattern` stands somewhere in a text. -/
def occursIn (pattern : List Char) : List Char → Bool
  | [] => pattern.isEmpty
  | text@(_ :: rest) => pattern.isPrefixOf text || occursIn pattern rest

theorem occursIn_iff {pattern text : List Char} : occursIn pattern text = true ↔ pattern <:+: text := by
  induction text with
  | nil => simp [occursIn]
  | cons char rest ih => rw [occursIn, Bool.or_eq_true, ih, List.isPrefixOf_iff_prefix, List.infix_cons_iff]

/-- The parts of a text between the places where `pattern` stands, from the left on. -/
def partsBetween (pattern : List Char) (text : List Char) : List (List Char) :=
  if pattern ≠ [] ∧ pattern.isPrefixOf text then
    [] :: partsBetween pattern (text.drop pattern.length)
  else
    match text with
    | [] => [[]]
    | char :: rest => (partsBetween pattern rest).modifyHead (char :: ·)
  termination_by text.length
  decreasing_by
    · rename_i found
      have enough := List.IsPrefix.length_le (List.isPrefixOf_iff_prefix.mp found.2)
      have positive := List.length_pos_iff.mpr found.1
      simp only [List.length_drop]
      omega
    · simp

theorem partsBetween_ne_nil (pattern text : List Char) : partsBetween pattern text ≠ [] := by
  fun_induction partsBetween pattern text with
  | case1 => simp
  | case2 => simp
  | case3 char rest found ih => cases parts : partsBetween pattern rest <;> simp_all

/-- The parts with the pattern between them are the text. -/
theorem intercalate_partsBetween (pattern text : List Char) :
    pattern.intercalate (partsBetween pattern text) = text := by
  fun_induction partsBetween pattern text with
  | case1 text found ih =>
    obtain ⟨first, others, parts⟩ := List.exists_cons_of_ne_nil (partsBetween_ne_nil pattern (text.drop pattern.length))
    rw [parts] at ih ⊢
    rw [List.intercalate_cons_cons, ih, List.nil_append]
    obtain ⟨rest, rfl⟩ := List.isPrefixOf_iff_prefix.mp found.2
    rw [List.drop_left]
  | case2 => rfl
  | case3 char rest found ih =>
    obtain ⟨first, others, parts⟩ := List.exists_cons_of_ne_nil (partsBetween_ne_nil pattern rest)
    rw [parts] at ih ⊢
    cases others with
    | nil => simpa [List.intercalate] using ih
    | cons second others =>
      rw [List.intercalate_cons_cons] at ih
      rw [List.modifyHead_cons, List.intercalate_cons_cons, ← ih]
      rfl

/-- A text with `insert` in every place of `pattern`. -/
def replaceAll (pattern insert text : String) : String :=
  String.ofList (List.intercalate insert.toList (partsBetween pattern.toList text.toList))

end JarLauncher.Text
