import JarLauncher.Text.Blank
import JarLauncher.Text.Search

/-!
What replacing leaves alone: whatever is around a text, as long as no place of the pattern can reach into it.
-/

namespace JarLauncher.Text

/-- The characters that `replaceAll` leaves. -/
def replaced (pattern insert text : List Char) : List Char :=
  insert.intercalate (partsBetween pattern text)

section Replacement

variable {pattern insert text front back : List Char} {first char : Char}

theorem partsBetween_append_pattern (some : pattern ≠ []) :
    partsBetween pattern (pattern ++ text) = [] :: partsBetween pattern text := by
  have found : pattern ≠ [] ∧ pattern.isPrefixOf (pattern ++ text) := by simp [some]
  rw [partsBetween.eq_def, if_pos found, List.drop_left]

theorem partsBetween_cons (missed : ¬pattern <+: char :: text) :
    partsBetween pattern (char :: text) = (partsBetween pattern text).modifyHead (char :: ·) := by
  rw [partsBetween, if_neg]
  rw [List.isPrefixOf_iff_prefix]
  exact fun found => missed found.2

@[simp] theorem toList_replaceAll (pattern insert text : String) :
    (replaceAll pattern insert text).toList = replaced pattern.toList insert.toList text.toList :=
  String.toList_ofList

@[simp] theorem replaced_nil : replaced pattern insert [] = [] := by
  simp [replaced, partsBetween]

theorem replaced_of_prefix (some : pattern ≠ []) :
    replaced pattern insert (pattern ++ text) = insert ++ replaced pattern insert text := by
  obtain ⟨part, parts, between⟩ := List.exists_cons_of_ne_nil (partsBetween_ne_nil pattern text)
  rw [replaced, partsBetween_append_pattern some, replaced, between, List.intercalate_cons_cons, List.nil_append]

theorem replaced_cons (other : ¬pattern <+: char :: text) :
    replaced pattern insert (char :: text) = char :: replaced pattern insert text := by
  obtain ⟨part, parts, between⟩ := List.exists_cons_of_ne_nil (partsBetween_ne_nil pattern text)
  rw [replaced, partsBetween_cons other, replaced, between, List.modifyHead_cons]
  cases parts with
  | nil => simp [List.intercalate]
  | cons second parts => simp [List.intercalate_cons_cons]

/-- What has no place where the pattern may start stays in front. -/
theorem replaced_append_left (free : first ∉ front) :
    replaced (first :: pattern) insert (front ++ text) = front ++ replaced (first :: pattern) insert text := by
  induction front with
  | nil => rfl
  | cons char front ih =>
      rw [List.mem_cons, not_or] at free
      have other : ¬first :: pattern <+: char :: (front ++ text) := by
        rw [List.cons_prefix_cons]
        exact fun found => free.1 found.1
      rw [List.cons_append, replaced_cons other, ih free.2, List.cons_append]

/-- A pattern does not reach into what has none of its characters. -/
theorem prefix_append_of_notMem (free : ∀ char ∈ back, char ∉ pattern) (found : pattern <+: text ++ back) :
    pattern <+: text := by
  obtain inside | ⟨beyond, rfl⟩ := List.prefix_or_prefix_of_prefix found (List.prefix_append text back)
  · exact inside
  · rw [List.prefix_append_right_inj] at found
    cases beyond with
    | nil => simp
    | cons char beyond =>
        have inBack : char ∈ back := found.subset List.mem_cons_self
        exact absurd (by simp) (free char inBack)

/-- What has no character of the pattern stays behind. -/
theorem replaced_append_right (some : pattern ≠ []) (free : ∀ char ∈ back, char ∉ pattern) :
    replaced pattern insert (text ++ back) = replaced pattern insert text ++ back := by
  have kept : replaced pattern insert back = back := by
    cases pattern with
    | nil => exact absurd rfl some
    | cons first pattern =>
        have absent : first ∉ back := fun inBack => free first inBack List.mem_cons_self
        have passed : replaced (first :: pattern) insert (back ++ []) = _ := replaced_append_left absent
        simpa using passed
  -- along the places of the pattern: none of them comes about only by what is put behind the text
  induction text using partsBetween.induct pattern with
  | case1 text found ih =>
      obtain ⟨rest, rfl⟩ := List.isPrefixOf_iff_prefix.mp found.2
      rw [List.drop_left] at ih
      rw [List.append_assoc, replaced_of_prefix some, replaced_of_prefix some, ih, List.append_assoc]
  | case2 => simpa using kept
  | case3 char text missed ih =>
      have other : ¬pattern <+: char :: text := fun found => missed ⟨some, List.isPrefixOf_iff_prefix.mpr found⟩
      have farther : ¬pattern <+: char :: (text ++ back) := fun found =>
        other (prefix_append_of_notMem free found)
      rw [List.cons_append, replaced_cons farther, replaced_cons other, ih, List.cons_append]

end Replacement

/-- A text is what remains without the blanks around it, between these blanks. -/
theorem exists_blanks_behind (chars : List Char) :
    ∃ behind, (∀ char ∈ behind, isBlank char = true) ∧
      chars = chars.takeWhile isBlank ++ (trimBlanks chars ++ behind) := by
  refine ⟨((chars.dropWhile isBlank).reverse.takeWhile isBlank).reverse, ?_, ?_⟩
  · intro char member
    exact List.all_eq_true.mp List.all_takeWhile char (List.mem_reverse.mp member)
  · rw [trimBlanks, ← List.reverse_append, List.takeWhile_append_dropWhile, List.reverse_reverse,
      List.takeWhile_append_dropWhile]

end JarLauncher.Text
