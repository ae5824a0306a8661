import JarLauncher.Cache.Descriptor
import JarLauncher.Proofs.Text.Replacement
import Mathlib.Data.List.Basic

/-!
Templates of locations. A placeholder starts with a character that is in it only once, so that no placeholder reaches
into another one and a template has parts in one way only. A location is these parts with the version between them.
-/

namespace JarLauncher

namespace Text

section Parts

variable {pattern others text part : List Char} {first : Char} {parts : List (List Char)}

/-- A text starts with its first part. -/
theorem prefix_of_head?_partsBetween (leading : (partsBetween pattern text).head? = some part) : part <+: text := by
  induction text using partsBetween.induct pattern generalizing part with
  | case1 text found ih =>
      rw [partsBetween.eq_def, if_pos found, List.head?_cons] at leading
      cases leading
      exact List.nil_prefix
  | case2 missed =>
      rw [partsBetween, if_neg missed] at leading
      cases leading
      exact List.nil_prefix
  | case3 char text missed ih =>
      rw [partsBetween, if_neg missed, List.head?_modifyHead, Option.map_eq_some_iff] at leading
      obtain ⟨before, leading, rfl⟩ := leading
      exact (List.prefix_cons_inj char).mpr (ih leading)

/-- No part holds the pattern. -/
theorem not_infix_of_mem_partsBetween (some : pattern ≠ []) (member : part ∈ partsBetween pattern text) :
    ¬pattern <:+: part := by
  induction text using partsBetween.induct pattern generalizing part with
  | case1 text found ih =>
      rw [partsBetween.eq_def, if_pos found, List.mem_cons] at member
      obtain rfl | later := member
      · simpa using some
      · exact ih later
  | case2 missed =>
      rw [partsBetween, if_neg missed, List.mem_singleton] at member
      simpa [member] using some
  | case3 char text missed ih =>
      obtain ⟨head, tail, parts⟩ := List.exists_cons_of_ne_nil (partsBetween_ne_nil pattern text)
      have leading : head <+: text := prefix_of_head?_partsBetween (by rw [parts, List.head?_cons])
      rw [partsBetween, if_neg missed, parts, List.modifyHead_cons, List.mem_cons] at member
      rw [parts] at ih
      obtain rfl | later := member
      · rw [List.infix_cons_iff]
        rintro (atStart | inside)
        · have found : pattern <+: char :: text := atStart.trans ((List.prefix_cons_inj char).mpr leading)
          exact missed ⟨some, List.isPrefixOf_iff_prefix.mpr found⟩
        · exact ih List.mem_cons_self inside
      · exact ih (List.mem_cons_of_mem _ later)

/-- A pattern that holds its first character only once does not start in a text and end in a pattern behind it. -/
theorem not_prefix_append (once : first ∉ others) {char : Char} {before : List Char}
    (free : ¬first :: others <+: char :: before) :
    ¬first :: others <+: char :: before ++ (first :: others ++ text) := by
  intro found
  obtain whole | ⟨beyond, split⟩ := List.prefix_or_prefix_of_prefix found (List.prefix_append _ _)
  · exact free whole
  · rw [← split, List.prefix_append_right_inj] at found
    cases beyond with
    | nil =>
        rw [List.append_nil] at split
        exact free ⟨[], by rw [split, List.append_nil]⟩
    | cons second beyond =>
        obtain ⟨start, rest⟩ := List.cons.inj split
        have same : second = first := (List.cons_prefix_cons.mp found).1.trans start
        have within : second ∈ others := by
          rw [← rest]
          exact List.mem_append_right before List.mem_cons_self
        exact once (same ▸ within)

/-- Without the pattern in it, a text before a pattern is the first part. -/
theorem partsBetween_append (once : first ∉ others) (free : ¬first :: others <:+: part) :
    partsBetween (first :: others) (part ++ (first :: others ++ text)) =
      part :: partsBetween (first :: others) text := by
  induction part with
  | nil => exact partsBetween_append_pattern (List.cons_ne_nil _ _)
  | cons char part ih =>
      rw [List.infix_cons_iff, not_or] at free
      calc
        partsBetween (first :: others) (char :: (part ++ (first :: others ++ text))) =
            (partsBetween (first :: others) (part ++ (first :: others ++ text))).modifyHead (char :: ·) :=
          partsBetween_cons (not_prefix_append once free.1)
        _ = (part :: partsBetween (first :: others) text).modifyHead (char :: ·) := by rw [ih free.2]

theorem partsBetween_of_free (some : pattern ≠ []) (free : ¬pattern <:+: text) :
    partsBetween pattern text = [text] := by
  induction text with
  | nil => rw [partsBetween, if_neg (by simp [some])]
  | cons char text ih =>
      rw [List.infix_cons_iff, not_or] at free
      rw [partsBetween_cons free.1, ih free.2, List.modifyHead_cons]

/-- Parts without the pattern are found again when they are put together with the pattern between them. -/
theorem partsBetween_intercalate (once : first ∉ others) (some : parts ≠ [])
    (free : ∀ part ∈ parts, ¬first :: others <:+: part) :
    partsBetween (first :: others) ((first :: others).intercalate parts) = parts := by
  induction parts with
  | nil => exact absurd rfl some
  | cons part parts ih =>
      obtain ⟨here, later⟩ := List.forall_mem_cons.mp free
      cases parts with
      | nil => rw [List.intercalate_singleton, partsBetween_of_free (List.cons_ne_nil _ _) here]
      | cons second parts =>
          rw [List.intercalate_cons_cons, List.append_assoc, partsBetween_append once here,
            ih (List.cons_ne_nil _ _) later]

end Parts
end Text

namespace Cache

open Text

/-- Whether these are the parts of a template, with a placeholder between any two that follow one another. -/
def PartsOf (template : String) (parts : List (List Char)) : Prop :=
  parts ≠ [] ∧ (∀ part ∈ parts, ¬"\x7bjarVersion\x7d".toList <:+: part) ∧
    "\x7bjarVersion\x7d".toList.intercalate parts = template.toList

/-- A template has its parts in exactly one way, and the location has the version in every place of a placeholder. -/
theorem remoteLocation_parts (descriptor : Descriptor) :
    (∃! parts, PartsOf descriptor.remoteLocationTemplate parts) ∧
    ∀ parts, PartsOf descriptor.remoteLocationTemplate parts →
      descriptor.remoteLocation.toList = descriptor.expectedVersion.toList.intercalate parts := by
  have once : '\x7b' ∉ "jarVersion\x7d".toList := by decide
  have whole : placeholder.toList = '\x7b' :: "jarVersion\x7d".toList := by decide
  have found : ∀ parts, PartsOf descriptor.remoteLocationTemplate parts →
      partsBetween placeholder.toList descriptor.remoteLocationTemplate.toList = parts := by
    rintro parts ⟨some, free, joined⟩
    change ∀ part ∈ parts, ¬placeholder.toList <:+: part at free
    change placeholder.toList.intercalate parts = _ at joined
    rw [whole] at free joined ⊢
    rw [← joined, partsBetween_intercalate once some free]
  refine ⟨⟨_, ⟨partsBetween_ne_nil _ _, ?_, intercalate_partsBetween _ _⟩, ?_⟩, ?_⟩
  · intro part member
    exact not_infix_of_mem_partsBetween (by decide) member
  · intro parts parted
    exact (found parts parted).symm
  · intro parts parted
    rw [Descriptor.remoteLocation, replaceAll, String.toList_ofList, found parts parted]

/-- What a version makes together with the text around it is not replaced. -/
example :
    Descriptor.remoteLocation ⟨"", "\x7b\x7bjarVersion\x7djarVersion\x7d", .ofString "cache"⟩ =
      "\x7bjarVersion\x7d" := by
  decide +kernel

end Cache
end JarLauncher
