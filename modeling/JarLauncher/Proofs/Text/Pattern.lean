import Mathlib.Data.List.Basic
import Mathlib.Data.List.TakeWhile

/-!
Patterns that are items in a row, each a class of characters and how many of them it takes. A search finds the first
place in a text where the whole pattern fits; there each item takes as many characters as it can, and gives some back
only where the items behind it do not fit otherwise.
-/

namespace JarLauncher.Text

/-- How many characters an item of a pattern takes. -/
inductive Count
  | once
  | atMostOnce
  | atLeastOnce
  | anyTimes
  deriving DecidableEq, Repr

def Count.admits : Count → Nat → Bool
  | once, number => number = 1
  | atMostOnce, number => number ≤ 1
  | atLeastOnce, number => 1 ≤ number
  | anyTimes, _ => true

structure Item where
  allowed : Char → Bool
  count : Count

namespace Item

def letter (char : Char) : Item :=
  ⟨(· = char), .once⟩

/-- The numbers of characters that an item may take from the start of a text, the greatest first. -/
def lengths (item : Item) (text : List Char) : List Nat :=
  (List.range ((text.takeWhile item.allowed).length + 1)).reverse.filter item.count.admits

end Item

abbrev Pattern := List Item

namespace Pattern

/-- The pattern that fits one word only. -/
def literal (word : List Char) : Pattern :=
  word.map Item.letter

/-- The ways in which a pattern fits at the start of a text, the preferred one first. A way is a list of what the
items take. -/
def ways : Pattern → List Char → List (List (List Char))
  | [], _ => [[]]
  | item :: items, text =>
    (item.lengths text).flatMap fun length => (ways items (text.drop length)).map (text.take length :: ·)

/-- What the items take at the first place in a text where the pattern fits. -/
def search? (pattern : Pattern) : List Char → Option (List (List Char))
  | [] => (pattern.ways []).head?
  | text@(_ :: rest) => (pattern.ways text).head? <|> search? pattern rest

end Pattern

variable {item : Item} {allowed : Char → Bool} {char stop : Char} {text word inner rest : List Char} {length : Nat}

namespace Item

theorem mem_lengths :
    length ∈ item.lengths text ↔
      length ≤ (text.takeWhile item.allowed).length ∧ item.count.admits length = true := by
  simp only [lengths, List.mem_filter, List.mem_reverse, List.mem_range, Nat.lt_succ_iff]

theorem lengths_once : lengths ⟨allowed, .once⟩ text = if text.head?.any allowed then [1] else [] := by
  have only (most : Nat) : (List.range (most + 2)).reverse.filter (Count.admits .once) = [1] := by
    induction most with
    | zero => rfl
    | succ most ih =>
        rw [List.range_succ, List.reverse_concat, List.filter_cons_of_neg (by simp [Count.admits]), ih]
  cases text with
  | nil => rfl
  | cons char rest =>
      by_cases fits : allowed char = true
      · simp [lengths, fits, only]
      · simp [lengths, fits, Count.admits]

/-- An item that may take as many characters as there are takes them all first. -/
theorem head?_lengths (item : Item) (text : List Char)
    (enough : item.count.admits (text.takeWhile item.allowed).length = true) :
    (item.lengths text).head? = some (text.takeWhile item.allowed).length := by
  rw [lengths, List.range_succ, List.reverse_concat, List.filter_cons_of_pos enough, List.head?_cons]

theorem lengths_atLeastOnce_eq_nil (other : text.head?.any allowed = false) :
    lengths ⟨allowed, .atLeastOnce⟩ text = [] := by
  have none : text.takeWhile allowed = [] := by
    cases text with
    | nil => rfl
    | cons char rest => exact List.takeWhile_cons_of_neg (Bool.eq_false_iff.mp other)
  simp [lengths, none, Count.admits]

end Item

theorem takeWhile_append_stop (unlike : allowed stop = false) :
    (inner ++ stop :: rest).takeWhile allowed = inner.takeWhile allowed := by
  induction inner with
  | nil => simp [unlike]
  | cons char inner ih =>
      by_cases fits : allowed char = true
      · simp [fits, ih]
      · simp [fits]

namespace Pattern

variable {items : Pattern} {parts : List (List Char)}

theorem ways_letter_cons : ways (.letter char :: items) (char :: rest) = (ways items rest).map ([char] :: ·) := by
  simp [ways, Item.letter, Item.lengths_once]

theorem ways_letter_of_ne (other : text.head? ≠ some char) : ways (.letter char :: items) text = [] := by
  cases text with
  | nil => simp [ways, Item.letter, Item.lengths_once]
  | cons first rest =>
      have unlike : first ≠ char := fun same => other (congrArg some same)
      simp [ways, Item.letter, Item.lengths_once, unlike]

theorem ways_literal_append :
    ways (literal word ++ items) (word ++ rest) = (ways items rest).map (word.map ([·]) ++ ·) := by
  induction word with
  | nil => simp [literal]
  | cons char word ih =>
      change ways (.letter char :: (literal word ++ items)) (char :: (word ++ rest)) = _
      rw [ways_letter_cons, ih, List.map_map]
      rfl

theorem ways_literal_of_not_prefix (other : ¬word <+: text) : ways (literal word ++ items) text = [] := by
  induction word generalizing text with
  | nil => exact absurd List.nil_prefix other
  | cons char word ih =>
      change ways (.letter char :: (literal word ++ items)) text = []
      by_cases first : text.head? = some char
      · obtain ⟨rest, rfl⟩ := List.head?_eq_some_iff.mp first
        have behind : ¬word <+: rest := fun leading => other (List.cons_prefix_cons.mpr ⟨rfl, leading⟩)
        rw [ways_letter_cons, ih behind, List.map_nil]
      · exact ways_letter_of_ne first

/-- No pattern that ends in a letter fits where this letter is missing. -/
theorem ways_concat_letter_eq_nil (absent : stop ∉ text) : ways (items ++ [.letter stop]) text = [] := by
  induction items generalizing text with
  | nil =>
      apply ways_letter_of_ne
      intro first
      exact absent (List.mem_of_head? first)
  | cons item items ih =>
      rw [List.cons_append, ways, List.flatMap_eq_nil_iff]
      intro length _
      rw [ih fun member => absent (List.mem_of_mem_drop member), List.map_nil]

/-- Where the items behind it fit, an item takes what it takes first. -/
theorem head?_ways_cons (first : (item.lengths text).head? = some length)
    (fits : (ways items (text.drop length)).head? = some parts) :
    (ways (item :: items) text).head? = some (text.take length :: parts) := by
  obtain ⟨others, lengths⟩ := List.head?_eq_some_iff.mp first
  rw [ways, lengths, List.flatMap_cons, List.head?_append, List.head?_map, fits]
  rfl

/-- Whether a pattern fits all that comes before a letter, and takes it with the letter. -/
def FitsUpTo (stop : Char) (items : Pattern) : Prop :=
  ∀ inner rest, stop ∉ inner →
    ∃ parts, (items.ways (inner ++ stop :: rest)).head? = some parts ∧ parts.flatten = inner ++ [stop]

theorem fitsUpTo_until : FitsUpTo stop [⟨(· ≠ stop), .anyTimes⟩, .letter stop] := by
  intro inner rest free
  have all : (inner ++ stop :: rest).takeWhile (· ≠ stop) = inner := by
    rw [takeWhile_append_stop (by simp), List.takeWhile_eq_self_iff]
    intro char member
    exact decide_eq_true fun same => free (same ▸ member)
  have first := Item.head?_lengths ⟨(· ≠ stop), .anyTimes⟩ (inner ++ stop :: rest) rfl
  rw [all] at first
  have closing : (ways [.letter stop] ((inner ++ stop :: rest).drop inner.length)).head? = some [[stop]] := by
    rw [List.drop_left, ways_letter_cons]
    rfl
  refine ⟨_, head?_ways_cons first closing, ?_⟩
  simp

/-- An item that may be left out leaves enough to the items behind it, if it does not take the letter. -/
theorem FitsUpTo.cons (optional : item.count.admits 0 = true) (unlike : item.allowed stop = false)
    (fits : FitsUpTo stop items) : FitsUpTo stop (item :: items) := by
  intro inner rest free
  have some : item.lengths (inner ++ stop :: rest) ≠ [] :=
    List.ne_nil_of_mem (Item.mem_lengths.mpr ⟨Nat.zero_le _, optional⟩)
  obtain ⟨length, others, lengths⟩ := List.exists_cons_of_ne_nil some
  have taken : length ∈ item.lengths (inner ++ stop :: rest) := by simp [lengths]
  have within : length ≤ inner.length := by
    have most := (Item.mem_lengths.mp taken).1
    rw [takeWhile_append_stop unlike] at most
    exact Nat.le_trans most (List.takeWhile_prefix _).length_le
  obtain ⟨parts, fit, whole⟩ := fits (inner.drop length) rest fun member => free (List.mem_of_mem_drop member)
  have first : (item.lengths (inner ++ stop :: rest)).head? = Option.some length := by rw [lengths, List.head?_cons]
  rw [← List.drop_append_of_le_length within] at fit
  refine ⟨_, head?_ways_cons first fit, ?_⟩
  rw [List.flatten_cons, whole, List.take_append_of_le_length within, ← List.append_assoc, List.take_append_drop]

/-- An item that has to take something takes all that it can, if the items behind it fit what is left. -/
theorem FitsUpTo.head?_atLeastOnce (fits : FitsUpTo stop items) (rest : List Char) (free : stop ∉ inner)
    (unlike : allowed stop = false) (starts : inner.head?.any allowed = true) :
    ∃ parts, (ways (⟨allowed, .atLeastOnce⟩ :: items) (inner ++ stop :: rest)).head? =
        some (inner.takeWhile allowed :: parts) ∧
      (inner.takeWhile allowed :: parts).flatten = inner ++ [stop] := by
  have run : (inner ++ stop :: rest).takeWhile allowed = inner.takeWhile allowed := takeWhile_append_stop unlike
  have enough : 1 ≤ ((inner ++ stop :: rest).takeWhile allowed).length := by
    rw [run]
    cases inner with
    | nil => cases starts
    | cons char inner => simp [show allowed char = true from starts]
  have first := Item.head?_lengths ⟨allowed, .atLeastOnce⟩ _ (decide_eq_true enough)
  have split : inner ++ stop :: rest = inner.takeWhile allowed ++ (inner.dropWhile allowed ++ stop :: rest) := by
    rw [← List.append_assoc, List.takeWhile_append_dropWhile]
  have behind : stop ∉ inner.dropWhile allowed := fun member => free (List.dropWhile_subset allowed member)
  obtain ⟨parts, fit, whole⟩ := fits (inner.dropWhile allowed) rest behind
  dsimp only at first
  rw [run] at first
  have taken : (inner ++ stop :: rest).take (inner.takeWhile allowed).length = inner.takeWhile allowed := by
    rw [split, List.take_left]
  have left : (inner ++ stop :: rest).drop (inner.takeWhile allowed).length =
      inner.dropWhile allowed ++ stop :: rest := by
    rw [split, List.drop_left]
  rw [← left] at fit
  refine ⟨parts, ?_, ?_⟩
  · rw [head?_ways_cons first fit, taken]
  · rw [List.flatten_cons, whole, ← List.append_assoc, List.takeWhile_append_dropWhile]

end Pattern
end JarLauncher.Text
