import JarLauncher.Toml.Document
import Mathlib.Data.List.Nodup

/-!
The keys of a document. No key stands twice in a root table, so that a key has one value wherever it stands. This
is all that is asked of a reader; `document?` has it, whatever the lines of a document do.
-/

namespace JarLauncher.Toml

namespace Entries

variable {entries after : Entries} {key : String} {value : Value} {change : TableStyle → Entries → Option Entries}

/-- Whether every key stands once. -/
def Distinct (entries : Entries) : Prop :=
  (entries.map Prod.fst).Nodup

theorem lookup_eq_none : entries.lookup key = none ↔ key ∉ entries.map Prod.fst := by
  simp only [List.lookup_eq_none_iff, List.mem_map, bne_iff_ne, ne_eq, not_exists, not_and]
  exact forall₂_congr fun _ _ => not_congr eq_comm

/-- The value of a key is the one that stands with it. -/
theorem Distinct.lookup_eq_some (distinct : Distinct entries) :
    entries.lookup key = some value ↔ (key, value) ∈ entries := by
  rw [List.lookup_eq_some_iff]
  constructor
  · rintro ⟨before, behind, rfl, -⟩
    exact List.mem_append_right before List.mem_cons_self
  · intro member
    obtain ⟨before, behind, rfl⟩ := List.mem_iff_append.mp member
    refine ⟨before, behind, rfl, ?_⟩
    intro other earlier
    rw [Distinct, List.map_append, List.nodup_append] at distinct
    have apart := distinct.2.2 other.1 (List.mem_map_of_mem earlier) key (by simp)
    exact bne_iff_ne.mpr apart.symm

theorem Distinct.perm {others : Entries} (distinct : Distinct entries) (perm : entries.Perm others) :
    Distinct others :=
  (perm.map Prod.fst).nodup_iff.mp distinct

theorem Distinct.lookup_perm {others : Entries} (distinct : Distinct entries) (perm : entries.Perm others)
    (key : String) : entries.lookup key = others.lookup key := by
  apply Option.ext
  intro value
  rw [distinct.lookup_eq_some, (distinct.perm perm).lookup_eq_some, perm.mem_iff]

theorem Distinct.append (distinct : Distinct entries) (absent : entries.lookup key = none) :
    Distinct (entries ++ [(key, value)]) := by
  rw [Distinct, List.map_append, List.map_singleton, ← List.concat_eq_append]
  exact distinct.concat (lookup_eq_none.mp absent)

theorem Distinct.put (distinct : Distinct entries) (key : String) (value : Value) :
    Distinct (entries.put key value) := by
  unfold Entries.put
  split
  · have same : (entries.map fun entry => if entry.1 = key then (key, value) else entry).map Prod.fst =
        entries.map Prod.fst := by
      rw [List.map_map, List.map_inj_left]
      intro entry _
      by_cases here : entry.1 = key <;> simp [here]
    rw [Distinct, same]
    exact distinct
  · rename_i missing
    apply distinct.append
    rw [lookup_eq_none, List.mem_map]
    rintro ⟨entry, member, rfl⟩
    exact missing (List.any_eq_true.mpr ⟨entry, member, by simp⟩)

/-- Whether a change of a table keeps its keys apart. -/
def KeepsDistinct (change : TableStyle → Entries → Option Entries) : Prop :=
  ∀ style entries after, Distinct entries → change style entries = some after → Distinct after

/-- A change on the way to another table puts that table under a key of its own. -/
theorem keepsDistinct_change? (keeps : KeepsDistinct change) (byDots : Bool) (path : List String) :
    KeepsDistinct (change? byDots change path) := by
  intro style entries after distinct changed
  cases path with
  | nil => exact keeps style entries after distinct changed
  | cons key path =>
      unfold change? at changed
      split at changed
      · obtain ⟨inner, -, rfl⟩ := Option.map_eq_some_iff.mp changed
        exact distinct.put key _
      · split at changed
        · obtain ⟨inner, -, rfl⟩ := Option.map_eq_some_iff.mp changed
          exact distinct.put key _
        · cases changed
      · obtain ⟨last, -, rfl⟩ := Option.map_eq_some_iff.mp changed
        exact distinct.put key _
      · cases changed

theorem keepsDistinct_assign? (path : List String) (key : String) (value : Value) :
    KeepsDistinct (assign? path key value) := by
  apply keepsDistinct_change?
  intro style entries after distinct changed
  dsimp only at changed
  split at changed
  · cases changed
  · rename_i free
    cases changed
    apply distinct.append
    rw [← Option.not_isSome_iff_eq_none]
    exact fun held => free (.inr held)

theorem Distinct.open? (distinct : Distinct entries) {path : List String}
    (opened : entries.open? path key = some after) : Distinct after := by
  refine keepsDistinct_change? ?_ false path .headed entries after distinct opened
  intro style entries after distinct changed
  dsimp only at changed
  split at changed
  · rename_i absent
    cases changed
    exact distinct.append absent
  · cases changed
    exact distinct.put key _
  · cases changed

theorem Distinct.append? (distinct : Distinct entries) {path : List String}
    (appended : entries.append? path key = some after) : Distinct after := by
  refine keepsDistinct_change? ?_ false path .headed entries after distinct appended
  intro style entries after distinct changed
  dsimp only at changed
  split at changed
  · rename_i absent
    cases changed
    exact distinct.append absent
  · cases changed
    exact distinct.put key _
  · cases changed

end Entries

open Entries

/-- Whether a reader finds each key once. -/
def Reader.KeysOnce (reader : Reader) : Prop :=
  ∀ text entries, reader text = some entries → Distinct entries

variable {reading after : Reading} {chars rest : List Char}

theorem distinct_assign? (distinct : Distinct reading.root) {path : List String} {key : String} {value : Value}
    (assigned : reading.assign? path key value = some after) : Distinct after.root := by
  unfold Reading.assign? at assigned
  obtain ⟨root, changed, same⟩ := Option.bind_eq_some_iff.mp assigned
  cases same
  exact keepsDistinct_change? (keepsDistinct_assign? path key value) _ _ _ _ _ distinct changed

theorem distinct_line? (distinct : Distinct reading.root) (read : line? reading chars = some (after, rest)) :
    Distinct after.root := by
  unfold line? at read
  split at read
  case h_1 =>
    simp only [Option.bind_eq_bind, Option.bind_eq_some_iff, Option.pure_def, Option.some.injEq] at read
    obtain ⟨_, -, _, -, _, -, _, -, root, appended, read⟩ := read
    cases read
    exact distinct.append? appended
  case h_2 =>
    simp only [Option.bind_eq_bind, Option.bind_eq_some_iff, Option.pure_def, Option.some.injEq] at read
    obtain ⟨_, -, _, -, _, -, root, opened, read⟩ := read
    cases read
    exact distinct.open? opened
  case h_3 =>
    simp only [Option.bind_eq_bind, Option.bind_eq_some_iff, Option.pure_def, Option.some.injEq] at read
    obtain ⟨_, -, _, -, _, -, _, -, next, assigned, read⟩ := read
    cases read
    exact distinct_assign? distinct assigned

theorem distinct_lines? (fuel : Nat) {entries : Entries} (distinct : Distinct reading.root)
    (read : lines? fuel reading chars = some entries) : Distinct entries := by
  induction fuel generalizing reading chars with
  | zero => cases read
  | succ fuel ih =>
      obtain ⟨chars, -, read⟩ := Option.bind_eq_some_iff.mp read
      split at read
      · cases read
        exact distinct
      · obtain ⟨⟨next, rest⟩, line, read⟩ := Option.bind_eq_some_iff.mp read
        exact ih (distinct_line? distinct line) read

theorem keysOnce_document? : Reader.KeysOnce document? := by
  intro text entries read
  have start : Distinct (⟨[], []⟩ : Reading).root := List.nodup_nil
  exact distinct_lines? _ start read

end JarLauncher.Toml
