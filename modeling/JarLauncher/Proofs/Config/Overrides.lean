import JarLauncher.Config.Raw
import JarLauncher.Proofs.Text.ByteOrder
import JarLauncher.Proofs.Toml.Keys

/-!
What a document makes of the settings. Each of its keys replaces the setting of its name and no other, so that only
the faults depend on the order of the keys; the first fault in the order of their bytes is told.
-/

namespace JarLauncher

open Toml

namespace Toml.Value

def text? : Value → Option String
  | string text => some text
  | _ => none

def number? : Value → Option Nat
  | integer number => some number.toNat
  | _ => none

end Toml.Value

/-- Whether a setting takes a value. -/
inductive Fits : String → Value → Prop
  | text {key : String} (known : key ∈ ["jar_version", "download_url", "java", "cache_dir"]) (text : String) :
      Fits key (.string text)
  | number {number : Int} (least : 0 ≤ number) (most : number ≤ 4294967295) :
      Fits "min_java_major" (.integer number)

/-- What is told about a key that is unknown or has a value that does not fit. -/
inductive Blamed : String → Value → DocumentFault → Prop
  | unknown {key : String} {value : Value} (unknown : key ∉ settingNames) : Blamed key value (.unknownField key)
  | text {key : String} {value : Value} (known : key ∈ ["jar_version", "download_url", "java"])
      (other : ∀ text, value ≠ .string text) : Blamed key value (RawConfig.unexpected value "a string")
  | path {value : Value} (other : ∀ text, value ≠ .string text) :
      Blamed "cache_dir" value (RawConfig.unexpected value "path string")
  | number {value : Value} (other : ∀ number, value ≠ .integer number) :
      Blamed "min_java_major" value (RawConfig.unexpected value "u32")
  | outside {number : Int} (outside : number < 0 ∨ 4294967295 < number)
      (common : -bound 63 ≤ number ∧ number < bound 64) :
      Blamed "min_java_major" (.integer number) (.invalidValue s!"integer `{number}`" "u32")
  | tooLong {number : Int} (uncommon : ¬(-bound 63 ≤ number ∧ number < bound 64)) :
      Blamed "min_java_major" (.integer number) (RawConfig.unexpected (.integer number) "u32")

/-- Whether an entry of a document is the first of those that do not fit. -/
structure LeastUnfit (entries : Entries) (key : String) (value : Value) : Prop where
  stands : (key, value) ∈ entries
  unfit : ¬Fits key value
  least : ∀ other ∈ entries, ¬Fits other.1 other.2 → other.1 = key ∨ Utf8.Precedes key other.1

/-- What a setting comes to: what a document gives for its key, else what is packaged. -/
def Chosen {Kind : Type} (entries : Entries) (key : String) (given : Value → Option Kind) (packaged chosen : Kind) :
    Prop :=
  match entries.lookup key with
  | some value => given value = some chosen
  | none => chosen = packaged

theorem Chosen.congr {Kind : Type} {entries others : Entries} {key : String} {given : Value → Option Kind}
    {packaged chosen : Kind} (isChosen : Chosen entries key given packaged chosen)
    (same : entries.lookup key = others.lookup key) : Chosen others key given packaged chosen := by
  rw [Chosen, ← same]
  exact isChosen

/-- Whether settings are those of a document over those of others. -/
structure Overrides (entries : Entries) (packaged raw : RawConfig) : Prop where
  jarVersion : Chosen entries "jar_version" Value.text? packaged.jarVersion raw.jarVersion
  downloadUrl : Chosen entries "download_url" Value.text? packaged.downloadUrl raw.downloadUrl
  java : Chosen entries "java" Value.text? packaged.java raw.java
  minJavaMajor : Chosen entries "min_java_major" Value.number? packaged.minJavaMajor raw.minJavaMajor
  cacheDir : Chosen entries "cache_dir" (fun value => value.text?.map fun text => some (Path.ofString text))
    packaged.cacheDir raw.cacheDir

/-- The settings that the launcher comes with. -/
def packaged : RawConfig where
  jarVersion := "5.9.0"
  downloadUrl := "https://github.com/apex-dev-tools/apex-ls/releases/download/" ++
    "v\x7bjarVersion\x7d/apex-ls-mcp-\x7bjarVersion\x7d-standalone.jar"
  java := "java"
  minJavaMajor := 17
  cacheDir := none

theorem packaged_eq : packaged = {} := rfl

/-- What comes of a document with these entries. -/
structure Settled (entries : Entries) (result : Except LauncherError RawConfig) : Prop where
  accepted : (∃ raw, result = .ok raw) ↔ ∀ entry ∈ entries, Fits entry.1 entry.2
  overrides : ∀ raw, result = .ok raw → Overrides entries packaged raw
  refused : ∀ error, result = .error error ↔
    ∃ key value fault, LeastUnfit entries key value ∧ Blamed key value fault ∧ error = .document fault

namespace RawConfig

variable {raw after : RawConfig} {entries others : Entries} {key : String} {value : Value} {fault : DocumentFault}

section

variable {expected text : String} {number : Nat}

theorem textOf_eq_ok : textOf expected value = .ok text ↔ value = .string text := by
  cases value <;> simp [textOf]

theorem textOf_eq_error :
    textOf expected value = .error fault ↔ (∀ text, value ≠ .string text) ∧ unexpected value expected = fault := by
  cases value <;> simp [textOf]

theorem wordOf_eq_ok : wordOf value = .ok number ↔ value = .integer number ∧ number ≤ 4294967295 := by
  have limit : bound 32 = 4294967296 := rfl
  cases value
  case integer given =>
    rw [wordOf, limit]
    split
    · simp only [Except.ok.injEq, Value.integer.injEq]
      omega
    · rename_i outside
      have apart : ¬(given = ↑number ∧ number ≤ 4294967295) := by omega
      split <;> simpa using apart
  all_goals simp [wordOf]

theorem wordOf_eq_error : wordOf value = .error fault ↔ Blamed "min_java_major" value fault := by
  have limit : bound 32 = 4294967296 := rfl
  constructor
  · intro failed
    unfold wordOf at failed
    split at failed
    · rename_i number
      rw [limit] at failed
      split at failed
      · cases failed
      · split at failed
        · rename_i outside common
          cases failed
          exact .outside (by omega) common
        · rename_i uncommon
          cases failed
          exact .tooLong uncommon
    · rename_i other
      cases failed
      exact .number other
  · intro blamed
    generalize same : "min_java_major" = key at blamed
    cases blamed with
    | unknown unknown => exact absurd (same ▸ by decide) unknown
    | text known other => exact absurd known (same ▸ by decide)
    | path other => exact absurd same (by decide)
    | number other =>
        unfold wordOf
        split
        · rename_i number
          exact absurd rfl (other number)
        · rfl
    | outside outside common => rw [wordOf, limit, if_neg (by omega), if_pos common]
    | tooLong uncommon =>
        have wide : bound 63 = 9223372036854775808 ∧ bound 64 = 18446744073709551616 := ⟨rfl, rfl⟩
        rw [wordOf, limit, if_neg (by omega), if_neg uncommon]

end

theorem bind_eq_ok {Kind : Type} {given : Except DocumentFault Kind} {change : Kind → RawConfig} :
    (do return change (← given)) = Except.ok after ↔ ∃ value, given = .ok value ∧ change value = after := by
  cases given <;> simp [bind, Except.bind, pure, Except.pure]

theorem bind_eq_error {Kind : Type} {given : Except DocumentFault Kind} {change : Kind → RawConfig} :
    (do return change (← given)) = Except.error fault ↔ given = .error fault := by
  cases given <;> simp [bind, Except.bind, pure, Except.pure]

/-- One more key, in case its value fits: the setting of its name is replaced. -/
inductive Sets (raw : RawConfig) : String → Value → RawConfig → Prop
  | jarVersion (text : String) : Sets raw "jar_version" (.string text) { raw with jarVersion := text }
  | downloadUrl (text : String) : Sets raw "download_url" (.string text) { raw with downloadUrl := text }
  | java (text : String) : Sets raw "java" (.string text) { raw with java := text }
  | minJavaMajor {number : Nat} (most : number ≤ 4294967295) :
      Sets raw "min_java_major" (.integer number) { raw with minJavaMajor := number }
  | cacheDir (text : String) : Sets raw "cache_dir" (.string text) { raw with cacheDir := some (.ofString text) }

theorem set_eq_ok : raw.set key value = .ok after ↔ Sets raw key value after := by
  constructor
  · intro changed
    unfold set at changed
    split at changed
    case h_4 =>
      obtain ⟨number, given, rfl⟩ := bind_eq_ok.mp changed
      obtain ⟨rfl, most⟩ := wordOf_eq_ok.mp given
      exact .minJavaMajor most
    case h_6 => cases changed
    all_goals
      obtain ⟨text, given, rfl⟩ := bind_eq_ok.mp changed
      cases textOf_eq_ok.mp given
      constructor
  · intro sets
    cases sets with
    | jarVersion | downloadUrl | java | cacheDir => rfl
    | minJavaMajor most => exact bind_eq_ok.mpr ⟨_, wordOf_eq_ok.mpr ⟨rfl, most⟩, rfl⟩

theorem set_eq_error : raw.set key value = .error fault ↔ Blamed key value fault := by
  constructor
  · intro failed
    unfold set at failed
    split at failed
    case h_4 => exact wordOf_eq_error.mp (bind_eq_error.mp failed)
    case h_5 =>
      obtain ⟨other, rfl⟩ := textOf_eq_error.mp (bind_eq_error.mp failed)
      exact .path other
    case h_6 =>
      cases failed
      exact .unknown (by simp_all [settingNames])
    all_goals
      obtain ⟨other, rfl⟩ := textOf_eq_error.mp (bind_eq_error.mp failed)
      exact .text (by simp) other
  · intro blamed
    cases blamed with
    | unknown unknown =>
        unfold set
        split
        case h_6 => rfl
        all_goals exact absurd (by decide) unknown
    | text known other =>
        simp only [List.mem_cons, List.not_mem_nil, or_false] at known
        rcases known with rfl | rfl | rfl
        all_goals exact bind_eq_error.mpr (textOf_eq_error.mpr ⟨other, rfl⟩)
    | path other => exact bind_eq_error.mpr (textOf_eq_error.mpr ⟨other, rfl⟩)
    | number other => exact bind_eq_error.mpr (wordOf_eq_error.mpr (.number other))
    | outside outside common => exact bind_eq_error.mpr (wordOf_eq_error.mpr (.outside outside common))
    | tooLong uncommon => exact bind_eq_error.mpr (wordOf_eq_error.mpr (.tooLong uncommon))

/-- Whether a value fits does not depend on what the settings are so far. -/
theorem fits_iff (raw : RawConfig) : Fits key value ↔ ∃ after, raw.set key value = .ok after := by
  simp only [set_eq_ok]
  constructor
  · intro fits
    cases fits with
    | text known text =>
        simp only [List.mem_cons, List.not_mem_nil, or_false] at known
        rcases known with rfl | rfl | rfl | rfl
        · exact ⟨_, .jarVersion text⟩
        · exact ⟨_, .downloadUrl text⟩
        · exact ⟨_, .java text⟩
        · exact ⟨_, .cacheDir text⟩
    | number least most =>
        obtain ⟨number, rfl⟩ := Int.eq_ofNat_of_zero_le least
        exact ⟨_, .minJavaMajor (by omega)⟩
  · rintro ⟨after, sets⟩
    cases sets with
    | jarVersion text | downloadUrl text | java text | cacheDir text => exact .text (by simp) text
    | minJavaMajor most => exact .number (by omega) (by omega)

/-- The settings after the entries of a document, one after another. -/
def setAll (entries : Entries) (raw : RawConfig) : Except DocumentFault RawConfig :=
  entries.foldlM (fun raw entry => raw.set entry.1 entry.2) raw

theorem setAll_cons_eq_ok : setAll ((key, value) :: entries) raw = .ok after ↔
    ∃ middle, Sets raw key value middle ∧ setAll entries middle = .ok after := by
  simp only [← set_eq_ok]
  rw [setAll, List.foldlM_cons]
  cases raw.set key value <;> simp [setAll, bind, Except.bind]

theorem setAll_cons_eq_error : setAll ((key, value) :: entries) raw = .error fault ↔
    Blamed key value fault ∨ ∃ middle, Sets raw key value middle ∧ setAll entries middle = .error fault := by
  simp only [← set_eq_ok, ← @set_eq_error raw key value fault]
  rw [setAll, List.foldlM_cons]
  cases raw.set key value <;> simp [setAll, bind, Except.bind]

theorem exists_setAll_iff : (∃ after, setAll entries raw = .ok after) ↔ ∀ entry ∈ entries, Fits entry.1 entry.2 := by
  induction entries generalizing raw with
  | nil => exact iff_of_true ⟨raw, rfl⟩ (by simp)
  | cons entry entries ih =>
      rw [List.forall_mem_cons, fits_iff raw]
      constructor
      · rintro ⟨after, done⟩
        obtain ⟨middle, sets, rest⟩ := setAll_cons_eq_ok.mp done
        exact ⟨⟨middle, set_eq_ok.mpr sets⟩, ih.mp ⟨after, rest⟩⟩
      · rintro ⟨⟨middle, changed⟩, fits⟩
        obtain ⟨after, rest⟩ := ih.mpr fits
        exact ⟨after, setAll_cons_eq_ok.mpr ⟨middle, set_eq_ok.mp changed, rest⟩⟩

/-- Behind entries that fit, the first that does not is told. -/
theorem exists_blamed (failed : setAll entries raw = .error fault) :
    ∃ before key value behind, entries = before ++ (key, value) :: behind ∧
      (∀ entry ∈ before, Fits entry.1 entry.2) ∧ Blamed key value fault := by
  induction entries generalizing raw with
  | nil => cases failed
  | cons entry entries ih =>
      obtain ⟨key, value⟩ := entry
      rcases setAll_cons_eq_error.mp failed with blamed | ⟨middle, sets, rest⟩
      · exact ⟨[], key, value, entries, rfl, by simp, blamed⟩
      · obtain ⟨before, other, unfit, behind, rfl, fits, blamed⟩ := ih rest
        refine ⟨(key, value) :: before, other, unfit, behind, rfl, ?_, blamed⟩
        exact List.forall_mem_cons.mpr ⟨(fits_iff raw).mpr ⟨middle, set_eq_ok.mpr sets⟩, fits⟩

section

variable {Kind : Type} {field : RawConfig → Kind} {given : Value → Option Kind}

/-- Whether a setting is replaced by what is given for one key, and by no other key. -/
def ReplacedBy (key : String) (given : Value → Option Kind) (field : RawConfig → Kind) : Prop :=
  ∀ raw other value after, Sets raw other value after →
    if other = key then given value = some (field after) else field after = field raw

theorem ReplacedBy.chosen (replaced : ReplacedBy key given field) (distinct : entries.Distinct)
    (done : setAll entries raw = .ok after) : Chosen entries key given (field raw) (field after) := by
  induction entries generalizing raw with
  | nil =>
      cases done
      rfl
  | cons entry entries ih =>
      obtain ⟨other, value⟩ := entry
      obtain ⟨absent, distinct⟩ := List.nodup_cons.mp distinct
      obtain ⟨middle, sets, done⟩ := setAll_cons_eq_ok.mp done
      have rest := ih distinct done
      have step := replaced raw other value middle sets
      by_cases same : other = key
      · -- no later entry has this key
        subst same
        rw [if_pos rfl] at step
        rw [Chosen, Entries.lookup_eq_none.mpr absent] at rest
        rw [Chosen, List.lookup_cons_self, rest]
        exact step
      · rw [if_neg same] at step
        rw [Chosen, List.lookup_cons, beq_false_of_ne (Ne.symm same), ← step]
        exact rest

end

/-- The entries of a document in the order in which they are visited. -/
def inOrder (entries : Entries) : Entries :=
  entries.mergeSort fun left right => left.1 ≤ right.1

theorem inOrder_perm (entries : Entries) : (inOrder entries).Perm entries :=
  List.mergeSort_perm entries _

theorem pairwise_inOrder (entries : Entries) : (inOrder entries).Pairwise fun left right => left.1 ≤ right.1 := by
  have sorted : (inOrder entries).Pairwise fun left right => decide (left.1 ≤ right.1) = true :=
    List.pairwise_mergeSort (by simpa using fun _ _ _ _ _ _ => String.le_trans)
      (by simpa using fun _ _ _ _ => String.le_total _ _) entries
  exact sorted.imp of_decide_eq_true

theorem ofEntries_eq (entries : Entries) : ofEntries entries = setAll (inOrder entries) {} := rfl

theorem eq_of_key_eq (distinct : entries.Distinct) {entry other : String × Value} (member : entry ∈ entries)
    (otherMember : other ∈ entries) (same : entry.1 = other.1) : entry = other := by
  have found := distinct.lookup_eq_some.mpr member
  rw [same, distinct.lookup_eq_some.mpr otherMember] at found
  exact Prod.ext same (Option.some.inj found).symm

theorem inOrder_congr (distinct : entries.Distinct) (perm : entries.Perm others) :
    inOrder entries = inOrder others := by
  refine List.Perm.eq_of_pairwise ?_ (pairwise_inOrder entries) (pairwise_inOrder others) ?_
  · intro entry other member otherMember before behind
    have here := (inOrder_perm entries).mem_iff.mp member
    have there := perm.mem_iff.mpr ((inOrder_perm others).mem_iff.mp otherMember)
    exact eq_of_key_eq distinct here there (String.le_antisymm before behind)
  · exact (inOrder_perm entries).trans (perm.trans (inOrder_perm others).symm)

theorem leastUnfit_unique {other : String} {otherValue : Value} (distinct : entries.Distinct)
    (least : LeastUnfit entries key value) (otherLeast : LeastUnfit entries other otherValue) :
    key = other ∧ value = otherValue := by
  have same : key = other := by
    rcases least.least _ otherLeast.stands otherLeast.unfit with same | before
    · exact same.symm
    rcases otherLeast.least _ least.stands least.unfit with same | behind
    · exact same
    · exact absurd (Utf8.precedes_iff.mp behind) (String.lt_asymm (Utf8.precedes_iff.mp before))
  exact ⟨same, congrArg Prod.snd (eq_of_key_eq distinct least.stands otherLeast.stands same)⟩

theorem not_fits_of_blamed (blamed : Blamed key value fault) : ¬Fits key value := by
  intro fits
  obtain ⟨after, done⟩ := (fits_iff packaged).mp fits
  rw [set_eq_error.mpr blamed] at done
  cases done

theorem blamed_unique {other : DocumentFault} (blamed : Blamed key value fault) (otherBlamed : Blamed key value other) :
    fault = other := by
  have told : packaged.set key value = .error fault := set_eq_error.mpr blamed
  rw [set_eq_error.mpr otherBlamed] at told
  exact (Except.error.inj told).symm

/-- What is told is about the first entry that does not fit. -/
theorem exists_leastUnfit (failed : ofEntries entries = .error fault) :
    ∃ key value, LeastUnfit entries key value ∧ Blamed key value fault := by
  rw [ofEntries_eq] at failed
  obtain ⟨before, key, value, behind, split, fits, blamed⟩ := exists_blamed failed
  have ordered := pairwise_inOrder entries
  rw [split, List.pairwise_append] at ordered
  have later := (List.pairwise_cons.mp ordered.2.1).1
  refine ⟨key, value, ⟨?_, not_fits_of_blamed blamed, ?_⟩, blamed⟩
  · rw [← (inOrder_perm entries).mem_iff, split]
    simp
  · intro other member unfit
    rw [← (inOrder_perm entries).mem_iff, split, List.mem_append, List.mem_cons] at member
    rcases member with earlier | rfl | after
    · exact absurd (fits other earlier) unfit
    · exact .inl rfl
    · by_cases same : other.1 = key
      · exact .inl same
      · refine .inr (Utf8.precedes_iff.mpr ?_)
        rw [← String.not_le]
        exact fun reversed => same (String.le_antisymm reversed (later other after))

/-- The order in which the keys stand in a document does not matter. -/
theorem ofEntries_perm (distinct : entries.Distinct) (perm : entries.Perm others) :
    ofEntries entries = ofEntries others :=
  calc
    ofEntries entries = setAll (inOrder entries) {} := ofEntries_eq entries
    _ = setAll (inOrder others) {} := by rw [inOrder_congr distinct perm]
    _ = ofEntries others := (ofEntries_eq others).symm

theorem exists_ofEntries_iff :
    (∃ raw, ofEntries entries = .ok raw) ↔ ∀ entry ∈ entries, Fits entry.1 entry.2 := by
  rw [ofEntries_eq, exists_setAll_iff]
  exact forall_congr' fun entry => imp_congr_left (inOrder_perm entries).mem_iff

theorem overrides_of_ofEntries (distinct : entries.Distinct) (done : ofEntries entries = .ok raw) :
    Overrides entries packaged raw := by
  have perm := (inOrder_perm entries).symm
  have same (key : String) : (inOrder entries).lookup key = entries.lookup key := (distinct.lookup_perm perm key).symm
  constructor
  all_goals
    refine (ReplacedBy.chosen ?_ (distinct.perm perm) done).congr (same _)
    intro raw other value after sets
    cases sets <;> simp [Value.text?, Value.number?]

theorem settled_ofEntries (distinct : entries.Distinct) :
    Settled entries ((ofEntries entries).mapError .document) := by
  cases result : ofEntries entries with
  | ok raw =>
      have fits := exists_ofEntries_iff.mp ⟨raw, result⟩
      refine ⟨iff_of_true ⟨raw, rfl⟩ fits, ?_, ?_⟩
      · intro other same
        cases same
        exact overrides_of_ofEntries distinct result
      · intro error
        constructor
        · intro same
          cases same
        · rintro ⟨key, value, fault, least, -, -⟩
          exact absurd (fits _ least.stands) least.unfit
  | error fault =>
      obtain ⟨key, value, least, blamed⟩ := exists_leastUnfit result
      refine ⟨iff_of_false (by rintro ⟨raw, ⟨⟩⟩) fun fits => least.unfit (fits _ least.stands), ?_, ?_⟩
      · intro raw same
        cases same
      · intro error
        constructor
        · intro same
          cases same
          exact ⟨key, value, fault, least, blamed, rfl⟩
        · rintro ⟨other, otherValue, told, otherLeast, otherBlamed, rfl⟩
          obtain ⟨rfl, rfl⟩ := leastUnfit_unique distinct least otherLeast
          rw [blamed_unique blamed otherBlamed]
          rfl

end RawConfig
end JarLauncher
