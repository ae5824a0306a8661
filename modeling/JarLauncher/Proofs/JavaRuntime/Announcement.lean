import JarLauncher.JavaRuntime.Probe
import JarLauncher.Proofs.Files.Computer
import JarLauncher.Proofs.JavaRuntime.Version
import JarLauncher.Proofs.Machine.Outcome
import JarLauncher.Text.Utf8.Lossy

/-!
From the bytes that a runtime prints to the verdict on it. A quoted version decides, whatever bytes stand around it
and in it; only a version that is announced earlier comes before it.
-/

namespace JarLauncher.JavaRuntime

open Files Machine JavaVersion Text

/-- How a runtime writes its major version: as it is, or behind the old epoch. -/
inductive Numbering
  | plain
  | epoch
  deriving DecidableEq, Repr

namespace Numbering

def write (numbering : Numbering) (major : Nat) : String :=
  match numbering with
  | plain => toString major
  | epoch => "1." ++ toString major

/-- The digits that a version with this numbering starts with. -/
def token (numbering : Numbering) (major : Nat) : String :=
  match numbering with
  | plain => toString major
  | epoch => "1"

end Numbering

/-- The words that tell a version, from `version` to the closing quote. -/
def banner (number : String) (rest : Bytes) : Bytes :=
  Utf8.encode "version \"" ++ (Utf8.encode number ++ (rest ++ Utf8.encode "\""))

theorem leadingDigits_of_digits {digits rest : List Char} (decimal : ∀ digit ∈ digits, isDecimalDigit digit = true)
    (ends : rest.head?.any isDecimalDigit = false) :
    leadingDigits (digits ++ rest) = digits := by
  rw [leadingDigits, List.takeWhile_append_of_pos decimal]
  cases rest with
  | nil => simp
  | cons char rest =>
      have other : isDecimalDigit char = false := ends
      simp [other]

section Digits

variable (major : Nat)

theorem exists_toDigits :
    ∃ digit digits, Nat.toDigits 10 major = digit :: digits ∧ isDecimalDigit digit = true := by
  obtain ⟨digit, digits, whole⟩ := List.exists_cons_of_ne_nil (Nat.toDigits_ne_nil (b := 10) (n := major))
  refine ⟨digit, digits, whole, isDecimalDigit_of_isDigit ?_⟩
  exact Nat.isDigit_of_mem_toDigits (by decide) (by decide) (whole ▸ List.mem_cons_self)

theorem isDecimalDigit_toDigits : ∀ digit ∈ Nat.toDigits 10 major, isDecimalDigit digit = true :=
  fun _ member => isDecimalDigit_of_isDigit (Nat.isDigit_of_mem_toDigits (by decide) (by decide) member)

theorem quote_notMem_toDigits : '"' ∉ Nat.toDigits 10 major :=
  fun member => absurd (isDecimalDigit_toDigits major _ member) (by decide)

end Digits

section Text

variable {major : Nat} {text before inner rest : List Char}

theorem ofChars?_plain
    (whole : text = before ++ (opening ++ (Nat.toDigits 10 major ++ (inner ++ '"' :: rest))))
    (small : major < wordBound) (distinct : major ≠ 1) (silent : ¬Announces opening before) (free : '"' ∉ inner)
    (ends : inner.head?.any isDecimalDigit = false) :
    ofChars? text =
      some {
        raw := String.ofList (opening ++ (Nat.toDigits 10 major ++ (inner ++ ['"'])))
        token := String.ofList (Nat.toDigits 10 major)
        major } := by
  obtain ⟨digit, digits, number, decimal⟩ := exists_toDigits major
  have found : afterFirst opening text = some (Nat.toDigits 10 major ++ inner ++ '"' :: rest) := by
    rw [whole, number, List.append_assoc]
    exact afterFirst_append (by decide) (by decide) silent decimal
  have leading : leadingDigits (Nat.toDigits 10 major ++ inner) = Nat.toDigits 10 major :=
    leadingDigits_of_digits (isDecimalDigit_toDigits major) ends
  have unquoted : '"' ∉ Nat.toDigits 10 major ++ inner := by simp [free, quote_notMem_toDigits]
  rw [ofChars?_of_quoted found unquoted, leading, readWord?_toDigits small]
  simp [ofQuoted, leading, legacyEpoch, distinct]

theorem ofChars?_epoch
    (whole : text = before ++ (opening ++ ('1' :: '.' :: Nat.toDigits 10 major ++ (inner ++ '"' :: rest))))
    (small : major < wordBound) (silent : ¬Announces opening before) (free : '"' ∉ inner)
    (ends : inner.head?.any isDecimalDigit = false) :
    ofChars? text =
      some {
        raw := String.ofList (opening ++ ('1' :: '.' :: Nat.toDigits 10 major ++ (inner ++ ['"'])))
        token := "1"
        major } := by
  obtain ⟨digit, digits, number, decimal⟩ := exists_toDigits major
  have found : afterFirst opening text = some ('1' :: '.' :: (Nat.toDigits 10 major ++ inner) ++ '"' :: rest) := by
    have first : afterFirst opening
        (before ++ (opening ++ '1' :: '.' :: (Nat.toDigits 10 major ++ (inner ++ '"' :: rest)))) =
          some ('1' :: '.' :: (Nat.toDigits 10 major ++ (inner ++ '"' :: rest))) :=
      afterFirst_append (by decide) (by decide) silent (by decide)
    rw [whole, List.cons_append, List.cons_append, first]
    simp
  have numbered : afterFirst legacyOpening text = some (Nat.toDigits 10 major ++ inner ++ '"' :: rest) := by
    rw [number] at found ⊢
    exact afterFirst_legacyOpening decimal found
  have digitsRead : readWord? (leadingDigits (Nat.toDigits 10 major ++ inner)) = some major := by
    rw [leadingDigits_of_digits (isDecimalDigit_toDigits major) ends, readWord?_toDigits small]
  have read : legacyMajor? text = some major := by
    rw [legacyMajor?, numbered, ← digitsRead, ← leadingDigits_append (show isDecimalDigit '"' = false by decide)]
    rfl
  have leading : leadingDigits ('1' :: '.' :: (Nat.toDigits 10 major ++ inner)) = ['1'] :=
    leadingDigits_append (by decide) ['1'] _
  have one : readWord? ['1'] = some legacyEpoch := by decide
  have unquoted : '"' ∉ '1' :: '.' :: (Nat.toDigits 10 major ++ inner) := by
    simp [free, quote_notMem_toDigits]
  rw [ofChars?_of_quoted found unquoted, leading, one]
  simp [ofQuoted, leading, read]

end Text

/-- What is shown for words in the middle of other bytes. -/
theorem shownChars_banner (before after : Bytes) (number : String) (rest : Bytes) :
    Utf8.shownChars (before ++ (banner number rest ++ after)) =
      Utf8.shownChars before ++
        (opening ++ (number.toList ++ (Utf8.shownChars rest ++ '"' :: Utf8.shownChars after))) := by
  have word : "version \"" = String.ofList ('v' :: "ersion \"".toList) := by decide
  have quote : "\"" = String.ofList ('"' :: []) := by decide
  rw [banner, List.append_assoc, List.append_assoc, List.append_assoc, word,
    Utf8.shownChars_append_encode (by decide), Utf8.shownChars_encode, quote,
    Utf8.shownChars_append_encode (by decide)]
  rfl

/-- A version that nothing announces before it is the one that is read, in both ways to write it. -/
theorem parse?_banner {numbering : Numbering} {major : Nat} {before rest after : Bytes}
    (small : major < wordBound) (distinct : numbering = .plain → major ≠ 1)
    (silent : ¬Announces opening (Utf8.decodeLossy before).toList) (unquoted : 0x22 ∉ rest)
    (ends : (Utf8.decodeLossy rest).toList.head?.any isDecimalDigit = false) :
    parse? (Utf8.decodeLossy (before ++ (banner (numbering.write major) rest ++ after))) =
      some {
        raw := Utf8.decodeLossy (banner (numbering.write major) rest)
        token := numbering.token major
        major } := by
  rw [Utf8.toList_decodeLossy] at silent ends
  have free : '"' ∉ Utf8.shownChars rest := fun member =>
    unquoted (Utf8.mem_of_mem_shownChars (by decide) member)
  have shown := shownChars_banner before after (numbering.write major) rest
  have raw : Utf8.decodeLossy (banner (numbering.write major) rest) =
      String.ofList (opening ++ ((numbering.write major).toList ++ (Utf8.shownChars rest ++ ['"']))) := by
    have alone := shownChars_banner [] [] (numbering.write major) rest
    rw [List.nil_append, List.append_nil, Utf8.shownChars_nil, List.nil_append] at alone
    rw [← alone]
    rfl
  rw [parse?, Utf8.toList_decodeLossy, raw]
  cases numbering with
  | plain =>
      have digits : (Numbering.plain.write major).toList = Nat.toDigits 10 major := Nat.toList_repr
      rw [digits] at shown ⊢
      rw [ofChars?_plain shown small (distinct rfl) silent free ends, ← digits, String.ofList_toList]
      rfl
  | epoch =>
      have digits : (Numbering.epoch.write major).toList = '1' :: '.' :: Nat.toDigits 10 major := by
        simp [Numbering.write, toString, Nat.toList_repr]
      rw [digits] at shown ⊢
      rw [ofChars?_epoch shown small silent free ends]
      rfl

section Probing

variable {World : Type} (answering : Answering World) (world : World) (probe : Probe)

theorem run_examine :
    (probe.examine.run answering world).1 =
      .ofSelfReport (answering (.askVersion probe.java) world).1 probe.minimum := rfl

theorem outcome_validate :
    (Attempt.outcome answering probe.validate world).1 =
      (probe.examine.run answering world).1.judge probe.minimum := by
  rw [Probe.validate, Attempt.outcome_mk, Procedure.run_bind]
  rfl

end Probing

/-- A runtime is judged by the version that it announces first, whatever else it prints and however broken that is. -/
theorem validate_banner {World : Type} (answering : Answering World) (world : World) (java : String)
    (minimum major : Nat) (numbering : Numbering) (before rest after : Bytes) (exitedOk : Bool)
    (told : (answering (.askVersion java) world).1 =
      .ok { exitedOk, printed := before ++ (banner (numbering.write major) rest ++ after) })
    (small : major < wordBound) (distinct : numbering = .plain → major ≠ 1)
    (silent : ¬Announces opening (Utf8.decodeLossy before).toList) (unquoted : 0x22 ∉ rest)
    (ends : (Utf8.decodeLossy rest).toList.head?.any isDecimalDigit = false) :
    let probe : Probe := { java, minimum }
    let info : Info :=
      if exitedOk then {
        available := true
        version := some (numbering.token major)
        majorVersion := some major
        isCompatible := some (minimum ≤ major)
        fullVersion := some (Utf8.decodeLossy (banner (numbering.write major) rest))
        error := none }
      else .unavailable "Java not found in PATH"
    (probe.examine.run answering world).1 = info ∧
      (Attempt.outcome answering probe.validate world).1 =
        if !exitedOk then .error (.runtimeMissing "Java not found in PATH" minimum)
        else if minimum ≤ major then .ok info
        else .error (.incompatibleRuntime major minimum) := by
  intro probe info
  have examined : (probe.examine.run answering world).1 = info := by
    rw [run_examine, told, Info.ofSelfReport]
    cases exitedOk with
    | false => rfl
    | true =>
        rw [Info.ofOutput, parse?_banner small distinct silent unquoted ends]
        rfl
  refine ⟨examined, ?_⟩
  rw [outcome_validate, examined]
  cases exitedOk with
  | false => rfl
  | true => by_cases enough : minimum ≤ major <;> simp [probe, info, Info.judge, enough]

/-- A computer with a runtime that says this about itself. -/
def saying (report : SelfReport) : Answering Computer
  | .askVersion _, computer => (.ok report, computer)
  | request, computer => Computer.answer (fun _ => .failed "") request computer

/-- An old runtime, with broken bytes before, in and behind its version, and a newer version behind it. -/
theorem validate_banner_brokenBytes :
    let report : SelfReport := {
      exitedOk := true
      printed := 0xFF :: Utf8.encode "java " ++
        (banner "1.8" (Utf8.encode ".0_" ++ [0xE2, 0x82]) ++ 0xC3 :: Utf8.encode "\nversion \"21\"\n") }
    (Attempt.outcome (saying report) (Probe.validate {}) { files := {} }).1 =
      .error (.incompatibleRuntime 8 17) := by
  intro report
  have verdict := validate_banner (saying report) { files := {} } "java" 17 8 .epoch (0xFF :: Utf8.encode "java ")
    (Utf8.encode ".0_" ++ [0xE2, 0x82]) (0xC3 :: Utf8.encode "\nversion \"21\"\n") true
  exact (verdict rfl (by decide) (by decide) (by decide +kernel) (by decide +kernel) (by decide +kernel)).2

end JarLauncher.JavaRuntime
