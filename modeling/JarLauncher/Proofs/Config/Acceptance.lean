import JarLauncher.Proofs.Cache.Verdict
import JarLauncher.Proofs.Config.RemoteLocation

/-!
Which settings are accepted: those that meet all of a list of requirements. The first requirement that is not met
decides about the error. Accepted settings are in a normal form, which a marker keeps.
-/

namespace JarLauncher

open Text

/-- What is required of settings, and the fault of those that are not like this. -/
structure Requirement where
  met : Prop
  fault : ConfigFault

namespace Requirement

variable {requirement : Requirement} {others requirements : List Requirement} {verdict : Option ConfigFault}
  {fault : ConfigFault}

/-- What requirements come to, looked at one after another: the fault of the first that is not met, if there is one. -/
inductive Judged : List Requirement → Option ConfigFault → Prop
  | passed : Judged [] none
  | unmet {requirement : Requirement} {others : List Requirement} (unmet : ¬requirement.met) :
      Judged (requirement :: others) (some requirement.fault)
  | met {requirement : Requirement} {others : List Requirement} {verdict : Option ConfigFault}
      (met : requirement.met) (rest : Judged others verdict) : Judged (requirement :: others) verdict

theorem judged_ite {unmet : Prop} [Decidable unmet] (decides : unmet ↔ ¬requirement.met)
    (rest : Judged others verdict) :
    Judged (requirement :: others) (if unmet then some requirement.fault else verdict) := by
  by_cases failed : unmet
  · rw [if_pos failed]
    exact .unmet (decides.mp failed)
  · rw [if_neg failed]
    exact .met (Classical.not_not.mp (mt decides.mpr failed)) rest

theorem Judged.eq_none_iff (judged : Judged requirements verdict) :
    verdict = none ↔ ∀ requirement ∈ requirements, requirement.met := by
  induction judged with
  | passed => simp
  | unmet unmet => simp [unmet]
  | met met _ ih => simp [met, ih]

/-- Behind requirements that are met, one that is not decides. -/
theorem Judged.eq_some (judged : Judged requirements verdict) {before later : List Requirement}
    (split : requirements = before ++ requirement :: later) (passed : ∀ earlier ∈ before, earlier.met)
    (failed : ¬requirement.met) : verdict = some requirement.fault := by
  induction judged generalizing before with
  | passed => simp at split
  | unmet unmet =>
      cases before with
      | nil =>
          cases split
          rfl
      | cons first before =>
          cases split
          exact absurd (passed _ List.mem_cons_self) unmet
  | met met _ ih =>
      cases before with
      | nil =>
          cases split
          exact absurd met failed
      | cons first before =>
          cases split
          exact ih rfl fun earlier member => passed earlier (List.mem_cons_of_mem _ member)

end Requirement

namespace RawConfig

open Requirement

variable {raw : RawConfig} {config : Config}

/-- All that is required of settings, in order. -/
def requirements (raw : RawConfig) : List Requirement :=
  let version := trim raw.jarVersion
  let url := trim raw.downloadUrl
  [⟨version ≠ "", .emptyVersion⟩,
    ⟨∀ char ∈ version.toList, isBlank char = false ∧ char ≠ '/' ∧ char ≠ '\\', .unusableVersion version⟩,
    ⟨"http://".toList <+: url.toList ∨ "https://".toList <+: url.toList, .notWeb url⟩,
    ⟨"\x7bjarVersion\x7d".toList <:+: url.toList, .noPlaceholder url⟩,
    ⟨trim raw.java ≠ "", .noJava⟩,
    ⟨1 ≤ raw.minJavaMajor, .zeroMinimum⟩]

theorem isUnusableInVersion_iff {char : Char} :
    isUnusableInVersion char = true ↔ ¬(isBlank char = false ∧ char ≠ '/' ∧ char ≠ '\\') := by
  unfold isUnusableInVersion
  cases isBlank char with
  | true => simp
  | false => by_cases slash : char = '/' <;> simp [slash]

theorem any_isUnusableInVersion {chars : List Char} :
    chars.any isUnusableInVersion = true ↔ ¬∀ char ∈ chars, isBlank char = false ∧ char ≠ '/' ∧ char ≠ '\\' := by
  simp only [List.any_eq_true, isUnusableInVersion_iff, Classical.not_forall, exists_prop]

theorem judged_fault? (raw : RawConfig) : Judged raw.requirements raw.fault? := by
  have web : (!(startsWith "http://" (trim raw.downloadUrl) || startsWith "https://" (trim raw.downloadUrl))) = true ↔
      ¬("http://".toList <+: (trim raw.downloadUrl).toList ∨ "https://".toList <+: (trim raw.downloadUrl).toList) := by
    rw [← isWeb_iff, Bool.not_eq_true', ← Bool.not_eq_true]
    rfl
  have holds : (!occursIn Cache.placeholder.toList (trim raw.downloadUrl).toList) = true ↔
      ¬"\x7bjarVersion\x7d".toList <:+: (trim raw.downloadUrl).toList := by
    rw [← occursIn_iff, Bool.not_eq_true', ← Bool.not_eq_true]
    rfl
  have zero : raw.minJavaMajor = 0 ↔ ¬1 ≤ raw.minJavaMajor := by omega
  exact judged_ite Classical.not_not.symm
    (judged_ite any_isUnusableInVersion
      (judged_ite web
        (judged_ite holds
          (judged_ite Classical.not_not.symm
            (judged_ite zero .passed)))))

end RawConfig

open Files Machine Rehearsal

/-- What comes of settings that are accepted. -/
structure Normalized (raw : RawConfig) (config : Config) : Prop where
  fields : config = {
    jarVersion := trim raw.jarVersion
    downloadUrl := raw.downloadUrl
    java := raw.java
    minJavaMajor := raw.minJavaMajor
    cacheDir := raw.cacheDir }
  trimmed : trim config.jarVersion = config.jarVersion
  /-- A marker tells the version with any blanks around it. -/
  told : ∀ (host : Host) (files : MemoryFiles) (directory : Path) (before behind : List Char),
    (∀ char ∈ before, isBlank char = true) → (∀ char ∈ behind, isBlank char = true) →
    let descriptor := config.descriptorIn directory
    files.Opens descriptor.markerPath
      (Utf8.encode (String.ofList (before ++ (config.jarVersion.toList ++ behind)))) →
    ((Cache.markerVersion descriptor).run Host.answer { host with memory := some files }).1 = some config.jarVersion
  acceptedAgain : config.toRaw.accept = .ok config
  /-- With its cache elsewhere, a configuration still wants the same. -/
  relocated : ∀ (directory : Path) (home : Option Path),
    ∃ moved, RawConfig.accept { config.toRaw with cacheDir := some directory } = .ok moved ∧
      moved.descriptor home = .ok (config.descriptorIn directory)

section

variable {raw : RawConfig} {config : Config}

theorem trim_padded {version : String} {before behind : List Char} (trimmed : trim version = version)
    (front : ∀ char ∈ before, isBlank char = true) (back : ∀ char ∈ behind, isBlank char = true) :
    trim (String.ofList (before ++ (version.toList ++ behind))) = version := by
  have kept : trimBlanks version.toList = version.toList := by
    have chars := congrArg String.toList trimmed
    rwa [trim, String.toList_ofList] at chars
  calc
    trim (String.ofList (before ++ (version.toList ++ behind))) =
        String.ofList (trimBlanks (before ++ (version.toList ++ behind))) := by
      rw [trim, String.toList_ofList]
    _ = String.ofList version.toList := by rw [trimBlanks_append front back kept]
    _ = version := String.ofList_toList

theorem accept_relocated (accepted : raw.accept = .ok config) (directory : Path) :
    RawConfig.accept { raw with cacheDir := some directory } = .ok { config with cacheDir := some directory } := by
  obtain ⟨sound, rfl⟩ := RawConfig.accept_eq_ok.mp accepted
  exact RawConfig.accept_eq_ok.mpr ⟨sound, rfl⟩

theorem normalized_of_accept (accepted : raw.accept = .ok config) : Normalized raw config where
  fields := (RawConfig.accept_eq_ok.mp accepted).2.symm
  trimmed := Config.trim_jarVersion accepted
  told host files directory before behind front back := by
    intro descriptor opens
    have tells : Cache.Tells files descriptor config.jarVersion :=
      ⟨_, opens, trim_padded (Config.trim_jarVersion accepted) front back⟩
    rw [(Cache.shows_host host files).run_markerVersion]
    exact Cache.markerSeen_iff_tells.mpr tells
  acceptedAgain := Config.accept_toRaw accepted
  relocated directory home := ⟨_, accept_relocated (Config.accept_toRaw accepted) directory, rfl⟩

/-- Settings are accepted if they meet all requirements; the first that they do not meet is what is told. Accepted
settings differ from what they were in the blanks around the version only, and stay as they are. -/
theorem accept_exact (raw : RawConfig) :
    ((∃ config, raw.accept = .ok config) ↔ ∀ requirement ∈ raw.requirements, requirement.met) ∧
    (∀ before requirement later, raw.requirements = before ++ requirement :: later →
      (∀ earlier ∈ before, earlier.met) → ¬requirement.met →
      raw.accept = .error (.configuration requirement.fault.message)) ∧
    ∀ config, raw.accept = .ok config → Normalized raw config := by
  have judged := raw.judged_fault?
  refine ⟨?_, ?_, fun config => normalized_of_accept⟩
  · rw [← judged.eq_none_iff]
    simp [RawConfig.accept_eq_ok]
  · intro before requirement later split passed failed
    rw [RawConfig.accept, judged.eq_some split passed failed]

end

def paddedSettings : RawConfig where
  jarVersion := " 1.0.0\n"
  downloadUrl := "http://localhost/" ++ Cache.placeholder ++ ".jar"

/-- A cache with a marker that has other blanks. -/
def paddedMarker : MemoryFiles :=
  MemoryFiles.addFile {} (.ofString "cache/version.txt") (Utf8.encode "\t1.0.0 \n")

theorem accept_paddedSettings :
    paddedSettings.accept = .ok paddedSettings.normalized ∧
      ((Cache.markerVersion (paddedSettings.normalized.descriptorIn (.ofString "cache"))).run Host.answer
        { memory := some paddedMarker }).1 = some "1.0.0" ∧
      RawConfig.accept { paddedSettings with java := " ", minJavaMajor := 0 } =
        .error (.configuration "java must name an executable") := by
  have accepted := RawConfig.accept_eq_ok.mpr ⟨by decide +kernel, Eq.refl paddedSettings.normalized⟩
  have version : paddedSettings.normalized.jarVersion = "1.0.0" := by decide +kernel
  refine ⟨accepted, ?_, ?_⟩
  · have opens : paddedMarker.Opens (paddedSettings.normalized.descriptorIn (.ofString "cache")).markerPath
        (Utf8.encode (String.ofList (['\t'] ++ (paddedSettings.normalized.jarVersion.toList ++ [' ', '\n'])))) :=
      ⟨rfl, by decide +kernel⟩
    have front : ∀ char ∈ ['\t'], isBlank char = true := List.forall_mem_singleton.mpr rfl
    have back : ∀ char ∈ [' ', '\n'], isBlank char = true :=
      List.forall_mem_cons.mpr ⟨rfl, List.forall_mem_singleton.mpr rfl⟩
    have normalized := (accept_exact paddedSettings).2.2 _ accepted
    rw [← version]
    exact normalized.told {} paddedMarker (.ofString "cache") ['\t'] [' ', '\n'] front back opens
  · have passed := (accept_exact paddedSettings).1.mp ⟨_, accepted⟩
    have blank : ¬trim " " ≠ "" := by decide
    exact (accept_exact { paddedSettings with java := " ", minJavaMajor := 0 }).2.1
      (paddedSettings.requirements.take 4) ⟨trim " " ≠ "", .noJava⟩ [⟨1 ≤ 0, .zeroMinimum⟩] rfl
      (fun earlier member => passed earlier (List.mem_of_mem_take member)) blank

end JarLauncher
