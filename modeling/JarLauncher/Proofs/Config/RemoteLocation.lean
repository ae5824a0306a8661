import JarLauncher.Config.Accepted
import JarLauncher.Proofs.Text.Replacement

/-!
Where accepted settings download from. The location is checked without the blanks around it and used with them, so
that blanks before it are blanks before everything that is asked for.
-/

namespace JarLauncher

open Text

/-- What the location in the settings is checked for. -/
def isWeb (location : String) : Bool :=
  startsWith "http://" location || startsWith "https://" location

theorem isWeb_iff {location : String} :
    isWeb location = true ↔ "http://".toList <+: location.toList ∨ "https://".toList <+: location.toList := by
  simp only [isWeb, startsWith, Bool.or_eq_true, List.isPrefixOf_iff_prefix]

theorem not_isWeb_of_blank {location : String} {char : Char} {rest : List Char}
    (starts : location.toList = char :: rest) (blank : isBlank char = true) : ¬isWeb location = true := by
  have other : 'h' ≠ char := by
    intro same
    rw [← same] at blank
    revert blank
    decide
  rw [isWeb_iff, starts]
  simp [other]

/-- Blanks in front of a location of the web make it another. -/
theorem isWeb_iff_of_blanks {location checked : String} {chars behind : List Char} (web : isWeb checked = true)
    (whole : location.toList = chars.takeWhile isBlank ++ (checked.toList ++ behind)) :
    isWeb location = true ↔ chars.head?.any isBlank = false := by
  cases first : chars.head?.any isBlank with
  | true =>
      obtain ⟨char, rest, rfl⟩ : ∃ char rest, chars = char :: rest := by
        cases chars with
        | nil => cases first
        | cons char rest => exact ⟨char, rest, rfl⟩
      have blank : isBlank char = true := first
      rw [List.takeWhile_cons_of_pos blank] at whole
      exact iff_of_false (not_isWeb_of_blank whole blank) Bool.noConfusion
  | false =>
      have nothing : chars.takeWhile isBlank = [] := by
        cases chars with
        | nil => rfl
        | cons char rest =>
            have solid : isBlank char = false := first
            exact List.takeWhile_cons_of_neg (Bool.eq_false_iff.mp solid)
      rw [nothing, List.nil_append] at whole
      rw [isWeb_iff] at web ⊢
      rw [whole]
      exact iff_of_true (web.imp (·.trans (List.prefix_append _ _)) (·.trans (List.prefix_append _ _))) rfl

theorem toList_placeholder : Cache.placeholder.toList = '\x7b' :: "jarVersion\x7d".toList := by decide

section

variable {raw : RawConfig} {config : Config}

theorem RawConfig.accept_eq_ok : raw.accept = .ok config ↔ raw.fault? = none ∧ raw.normalized = config := by
  unfold RawConfig.accept
  cases raw.fault? <;> simp

theorem RawConfig.isWeb_of_accept (accepted : raw.accept = .ok config) : isWeb (trim raw.downloadUrl) = true := by
  cases web : isWeb (trim raw.downloadUrl) with
  | true => rfl
  | false =>
      have sound := (RawConfig.accept_eq_ok.mp accepted).1
      unfold isWeb at web
      simp only [RawConfig.fault?, web] at sound
      split at sound
      · cases sound
      split at sound
      · cases sound
      · cases sound

/-- The place of the version is not in the part that makes a location one of the web. -/
theorem isWeb_replaceAll {template : String} (web : isWeb template = true) (version : String) :
    isWeb (replaceAll Cache.placeholder version template) = true := by
  rw [isWeb_iff] at web ⊢
  rw [toList_replaceAll, toList_placeholder]
  obtain ⟨rest, whole⟩ | ⟨rest, whole⟩ := web
  · left
    rw [← whole, replaced_append_left (by decide)]
    exact List.prefix_append _ _
  · right
    rw [← whole, replaced_append_left (by decide)]
    exact List.prefix_append _ _

/-- The blanks around a template stay around what it stands for. -/
theorem replaceAll_trim (version template : String) :
    ∃ behind, (∀ char ∈ behind, isBlank char = true) ∧
      (replaceAll Cache.placeholder version template).toList = template.toList.takeWhile isBlank ++
        ((replaceAll Cache.placeholder version (trim template)).toList ++ behind) := by
  obtain ⟨behind, blank, whole⟩ := exists_blanks_behind template.toList
  have solid : Cache.placeholder.toList.all (!isBlank ·) = true := by decide
  have before : '\x7b' ∉ template.toList.takeWhile isBlank := by
    intro member
    have blank := List.all_eq_true.mp List.all_takeWhile _ member
    revert blank
    decide
  have after : ∀ char ∈ behind, char ∉ Cache.placeholder.toList := by
    intro char member inside
    have other := List.all_eq_true.mp solid char inside
    rw [blank char member] at other
    cases other
  refine ⟨behind, blank, ?_⟩
  rw [toList_replaceAll, toList_replaceAll, trim, String.toList_ofList, ← replaced_append_right (by decide) after]
  rw [toList_placeholder, ← replaced_append_left before, ← whole]

end

/-- Accepted settings download from what the URL that was checked stands for, and that is a location of the web. The
blanks around the URL in the settings come around it, and with a blank in front it is no location of the web. -/
theorem remoteLocation_of_accept {raw : RawConfig} {config : Config} (accepted : raw.accept = .ok config)
    (directory : Path) :
    let location := (config.descriptorIn directory).remoteLocation
    let checked := replaceAll Cache.placeholder config.jarVersion (trim raw.downloadUrl)
    isWeb checked = true ∧
    (∃ behind, (∀ char ∈ behind, isBlank char = true) ∧
      location.toList = raw.downloadUrl.toList.takeWhile isBlank ++ (checked.toList ++ behind)) ∧
    (isWeb location = true ↔ raw.downloadUrl.toList.head?.any isBlank = false) ∧
    ∀ home descriptor, config.descriptor home = .ok descriptor → descriptor.remoteLocation = location := by
  intro location checked
  have web : isWeb checked = true := isWeb_replaceAll (RawConfig.isWeb_of_accept accepted) _
  obtain ⟨-, rfl⟩ := RawConfig.accept_eq_ok.mp accepted
  obtain ⟨behind, blank, whole⟩ := replaceAll_trim raw.normalized.jarVersion raw.downloadUrl
  change location.toList = _ ++ (checked.toList ++ behind) at whole
  refine ⟨web, ⟨behind, blank, whole⟩, isWeb_iff_of_blanks web whole, ?_⟩
  intro home descriptor described
  obtain ⟨directory, rfl⟩ := Config.exists_descriptorIn described
  rfl

def mirrorSettings : RawConfig where
  downloadUrl := "https://localhost/" ++ Cache.placeholder ++ ".jar "

theorem remoteLocation_mirrorSettings :
    mirrorSettings.accept = .ok mirrorSettings.normalized ∧
      isWeb (mirrorSettings.normalized.descriptorIn (.ofString "cache")).remoteLocation = true := by
  have accepted := RawConfig.accept_eq_ok.mpr ⟨by decide +kernel, Eq.refl mirrorSettings.normalized⟩
  obtain ⟨-, -, used, -⟩ := remoteLocation_of_accept accepted (.ofString "cache")
  exact ⟨accepted, used.mpr (by decide +kernel)⟩

/-- A no-break space before a template is accepted, and then it is asked for. -/
theorem remoteLocation_of_noBreakSpace :
    let raw : RawConfig := { downloadUrl := "\u00a0http://localhost/" ++ Cache.placeholder ++ ".jar" }
    raw.accept = .ok raw.normalized ∧
      (raw.normalized.descriptorIn (.ofString "cache")).remoteLocation = "\u00a0http://localhost/5.9.0.jar" ∧
      isWeb (raw.normalized.descriptorIn (.ofString "cache")).remoteLocation = false := by
  intro raw
  have accepted := RawConfig.accept_eq_ok.mpr ⟨by decide +kernel, Eq.refl raw.normalized⟩
  exact ⟨accepted, by decide +kernel, by decide +kernel⟩

end JarLauncher
