import JarLauncher.Proofs.Cache.AfterInstallation

/-!
One installation on whatever a cache holds: files of any contents, directories in the place of files, or nothing.
-/

namespace JarLauncher.Cache

open Download Files Machine

/-- Whether nothing can be in the way of an installation but a directory in the place of the engine or of the marker. -/
structure Unhindered (computer : Computer) (descriptor : Descriptor) (pid : Nat) : Prop where
  artifactReadable : computer.files.unreadable descriptor.artifactPath.components = false
  markerReadable : computer.files.unreadable descriptor.markerPath.components = false
  staging : computer.files.find? (stagingPath descriptor.artifactPath pid) ≠ some .directory
  temporary : computer.files.find? (temporaryMarkerPath descriptor pid) ≠ some .directory

/-- What an installation makes of a cache that is not usable, told by what was sent and what comes of the download. -/
structure Refreshes (serve : String → Transfer) (descriptor : Descriptor) (before : Computer)
    (sent : Except LauncherError Bytes) (download : Except LauncherError Path)
    (result : Except LauncherError Outcome) (after : Computer) : Prop where
  asksOnce : after.asked = before.asked ++ [descriptor.remoteLocation]
  downloads_iff : download.isOk = true ↔
    sent.isOk = true ∧ before.files.find? descriptor.artifactPath ≠ some .directory
  failed : ∀ error, download = .error error → result = .error error ∧
    after.files.find? descriptor.artifactPath = before.files.find? descriptor.artifactPath ∧
    after.files.find? descriptor.markerPath = before.files.find? descriptor.markerPath
  /-- The payload takes the place of the engine, whether or not the marker can be written after that. -/
  downloaded : download.isOk = true → ∃ payload, sent = .ok payload ∧
    after.files.find? descriptor.artifactPath = some (.file payload)
  blocked : download.isOk = true → before.files.find? descriptor.markerPath = some .directory →
    (∃ report, result = .error (.other report)) ∧ after.files.find? descriptor.markerPath = some .directory
  installed : download.isOk = true → before.files.find? descriptor.markerPath ≠ some .directory →
    (∃ reason, ((plan descriptor).run (Computer.answer serve) before).1 = .refresh reason ∧
      result = .ok (.installed descriptor.expectedVersion reason)) ∧
    after.files.find? descriptor.markerPath = some (.file (Utf8.encode descriptor.expectedVersion)) ∧
    ((markerVersion descriptor).run (Computer.answer serve) after).1 = some descriptor.expectedVersion ∧
    ∀ payload, sent = .ok payload →
      (((isUsable descriptor).run (Computer.answer serve) after).1 = true ↔ payload.take 4 = [0x50, 0x4B, 0x03, 0x04])

section

variable {serve : String → Transfer} {descriptor : Descriptor} {computer reached after : Computer} {pid : Nat}

theorem Unhindered.inside_staging (unhindered : Unhindered computer descriptor pid) :
    computer.files.inside descriptor.cacheDir (stagingName pid) ≠ some .directory := by
  obtain ⟨place, beside⟩ := beside_artifactPath descriptor pid
  rw [← MemoryFiles.find?_of_isEntry beside.staged]
  exact unhindered.staging

theorem Unhindered.inside_temporary (unhindered : Unhindered computer descriptor pid) :
    computer.files.inside descriptor.cacheDir (temporaryName pid) ≠ some .directory := by
  rw [← MemoryFiles.find?_of_isEntry (isEntry_temporaryMarkerPath descriptor pid)]
  exact unhindered.temporary

theorem outcome_install_of_unusable (serve : String → Transfer) (pid : Nat)
    (unusable : ¬Usable computer.files descriptor) :
    ∃ reason, ((plan descriptor).run (Computer.answer serve) computer).1 = .refresh reason ∧
      Attempt.outcome (Computer.answer serve) (install pid descriptor) computer =
        Attempt.outcome (Computer.answer serve) (apply pid descriptor (.refresh reason)) computer := by
  obtain ⟨reason, planned⟩ := exists_refresh unusable
  refine ⟨reason, ?_, outcome_install ?_⟩
  · rw [run_plan, planned]
  · rw [planned]
    rfl

/-- A download that fails ends the installation, and the two files are what they were. -/
theorem refreshes_of_error (sent : Except LauncherError Bytes) {error : LauncherError}
    (unusable : ¬Usable computer.files descriptor)
    (refused : sent.isOk = true → computer.files.find? descriptor.artifactPath = some .directory)
    (download : Attempt.outcome (Computer.answer serve)
      (fetch pid descriptor.remoteLocation descriptor.artifactPath) computer = (.error error, reached))
    (became : computer.Became reached descriptor.cacheDir
      (Function.update (computer.files.inside descriptor.cacheDir) (stagingName pid) none)
      [descriptor.remoteLocation]) :
    Attempt.outcome (Computer.answer serve) (install pid descriptor) computer = (.error error, reached) ∧
      Refreshes serve descriptor computer sent (.error error) (.error error) reached := by
  have artifactLeads := isEntry_artifactPath descriptor
  have markerLeads := isEntry_markerPath descriptor
  obtain ⟨reason, -, applied⟩ := outcome_install_of_unusable serve pid unusable
  refine ⟨applied.trans (Attempt.outcome_bind_of_error download _), ?_⟩
  constructor
  case asksOnce => exact became.asked
  case downloads_iff => exact iff_of_false nofun fun room => room.2 (refused room.1)
  case failed =>
    intro other same
    cases same
    refine ⟨rfl, ?_, ?_⟩
    · rw [MemoryFiles.find?_of_isEntry artifactLeads, MemoryFiles.find?_of_isEntry artifactLeads, became.inside,
        Function.update_of_ne (stagingName_ne_artifactName pid).symm]
    · rw [MemoryFiles.find?_of_isEntry markerLeads, MemoryFiles.find?_of_isEntry markerLeads, became.inside,
        Function.update_of_ne (stagingName_ne_markerName pid).symm]
  case downloaded => exact nofun
  case blocked => exact nofun
  case installed => exact nofun

/-- A marker that cannot take its place is told, with the new engine in its place already. -/
theorem refreshes_of_blocked {payload : Bytes} (unusable : ¬Usable computer.files descriptor)
    (unhindered : Unhindered computer descriptor pid)
    (sent : (serve descriptor.remoteLocation).document descriptor.remoteLocation = .ok payload)
    (room : computer.files.inside descriptor.cacheDir artifactName ≠ some .directory)
    (blocked : computer.files.inside descriptor.cacheDir markerName = some .directory) :
    ∃ result after, Attempt.outcome (Computer.answer serve) (install pid descriptor) computer = (result, after) ∧
      Refreshes serve descriptor computer (.ok payload) (.ok descriptor.artifactPath) result after := by
  have artifactLeads := isEntry_artifactPath descriptor
  have markerLeads := isEntry_markerPath descriptor
  obtain ⟨reason, -, applied⟩ := outcome_install_of_unusable serve pid unusable
  obtain ⟨fetched, download, became, kept⟩ := outcome_fetch_of_document pid unhindered.inside_staging room sent
  have free : fetched.files.inside descriptor.cacheDir (temporaryName pid) ≠ some .directory := by
    rw [kept _ (stagingName_ne_temporaryName pid pid).symm (temporaryName_ne_artifactName pid)]
    exact unhindered.inside_temporary
  have still : fetched.files.inside descriptor.cacheDir markerName = some .directory := by
    rw [kept _ (stagingName_ne_markerName pid).symm artifactName_ne_markerName.symm, blocked]
  obtain ⟨report, after, marked, cleaned⟩ := outcome_writeMarker_of_blocked serve pid free still
  have total := became.trans cleaned
  have failed : Attempt.outcome (Computer.answer serve) (install pid descriptor) computer =
      (.error (.other report), after) := by
    rw [applied]
    change Attempt.outcome _ (fetch _ _ _ >>= _) computer = _
    rw [Attempt.outcome_bind_of_ok download, Attempt.outcome_bind_of_error marked]
  refine ⟨_, after, failed, ?_⟩
  constructor
  case asksOnce => exact total.asked
  case downloads_iff =>
    refine iff_of_true rfl ⟨rfl, ?_⟩
    rw [MemoryFiles.find?_of_isEntry artifactLeads]
    exact room
  case failed => exact nofun
  case downloaded =>
    intro _
    refine ⟨payload, rfl, ?_⟩
    rw [MemoryFiles.find?_of_isEntry artifactLeads, total.inside,
      Function.update_of_ne (temporaryName_ne_artifactName pid).symm, became.inside, Function.update_self]
  case blocked =>
    intro _ _
    refine ⟨⟨report, rfl⟩, ?_⟩
    rw [MemoryFiles.find?_of_isEntry markerLeads, total.inside,
      Function.update_of_ne (temporaryName_ne_markerName pid).symm, still]
  case installed =>
    intro _ clear
    rw [MemoryFiles.find?_of_isEntry markerLeads] at clear
    exact absurd blocked clear

/-- A document that was sent is installed, and the marker that is written reads back as the version. -/
theorem refreshes_of_document {payload : Bytes} (unusable : ¬Usable computer.files descriptor)
    (unhindered : Unhindered computer descriptor pid)
    (sent : (serve descriptor.remoteLocation).document descriptor.remoteLocation = .ok payload)
    (room : computer.files.inside descriptor.cacheDir artifactName ≠ some .directory)
    (clear : computer.files.inside descriptor.cacheDir markerName ≠ some .directory)
    (trimmed : Text.trim descriptor.expectedVersion = descriptor.expectedVersion) :
    ∃ result after, Attempt.outcome (Computer.answer serve) (install pid descriptor) computer = (result, after) ∧
      Refreshes serve descriptor computer (.ok payload) (.ok descriptor.artifactPath) result after := by
  have artifactLeads := isEntry_artifactPath descriptor
  have markerLeads := isEntry_markerPath descriptor
  obtain ⟨reason, after, planned, installed, became⟩ := outcome_install_of_document pid unusable
    unhindered.inside_staging unhindered.inside_temporary room clear sent
  have engine : after.files.inside descriptor.cacheDir artifactName = some (.file payload) := by
    rw [became.inside, Function.update_of_ne artifactName_ne_markerName,
      Function.update_of_ne (temporaryName_ne_artifactName pid).symm, Function.update_self]
  have marker : after.files.inside descriptor.cacheDir markerName =
      some (.file (Utf8.encode descriptor.expectedVersion)) := by
    rw [became.inside, Function.update_self]
  have artifactReadable : after.files.unreadable descriptor.artifactPath.components = false := by
    rw [became.unreadable, unhindered.artifactReadable]
  have markerReadable : after.files.unreadable descriptor.markerPath.components = false := by
    rw [became.unreadable, unhindered.markerReadable]
  refine ⟨_, after, installed, ?_⟩
  constructor
  case asksOnce => exact became.asked
  case downloads_iff =>
    refine iff_of_true rfl ⟨rfl, ?_⟩
    rw [MemoryFiles.find?_of_isEntry artifactLeads]
    exact room
  case failed => exact nofun
  case downloaded =>
    intro _
    exact ⟨payload, rfl, (MemoryFiles.find?_of_isEntry artifactLeads).trans engine⟩
  case blocked =>
    intro _ blocked
    rw [MemoryFiles.find?_of_isEntry markerLeads] at blocked
    exact absurd blocked clear
  case installed =>
    intro _ _
    refine ⟨⟨reason, ?_, rfl⟩, (MemoryFiles.find?_of_isEntry markerLeads).trans marker, ?_, ?_⟩
    · rw [run_plan, planned]
    · rw [run_markerVersion, markerSeen_eq_some]
      refine ⟨descriptor.expectedVersion, MemoryFiles.readText_eq_ok.mpr ⟨_, ?_, Utf8.decode_encode _⟩, trimmed⟩
      exact (MemoryFiles.read_eq_ok markerLeads).mpr ⟨markerReadable, marker⟩
    · intro other same
      cases same
      rw [run_isUsable]
      have verdict := usable_iff_of_filled engine marker trimmed
      rw [and_iff_right artifactReadable, and_iff_right markerReadable] at verdict
      exact verdict.trans decide_eq_true_iff

theorem Refreshes.marker_of_error {sent : Except LauncherError Bytes} {download : Except LauncherError Path}
    {result : Except LauncherError Outcome} {error : LauncherError}
    (refreshes : Refreshes serve descriptor computer sent download result after) (fails : result = .error error) :
    after.files.find? descriptor.markerPath = computer.files.find? descriptor.markerPath := by
  cases download with
  | error fault => exact (refreshes.failed fault rfl).2.2
  | ok path =>
      by_cases marker : computer.files.find? descriptor.markerPath = some .directory
      · rw [(refreshes.blocked rfl marker).2, marker]
      · obtain ⟨⟨reason, -, succeeds⟩, -⟩ := refreshes.installed rfl marker
        rw [succeeds] at fails
        cases fails

/-- A cache that is not usable is refreshed, whatever is in it and whatever is sent. -/
theorem refreshes_of_unusable (unusable : ¬Usable computer.files descriptor)
    (unhindered : Unhindered computer descriptor pid)
    (trimmed : Text.trim descriptor.expectedVersion = descriptor.expectedVersion) :
    Refreshes serve descriptor computer ((serve descriptor.remoteLocation).document descriptor.remoteLocation)
      (Attempt.outcome (Computer.answer serve)
        (fetch pid descriptor.remoteLocation descriptor.artifactPath) computer).1
      (Attempt.outcome (Computer.answer serve) (install pid descriptor) computer).1
      (Attempt.outcome (Computer.answer serve) (install pid descriptor) computer).2 := by
  obtain ⟨place, beside⟩ := beside_artifactPath descriptor pid
  have artifactLeads := isEntry_artifactPath descriptor
  cases sent : (serve descriptor.remoteLocation).document descriptor.remoteLocation with
  | error error =>
      obtain ⟨reached, fetching, became⟩ := outcome_fetch_of_error serve beside unhindered.inside_staging sent
      obtain ⟨stopped, refreshes⟩ := refreshes_of_error (.error error) unusable nofun fetching became
      rw [fetching, stopped]
      exact refreshes
  | ok payload =>
      -- a directory in the place of the engine is noticed when the whole document has come already
      by_cases room : computer.files.inside descriptor.cacheDir artifactName = some .directory
      · obtain ⟨reached, fetching, became⟩ :=
          outcome_fetch_of_blocked serve beside unhindered.inside_staging room sent
        have refused := (MemoryFiles.find?_of_isEntry artifactLeads).trans room
        obtain ⟨stopped, refreshes⟩ := refreshes_of_error (.ok payload) unusable (fun _ => refused) fetching became
        rw [fetching, stopped]
        exact refreshes
      · obtain ⟨reached, fetching, -⟩ := outcome_fetch_of_document pid unhindered.inside_staging room sent
        rw [fetching]
        by_cases marker : computer.files.inside descriptor.cacheDir markerName = some .directory
        · obtain ⟨result, after, ended, refreshes⟩ := refreshes_of_blocked unusable unhindered sent room marker
          rw [ended]
          exact refreshes
        · obtain ⟨result, after, ended, refreshes⟩ :=
            refreshes_of_document unusable unhindered sent room marker trimmed
          rw [ended]
          exact refreshes

end

/-- One installation for accepted settings, on any cache and whatever is sent. A cache that is usable stays as it is,
and nothing is asked for. Any other is refreshed; and the marker is as it was unless the installation succeeds. -/
theorem install_on_any_cache {raw : RawConfig} {config : Config} (accepted : raw.accept = .ok config)
    (directory : Path) (pid : Nat) (serve : String → Transfer) (computer : Computer)
    (unhindered : Unhindered computer (config.descriptorIn directory) pid) :
    let descriptor := config.descriptorIn directory
    let location := descriptor.remoteLocation
    let download := Attempt.outcome (Computer.answer serve) (fetch pid location descriptor.artifactPath) computer
    let ended := Attempt.outcome (Computer.answer serve) (install pid descriptor) computer
    let usable := ((isUsable descriptor).run (Computer.answer serve) computer).1
    (usable = true → ended = (.ok (.alreadyCached config.jarVersion), computer)) ∧
    (usable = false →
      Refreshes serve descriptor computer ((serve location).document location) download.1 ended.1 ended.2) ∧
    ∀ error, ended.1 = .error error →
      ended.2.files.find? descriptor.markerPath = computer.files.find? descriptor.markerPath := by
  intro descriptor location download ended usable
  have looked : usable = true ↔ Usable computer.files descriptor := by
    simp only [usable, run_isUsable]
    rfl
  have refreshes (unusable : ¬Usable computer.files descriptor) :
      Refreshes serve descriptor computer ((serve location).document location) download.1 ended.1 ended.2 :=
    refreshes_of_unusable unusable unhindered (Config.trim_jarVersion accepted)
  refine ⟨fun found => outcome_install_of_usable pid (looked.mp found), ?_, ?_⟩
  · intro missed
    apply refreshes
    rw [← looked, missed]
    exact Bool.false_ne_true
  · intro error fails
    rcases Classical.em (Usable computer.files descriptor) with found | unusable
    · have same : ended = _ := outcome_install_of_usable pid found
      rw [same]
    · exact (refreshes unusable).marker_of_error fails

/-- What is wanted where a file that is no archive is taken for it. -/
def corruptedRelease : Descriptor :=
  (archiveVisit "1.0.0").descriptor (.ofString "cache")

def corruptedCache : Computer where
  files :=
    (MemoryFiles.addFile {} corruptedRelease.artifactPath [0x00]).addFile corruptedRelease.markerPath
      (Utf8.encode "1.0.0")

/-- What comes of an installation there. -/
def corruptedOutcome : Except LauncherError Outcome × Computer :=
  Attempt.outcome (Computer.answer (archiveVisit "1.0.0").serve) (install 1 corruptedRelease) corruptedCache

theorem install_on_corruptedCache :
    corruptedOutcome.1 = .ok (.installed "1.0.0" .corrupted) ∧
      corruptedOutcome.2.files.find? corruptedRelease.artifactPath = some (.file archiveSignature) ∧
      ((isUsable corruptedRelease).run (Computer.answer (archiveVisit "1.0.0").serve) corruptedOutcome.2).1 = true := by
  have accepted : (archiveVisit "1.0.0").config.toRaw.accept = .ok (archiveVisit "1.0.0").config := rfl
  have unhindered : Unhindered corruptedCache corruptedRelease 1 := ⟨rfl, rfl, by decide +kernel, by decide +kernel⟩
  have missed : ((isUsable corruptedRelease).run (Computer.answer (archiveVisit "1.0.0").serve) corruptedCache).1 =
      false := by
    decide +kernel
  have planned : ((plan corruptedRelease).run (Computer.answer (archiveVisit "1.0.0").serve) corruptedCache).1 =
      .refresh .corrupted := by
    decide +kernel
  obtain ⟨-, refreshed, -⟩ :=
    install_on_any_cache accepted (.ofString "cache") 1 (archiveVisit "1.0.0").serve corruptedCache unhindered
  have refreshes := refreshed missed
  have success := refreshes.downloads_iff.mpr ⟨rfl, by decide +kernel⟩
  obtain ⟨payload, sent, engine⟩ := refreshes.downloaded success
  obtain ⟨⟨reason, because, result⟩, -, -, verdict⟩ := refreshes.installed success (by decide +kernel)
  obtain rfl : archiveSignature = payload := Except.ok.inj sent
  obtain rfl : reason = .corrupted := Plan.refresh.inj (because.symm.trans planned)
  exact ⟨result, engine, (verdict _ sent).mpr rfl⟩

end JarLauncher.Cache
