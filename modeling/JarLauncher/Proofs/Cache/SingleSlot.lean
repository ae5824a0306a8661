import JarLauncher.Config.Accepted
import JarLauncher.Proofs.Cache.Installation

/-!
One installation after another in one cache directory. The cache is a single slot: it holds the engine and
the version of the last installation that has succeeded, and nothing else.
-/

namespace JarLauncher.Cache

open Download Files Machine

/-- One installation of a series, and how servers answer it. -/
structure Visit where
  config : Config
  pid : Nat
  serve : String → Transfer

namespace Visit

def descriptor (visit : Visit) (directory : Path) : Descriptor :=
  visit.config.descriptorIn directory

/-- The document that the installation would get. -/
def sent (visit : Visit) (directory : Path) : Except LauncherError Bytes :=
  let location := (visit.descriptor directory).remoteLocation
  (visit.serve location).document location

def outcome (visit : Visit) (directory : Path) (computer : Computer) : Except LauncherError Outcome × Computer :=
  Attempt.outcome (Computer.answer visit.serve) (install visit.pid (visit.descriptor directory)) computer

/-- An installation with accepted settings, to which servers send no document but an archive. -/
structure Fits (visit : Visit) (directory : Path) : Prop where
  accepted : ∃ raw : RawConfig, raw.accept = .ok visit.config
  archive : ∀ contents, visit.sent directory = .ok contents → startsAsArchive contents = true

theorem Fits.trim_jarVersion {visit : Visit} {directory : Path} (fits : visit.Fits directory) :
    Text.trim visit.config.jarVersion = visit.config.jarVersion := by
  obtain ⟨raw, accepted⟩ := fits.accepted
  exact Config.trim_jarVersion accepted

end Visit

/-- A computer after a series of installations, with what the series has come to. -/
structure Series where
  computer : Computer
  /-- The version of the last installation that has succeeded. -/
  slot : Option String := none
  /-- What the last installation that has succeeded in a download was sent. -/
  payload : Option Bytes := none

namespace Series

def next (directory : Path) (series : Series) (visit : Visit) : Series :=
  let (result, computer) := visit.outcome directory series.computer
  { computer
    slot := if result.isOk then some visit.config.jarVersion else series.slot
    payload := match result with
      | .ok (.installed _ _) => (visit.sent directory).toOption
      | _ => series.payload }

/-- A whole series, from some files on. -/
def after (directory : Path) (files : MemoryFiles) (visits : List Visit) : Series :=
  visits.foldl (next directory) { computer := { files } }

theorem after_append (directory : Path) (files : MemoryFiles) (visits : List Visit) (visit : Visit) :
    after directory files (visits ++ [visit]) = (after directory files visits).next directory visit := by
  rw [after, List.foldl_append]
  rfl

theorem slot_next {directory : Path} {series : Series} {visit : Visit} {done : Outcome}
    (ended : (visit.outcome directory series.computer).1 = .ok done) :
    (series.next directory visit).slot = some visit.config.jarVersion := by
  rw [next]
  simp only [ended]
  rfl

end Series

/-- A directory with nothing in it, in which everything will be readable. -/
structure EmptyDirectory (files : MemoryFiles) (directory : Path) : Prop where
  nothing : ∀ name, files.inside directory name = none
  readable : ∀ name, files.unreadable (directory.components ++ [.named name]) = false

/-- A series has left the engine and the marker that its slot stands for, and nothing else. -/
structure Slotted (directory : Path) (series : Series) : Prop where
  inside : series.computer.files.inside directory = holding series.slot series.payload
  readable : ∀ name, series.computer.files.unreadable (directory.components ++ [.named name]) = false
  together : series.payload.isSome = series.slot.isSome
  trimmed : ∀ version, series.slot = some version → Text.trim version = version
  archive : ∀ contents, series.payload = some contents → startsAsArchive contents = true

/-- Why a cache with another version in its slot, or none, has to be refreshed. -/
def reasonFor : Option String → RefreshReason
  | none => .missing
  | some cached => .versionMismatch cached

variable {directory : Path} {files : MemoryFiles} {series : Series} {descriptor : Descriptor} {visit : Visit}

theorem slotted_start (empty : EmptyDirectory files directory) :
    Slotted directory { computer := { files } } where
  inside := by
    rw [holding_none]
    funext name
    exact empty.nothing name
  readable := empty.readable
  together := rfl
  trimmed := nofun
  archive := nofun

namespace Slotted

variable (slotted : Slotted directory series) (within : descriptor.cacheDir.components = directory.components)

include slotted within

theorem read_artifactPath {contents : Bytes} :
    series.computer.files.read descriptor.artifactPath = .ok contents ↔ series.payload = some contents := by
  have leads := (isEntry_artifactPath descriptor).congr within
  rw [MemoryFiles.read_eq_ok leads, leads, slotted.readable, slotted.inside, holding_artifactName]
  cases series.payload <;> simp

theorem readText_markerPath {text : String} :
    series.computer.files.readText descriptor.markerPath = .ok text ↔ series.slot = some text := by
  have leads := (isEntry_markerPath descriptor).congr within
  rw [MemoryFiles.readText_eq_ok]
  simp only [MemoryFiles.read_eq_ok leads]
  rw [leads, slotted.readable, slotted.inside, holding_markerName]
  cases series.slot with
  | none => simp
  | some version => simp [Utf8.decode_encode]

/-- The cache is usable for the version in the slot, and for no other. -/
theorem usable_iff_slot :
    Usable series.computer.files descriptor ↔ series.slot = some descriptor.expectedVersion := by
  rw [usable_iff]
  simp only [slotted.read_artifactPath within, slotted.readText_markerPath within]
  constructor
  · rintro ⟨_, text, held, told⟩
    rw [held, ← told, slotted.trimmed text held]
  · intro held
    have filled : series.payload.isSome = true := by
      rw [slotted.together, held]
      rfl
    obtain ⟨contents, found⟩ := Option.isSome_iff_exists.mp filled
    exact ⟨⟨contents, found, slotted.archive contents found⟩, _, held, slotted.trimmed _ held⟩

theorem markerSeen_eq_slot : markerSeen series.computer.files descriptor = series.slot := by
  ext version
  rw [markerSeen_eq_some]
  simp only [slotted.readText_markerPath within]
  constructor
  · rintro ⟨text, held, told⟩
    rw [held, ← told, slotted.trimmed text held]
  · intro held
    exact ⟨version, held, slotted.trimmed version held⟩

theorem isFile_artifactPath : series.computer.files.isFile descriptor.artifactPath = series.slot.isSome := by
  have leads := (isEntry_artifactPath descriptor).congr within
  rw [MemoryFiles.isFile_of_isEntry leads, slotted.inside, holding_artifactName, ← slotted.together]
  cases series.payload <;> rfl

/-- What has to be done depends on the slot alone. -/
theorem plan_eq (other : series.slot ≠ some descriptor.expectedVersion) :
    Plan.ofState (seen series.computer.files descriptor) descriptor.expectedVersion =
      .refresh (reasonFor series.slot) := by
  have told := slotted.markerSeen_eq_slot within
  have present := slotted.isFile_artifactPath within
  have unclaimed : (seen series.computer.files descriptor).claims descriptor.expectedVersion = false := by
    simp [State.claims, seen, told, other]
  rw [Plan.ofState, State.isUsable, State.isCorrupted, unclaimed]
  simp only [seen, told, present]
  cases held : series.slot with
  | none => rfl
  | some cached =>
      have differs : cached ≠ descriptor.expectedVersion := fun same => other (by rw [held, same])
      simp [differs, reasonFor]

end Slotted

/-- What an installation does in a series, and what the series has come to then. -/
structure Stepped (directory : Path) (series : Series) (visit : Visit) : Prop where
  result : (visit.outcome directory series.computer).1 =
    if series.slot = some visit.config.jarVersion then .ok (.alreadyCached visit.config.jarVersion)
    else (visit.sent directory).map fun _ => .installed visit.config.jarVersion (reasonFor series.slot)
  asked : (series.next directory visit).computer.asked = series.computer.asked ++
    if series.slot = some visit.config.jarVersion then [] else [(visit.descriptor directory).remoteLocation]
  slotted : Slotted directory (series.next directory visit)

namespace Slotted

variable (slotted : Slotted directory series)

include slotted

theorem usable_iff_version :
    Usable series.computer.files (visit.descriptor directory) ↔ series.slot = some visit.config.jarVersion :=
  slotted.usable_iff_slot rfl

theorem inside_ne_directory (visit : Visit) (name : Bytes) :
    series.computer.files.inside (visit.descriptor directory).cacheDir name ≠ some .directory := by
  change series.computer.files.inside directory name ≠ _
  rw [slotted.inside]
  exact holding_ne_directory

theorem stepped_of_held (held : series.slot = some visit.config.jarVersion) :
    Stepped directory series visit := by
  have ended : visit.outcome directory series.computer =
      (.ok (.alreadyCached visit.config.jarVersion), series.computer) :=
    outcome_install_of_usable visit.pid (slotted.usable_iff_version.mpr held)
  have kept : series.next directory visit = series := by
    rw [Series.next, ended]
    simp only [Except.isOk, Except.toBool, if_true, ← held]
  refine ⟨?_, ?_, ?_⟩
  · rw [ended, if_pos held]
  · rw [kept, if_pos held, List.append_nil]
  · rw [kept]
    exact slotted

theorem stepped_of_fault (other : series.slot ≠ some visit.config.jarVersion) {error : LauncherError}
    (fault : visit.sent directory = .error error) : Stepped directory series visit := by
  have unusable := mt slotted.usable_iff_version.mp other
  obtain ⟨after, ended, became⟩ :=
    outcome_install_of_fault visit.pid unusable (slotted.inside_ne_directory visit _) fault
  change visit.outcome directory series.computer = (.error error, after) at ended
  have stepped : series.next directory visit = { series with computer := after } := by
    rw [Series.next, ended]
    rfl
  have held : after.files.inside directory = holding series.slot series.payload := by
    calc
      after.files.inside directory =
          Function.update (series.computer.files.inside directory) (stagingName visit.pid) none := became.inside
      _ = Function.update (holding series.slot series.payload) (stagingName visit.pid) none := by
          rw [slotted.inside]
      _ = holding series.slot series.payload :=
          update_holding_none (stagingName_ne_artifactName _) (stagingName_ne_markerName _)
  refine ⟨?_, ?_, ?_⟩
  · rw [ended, if_neg other, fault]
    rfl
  · rw [stepped, if_neg other]
    exact became.asked
  · rw [stepped]
    exact ⟨held, fun name => by rw [became.unreadable]; exact slotted.readable name, slotted.together,
      slotted.trimmed, slotted.archive⟩

theorem stepped_of_document (fits : visit.Fits directory)
    (other : series.slot ≠ some visit.config.jarVersion) {contents : Bytes}
    (sent : visit.sent directory = .ok contents) : Stepped directory series visit := by
  have unusable := mt slotted.usable_iff_version.mp other
  have free := slotted.inside_ne_directory visit
  obtain ⟨reason, after, planned, ended, became⟩ :=
    outcome_install_of_document visit.pid unusable (free _) (free _) (free _) (free _) sent
  change visit.outcome directory series.computer =
    (.ok (.installed visit.config.jarVersion reason), after) at ended
  have given : reason = reasonFor series.slot := by
    have within : (visit.descriptor directory).cacheDir.components = directory.components := rfl
    have expected := slotted.plan_eq within other
    rw [planned] at expected
    exact Plan.refresh.inj expected
  have stepped : series.next directory visit =
      { computer := after, slot := some visit.config.jarVersion, payload := some contents } := by
    rw [Series.next, ended, sent]
    rfl
  have held : after.files.inside directory = holding (some visit.config.jarVersion) (some contents) := by
    have whole := became.inside
    change after.files.inside directory = Function.update (Function.update (Function.update
      (Function.update (series.computer.files.inside directory) _ _) _ _) _ _) _
        (some (.file (Utf8.encode visit.config.jarVersion))) at whole
    rw [slotted.inside, update_holding_installed] at whole
    exact whole
  refine ⟨?_, ?_, ?_⟩
  · rw [ended, if_neg other, sent, given]
    rfl
  · rw [stepped, if_neg other]
    exact became.asked
  · rw [stepped]
    refine ⟨held, ?_, rfl, ?_, ?_⟩
    · intro name
      rw [became.unreadable]
      exact slotted.readable name
    · intro version same
      cases same
      exact fits.trim_jarVersion
    · intro found same
      cases same
      exact fits.archive contents sent

/-- One installation keeps the cache a single slot. -/
theorem stepped (fits : visit.Fits directory) : Stepped directory series visit := by
  by_cases held : series.slot = some visit.config.jarVersion
  · exact slotted.stepped_of_held held
  cases sent : visit.sent directory with
  | error error => exact slotted.stepped_of_fault held sent
  | ok contents => exact slotted.stepped_of_document fits held sent

theorem foldl_next (visits : List Visit) (fits : ∀ visit ∈ visits, visit.Fits directory) :
    Slotted directory (visits.foldl (Series.next directory) series) := by
  induction visits generalizing series with
  | nil => exact slotted
  | cons visit visits ih =>
      have first := (slotted.stepped (fits visit List.mem_cons_self)).slotted
      exact ih first fun later member => fits later (List.mem_cons_of_mem visit member)

end Slotted

/-- However many installations have gone before, the next one asks for a document exactly when its version is
not in the slot, and it answers to what is in the slot; after it the cache is usable for the version in the
slot alone, and holds the last document and the text of that version. -/
theorem install_after_series (empty : EmptyDirectory files directory) (visits : List Visit) (visit : Visit)
    (fits : ∀ each ∈ visits ++ [visit], each.Fits directory) :
    let before := Series.after directory files visits
    let now := Series.after directory files (visits ++ [visit])
    let version := visit.config.jarVersion
    ((visit.outcome directory before.computer).1 =
      if before.slot = some version then .ok (.alreadyCached version)
      else (visit.sent directory).map fun _ => .installed version (reasonFor before.slot)) ∧
    (now.computer.asked = before.computer.asked ++
      if before.slot = some version then [] else [(visit.descriptor directory).remoteLocation]) ∧
    (∀ descriptor : Descriptor, descriptor.cacheDir.components = directory.components →
      (((isUsable descriptor).run (Computer.answer visit.serve) now.computer).1 = true ↔
        now.slot = some descriptor.expectedVersion) ∧
      now.computer.files.contents? descriptor.artifactPath = now.payload ∧
      now.computer.files.contents? descriptor.markerPath = now.slot.map Utf8.encode) ∧
    (∀ name, name ≠ artifactName → name ≠ markerName → now.computer.files.inside directory name = none) := by
  intro before now version
  have earlier : ∀ each ∈ visits, each.Fits directory := by
    intro each member
    exact fits each (List.mem_append_left _ member)
  have slotted : Slotted directory before := (slotted_start empty).foldl_next visits earlier
  have stepped := slotted.stepped (fits visit (by simp))
  have reached : now = before.next directory visit := Series.after_append directory files visits visit
  rw [reached]
  refine ⟨stepped.result, stepped.asked, ?_, ?_⟩
  · intro descriptor within
    refine ⟨?_, ?_, ?_⟩
    · rw [run_isUsable]
      exact stepped.slotted.usable_iff_slot within
    · rw [MemoryFiles.contents?_of_isEntry ((isEntry_artifactPath descriptor).congr within),
        stepped.slotted.inside, holding_artifactName]
      cases (before.next directory visit).payload <;> rfl
    · rw [MemoryFiles.contents?_of_isEntry ((isEntry_markerPath descriptor).congr within),
        stepped.slotted.inside, holding_markerName]
      cases (before.next directory visit).slot <;> rfl
  · intro name artifact marker
    rw [stepped.slotted.inside]
    exact holding_of_ne artifact marker

/-- An installation to which servers send the shortest of all archives. -/
def archiveVisit (version : String) : Visit where
  config := { jarVersion := version, downloadUrl := "http://localhost/" ++ placeholder ++ ".jar",
              java := "java", minJavaMajor := minimumMajor, cacheDir := none }
  pid := 1
  serve _ := .response { status := 200, phrase := [], chunks := [archiveSignature], bodyEnd := .complete }

theorem archiveVisit_fits {version : String} (directory : Path)
    (accepted : (archiveVisit version).config.toRaw.accept = .ok (archiveVisit version).config) :
    (archiveVisit version).Fits directory where
  accepted := ⟨_, accepted⟩
  archive := by
    intro contents sent
    have same : archiveSignature = contents := Except.ok.inj sent
    rw [← same]
    decide

/-- An upgrade: the second of two installations finds the first one's version in the slot. -/
theorem install_after_archive :
    let directory : Path := .ofString "cache"
    EmptyDirectory {} directory ∧
    (∀ each ∈ [archiveVisit "1.0.0"] ++ [archiveVisit "2.0.0"], each.Fits directory) ∧
    ((archiveVisit "2.0.0").outcome directory
      (Series.after directory {} [archiveVisit "1.0.0"]).computer).1 =
        .ok (.installed "2.0.0" (.versionMismatch "1.0.0")) := by
  intro directory
  have empty : EmptyDirectory {} directory := ⟨fun _ => rfl, fun _ => rfl⟩
  have fits : ∀ each ∈ [archiveVisit "1.0.0"] ++ [archiveVisit "2.0.0"], each.Fits directory := by
    intro each member
    rcases List.mem_cons.mp member with rfl | member
    · exact archiveVisit_fits directory rfl
    · rw [List.mem_singleton.mp member]
      exact archiveVisit_fits directory rfl
  have first := (install_after_series empty [] (archiveVisit "1.0.0") fun each member =>
    fits each (List.mem_append_left _ member)).1
  have second := (install_after_series empty [archiveVisit "1.0.0"] (archiveVisit "2.0.0") fits).1
  have ended : ((archiveVisit "1.0.0").outcome directory (Series.after directory {} []).computer).1 =
      .ok (.installed "1.0.0" .missing) := by
    have before : (Series.after directory {} []).slot = none := rfl
    rw [before, if_neg nofun] at first
    rw [first]
    rfl
  have slot : (Series.after directory {} [archiveVisit "1.0.0"]).slot = some "1.0.0" := by
    rw [show [archiveVisit "1.0.0"] = [] ++ [archiveVisit "1.0.0"] from rfl, Series.after_append]
    exact Series.slot_next ended
  rw [slot, if_neg (by decide)] at second
  rw [second]
  exact ⟨empty, fits, rfl⟩

end JarLauncher.Cache
