import JarLauncher.Proofs.Cache.SharedCache

/-!
Versions side by side in one cache directory. While the engine of one version stands beside the marker of another,
the cache is usable for the version that the marker tells, whatever the engine is.
-/

namespace JarLauncher.Cache

open Download Files Machine

/-- Whether the engine is a document that was downloaded from the location that is wanted. -/
def HoldsWanted {Value : Type} (pool : Pool Value) (descriptor : Descriptor) : Prop :=
  ∃ contents pid, pool.files.contents? descriptor.artifactPath = some contents ∧
    DownloadedBy pool.log pid descriptor.remoteLocation contents

/-- A release of the engine that is wanted in the directory `cache`. -/
def release (version : String) : Descriptor where
  expectedVersion := version
  remoteLocationTemplate := "http://localhost/" ++ placeholder ++ ".jar"
  cacheDir := .ofString "cache"

/-- The engine of a release: an archive with nothing in it but the version. -/
def releaseBytes (version : String) : Bytes :=
  archiveSignature ++ Utf8.encode version

def serveReleases (url : String) : Transfer :=
  let version := if url = (release "1.0.0").remoteLocation then "1.0.0" else "2.0.0"
  .response { status := 200, phrase := [], chunks := [releaseBytes version], bodyEnd := .complete }

/-- An installation of the first release beside an upgrade to the second. -/
def upgrading : Nat → Option Descriptor
  | 1 => some (release "1.0.0")
  | 2 => some (release "2.0.0")
  | _ => none

theorem document_serveReleases_first :
    (serveReleases (release "1.0.0").remoteLocation).document (release "1.0.0").remoteLocation =
      .ok (releaseBytes "1.0.0") := by
  unfold serveReleases
  rw [if_pos rfl]
  rfl

theorem document_serveReleases_second :
    (serveReleases (release "2.0.0").remoteLocation).document (release "2.0.0").remoteLocation =
      .ok (releaseBytes "2.0.0") := by
  have apart : (release "2.0.0").remoteLocation ≠ (release "1.0.0").remoteLocation := by decide +kernel
  unfold serveReleases
  rw [if_neg apart]
  rfl

/-- The first installation has run to its end, and the upgrade has not begun. -/
theorem exists_installed_pool :
    ∃ (computer : Computer) (pool : Pool (Except LauncherError Outcome)),
      (sharing {} upgrading).Reaches pool ∧ Served serveReleases pool.log ∧
      pool.files = computer.files ∧ computer.files.unreadable = (fun _ => false) ∧
      pool.processes 2 = some (ExceptT.run (install 2 (release "2.0.0"))) ∧
      computer.files.inside (.ofString "cache") = holding (some "1.0.0") (some (releaseBytes "1.0.0")) := by
  obtain ⟨_, after, installed, readable, held⟩ := outcome_install_first 1 document_serveReleases_first
  have waiting : (sharing {} upgrading).processes 1 = some (ExceptT.run (install 1 (release "1.0.0"))) := rfl
  obtain ⟨pool, reached, served, files, processes⟩ := Pool.reaches_whole_attempt waiting rfl nofun installed
  refine ⟨after, pool, reached, served, files, readable, ?_, held⟩
  rw [processes]
  rfl

/-- The upgrade has placed its engine, and the marker is still the one of the first release. -/
theorem exists_mixed_pool :
    ∃ pool : Pool (Except LauncherError Outcome), (sharing {} upgrading).Reaches pool ∧
      Served serveReleases pool.log ∧ pool.files.unreadable = (fun _ => false) ∧
      pool.files.inside (.ofString "cache") = holding (some "1.0.0") (some (releaseBytes "2.0.0")) := by
  obtain ⟨installed, pool, started, served, same, readable, waiting, held⟩ := exists_installed_pool
  have filled : installed.files.inside (release "2.0.0").cacheDir =
      holding (some "1.0.0") (some (releaseBytes "1.0.0")) := held
  have unusable : ¬Usable installed.files (release "2.0.0") := by
    rw [usable_iff_holding filled fun _ => by rw [readable]]
    rintro ⟨_, version, slot, told⟩
    cases slot
    exact absurd told (by decide +kernel)
  have free (name : Bytes) : installed.files.inside (release "2.0.0").cacheDir name ≠ some .directory := by
    rw [filled]
    exact holding_ne_directory
  -- it looks at the cache
  obtain ⟨reason, planned⟩ := exists_refresh unusable
  have looked : Attempt.outcome (Computer.answer serveReleases)
      (ExceptT.lift (plan (release "2.0.0")) : Attempt Plan) installed = (.ok (.refresh reason), installed) := by
    rw [Attempt.outcome_lift, run_plan, planned]
  obtain ⟨second, looking, secondServed, secondFiles, secondProcesses⟩ :=
    Pool.reaches_attempt waiting same served looked
  -- it downloads the engine
  obtain ⟨place, beside⟩ := beside_artifactPath (release "2.0.0") 2
  obtain ⟨after, downloaded, became⟩ :=
    outcome_fetch_of_ok serveReleases beside (free _) (free _) document_serveReleases_second
  have working : second.processes 2 = some (ExceptT.run
      (fetch 2 (release "2.0.0").remoteLocation (release "2.0.0").artifactPath >>= fun _ => do
        writeMarker 2 (release "2.0.0")
        return .installed (release "2.0.0").expectedVersion reason)) := by
    rw [secondProcesses]
    exact Function.update_self _ _ _
  obtain ⟨third, fetching, thirdServed, thirdFiles, _⟩ :=
    Pool.reaches_attempt working secondFiles secondServed downloaded
  refine ⟨third, (started.trans looking).trans fetching, thirdServed, ?_, ?_⟩
  · rw [thirdFiles, became.unreadable, readable]
  · have mixed := became.inside
    rw [filled, update_holding_none (stagingName_ne_artifactName 2) (stagingName_ne_markerName 2),
      update_holding_artifact, ← thirdFiles] at mixed
    exact mixed

/-- In the middle of the upgrade, the first release is told to be usable. -/
theorem isUsable_of_mixed {files : MemoryFiles} (readable : files.unreadable = fun _ => false)
    (mixed : files.inside (.ofString "cache") = holding (some "1.0.0") (some (releaseBytes "2.0.0"))) :
    ((isUsable (release "1.0.0")).run (Computer.answer serveReleases) { files }).1 = true := by
  have mixedHere : files.inside (release "1.0.0").cacheDir =
      holding (some "1.0.0") (some (releaseBytes "2.0.0")) := mixed
  rw [run_isUsable]
  change Usable files (release "1.0.0")
  rw [usable_iff_holding mixedHere fun _ => by rw [readable]]
  exact ⟨⟨_, rfl, by decide⟩, _, rfl, by decide +kernel⟩

theorem upgrading_within (pid : Nat) (installing : Descriptor) (installs : upgrading pid = some installing) :
    installing.cacheDir.components = (Path.ofString "cache").components := by
  unfold upgrading at installs
  split at installs
  · cases installs
    rfl
  · cases installs
    rfl
  · cases installs

/-- A cache directory that was empty is usable only when some process has placed the engine, which is an
archive that this process has downloaded, and some process has placed the wanted marker after an engine of its
own. The engine is a wanted document if the last process to place an engine wanted the same location, and, as
long as no two locations have the same document, only then. -/
theorem usable_while_shared {directory : Path} {crew : Nat → Option Descriptor} {initial : MemoryFiles}
    {pool : Pool (Except LauncherError Outcome)} {descriptor : Descriptor} {serve : String → Transfer}
    (within : ∀ pid installing, crew pid = some installing →
      installing.cacheDir.components = directory.components)
    (empty : ∀ name, initial.inside directory name = none)
    (reached : (sharing initial crew).Reaches pool)
    (here : descriptor.cacheDir.components = directory.components)
    (usable : ((isUsable descriptor).run (Computer.answer serve) { files := pool.files }).1 = true) :
    ∃ placer placing contents, placer? pool.log = some placer ∧ crew placer = some placing ∧
      pool.files.contents? descriptor.artifactPath = some contents ∧ startsAsArchive contents = true ∧
      DownloadedBy pool.log placer placing.remoteLocation contents ∧
      (∃ marker marking, marker? pool.log = some marker ∧ crew marker = some marking ∧
        Text.trim marking.expectedVersion = descriptor.expectedVersion ∧
        ∃ exchange ∈ pool.log, exchange.process = marker ∧ exchange.places = true) ∧
      (placing.remoteLocation = descriptor.remoteLocation → HoldsWanted pool descriptor) ∧
      ((∀ pid other url elsewhere document, DownloadedBy pool.log pid url document →
          DownloadedBy pool.log other elsewhere document → url = elsewhere) →
        HoldsWanted pool descriptor → placing.remoteLocation = descriptor.remoteLocation) := by
  have sound := (sound_sharing crew initial within).reaches reached
  rw [run_isUsable] at usable
  obtain ⟨⟨contents, read, archive⟩, text, told, version⟩ := usable_iff.mp usable
  obtain ⟨bytes, marked, decoded⟩ := MemoryFiles.readText_eq_ok.mp told
  have artifactLeads := (isEntry_artifactPath descriptor).congr here
  have markerLeads := (isEntry_markerPath descriptor).congr here
  have engine := ((MemoryFiles.read_eq_ok artifactLeads).mp read).2
  have marker := ((MemoryFiles.read_eq_ok markerLeads).mp marked).2
  have held := MemoryFiles.contents?_of_read read
  rcases sound.engine with ⟨_, same⟩ | ⟨placer, placing, document, last, installs, downloaded, found⟩
  · rw [engine, empty] at same
    cases same
  rcases sound.marker with ⟨_, same⟩ | ⟨writer, marking, lastMarker, writes, earlier, tells⟩
  · rw [marker, empty] at same
    cases same
  have whole : contents = document := by
    rw [engine] at found
    cases found
    rfl
  have spelled : text = marking.expectedVersion := by
    rw [marker] at tells
    cases tells
    rw [Utf8.decode_encode] at decoded
    exact (Except.ok.inj decoded).symm
  subst whole spelled
  refine ⟨placer, placing, contents, last, installs, held, archive, downloaded,
    ⟨writer, marking, lastMarker, writes, version, earlier⟩, ?_, ?_⟩
  · intro same
    exact ⟨contents, placer, held, same ▸ downloaded⟩
  · rintro distinct ⟨other, pid, found, wanted⟩
    rw [held] at found
    cases found
    exact distinct placer pid _ _ contents downloaded wanted

/-- So it is in the middle of an upgrade. -/
theorem usable_while_upgrading :
    ∃ pool : Pool (Except LauncherError Outcome), (sharing {} upgrading).Reaches pool ∧
      ((isUsable (release "1.0.0")).run (Computer.answer serveReleases) { files := pool.files }).1 = true ∧
      ∃ placer, placer? pool.log = some placer := by
  obtain ⟨pool, reached, _, readable, mixed⟩ := exists_mixed_pool
  have told := isUsable_of_mixed readable mixed
  obtain ⟨placer, _, _, last, _⟩ := usable_while_shared upgrading_within (fun _ => rfl) reached rfl told
  exact ⟨pool, reached, told, placer, last⟩

/-- The first release is told to be usable while the engine is the one of the second. -/
theorem usable_with_another_engine :
    ∃ pool : Pool (Except LauncherError Outcome), (sharing {} upgrading).Reaches pool ∧
      ((isUsable (release "1.0.0")).run (Computer.answer serveReleases) { files := pool.files }).1 = true ∧
      ¬HoldsWanted pool (release "1.0.0") := by
  obtain ⟨pool, reached, served, readable, mixed⟩ := exists_mixed_pool
  refine ⟨pool, reached, isUsable_of_mixed readable mixed, ?_⟩
  rintro ⟨contents, pid, found, transfer, member, sent⟩
  rw [MemoryFiles.contents?_of_isEntry (isEntry_artifactPath (release "1.0.0"))] at found
  change (pool.files.inside (.ofString "cache") artifactName).bind _ = _ at found
  rw [mixed, holding_artifactName] at found
  cases found
  rw [served _ _ _ member, document_serveReleases_first] at sent
  exact absurd (Except.ok.inj sent) (by decide)

end JarLauncher.Cache
