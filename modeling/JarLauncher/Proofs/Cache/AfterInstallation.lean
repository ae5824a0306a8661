import JarLauncher.Proofs.Cache.SingleSlot

/-!
What an installation that has succeeded leaves behind. A download is not looked into before it takes its place, so
that the cache is usable afterwards only if the document that was sent is an archive.
-/

namespace JarLauncher.Cache

open Download Files Machine

section

variable {serve : String → Transfer} {descriptor : Descriptor} {computer after : Computer} {files : MemoryFiles}
  {pid : Nat}

/-- A marker that has been written had room, and so had the file in which it was prepared. -/
theorem free_of_writeMarker {done : Unit}
    (ended : Attempt.outcome (Computer.answer serve) (writeMarker pid descriptor) computer = (.ok done, after)) :
    computer.files.inside descriptor.cacheDir (temporaryName pid) ≠ some .directory ∧
      computer.files.inside descriptor.cacheDir markerName ≠ some .directory := by
  have free : computer.files.inside descriptor.cacheDir (temporaryName pid) ≠ some .directory := by
    intro blocked
    have obstacle : computer.files.obstacle? (writingMarker descriptor pid) = some Fault.isDirectory := by
      rw [writingMarker, MemoryFiles.obstacle?,
        MemoryFiles.find?_of_isEntry (isEntry_temporaryMarkerPath descriptor pid), if_pos blocked]
    have writing : Computer.answer serve (writingMarker descriptor pid) computer = (.error _, computer) :=
      Computer.reported_of_blocked obstacle
    rw [outcome_writeMarker_of_unwritten writing] at ended
    cases ended
  refine ⟨free, ?_⟩
  intro blocked
  obtain ⟨report, left, failed, _⟩ := outcome_writeMarker_of_blocked serve pid free blocked
  rw [failed] at ended
  cases ended

/-- What has succeeded in a refresh was sent a document, and nothing stood in its way. -/
theorem document_of_install {done : Outcome} (unusable : ¬Usable computer.files descriptor)
    (ended : Attempt.outcome (Computer.answer serve) (install pid descriptor) computer = (.ok done, after)) :
    computer.files.inside descriptor.cacheDir (stagingName pid) ≠ some .directory ∧
      computer.files.inside descriptor.cacheDir (temporaryName pid) ≠ some .directory ∧
      computer.files.inside descriptor.cacheDir artifactName ≠ some .directory ∧
      computer.files.inside descriptor.cacheDir markerName ≠ some .directory ∧
      ∃ contents, (serve descriptor.remoteLocation).document descriptor.remoteLocation = .ok contents := by
  obtain ⟨reason, planned⟩ := exists_refresh unusable
  obtain ⟨place, beside⟩ := beside_artifactPath descriptor pid
  have looked : Attempt.outcome (Computer.answer serve) (ExceptT.lift (plan descriptor) : Attempt Plan) computer =
      (.ok (.refresh reason), computer) := by
    rw [Attempt.outcome_lift, run_plan, planned]
  unfold install at ended
  rw [Attempt.outcome_bind_of_ok looked] at ended
  obtain ⟨_, fetched, fetching, writing⟩ := Attempt.outcome_bind_eq_ok ended
  obtain ⟨_, _, marked, _⟩ := Attempt.outcome_bind_eq_ok writing
  obtain ⟨staging, artifact, contents, sent⟩ := document_of_fetch serve beside fetching
  obtain ⟨downloaded, placed, _, kept⟩ := outcome_fetch_of_document pid staging artifact sent
  rw [placed, Prod.mk.injEq] at fetching
  obtain ⟨_, rfl⟩ := fetching
  obtain ⟨temporary, marker⟩ := free_of_writeMarker marked
  rw [kept _ (stagingName_ne_temporaryName pid pid).symm (temporaryName_ne_artifactName pid)] at temporary
  rw [kept _ (stagingName_ne_markerName pid).symm artifactName_ne_markerName.symm] at marker
  exact ⟨staging, temporary, artifact, marker, contents, sent⟩

/-- With the wanted marker beside it, an engine that may be read is usable exactly if it is an archive. -/
theorem usable_iff_of_filled {contents : Bytes}
    (engine : files.inside descriptor.cacheDir artifactName = some (.file contents))
    (marker : files.inside descriptor.cacheDir markerName = some (.file (Utf8.encode descriptor.expectedVersion)))
    (trimmed : Text.trim descriptor.expectedVersion = descriptor.expectedVersion) :
    Usable files descriptor ↔
      files.unreadable descriptor.artifactPath.components = false ∧
        files.unreadable descriptor.markerPath.components = false ∧ startsAsArchive contents = true := by
  rw [usable_iff]
  simp only [MemoryFiles.readText_eq_ok, MemoryFiles.read_eq_ok (isEntry_artifactPath descriptor),
    MemoryFiles.read_eq_ok (isEntry_markerPath descriptor), engine, marker]
  constructor
  · rintro ⟨⟨read, ⟨readable, same⟩, archive⟩, _, ⟨_, ⟨told, _⟩, _⟩, _⟩
    cases same
    exact ⟨readable, told, archive⟩
  · rintro ⟨readable, told, archive⟩
    exact ⟨⟨contents, ⟨readable, rfl⟩, archive⟩, descriptor.expectedVersion,
      ⟨_, ⟨told, rfl⟩, Utf8.decode_encode _⟩, trimmed⟩

/-- After a refresh, the cache is usable exactly if the document that was sent is an archive. -/
theorem usable_after_refresh {done : Outcome} {contents : Bytes} (unusable : ¬Usable computer.files descriptor)
    (ended : Attempt.outcome (Computer.answer serve) (install pid descriptor) computer = (.ok done, after))
    (sent : (serve descriptor.remoteLocation).document descriptor.remoteLocation = .ok contents)
    (trimmed : Text.trim descriptor.expectedVersion = descriptor.expectedVersion) :
    Usable after.files descriptor ↔
      computer.files.unreadable descriptor.artifactPath.components = false ∧
        computer.files.unreadable descriptor.markerPath.components = false ∧ startsAsArchive contents = true := by
  obtain ⟨staging, temporary, artifact, marker, _⟩ := document_of_install unusable ended
  obtain ⟨reason, filled, _, installed, became⟩ :=
    outcome_install_of_document pid unusable staging temporary artifact marker sent
  rw [installed, Prod.mk.injEq] at ended
  obtain ⟨_, rfl⟩ := ended
  have engine : filled.files.inside descriptor.cacheDir artifactName = some (.file contents) := by
    rw [became.inside, Function.update_of_ne artifactName_ne_markerName,
      Function.update_of_ne (temporaryName_ne_artifactName pid).symm, Function.update_self]
  have told : filled.files.inside descriptor.cacheDir markerName =
      some (.file (Utf8.encode descriptor.expectedVersion)) := by
    rw [became.inside, Function.update_self]
  rw [usable_iff_of_filled engine told trimmed, became.unreadable]

/-- An installation answers that the version is there already only if it is usable as it is. -/
theorem usable_of_alreadyCached {version : String}
    (ended : Attempt.outcome (Computer.answer serve) (install pid descriptor) computer =
      (.ok (.alreadyCached version), after)) : Usable computer.files descriptor := by
  by_contra unusable
  obtain ⟨staging, temporary, artifact, marker, contents, sent⟩ := document_of_install unusable ended
  obtain ⟨reason, filled, _, installed, _⟩ :=
    outcome_install_of_document pid unusable staging temporary artifact marker sent
  rw [installed] at ended
  cases ended

end

/-- Right after an installation for accepted settings that has succeeded, whatever was in the cache and whatever
was sent, the cache is usable exactly if it was before or if the document that was sent is an archive (and the two
files may be read). Then, and only then, another installation finds the version there and asks for nothing. -/
theorem usable_after_installation {raw : RawConfig} {config : Config} (accepted : raw.accept = .ok config)
    (directory : Path) (pid : Nat) (serve : String → Transfer) {computer after : Computer} {done : Outcome}
    (ended : Attempt.outcome (Computer.answer serve) (install pid (config.descriptorIn directory)) computer =
      (.ok done, after)) :
    let descriptor := config.descriptorIn directory
    let verdict (again : String → Transfer) := ((isUsable descriptor).run (Computer.answer again) after).1
    (∀ again, verdict again = true ↔
      done = .alreadyCached config.jarVersion ∨
        computer.files.unreadable descriptor.artifactPath.components = false ∧
          computer.files.unreadable descriptor.markerPath.components = false ∧
          ∃ contents, (serve descriptor.remoteLocation).document descriptor.remoteLocation = .ok contents ∧
            startsAsArchive contents = true) ∧
    ∀ other again, Attempt.outcome (Computer.answer again) (install other descriptor) after =
      (.ok (.alreadyCached config.jarVersion), after) ↔ verdict again = true := by
  intro descriptor verdict
  have looked (again : String → Transfer) : verdict again = true ↔ Usable after.files descriptor := by
    simp only [verdict, run_isUsable]
    rfl
  refine ⟨?_, ?_⟩
  · intro again
    rw [looked]
    rcases Classical.em (Usable computer.files descriptor) with usable | unusable
    · rw [outcome_install_of_usable pid usable] at ended
      cases ended
      exact iff_of_true usable (.inl rfl)
    · obtain ⟨_, _, _, _, contents, sent⟩ := document_of_install unusable ended
      rw [usable_after_refresh unusable ended sent (Config.trim_jarVersion accepted)]
      constructor
      · rintro ⟨artifact, marker, archive⟩
        exact .inr ⟨artifact, marker, contents, sent, archive⟩
      · rintro (rfl | ⟨artifact, marker, found, same, archive⟩)
        · exact absurd (usable_of_alreadyCached ended) unusable
        · rw [sent] at same
          cases same
          exact ⟨artifact, marker, archive⟩
  · intro other again
    rw [looked]
    exact ⟨usable_of_alreadyCached, outcome_install_of_usable other⟩

/-- After an installation that was sent an archive, the cache is usable. -/
theorem usable_after_archive :
    let visit := archiveVisit "1.0.0"
    let directory : Path := .ofString "cache"
    ∃ reason after, visit.outcome directory { files := {} } = (.ok (.installed "1.0.0" reason), after) ∧
      ((isUsable (visit.descriptor directory)).run (Computer.answer visit.serve) after).1 = true := by
  intro visit directory
  have accepted : (archiveVisit "1.0.0").config.toRaw.accept = .ok (archiveVisit "1.0.0").config := rfl
  let location := (visit.descriptor directory).remoteLocation
  have sent : (visit.serve location).document location = .ok archiveSignature := rfl
  obtain ⟨reason, after, installed, _⟩ := outcome_install_first visit.pid sent
  have told := (usable_after_installation accepted directory visit.pid visit.serve installed).1 visit.serve
  exact ⟨reason, after, installed, told.mpr (.inr ⟨rfl, rfl, archiveSignature, sent, by decide⟩)⟩

/-- What a network that wants to be logged in to sends in the place of any document. -/
def loginPage : Bytes := Utf8.encode "<html>login page</html>"

/-- An installation to which every server sends a login page. -/
def captiveVisit : Visit :=
  { archiveVisit "1.0.0" with
    serve := fun _ =>
      .response { status := 200, phrase := [], chunks := [loginPage], bodyEnd := .complete } }

/-- An installation may succeed in downloading a login page, which leaves nothing that can be launched. -/
theorem unusable_after_loginPage :
    let directory : Path := .ofString "cache"
    captiveVisit.config.toRaw.accept = .ok captiveVisit.config ∧
    ∃ reason after,
      captiveVisit.outcome directory { files := {} } = (.ok (.installed "1.0.0" reason), after) ∧
      ((isUsable (captiveVisit.descriptor directory)).run (Computer.answer captiveVisit.serve) after).1 = false ∧
      (captiveVisit.outcome directory after).1 ≠ .ok (.alreadyCached "1.0.0") := by
  intro directory
  let location := (captiveVisit.descriptor directory).remoteLocation
  have sent : (captiveVisit.serve location).document location = .ok loginPage := rfl
  obtain ⟨reason, after, installed, _⟩ := outcome_install_first captiveVisit.pid sent
  have unusable : ¬Usable after.files (captiveVisit.descriptor directory) := by
    rw [usable_after_refresh (not_usable_empty _) installed sent (by decide +kernel)]
    rintro ⟨_, _, archive⟩
    exact absurd archive (by decide)
  refine ⟨rfl, reason, after, installed, ?_, ?_⟩
  · rw [run_isUsable]
    exact Bool.eq_false_iff.mpr unusable
  · intro again
    exact unusable (usable_of_alreadyCached (Prod.ext again rfl))

end JarLauncher.Cache
