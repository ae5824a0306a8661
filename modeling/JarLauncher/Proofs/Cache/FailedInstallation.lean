import JarLauncher.Proofs.Cache.CheckerProtocol
import JarLauncher.Proofs.Cache.SingleSlot
import JarLauncher.Proofs.Download.Remains

/-!
What an installation leaves of its hidden files when it fails, on any machine that can remove files. The download has
no exit without cleaning up; the marker has one, where writing its temporary file fails.
-/

namespace JarLauncher.Cache

open Download Files Machine

section

variable {World : Type} {answering : Answering World} {files : World → MemoryFiles}
  {world after : World} {descriptor : Descriptor} {pid : Nat} {error : LauncherError}

/-- An installation fails with its download, or else in writing the marker. -/
theorem exits_of_failed_install
    (failed : Attempt.outcome answering (install pid descriptor) world = (.error error, after)) :
    let planned := (plan descriptor).run answering world
    let fetched :=
      Attempt.outcome answering (fetch pid descriptor.remoteLocation descriptor.artifactPath) planned.2
    fetched = (.error error, after) ∨
      fetched.1.isOk = true ∧
        Attempt.outcome answering (writeMarker pid descriptor) fetched.2 = (.error error, after) := by
  intro planned fetched
  have looked : Attempt.outcome answering (ExceptT.lift (plan descriptor)) world = (.ok planned.1, planned.2) :=
    Attempt.outcome_lift _
  unfold install at failed
  rw [Attempt.outcome_bind_of_ok looked] at failed
  cases made : planned.1 with
  | upToDate =>
      rw [made] at failed
      cases failed
  | refresh reason =>
      rw [made] at failed
      unfold apply at failed
      rcases ended : fetched with ⟨fault | path, reached⟩
      · rw [Attempt.outcome_bind_of_error ended] at failed
        cases failed
        exact .inl rfl
      · rw [Attempt.outcome_bind_of_ok ended] at failed
        refine .inr ⟨rfl, ?_⟩
        rcases marked : Attempt.outcome answering (writeMarker pid descriptor) reached with ⟨fault | done, written⟩
        · rw [Attempt.outcome_bind_of_error marked] at failed
          cases failed
          rfl
        · rw [Attempt.outcome_bind_of_ok marked] at failed
          cases failed

variable (faithful : Faithful answering files)

include faithful

/-- Whatever is looked at for a plan, the files stay as they are. -/
theorem files_of_plan (descriptor : Descriptor) (world : World) :
    files ((plan descriptor).run answering world).2 = files world := by
  have looking : (observe descriptor).Keeps (checkerProtocol descriptor) _ {} := observe_keeps_checker rfl
  have idle (sighting : Sighting) (request : Request) (current : World)
      (viewing : Viewing descriptor sighting request) (same : files current = files world) :
      files (answering request current).2 = files world := by
    rw [← same]
    cases request with
    | isFile path | readText path | openFile path => exact (faithful _ current).same rfl rfl
    | _ => exact viewing.elim
  unfold plan
  rw [Procedure.run_bind]
  exact looking.holds_run (files · = files world) idle rfl

/-- A marker that cannot be installed is removed. One that cannot be written is left, as far as it got. -/
theorem remains_of_writeMarker (removes : Removes answering files)
    (failed : Attempt.outcome answering (writeMarker pid descriptor) world = (.error error, after)) :
    let temporary := temporaryMarkerPath descriptor pid
    let written := answering (.writeFile temporary (Utf8.encode descriptor.expectedVersion)) world
    (∀ other, other ≠ temporaryName pid → other ≠ markerName →
      (files after).inside descriptor.cacheDir other = (files world).inside descriptor.cacheDir other) ∧
    ((files after).isFile temporary = true ↔
      written.1.isOk = false ∧ (files written.2).isFile temporary = true) := by
  intro temporary written
  have temporaryLeads := isEntry_temporaryMarkerPath descriptor pid
  have markerLeads := isEntry_markerPath descriptor
  have preparing (other : Bytes) (apart : other ≠ temporaryName pid) :
      (files written.2).inside descriptor.cacheDir other = (files world).inside descriptor.cacheDir other :=
    (faithful (writingMarker descriptor pid) world).inside_of_writeFile temporaryLeads apart
  cases writing : written.1 with
  | error report =>
      have ended : answering (writingMarker descriptor pid) world = (.error report, written.2) :=
        Prod.ext writing rfl
      rw [outcome_writeMarker_of_unwritten ended] at failed
      cases failed
      exact ⟨fun other apart _ => preparing other apart, by simp [Except.isOk, Except.toBool]⟩
  | ok done =>
      have ended : answering (writingMarker descriptor pid) world = (.ok (), written.2) :=
        Prod.ext writing rfl
      have moving := faithful (movingMarker descriptor pid) written.2
      rcases installing : answering (movingMarker descriptor pid) written.2 with ⟨report | done, moved⟩
      · rw [outcome_writeMarker_of_written ended installing] at failed
        cases failed
        rw [installing] at moving
        have removing := faithful (.removeFile temporary) moved
        have gone := removing.isFile_of_removed rfl rfl rfl fun there => (removes temporary moved there).1
        refine ⟨?_, iff_of_false (Bool.eq_false_iff.mp gone) (by simp [Except.isOk, Except.toBool])⟩
        intro other apart aside
        have removed : (MemoryFiles.after (files moved) (.removeFile temporary)).inside descriptor.cacheDir other =
            (files moved).inside descriptor.cacheDir other := by
          rw [MemoryFiles.after, MemoryFiles.inside_put temporaryLeads, Function.update_of_ne apart]
        have kept := moving.inside_of_whole rfl
          (MemoryFiles.inside_moved_of_ne temporaryLeads markerLeads apart aside)
        rw [removing.inside_of_whole rfl removed, kept, preparing other apart]
      · rw [outcome_writeMarker_of_written ended installing] at failed
        cases failed

/-- After an installation that has failed, the hidden file of the download is gone. The hidden file of the marker is
there exactly if it was before and the download has failed, or if it could not be written but was made. -/
theorem hiddenFiles_of_failed_install (removes : Removes answering files)
    (failed : Attempt.outcome answering (install pid descriptor) world = (.error error, after)) :
    let temporary := temporaryMarkerPath descriptor pid
    let planned := (plan descriptor).run answering world
    let fetched :=
      Attempt.outcome answering (fetch pid descriptor.remoteLocation descriptor.artifactPath) planned.2
    let written := answering (.writeFile temporary (Utf8.encode descriptor.expectedVersion)) fetched.2
    (files after).isFile (stagingPath descriptor.artifactPath pid) = false ∧
    ((files after).isFile temporary = true ↔
      if fetched.1.isOk then written.1.isOk = false ∧ (files written.2).isFile temporary = true
      else (files world).isFile temporary = true) := by
  intro temporary planned fetched written
  obtain ⟨place, beside⟩ := beside_artifactPath descriptor pid
  have temporaryLeads := isEntry_temporaryMarkerPath descriptor pid
  have same : files planned.2 = files world := files_of_plan faithful descriptor world
  have gone : (files fetched.2).isFile (stagingPath descriptor.artifactPath pid) = false :=
    isFile_hidden_of_fetch faithful removes beside _ _
  have kept (other : Bytes) (apart : other ≠ stagingName pid) (aside : other ≠ artifactName) :
      (files fetched.2).inside descriptor.cacheDir other = (files world).inside descriptor.cacheDir other := by
    rw [← same]
    exact elsewhere_of_fetch faithful beside apart aside _ _
  -- a failed download has not touched the marker's file; behind a download, the marker decides about it alone
  obtain stopped | ⟨success, marked⟩ := exits_of_failed_install failed
  · change fetched = _ at stopped
    have untouched := kept (temporaryName pid) (stagingName_ne_temporaryName pid pid).symm
      (temporaryName_ne_artifactName pid)
    have remains : (files fetched.2).isFile temporary = (files world).isFile temporary := by
      rw [MemoryFiles.isFile_of_isEntry temporaryLeads, untouched, ← MemoryFiles.isFile_of_isEntry temporaryLeads]
    rw [stopped] at gone remains
    simp only [stopped]
    exact ⟨gone, by rw [remains]; rfl⟩
  · obtain ⟨still, remains⟩ := remains_of_writeMarker faithful removes marked
    have staging := still (stagingName pid) (stagingName_ne_temporaryName pid pid) (stagingName_ne_markerName pid)
    change fetched.1.isOk = true at success
    refine ⟨?_, ?_⟩
    · rw [MemoryFiles.isFile_of_isEntry beside.staged, staging, ← MemoryFiles.isFile_of_isEntry beside.staged]
      exact gone
    · rw [if_pos success]
      exact remains

end

theorem removes_answer (serve : String → Transfer) : Removes (Computer.answer serve) Computer.files := by
  intro path computer there
  have clear : computer.files.obstacle? (.removeFile path) = none := by
    rw [MemoryFiles.obstacle?, if_pos there]
  constructor
  · change (computer.reported (.removeFile path)).1.isOk = true
    rw [Computer.reported_of_changed (Computer.changed_of_clear clear)]
    rfl
  · change (computer.changed (.discard path)).1.isOk = true
    rw [Computer.changed, MemoryFiles.obstacle?, if_pos there]
    rfl

/-- What is wanted in a cache in which a directory has the place of the marker. -/
def blockedRelease : Descriptor :=
  (archiveVisit "1.0.0").descriptor (.ofString "cache")

/-- What comes of an installation there. -/
def blockedOutcome : Except LauncherError Outcome × Computer :=
  Attempt.outcome (Computer.answer (archiveVisit "1.0.0").serve) (install 1 blockedRelease)
    { files := MemoryFiles.addDirectory {} blockedRelease.markerPath }

theorem hiddenFiles_of_blockedMarker :
    blockedOutcome.1.isOk = false ∧
      blockedOutcome.2.files.isFile (stagingPath blockedRelease.artifactPath 1) = false ∧
      blockedOutcome.2.files.isFile (temporaryMarkerPath blockedRelease 1) = false := by
  have faithful : Faithful (Computer.answer (archiveVisit "1.0.0").serve) Computer.files :=
    fun request computer => responds_answer (archiveVisit "1.0.0").serve computer request
  have fails : blockedOutcome.1.isOk = false := by decide +kernel
  refine ⟨fails, ?_⟩
  rcases failed : blockedOutcome with ⟨error | done, after⟩
  · obtain ⟨gone, remains⟩ := hiddenFiles_of_failed_install faithful (removes_answer _) failed
    refine ⟨gone, ?_⟩
    rw [Bool.eq_false_iff, ne_eq, remains]
    decide +kernel
  · rw [failed] at fails
    cases fails

/-- A computer on which a file can still be made, but nothing fits in it at once. -/
def answerWithFullDisk (serve : String → Transfer) : Answering Computer
  | .writeFile path contents, computer =>
    match computer.files.obstacle? (.writeFile path contents) with
    | some fault => (.error (.ofMessage fault.message), computer)
    | none =>
      (.error (.ofMessage "No space left on device (os error 28)"),
        { computer with files := computer.files.addFile path [] })
  | request, computer => Computer.answer serve request computer

theorem faithful_answerWithFullDisk (serve : String → Transfer) :
    Faithful (answerWithFullDisk serve) Computer.files := by
  intro request computer
  cases request with
  | writeFile path contents =>
      simp only [answerWithFullDisk]
      cases obstacle : computer.files.obstacle? (.writeFile path contents) with
      | none => exact ⟨trivial, nofun, fun _ => .written path contents 0 obstacle⟩
      | some fault => exact ⟨trivial, nofun, fun _ => .nothing _⟩
  | _ => exact responds_answer serve computer _

/-- On a disk that is full, the file that was made for the marker stays. -/
theorem hiddenFiles_of_fullDisk :
    let visit := archiveVisit "1.0.0"
    let descriptor := visit.descriptor (.ofString "cache")
    let ended := Attempt.outcome (answerWithFullDisk visit.serve) (install 1 descriptor) { files := {} }
    Faithful (answerWithFullDisk visit.serve) Computer.files ∧
      Removes (answerWithFullDisk visit.serve) Computer.files ∧
      ended.1.isOk = false ∧ ended.2.files.isFile (temporaryMarkerPath descriptor 1) = true := by
  intro visit descriptor ended
  exact ⟨faithful_answerWithFullDisk visit.serve, removes_answer visit.serve, by decide +kernel, by decide +kernel⟩

end JarLauncher.Cache
