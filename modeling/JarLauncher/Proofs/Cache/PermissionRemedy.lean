import JarLauncher.Proofs.Cache.FailedInstallation
import JarLauncher.Proofs.Download.ToldFaults

/-!
Which failed installations are explained as a lack of permission: those that a step of the download has ended for this
reason, whichever step it was. A marker that could not be written is told of in a report, which is not looked into.
-/

namespace JarLauncher.Cache

open Download Files Machine

section

variable {World : Type} {answering : Answering World} {world reached prepared after : World}
  {descriptor : Descriptor} {pid : Nat} {error : LauncherError}

theorem plan_keeps_faultProtocol :
    (plan descriptor).Keeps faultProtocol (fun _ known => known = none) none := by
  have looking : (observe descriptor).Keeps (checkerProtocol descriptor) _ {} := observe_keeps_checker rfl
  apply Procedure.keeps_bind
  apply looking.unheeded
  intro sighting request viewing
  cases request with
  | isFile path | readText path | openFile path => exact ⟨trivial, fun _ => rfl⟩
  | _ => exact viewing.elim

theorem writeMarker_tellsFaults : (writeMarker pid descriptor).TellsFaults := by
  have unexplained (report : Report) : (LauncherError.other report).hint ≠ some LauncherError.permissionHint :=
    (Option.some_ne_none _).symm
  unfold writeMarker
  apply Procedure.keeps_bind
  apply Procedure.keeps_request trivial
  intro answer
  cases answer with
  | error report => exact unexplained _
  | ok done =>
      apply Procedure.keeps_bind
      apply Procedure.keeps_request trivial
      intro answer
      cases answer with
      | error report =>
          apply Procedure.keeps_bind
          apply Procedure.keeps_request trivial
          intro _
          exact unexplained _
      | ok done => exact rfl

theorem install_tellsFaults : (install pid descriptor).TellsFaults := by
  obtain ⟨place, beside⟩ := beside_artifactPath descriptor pid
  unfold install
  apply Attempt.tellsFaults_bind (Attempt.tellsFaults_lift plan_keeps_faultProtocol)
  intro made
  cases made with
  | upToDate => exact rfl
  | refresh reason =>
      apply Attempt.tellsFaults_bind (fetch_tellsFaults beside.above _)
      intro _
      apply Attempt.tellsFaults_bind writeMarker_tellsFaults
      intro _
      exact rfl

/-- What keeps a marker from being written is told as a report. -/
theorem exists_report_of_writeMarker
    (failed : Attempt.outcome answering (writeMarker pid descriptor) world = (.error error, after)) :
    ∃ report, error = .other report := by
  rcases writing : answering (writingMarker descriptor pid) world with ⟨report | done, prepared⟩
  · rw [outcome_writeMarker_of_unwritten writing] at failed
    cases failed
    exact ⟨_, rfl⟩
  · rcases moving : answering (movingMarker descriptor pid) prepared with ⟨report | done, moved⟩
    · rw [outcome_writeMarker_of_written writing moving] at failed
      cases failed
      exact ⟨_, rfl⟩
    · rw [outcome_writeMarker_of_written writing moving] at failed
      cases failed

/-- An installation that has failed tells the first fault of its download, if there was one, and is explained as a lack
of permission exactly if that fault is one. Behind the download nothing is explained. -/
theorem hint_of_failed_install
    (failed : Attempt.outcome answering (install pid descriptor) world = (.error error, after)) :
    let stopped := (ExceptT.run (install pid descriptor)).stopped? answering world
    let planned := (plan descriptor).run answering world
    let fetched := Attempt.outcome answering (fetch pid descriptor.remoteLocation descriptor.artifactPath) planned.2
    (∀ request fault, stopped = some (request, fault) →
      ∃ path, request.toldPath? = some path ∧ error = .fetchFilesystem path fault) ∧
    (error.hint = some LauncherError.permissionHint ↔
      ∃ request fault, stopped = some (request, fault) ∧ fault.kind = .permissionDenied) ∧
    (fetched.1.isOk = true → ∃ report, error = .other report ∧ error.hint = none) := by
  intro stopped planned fetched
  have told : Told error stopped := by
    have ended := (install_tellsFaults : (install pid descriptor).TellsFaults).ends_run answering world
    rw [learned_faultProtocol, Option.none_or] at ended
    have same : ((ExceptT.run (install pid descriptor)).run answering world).1 = .error error :=
      congrArg Prod.fst failed
    rw [same] at ended
    exact ended
  refine ⟨?_, told.hint_iff, ?_⟩
  · intro request fault first
    rw [first] at told
    exact told
  · intro success
    obtain ended | ⟨-, marked⟩ := exits_of_failed_install failed
    · change fetched = _ at ended
      rw [ended] at success
      cases success
    · obtain ⟨report, rfl⟩ := exists_report_of_writeMarker marked
      exact ⟨report, rfl, rfl⟩

/-- Behind a download that has succeeded, a marker that cannot be written ends the installation with a report. -/
theorem outcome_install_of_unwritten {reason : RefreshReason} {path : Path} {report : Report}
    (planned : ((plan descriptor).run answering world).1 = .refresh reason)
    (fetched : Attempt.outcome answering (fetch pid descriptor.remoteLocation descriptor.artifactPath)
      ((plan descriptor).run answering world).2 = (.ok path, reached))
    (writing : answering (writingMarker descriptor pid) reached = (.error report, prepared)) :
    Attempt.outcome answering (install pid descriptor) world =
      (.error (.other (report.within
        ("writing version marker " ++ (temporaryMarkerPath descriptor pid).quoted))), prepared) := by
  have looked : Attempt.outcome answering (ExceptT.lift (plan descriptor)) world =
      (.ok (.refresh reason), ((plan descriptor).run answering world).2) := by
    rw [Attempt.outcome_lift, planned]
  unfold install
  rw [Attempt.outcome_bind_of_ok looked]
  unfold apply
  rw [Attempt.outcome_bind_of_ok fetched, Attempt.outcome_bind_of_error (outcome_writeMarker_of_unwritten writing)]

end

/-- A computer that refuses one request, and does nothing for it. -/
def refusing (serve : String → Transfer) (refused : Request) (answer : refused.Answer) : Answering Computer :=
  fun request computer =>
    if same : request = refused then (same ▸ answer, computer) else Computer.answer serve request computer

theorem refusing_self (serve : String → Transfer) (refused : Request) (answer : refused.Answer) (computer : Computer) :
    refusing serve refused answer refused computer = (answer, computer) :=
  dif_pos rfl

theorem faithful_refusing (serve : String → Transfer) {refused : Request} {answer : refused.Answer}
    (honest : ∀ files, refused.Truthful files answer) (fails : refused.succeeded answer = false) :
    Faithful (refusing serve refused answer) Computer.files := by
  intro request computer
  by_cases same : request = refused
  · subst same
    rw [refusing_self]
    refine ⟨honest computer.files, ?_, fun _ => .nothing request⟩
    intro succeeded
    rw [fails] at succeeded
    cases succeeded
  · have other : refusing serve refused answer request computer = Computer.answer serve request computer := dif_neg same
    rw [other]
    exact responds_answer serve computer request

/-- What is wanted in an empty cache, and what is asked for on the way. -/
def wantedRelease : Descriptor :=
  (archiveVisit "1.0.0").descriptor (.ofString "cache")

/-- A download whose hidden file may not be made. -/
def stagingRefused : Answering Computer :=
  refusing (archiveVisit "1.0.0").serve (.createFile (stagingPath wantedRelease.artifactPath 1)) (.error (.system 13))

theorem hint_of_stagingRefused :
    ∃ error after, Attempt.outcome stagingRefused (install 1 wantedRelease) { files := {} } = (.error error, after) ∧
      error.hint = some LauncherError.permissionHint := by
  have fails : (Attempt.outcome stagingRefused (install 1 wantedRelease) { files := {} }).1.isOk = false := by
    decide +kernel
  have stopped : (ExceptT.run (install 1 wantedRelease)).stopped? stagingRefused { files := {} } =
      some (.createFile (stagingPath wantedRelease.artifactPath 1), .system 13) := by
    decide +kernel
  rcases failed : Attempt.outcome stagingRefused (install 1 wantedRelease) { files := {} } with ⟨error | done, after⟩
  · obtain ⟨-, explained, -⟩ := hint_of_failed_install failed
    exact ⟨error, after, rfl, explained.mpr ⟨_, _, stopped, rfl⟩⟩
  · rw [failed] at fails
    cases fails

/-- The report on a hidden file of the marker that may not be made. -/
def markerRefusal : Report :=
  .ofFault ("creating file " ++ (temporaryMarkerPath wantedRelease 1).quoted) (.system 13)

def markerRefused : Answering Computer :=
  refusing (archiveVisit "1.0.0").serve (writingMarker wantedRelease 1) (.error markerRefusal)

/-- The same lack of permission is not explained where the marker is to be written. -/
theorem hint_of_markerRefused :
    (IoFault.system 13).kind = .permissionDenied ∧ Faithful markerRefused Computer.files ∧
      ∃ error after, Attempt.outcome markerRefused (install 1 wantedRelease) { files := {} } = (.error error, after) ∧
        error = .other (markerRefusal.within "writing version marker \"cache/.version.txt.1.tmp\"") ∧
        error.hint = none := by
  have faithful : Faithful markerRefused Computer.files := faithful_refusing _ (fun _ => trivial) rfl
  have planned : ((plan wantedRelease).run markerRefused { files := {} }).1 = .refresh .missing := by decide +kernel
  have downloads : (Attempt.outcome markerRefused (fetch 1 wantedRelease.remoteLocation wantedRelease.artifactPath)
      ((plan wantedRelease).run markerRefused { files := {} }).2).1.isOk = true := by
    decide +kernel
  have named : (temporaryMarkerPath wantedRelease 1).quoted = "\"cache/.version.txt.1.tmp\"" := by decide +kernel
  rcases fetched : Attempt.outcome markerRefused (fetch 1 wantedRelease.remoteLocation wantedRelease.artifactPath)
    ((plan wantedRelease).run markerRefused { files := {} }).2 with ⟨error | path, reached⟩
  · rw [fetched] at downloads
    cases downloads
  · have writing : markerRefused (writingMarker wantedRelease 1) reached = (.error markerRefusal, reached) :=
      refusing_self ..
    have ended := outcome_install_of_unwritten planned fetched writing
    rw [named] at ended
    exact ⟨rfl, faithful, _, _, ended, rfl, rfl⟩

end JarLauncher.Cache
