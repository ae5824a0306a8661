import JarLauncher.Proofs.Cache.CheckerProtocol
import JarLauncher.Proofs.Cache.Names

/-!
The protocol that every installation keeps to: it writes to files of its own only, puts a download in its place
only when it has collected a whole body, and the marker only after that.
-/

namespace JarLauncher.Cache

open Download Machine

/-- What an installing process remembers of its own work. -/
structure Progress where
  /-- The last response that it got. -/
  response : Option Response := none
  /-- What it has collected of a download. -/
  collected : Option Bytes := none
  /-- The size of it that the machine has told, since the last change. -/
  measured : Nat := 0
  /-- Whether it has put an engine in its place. -/
  placed : Bool := false
  /-- Whether it has written its marker since then. -/
  prepared : Bool := false

namespace Progress

/-- What a process remembers after an answer. -/
def learn (progress : Progress) : (request : Request) → request.Answer → Progress
  | .get _, .response response => { progress with response := some response }
  | .createFile _, .ok () => { progress with collected := some [], measured := 0 }
  | .createFile _, .error _ => { progress with collected := none, measured := 0 }
  | .append _ chunk, .ok () =>
    { progress with collected := progress.collected.map (· ++ chunk), measured := 0 }
  | .append _ _, .error _ => { progress with collected := none, measured := 0 }
  | .size _, .ok size => { progress with measured := size }
  | .replace _ _, .ok () =>
    { progress with collected := none, measured := 0, placed := true, prepared := false }
  | .discard _, .ok () => { progress with collected := none, measured := 0 }
  | .writeFile _ _, .ok () => { progress with prepared := true }
  | .writeFile _ _, .error _ => { progress with prepared := false }
  | .renameFile _ _, .ok () => { progress with prepared := false }
  | .removeFile _, .ok () => { progress with prepared := false }
  | _, _ => progress

/-- A whole body is collected, and it is not empty. -/
def Complete (progress : Progress) : Prop :=
  ∃ response, progress.response = some response ∧ response.isSuccess = true ∧
    response.bodyEnd = .complete ∧ progress.collected = some response.body ∧ 0 < progress.measured

end Progress

/-- What the installing process `pid` may ask. -/
def Permitted (directory : Path) (pid : Nat) (descriptor : Descriptor) (progress : Progress) :
    Request → Prop
  | .isFile _ | .readText _ | .openFile _ => True
  | .get url => url = descriptor.remoteLocation
  | .createDirectories path => path.components = directory.components
  | .createFile path | .append path _ | .flush path | .sync path | .size path | .discard path =>
    path.IsEntry directory (stagingName pid)
  | .replace source target =>
    source.IsEntry directory (stagingName pid) ∧ target.IsEntry directory artifactName ∧ progress.Complete
  | .writeFile path contents =>
    path.IsEntry directory (temporaryName pid) ∧ contents = Utf8.encode descriptor.expectedVersion ∧
      progress.placed = true ∧ progress.prepared = false
  | .renameFile source target =>
    source.IsEntry directory (temporaryName pid) ∧ target.IsEntry directory markerName ∧
      progress.prepared = true ∧ progress.placed = true
  | .removeFile path => path.IsEntry directory (temporaryName pid)
  | _ => False

def installerProtocol (directory : Path) (pid : Nat) (descriptor : Descriptor) : Protocol Progress where
  Allows := Permitted directory pid descriptor
  learn := Progress.learn

section

variable {directory : Path} {pid : Nat} {descriptor : Descriptor} {progress : Progress} {staging : Path}

theorem append_chunks_keeps (descriptor : Descriptor) (leads : staging.IsEntry directory (stagingName pid))
    (response : Response) (chunks : List Bytes) :
    ∀ (progress : Progress) {contents : Bytes}, progress.response = some response →
      progress.collected = some contents →
      Attempt.Keeps (installerProtocol directory pid descriptor)
        (fun _ after => after.response = some response ∧ after.collected = some (contents ++ chunks.flatten))
        (fun _ _ => True) progress
        (chunks.forM fun chunk => faultAt staging (.request (.append staging chunk))) := by
  induction chunks with
  | nil =>
      intro progress contents got found
      apply Attempt.keeps_pure
      simp [got, found]
  | cons chunk chunks ih =>
      intro progress contents got found
      apply Attempt.keeps_step fun _ _ => trivial
      apply Procedure.keeps_request leads
      rintro _ _ rfl
      have more : (progress.learn (.append staging chunk) (.ok ())).collected = some (contents ++ chunk) := by
        simp [Progress.learn, found]
      have rest := ih (progress.learn (.append staging chunk) (.ok ())) got more
      rw [List.append_assoc] at rest
      exact rest

theorem store_keeps (leads : staging.IsEntry directory (stagingName pid)) {place : Path}
    (above : staging.parent? = some place) (same : place.components = directory.components)
    (url : String) {response : Response} (success : response.isSuccess = true)
    (got : progress.response = some response) :
    Attempt.Keeps (installerProtocol directory pid descriptor) (fun _ after => after.Complete)
      (fun _ _ => True) progress (store url staging response) := by
  unfold store
  simp only [above]
  apply Attempt.keeps_step fun _ _ => trivial
  apply Procedure.keeps_request same
  rintro _ _ rfl
  apply Attempt.keeps_step fun _ _ => trivial
  apply Procedure.keeps_request leads
  rintro _ _ rfl
  apply Attempt.keeps_bind
  have filling := append_chunks_keeps descriptor leads response response.chunks
    (progress.learn (.createFile staging) (.ok ())) got rfl
  refine filling.mono ?_ fun _ _ _ => trivial
  rintro _ filled ⟨kept, whole⟩
  cases ending : response.bodyEnd with
  | broken message =>
      apply Attempt.keeps_bind
      exact Attempt.keeps_throw trivial
  | complete =>
      apply Attempt.keeps_step fun _ _ => trivial
      apply Procedure.keeps_request leads
      rintro _ _ rfl
      apply Attempt.keeps_step fun _ _ => trivial
      apply Procedure.keeps_request leads
      rintro _ _ rfl
      apply Attempt.keeps_step fun _ _ => trivial
      apply Procedure.keeps_request leads
      rintro _ size rfl
      by_cases empty : size = 0
      · rw [if_pos empty]
        exact Attempt.keeps_throw trivial
      · rw [if_neg empty]
        apply Attempt.keeps_pure
        exact ⟨response, kept, success, ending, whole, Nat.pos_of_ne_zero empty⟩

/-- What is collected without a fault is a whole body of the wanted document. -/
theorem collect_keeps (leads : staging.IsEntry directory (stagingName pid)) {place : Path}
    (above : staging.parent? = some place) (same : place.components = directory.components) :
    Attempt.Keeps (installerProtocol directory pid descriptor) (fun _ after => after.Complete)
      (fun _ _ => True) progress (collect descriptor.remoteLocation staging) := by
  unfold collect
  apply Attempt.keeps_bind
  apply Attempt.keeps_lift
  apply Procedure.keeps_request rfl
  intro transfer
  cases transfer with
  | failed message => exact Attempt.keeps_throw trivial
  | response response =>
      by_cases missing : response.status = 404
      · simp only [missing, if_true]
        apply Attempt.keeps_bind
        exact Attempt.keeps_throw trivial
      cases success : response.isSuccess with
      | false =>
          simp only [missing, if_false, success, Bool.not_false, if_true]
          apply Attempt.keeps_bind
          exact Attempt.keeps_throw trivial
      | true =>
          simp only [missing, if_false, success, Bool.not_true, Bool.false_eq_true]
          exact store_keeps leads above same _ success rfl

/-- A download puts nothing but a whole body of the wanted document in its place. -/
theorem fetch_keeps (within : descriptor.cacheDir.components = directory.components) :
    Attempt.Keeps (installerProtocol directory pid descriptor)
      (fun _ after => after.placed = true ∧ after.prepared = false) (fun _ _ => True) progress
      (fetch pid descriptor.remoteLocation descriptor.artifactPath) := by
  obtain ⟨place, here⟩ := beside_artifactPath descriptor pid
  have beside := here.congr within
  unfold fetch
  apply Attempt.keeps_tryCatch
  -- whatever has gone wrong, what is left to do is to discard the hidden file
  have discarding (error : LauncherError) (after : Progress) :
      Attempt.Keeps (installerProtocol directory pid descriptor)
        (fun _ after => after.placed = true ∧ after.prepared = false) (fun _ _ => True) after
        (do let _ ← ExceptT.lift (.request (.discard (stagingPath descriptor.artifactPath pid)))
            throw error : Attempt Path) := by
    apply Attempt.keeps_bind
    apply Attempt.keeps_lift
    apply Procedure.keeps_request beside.staged
    intro answer
    exact Attempt.keeps_throw trivial
  apply Attempt.keeps_bind
  refine (collect_keeps beside.staged beside.above beside.same).mono ?_ fun error after _ => discarding error after
  intro _ collected complete
  apply Attempt.keeps_step discarding
  have permitted : Permitted directory pid descriptor collected
      (.replace (stagingPath descriptor.artifactPath pid) descriptor.artifactPath) :=
    ⟨beside.staged, beside.placed, complete⟩
  apply Procedure.keeps_request permitted
  rintro _ _ rfl
  exact Attempt.keeps_pure ⟨rfl, rfl⟩

/-- The marker is written under a name of the process's own and then takes its place. -/
theorem writeMarker_keeps (within : descriptor.cacheDir.components = directory.components)
    (placed : progress.placed = true) (unprepared : progress.prepared = false) :
    Attempt.Keeps (installerProtocol directory pid descriptor) (fun _ _ => True) (fun _ _ => True) progress
      (writeMarker pid descriptor) := by
  have temporary := (isEntry_temporaryMarkerPath descriptor pid).congr within
  have marker := (isEntry_markerPath descriptor).congr within
  have writing : Permitted directory pid descriptor progress
      (.writeFile (temporaryMarkerPath descriptor pid) (Utf8.encode descriptor.expectedVersion)) :=
    ⟨temporary, rfl, placed, unprepared⟩
  have moving : Permitted directory pid descriptor { progress with prepared := true }
      (.renameFile (temporaryMarkerPath descriptor pid) descriptor.markerPath) :=
    ⟨temporary, marker, rfl, placed⟩
  unfold writeMarker Attempt.Keeps
  apply Procedure.keeps_bind
  apply Procedure.keeps_request writing
  intro answer
  cases answer with
  | error report => exact trivial
  | ok done =>
      apply Procedure.keeps_bind
      apply Procedure.keeps_request moving
      intro answer
      cases answer with
      | error report =>
          apply Procedure.keeps_bind
          apply Procedure.keeps_request temporary
          intro answer
          exact trivial
      | ok done => exact trivial

/-- Looking is always permitted, and nothing is remembered of it. -/
theorem observe_keeps :
    (observe descriptor).Keeps (installerProtocol directory pid descriptor)
      (fun _ after => after = progress) progress := by
  have looking : (observe descriptor).Keeps (checkerProtocol descriptor) _ {} := observe_keeps_checker rfl
  apply looking.unheeded
  intro sighting request viewing
  cases request with
  | isFile path => exact ⟨trivial, fun _ => rfl⟩
  | readText path => exact ⟨trivial, fun _ => rfl⟩
  | openFile path => exact ⟨trivial, fun _ => rfl⟩
  | _ => exact viewing.elim

/-- Every installation keeps to the protocol, whatever it is answered. -/
theorem install_keeps (within : descriptor.cacheDir.components = directory.components) :
    Attempt.Keeps (installerProtocol directory pid descriptor) (fun _ _ => True) (fun _ _ => True) progress
      (install pid descriptor) := by
  have planned : (plan descriptor).Keeps (installerProtocol directory pid descriptor)
      (fun _ after => after = progress) progress := by
    apply Procedure.keeps_bind
    apply Procedure.Keeps.mono observe_keeps
    rintro state _ rfl
    exact rfl
  unfold install
  apply Attempt.keeps_bind
  apply Attempt.keeps_lift
  apply Procedure.Keeps.mono planned
  rintro made _ rfl
  cases made with
  | upToDate => exact trivial
  | refresh reason =>
      apply Attempt.keeps_bind
      refine (fetch_keeps within).mono ?_ fun _ _ _ => trivial
      rintro _ downloaded ⟨placed, unprepared⟩
      apply Attempt.keeps_bind
      refine (writeMarker_keeps within placed unprepared).mono ?_ fun _ _ _ => trivial
      intro _ _ _
      exact trivial

end
end JarLauncher.Cache
