import JarLauncher.Proofs.Download.AllOrNothing

/-!
What a download leaves beside its place, on any machine that can remove files: the hidden file is gone, and all other
files are as they were.
-/

namespace JarLauncher

namespace Machine

open Files

section

variable {files after : MemoryFiles} {request : Request} {answer : request.Answer}
  {directory path source target : Path} {name other sourceName targetName contents : Bytes}

theorem MemoryFiles.inside_moved_of_ne (leads : source.IsEntry directory sourceName)
    (otherLeads : target.IsEntry directory targetName) (apart : other ≠ sourceName) (aside : other ≠ targetName) :
    (files.moved source target).inside directory other = files.inside directory other := by
  unfold MemoryFiles.moved
  cases files.contents? source with
  | none => rfl
  | some contents =>
      simp only [MemoryFiles.inside_put leads, MemoryFiles.inside_put otherLeads]
      rw [Function.update_of_ne aside, Function.update_of_ne apart]

/-- A request that is carried out as a whole or not at all changes nothing where its effect is none. -/
theorem Responds.inside_of_whole (responds : Responds files request answer after) (whole : request.divisible = false)
    (idle : (files.after request).inside directory other = files.inside directory other) :
    after.inside directory other = files.inside directory other := by
  cases success : request.succeeded answer with
  | false => rw [responds.same_of_failed success whole]
  | true => rw [(responds.done success).2, idle]

/-- Writing a file, as far as it gets, changes no other file in its directory. -/
theorem Responds.inside_of_writeFile {answer : Except Report Unit}
    (responds : Responds files (.writeFile path contents) answer after) (leads : path.IsEntry directory name)
    (apart : other ≠ name) : after.inside directory other = files.inside directory other := by
  have above : path.components.dropLast = directory.components := by
    rw [leads, List.dropLast_concat]
  cases success : Request.succeeded (.writeFile path contents) answer with
  | false =>
      cases responds.failed success with
      | nothing => rfl
      | prepared path contents count =>
          rw [MemoryFiles.inside_addDirectories]
          rw [above]
          exact List.length_take_le' ..
      | written path contents count clear =>
          rw [MemoryFiles.inside_addFile leads, Function.update_of_ne apart]
  | true =>
      rw [(responds.done success).2, MemoryFiles.after, MemoryFiles.inside_addFile leads,
        Function.update_of_ne apart]

/-- What has been removed, or could not be because there was nothing, is no file. -/
theorem Responds.isFile_of_removed (responds : Responds files request answer after)
    (obstacle : files.obstacle? request = if files.isFile path then none else some Fault.noEntry)
    (effect : files.after request = files.put path none) (whole : request.divisible = false)
    (works : files.isFile path = true → request.succeeded answer = true) : after.isFile path = false := by
  cases there : files.isFile path with
  | false =>
      have failed : request.succeeded answer = false := by
        cases success : request.succeeded answer with
        | false => rfl
        | true =>
            have clear := (responds.done success).1
            rw [obstacle, there] at clear
            cases clear
      rw [responds.same_of_failed failed whole, there]
  | true =>
      rw [(responds.done (works there)).2, effect]
      simp [MemoryFiles.isFile, MemoryFiles.contents?]

end

/-- Whether a machine always removes a file that is there. -/
def Removes {World : Type} (answering : Answering World) (files : World → MemoryFiles) : Prop :=
  ∀ path world, (files world).isFile path = true →
    (answering (.removeFile path) world).1.isOk = true ∧ (answering (.discard path) world).1.isOk = true

end Machine

namespace Download

open Files Machine

section

variable {World : Type} {answering : Answering World} {files : World → MemoryFiles}
  {hidden destination directory place : Path} {pid : Nat} {hiddenAs name other : Bytes}
  (faithful : Faithful answering files)

include faithful

theorem isFile_of_discarded (removes : Removes answering files) (path : Path) (world : World) :
    (files (answering (.discard path) world).2).isFile path = false :=
  (faithful (.discard path) world).isFile_of_removed rfl rfl rfl fun there => (removes path world there).2

theorem elsewhere_of_steps (beside : Beside hidden destination directory place hiddenAs name)
    (apart : other ≠ hiddenAs) (aside : other ≠ name) (url : String) (transfer : Transfer) (world : World) :
    (files (firstFault answering (transfer.steps url hidden destination) world).2).inside directory other =
      (files world).inside directory other := by
  have collected := elsewhere_of_hides faithful beside apart (transfer.collecting hidden)
    (hides_collecting beside.above transfer) world
  have placed (world : World) :
      (files (answering (.replace hidden destination) world).2).inside directory other =
        (files world).inside directory other :=
    (faithful (.replace hidden destination) world).inside_of_whole rfl
      (MemoryFiles.inside_moved_of_ne beside.staged beside.placed apart aside)
  rw [Transfer.steps, firstFault_append]
  rcases walked : firstFault answering (transfer.collecting hidden) world with ⟨_ | error, reached⟩
  · rw [walked] at collected
    cases transfer.document url with
    | error error => exact collected
    | ok contents =>
        rw [← collected, ← placed reached]
        simp only [firstFault]
        split <;> rfl
  · rw [walked] at collected
    exact collected

/-- How a download ends: with all its steps taken and a document in its place, or with the hidden file discarded. -/
theorem ending_of_fetch (beside : Beside (stagingPath destination pid) destination directory place hiddenAs name)
    (url : String) (world : World) :
    let got := answering (.get url) world
    let walked := firstFault answering (got.1.steps url (stagingPath destination pid) destination) got.2
    let ended := Attempt.outcome answering (fetch pid url destination) world
    walked.1 = none ∧ (∃ contents, got.1.document url = .ok contents) ∧ ended = (.ok destination, walked.2) ∨
      ended.1.isOk = false ∧ ended.2 = (answering (.discard (stagingPath destination pid)) walked.2).2 := by
  have follows := follows_fetch faithful beside url world
  have ended : Attempt.outcome answering (fetch pid url destination) world = _ := Attempt.outcome_tryCatch _ _
  rw [follows] at ended
  dsimp only
  rw [ended]
  rcases firstFault answering ((answering (.get url) world).1.steps url (stagingPath destination pid) destination)
    (answering (.get url) world).2 with ⟨_ | error, reached⟩
  · cases (answering (.get url) world).1.document url with
    | ok contents => exact .inl ⟨rfl, ⟨contents, rfl⟩, rfl⟩
    | error error => exact .inr ⟨rfl, rfl⟩
  · exact .inr ⟨rfl, rfl⟩

/-- Whatever comes of a download, all other files in its directory are as they were. -/
theorem elsewhere_of_fetch (beside : Beside (stagingPath destination pid) destination directory place hiddenAs name)
    (apart : other ≠ hiddenAs) (aside : other ≠ name) (url : String) (world : World) :
    (files (Attempt.outcome answering (fetch pid url destination) world).2).inside directory other =
      (files world).inside directory other := by
  have still : files (answering (.get url) world).2 = files world := (faithful (.get url) world).same rfl rfl
  have walked := elsewhere_of_steps faithful beside apart aside url (answering (.get url) world).1
    (answering (.get url) world).2
  rw [still] at walked
  obtain ⟨-, -, ended⟩ | ⟨-, ended⟩ := ending_of_fetch faithful beside url world
  · rw [ended, walked]
  · rw [ended, ← walked]
    refine (faithful (.discard _) _).inside_of_whole rfl ?_
    rw [MemoryFiles.after, MemoryFiles.inside_put beside.staged, Function.update_of_ne apart]

/-- Whatever comes of a download, the hidden file is gone. -/
theorem isFile_hidden_of_fetch (removes : Removes answering files)
    (beside : Beside (stagingPath destination pid) destination directory place hiddenAs name)
    (url : String) (world : World) :
    (files (Attempt.outcome answering (fetch pid url destination) world).2).isFile (stagingPath destination pid) =
      false := by
  obtain ⟨fine, ⟨contents, sent⟩, ended⟩ | ⟨-, ended⟩ := ending_of_fetch faithful beside url world
  · have gone := (placed_of_steps faithful beside sent (Prod.ext fine rfl)).2
    rw [ended, MemoryFiles.isFile_of_isEntry beside.staged, gone]
    rfl
  · rw [ended]
    exact isFile_of_discarded faithful removes _ _

end

end Download
end JarLauncher
